/-
  SchemaRecovery.Proofs.Merges

  Any number of mergers in a row. `Merges ok g g'` says that `g'` comes from `g`
  by mergers of two live modules of one namespace, each of which satisfies `ok`
  in the graph in which it is made; `Trail ok g history g'` says so too and gives
  the graphs on the way. Every such run keeps consistency
  (`Merges.consistent`), and its result is the quotient of the graph by classes
  of one namespace, each class one live module with the root types of all its
  members (`Merges.exists_quotient`).
-/
import SchemaRecovery.Proofs.Merger

namespace SchemaRecovery.ModuleGraph

open Relation

/-! ## Runs of mergers -/

/-- A condition on the graph and the ids of two modules. -/
abbrev MergeRule := ModuleGraph → Int → Int → Prop

/-- One merger that satisfies `ok`. -/
def MergeStep (ok : MergeRule) (g g' : ModuleGraph) : Prop :=
  ∃ m other, g.modules.find? m.id = some m ∧ g.modules.find? other.id = some other ∧
    m.id ≠ other.id ∧ m.ns = other.ns ∧ ok g m.id other.id ∧ g' = g.afterMerge m other

/-- Mergers in a row. -/
abbrev Merges (ok : MergeRule) : ModuleGraph → ModuleGraph → Prop := ReflTransGen (MergeStep ok)

section

variable {s : Schema} {ok : MergeRule} {g g' : ModuleGraph}

theorem MergeStep.consistent (h : MergeStep ok g g') (hg : Consistent s g) :
    Consistent s g' := by
  obtain ⟨m, other, hm, hother, hne, hns, -, rfl⟩ := h
  exact consistent_afterMerge hg hm hother hne hns

theorem MergeStep.simple (h : MergeStep ok g g') (hg : g.Simple) : g'.Simple := by
  obtain ⟨m, other, hm, hother, hne, -, -, rfl⟩ := h
  exact simple_afterMerge hg hm hother hne

theorem MergeStep.size_lt (h : MergeStep ok g g') : g'.size < g.size := by
  obtain ⟨m, other, hm, hother, hne, -, -, rfl⟩ := h
  have hsize := size_afterMerge hm hother hne
  omega

/-- Mergers keep a graph consistent. -/
theorem Merges.consistent (h : Merges ok g g') (hg : Consistent s g) : Consistent s g' := by
  induction h with
  | refl => exact hg
  | tail _ hstep ih => exact hstep.consistent ih

theorem Merges.simple (h : Merges ok g g') (hg : g.Simple) : g'.Simple := by
  induction h with
  | refl => exact hg
  | tail _ hstep ih => exact hstep.simple ih

theorem Merges.size_le (h : Merges ok g g') : g'.size ≤ g.size := by
  induction h with
  | refl => exact Nat.le_refl _
  | tail _ hstep ih => exact Nat.le_trans (Nat.le_of_lt hstep.size_lt) ih

/-- A run that leaves as many modules as before has made no merger. -/
theorem Merges.eq_of_size_le (h : Merges ok g g') (hsize : g.size ≤ g'.size) : g' = g := by
  cases h with
  | refl => rfl
  | tail hrun hstep =>
      have hlt := hstep.size_lt
      have hle := Merges.size_le hrun
      omega

end

/-! ## Runs on record -/

/-- Mergers in a row, with the graph that each of them leaves. -/
inductive Trail (ok : MergeRule) (g : ModuleGraph) : List ModuleGraph → ModuleGraph → Prop
  | refl : Trail ok g [] g
  | tail {history : List ModuleGraph} {g₁ g' : ModuleGraph} :
      Trail ok g history g₁ → MergeStep ok g₁ g' → Trail ok g (history ++ [g']) g'

section

variable {ok : MergeRule} {g g₁ g' : ModuleGraph} {history history' : List ModuleGraph}

theorem Trail.merges (h : Trail ok g history g') : Merges ok g g' := by
  induction h with
  | refl => exact .refl
  | tail _ hstep ih => exact ih.tail hstep

theorem Trail.trans (h : Trail ok g history g₁) (h' : Trail ok g₁ history' g') :
    Trail ok g (history ++ history') g' := by
  induction h' with
  | refl =>
      rw [List.append_nil]
      exact h
  | tail _ hstep ih =>
      rw [← List.append_assoc]
      exact ih.tail hstep

/-- Every merger on record leaves one module less. -/
theorem Trail.size_add_length (h : Trail ok g history g') :
    g'.size + history.length = g.size := by
  induction h with
  | refl => rfl
  | tail _ hstep ih =>
      obtain ⟨m, other, hm, hother, hne, -, -, rfl⟩ := hstep
      have hsize := size_afterMerge hm hother hne
      rw [List.length_append, List.length_singleton]
      omega

/-- What every merger keeps holds of every graph on record. -/
theorem Trail.forall_mem {P : ModuleGraph → Prop} (h : Trail ok g history g')
    (hkeep : ∀ {g g'}, MergeStep ok g g' → P g → P g') (hg : P g) :
    P g' ∧ ∀ x ∈ history, P x := by
  induction h with
  | refl => exact ⟨hg, by simp⟩
  | tail _ hstep ih =>
      have hlast := hkeep hstep ih.1
      refine ⟨hlast, fun x hx => ?_⟩
      rcases List.mem_append.mp hx with hx | hx
      · exact ih.2 x hx
      · rw [List.mem_singleton.mp hx]
        exact hlast

/-- Where no merger can be made none is on record. -/
theorem Trail.eq_of_no_step (h : Trail ok g history g') (hnone : ∀ g', ¬ MergeStep ok g g') :
    history = [] ∧ g = g' := by
  induction h with
  | refl => exact ⟨rfl, rfl⟩
  | tail _ hstep ih =>
      rw [← ih.2] at hstep
      exact absurd hstep (hnone _)

end

/-! ## Quotients -/

/-- `g'` is the quotient of `g` by the classes of `cls`: a class is one live
    module, which has the namespace of its members and all their root types. -/
structure IsQuotient (g g' : ModuleGraph) (cls : Int → Int) : Prop where
  live : ∀ {i}, g.Live i → g'.Live (cls i)
  representative : ∀ {k}, g'.Live k → g.Live k ∧ cls k = k
  ns : ∀ {i m m'}, g.modules.find? i = some m → g'.modules.find? (cls i) = some m' → m'.ns = m.ns
  edges : ∀ k l, g'.Edge k l ↔ quotientBy cls g.Edge k l
  messages : ∀ {k m'}, g'.modules.find? k = some m' → ∀ name, name ∈ m'.rootMessages ↔
    ∃ i m, g.modules.find? i = some m ∧ cls i = k ∧ name ∈ m.rootMessages
  enums : ∀ {k m'}, g'.modules.find? k = some m' → ∀ name, name ∈ m'.rootEnums ↔
    ∃ i m, g.modules.find? i = some m ∧ cls i = k ∧ name ∈ m.rootEnums

/-- The root types of a class after two quotients in a row. -/
theorem roots_trans {roots : SchemaModule → OrderedSet Label} {g₁ g₂ g₃ : ModuleGraph}
    {cls cls' : Int → Int} (hlive : ∀ {i}, g₁.Live i → g₂.Live (cls i))
    (h₁₂ : ∀ {k m'}, g₂.modules.find? k = some m' → ∀ name, name ∈ roots m' ↔
      ∃ i m, g₁.modules.find? i = some m ∧ cls i = k ∧ name ∈ roots m)
    (h₂₃ : ∀ {k m'}, g₃.modules.find? k = some m' → ∀ name, name ∈ roots m' ↔
      ∃ i m, g₂.modules.find? i = some m ∧ cls' i = k ∧ name ∈ roots m)
    {k : Int} {m' : SchemaModule} (hk : g₃.modules.find? k = some m') (name : Label) :
    name ∈ roots m' ↔
      ∃ i m, g₁.modules.find? i = some m ∧ (cls' ∘ cls) i = k ∧ name ∈ roots m := by
  rw [h₂₃ hk]
  constructor
  · rintro ⟨j, n, hn, hj, hname⟩
    obtain ⟨i, m, hm, hi, hname⟩ := (h₁₂ hn name).mp hname
    exact ⟨i, m, hm, by rw [Function.comp_apply, hi, hj], hname⟩
  · rintro ⟨i, m, hm, hi, hname⟩
    obtain ⟨n, hn⟩ := hlive ⟨m, hm⟩
    exact ⟨cls i, n, hn, hi, (h₁₂ hn name).mpr ⟨i, m, hm, rfl, hname⟩⟩

theorem IsQuotient.trans {g₁ g₂ g₃ : ModuleGraph} {cls cls' : Int → Int}
    (h₁₂ : IsQuotient g₁ g₂ cls) (h₂₃ : IsQuotient g₂ g₃ cls') :
    IsQuotient g₁ g₃ (cls' ∘ cls) where
  live hi := h₂₃.live (h₁₂.live hi)
  representative hk := by
    obtain ⟨hk₂, hcls'⟩ := h₂₃.representative hk
    obtain ⟨hk₁, hcls⟩ := h₁₂.representative hk₂
    exact ⟨hk₁, by rw [Function.comp_apply, hcls, hcls']⟩
  ns hm hm' := by
    obtain ⟨n, hn⟩ := h₁₂.live ⟨_, hm⟩
    rw [h₂₃.ns hn hm', h₁₂.ns hm hn]
  edges k l := by
    rw [h₂₃.edges, ← quotientBy_quotientBy]
    unfold quotientBy
    simp only [h₁₂.edges]
    rfl
  messages hk := roots_trans h₁₂.live h₁₂.messages h₂₃.messages hk
  enums hk := roots_trans h₁₂.live h₁₂.enums h₂₃.enums hk

theorem IsQuotient.refl {g : ModuleGraph} (hloop : ∀ i, ¬ g.Edge i i) : IsQuotient g g id where
  live hi := hi
  representative hk := ⟨hk, rfl⟩
  ns hm hm' := by
    rw [id, hm, Option.some.injEq] at hm'
    rw [hm']
  edges k l := (quotientBy_id hloop k l).symm
  messages hk name := by simp [hk]
  enums hk name := by simp [hk]

/-- The root types after a merger are those of the modules with the same new
    name. -/
theorem roots_afterMerge {roots : SchemaModule → OrderedSet Label} {g : ModuleGraph}
    {m other : SchemaModule} (hm : g.modules.find? m.id = some m)
    (hother : g.modules.find? other.id = some other) (hne : m.id ≠ other.id)
    (htake : ∀ name, name ∈ roots (m.takeOver other) ↔ name ∈ roots m ∨ name ∈ roots other)
    (hredirect : ∀ x, roots (x.redirect other m.id) = roots x) {k : Int} {n : SchemaModule}
    (hk : (g.afterMerge m other).modules.find? k = some n) (name : Label) :
    name ∈ roots n ↔
      ∃ i x, g.modules.find? i = some x ∧ renamed m.id other.id i = k ∧ name ∈ roots x := by
  -- Only the merged module stands for two; a third one stands for itself.
  obtain ⟨rfl, rfl⟩ | ⟨hkm, hko, x, hx, rfl⟩ := afterMerge_cases hne hk
  · rw [htake]
    constructor
    · rintro (hname | hname)
      · exact ⟨m.id, m, hm, renamed_left _ _, hname⟩
      · exact ⟨other.id, other, hother, renamed_right _ _, hname⟩
    · rintro ⟨i, x, hx, hi, hname⟩
      rcases renamed_eq_left_iff.mp hi with rfl | rfl
      · rw [hm, Option.some.injEq] at hx
        exact Or.inl (hx ▸ hname)
      · rw [hother, Option.some.injEq] at hx
        exact Or.inr (hx ▸ hname)
  · rw [hredirect]
    constructor
    · intro hname
      exact ⟨k, x, hx, renamed_of_ne hko, hname⟩
    · rintro ⟨i, x', hx', hi, hname⟩
      rw [eq_of_renamed_eq hi hkm, hx, Option.some.injEq] at hx'
      exact hx' ▸ hname

/-- The namespace of a module stays that of the module which took it over. -/
theorem ns_afterMerge {g : ModuleGraph} {m other : SchemaModule}
    (hm : g.modules.find? m.id = some m) (hother : g.modules.find? other.id = some other)
    (hne : m.id ≠ other.id) (hns : m.ns = other.ns) {i : Int} {x n : SchemaModule}
    (hx : g.modules.find? i = some x)
    (hn : (g.afterMerge m other).modules.find? (renamed m.id other.id i) = some n) :
    n.ns = x.ns := by
  -- The module taken over has the namespace of the one that takes it.
  by_cases hio : i = other.id
  · rw [hio, renamed_right, find?_afterMerge_left hne, Option.some.injEq] at hn
    rw [hio, hother, Option.some.injEq] at hx
    rw [← hn, ← hx]
    exact hns
  · rw [renamed_of_ne hio] at hn
    by_cases him : i = m.id
    · rw [him, find?_afterMerge_left hne, Option.some.injEq] at hn
      rw [him, hm, Option.some.injEq] at hx
      rw [← hn, ← hx]
      rfl
    · rw [find?_afterMerge_of_ne hne him hio, hx, Option.map_some, Option.some.injEq] at hn
      rw [← hn]
      rfl

/-- One merger is the quotient by the renaming of the module taken over. -/
theorem isQuotient_afterMerge {g : ModuleGraph} {m other : SchemaModule}
    (hg : g.Simple) (hm : g.modules.find? m.id = some m)
    (hother : g.modules.find? other.id = some other) (hne : m.id ≠ other.id)
    (hns : m.ns = other.ns) :
    IsQuotient g (g.afterMerge m other) (renamed m.id other.id) where
  live := by
    intro i hi
    rw [live_afterMerge_iff hm hne]
    refine ⟨?_, renamed_ne_right hne i⟩
    by_cases hio : i = other.id
    · rw [hio, renamed_right]
      exact ⟨m, hm⟩
    · rw [renamed_of_ne hio]
      exact hi
  representative := by
    intro k hk
    obtain ⟨hlive, hko⟩ := (live_afterMerge_iff hm hne).mp hk
    exact ⟨hlive, renamed_of_ne hko⟩
  ns hx hn := ns_afterMerge hm hother hne hns hx hn
  edges k l := by
    rw [edge_afterMerge hg.toWired hm hother hne, joined_iff_quotientBy hg.loopless]
  messages hk := roots_afterMerge hm hother hne (fun _ => OrderedSet.mem_union) (fun _ => rfl) hk
  enums hk := roots_afterMerge hm hother hne (fun _ => OrderedSet.mem_union) (fun _ => rfl) hk

/-- The result of mergers in a row is a quotient of the graph. -/
theorem Merges.exists_quotient {ok : MergeRule} {g g' : ModuleGraph}
    (h : Merges ok g g') (hg : g.Simple) : ∃ cls, IsQuotient g g' cls := by
  induction h with
  | refl => exact ⟨id, .refl hg.loopless⟩
  | tail hrun hstep ih =>
      obtain ⟨cls, hcls⟩ := ih
      -- The classes so far, renamed by the last merger.
      have hmid := Merges.simple hrun hg
      obtain ⟨m, other, hm, hother, hne, hns, -, rfl⟩ := hstep
      exact ⟨_, hcls.trans (isQuotient_afterMerge hmid hm hother hne hns)⟩

/-! ## Cycles through two namespaces -/

/-- The namespace of a live module. -/
def HasNs (g : ModuleGraph) (i : Int) (ns : Label) : Prop :=
  ∃ m, g.modules.find? i = some m ∧ m.ns = ns

/-- A cycle of dependencies goes through two modules of different
    namespaces. -/
def HasMixedCycle (g : ModuleGraph) : Prop :=
  ∃ i j ns ns', TransGen g.Edge i j ∧ TransGen g.Edge j i ∧ g.HasNs i ns ∧ g.HasNs j ns' ∧
    ns ≠ ns'

theorem IsQuotient.hasNs {g g' : ModuleGraph} {cls : Int → Int} (h : IsQuotient g g' cls)
    {i : Int} {ns : Label} (hi : g.HasNs i ns) : g'.HasNs (cls i) ns := by
  obtain ⟨m, hm, rfl⟩ := hi
  obtain ⟨m', hm'⟩ := h.live ⟨m, hm⟩
  exact ⟨m', hm', h.ns hm hm'⟩

theorem HasNs.unique {g : ModuleGraph} {i : Int} {ns ns' : Label} (h : g.HasNs i ns)
    (h' : g.HasNs i ns') : ns = ns' := by
  obtain ⟨m, hm, rfl⟩ := h
  obtain ⟨m', hm', rfl⟩ := h'
  rw [hm, Option.some.injEq] at hm'
  rw [hm']

/-- Modules of different namespaces that reach each other are on a cycle. -/
theorem HasMixedCycle.of_reaches {g : ModuleGraph} {i j : Int} {ns ns' : Label}
    (hij : ReflTransGen g.Edge i j) (hji : ReflTransGen g.Edge j i) (hi : g.HasNs i ns)
    (hj : g.HasNs j ns') (hne : ns ≠ ns') : g.HasMixedCycle := by
  have hneq : i ≠ j := fun h => hne (hi.unique (h ▸ hj))
  refine ⟨i, j, ns, ns', ?_, ?_, hi, hj, hne⟩
  · exact (reflTransGen_iff_eq_or_transGen.mp hij).resolve_left hneq.symm
  · exact (reflTransGen_iff_eq_or_transGen.mp hji).resolve_left hneq

theorem IsQuotient.edge_eq {g g' : ModuleGraph} {cls : Int → Int} (h : IsQuotient g g' cls) :
    g'.Edge = quotientBy cls g.Edge := by
  funext k l
  exact propext (h.edges k l)

theorem IsQuotient.reaches {g g' : ModuleGraph} {cls : Int → Int} (h : IsQuotient g g' cls)
    {i j : Int} (hij : ReflTransGen g.Edge i j) : ReflTransGen g'.Edge (cls i) (cls j) := by
  rw [h.edge_eq]
  exact reaches_quotientBy cls hij

/-- No merger breaks a cycle through two namespaces. -/
theorem IsQuotient.hasMixedCycle {g g' : ModuleGraph} {cls : Int → Int}
    (h : IsQuotient g g' cls) (hmixed : g.HasMixedCycle) : g'.HasMixedCycle := by
  obtain ⟨i, j, ns, ns', hij, hji, hi, hj, hne⟩ := hmixed
  exact .of_reaches (h.reaches hij.to_reflTransGen) (h.reaches hji.to_reflTransGen)
    (h.hasNs hi) (h.hasNs hj) hne

theorem HasMixedCycle.not_acyclic {g : ModuleGraph} (h : g.HasMixedCycle) : ¬ Acyclic g.Edge := by
  intro hacyclic
  obtain ⟨i, j, -, -, hij, hji, -⟩ := h
  exact hacyclic i (hij.trans hji)

end SchemaRecovery.ModuleGraph
