/-
  SchemaRecovery.Proofs.Replacement

  Modules under other ids. `Relabels ρ g g'` says that `g'` is `g` with the ids of its
  live modules changed by `ρ`: what each of them holds and needs, the edges and the
  look-ups go along. A grouping stays one under other ids (`Grouped.relabel`).

  Adding the module of a root message that is in a live module relabels: the new
  module takes over the old one and stands under a fresh id
  (`Grouped.addMessageModule`).
-/
import SchemaRecovery.Proofs.Absorption
import SchemaRecovery.Proofs.FirstGrouping

namespace SchemaRecovery

open Relation

namespace SchemaModule

/-! ## Modules that hold and need the same -/

/-- The modules hold and need the same; their ids and edges may differ. -/
structure SameGroup (m m' : SchemaModule) : Prop where
  ns : m'.ns = m.ns
  removed : m'.removed = m.removed
  owns : ∀ x, m'.Owns x ↔ m.Owns x
  requires : ∀ x, m'.Requires x ↔ m.Requires x

theorem SameGroup.refl (m : SchemaModule) : SameGroup m m :=
  ⟨rfl, rfl, fun _ => Iff.rfl, fun _ => Iff.rfl⟩

theorem SameGroup.trans {m m' m'' : SchemaModule} (h : SameGroup m m') (h' : SameGroup m' m'') :
    SameGroup m m'' where
  ns := h'.ns.trans h.ns
  removed := h'.removed.trans h.removed
  owns x := (h'.owns x).trans (h.owns x)
  requires x := (h'.requires x).trans (h.requires x)

theorem SameGroup.of_unwired {m m' : SchemaModule} (h : m'.unwired = m.unwired) : SameGroup m m' :=
  ⟨eq_of_unwired_eq SchemaModule.ns h fun _ => rfl,
    eq_of_unwired_eq SchemaModule.removed h fun _ => rfl,
    fun x => by rw [eq_of_unwired_eq (Owns · x) h fun _ => by cases x <;> rfl],
    fun x => by rw [eq_of_unwired_eq (Requires · x) h fun _ => by cases x <;> rfl]⟩

theorem SameGroup.needsFamilies {s : Schema} {m m' : SchemaModule} (h : SameGroup m m')
    (hm : m.NeedsFamilies s) : m'.NeedsFamilies s := by
  intro x
  rw [h.requires, hm x, h.owns]
  exact and_congr_left' (exists_congr fun root => and_congr_left' (h.owns (.message root)).symm)

theorem owns_takeOver (m other : SchemaModule) (x : RootNeed) :
    (m.takeOver other).Owns x ↔ m.Owns x ∨ other.Owns x := by
  cases x with
  | message name => exact OrderedSet.mem_union
  | enum name => exact OrderedSet.mem_union

theorem requires_takeOver (m other : SchemaModule) (x : RootNeed) :
    (m.takeOver other).Requires x ↔
      (m.Requires x ∨ other.Requires x) ∧ ¬ (m.takeOver other).Owns x := by
  cases x with
  | message name => exact OrderedSet.mem_diff.trans (and_congr_left' OrderedSet.mem_union)
  | enum name => exact OrderedSet.mem_diff.trans (and_congr_left' OrderedSet.mem_union)

/-- Two modules that need what their families need still do when they are one. -/
theorem NeedsFamilies.takeOver {s : Schema} {m other : SchemaModule} (hm : m.NeedsFamilies s)
    (hother : other.NeedsFamilies s) : (m.takeOver other).NeedsFamilies s := by
  intro x
  rw [requires_takeOver]
  -- What neither of the two holds was no need of its own for either.
  refine and_congr_left fun hnot => ?_
  rw [owns_takeOver, not_or] at hnot
  rw [hm x, hother x]
  constructor
  · rintro (⟨⟨root, hroot, hneed⟩, -⟩ | ⟨⟨root, hroot, hneed⟩, -⟩)
    · exact ⟨root, OrderedSet.mem_union.mpr (.inl hroot), hneed⟩
    · exact ⟨root, OrderedSet.mem_union.mpr (.inr hroot), hneed⟩
  · rintro ⟨root, hroot, hneed⟩
    rcases OrderedSet.mem_union.mp hroot with hroot | hroot
    · exact .inl ⟨⟨root, hroot, hneed⟩, hnot.1⟩
    · exact .inr ⟨⟨root, hroot, hneed⟩, hnot.2⟩

/-- A module that holds only what the other holds too is the same as the other once it
    has taken it over. -/
theorem sameGroup_takeOver {s : Schema} {m other : SchemaModule} (hns : m.ns = other.ns)
    (hremoved : m.removed = other.removed) (howns : ∀ x, m.Owns x → other.Owns x)
    (hm : m.NeedsFamilies s) (hother : other.NeedsFamilies s) :
    SameGroup other (m.takeOver other) := by
  have hsame : ∀ x, (m.takeOver other).Owns x ↔ other.Owns x := fun x =>
    (owns_takeOver m other x).trans (or_iff_right_of_imp (howns x))
  refine ⟨hns, hremoved, hsame, fun x => ?_⟩
  rw [hm.takeOver hother x, hother x, hsame]
  exact and_congr_left' (exists_congr fun root => and_congr_left' (hsame (.message root)))

end SchemaModule

namespace ModuleGraph

variable {u s : Schema} {g g' g'' : ModuleGraph} {ρ ρ' : Int → Int}

/-! ## Groupings -/

/-- A grouping in which modules need what their families need elsewhere, and the ids
    still to be given are new. -/
structure Grouped (s : Schema) (g : ModuleGraph) : Prop extends Partitioned s g where
  fresh : ∀ {i}, g.Live i → i < g.nextId
  needs : ∀ {i m}, g.modules.find? i = some m → m.NeedsFamilies s

/-- The first grouping. -/
theorem grouped_of_partition (h : Schema.Resolved u s)
    (hpartition : (partition s {}).outcome = .ok g) : Grouped s g := by
  have hs := h.toWellNested
  obtain ⟨draft, hdrafted, -, -, hw⟩ := drafted_of_partition hs hpartition
  refine ⟨partitioned_of_partition hs hpartition, fun {i} hi => ?_, fun {i m'} hm' => ?_⟩
  · obtain ⟨m, hm⟩ := (hw.live_iff i).mp hi
    rw [hw.nextId]
    exact hdrafted.fresh hm
  · obtain ⟨m, hm, heq⟩ := hw.module hm'
    exact (SchemaModule.SameGroup.of_unwired heq).needsFamilies (hdrafted.needsFamilies h hm)

/-- A merger keeps a grouping. -/
theorem Grouped.merge (h : Grouped s g) {a b : Int} (hmerge : g.merge a b = .ok g') :
    Grouped s g' := by
  obtain ⟨⟨m, hm⟩, other, hother⟩ := exists_of_merge hmerge
  obtain rfl := h.keyed hm
  obtain rfl := h.keyed hother
  -- A merger that is not refused is of two modules of one namespace.
  have hnot : ¬ (m.ns ≠ other.ns ∨ m.id = other.id) := by
    intro hrefused
    obtain ⟨e, he, -⟩ := absorb_refuses (g := g) hrefused
    rw [merge_eq_absorb hm hother, he] at hmerge
    cases hmerge
  rw [not_or, not_not] at hnot
  obtain ⟨hns, hne⟩ := hnot
  rw [merge_eq_ok h.toWired hm hother hne hns] at hmerge
  obtain rfl : g.afterMerge m other = g' := Except.ok.inj hmerge
  have hconsistent := consistent_afterMerge h.toConsistent hm hother hne hns
  refine ⟨h.toPartitioned.quotient hconsistent
    (isQuotient_afterMerge h.toConsistent.simple hm hother hne hns), fun hi => ?_, ?_⟩
  · exact h.fresh ((live_afterMerge_iff hm hne).mp hi).1
  · exact forall_afterMerge (P := SchemaModule.NeedsFamilies s) hne h.needs
      ((h.needs hm).takeOver (h.needs hother)) fun _ hx => hx

/-- So do any mergers in a row. -/
theorem Grouped.merges (h : Grouped s g) {pairs : List (Int × Int)}
    (hmerges : pairs.foldlM (fun g p => g.merge p.1 p.2) g = .ok g') : Grouped s g' :=
  foldlM_keeps (fun _ => Grouped s) (fun _ _ _ _ hg hmerge => hg.merge hmerge) h hmerges

/-! ## Other ids -/

/-- The second graph is the first with the ids of its live modules changed by `ρ`. -/
structure Relabels (ρ : Int → Int) (g g' : ModuleGraph) : Prop where
  injective : ∀ {i j}, g.Live i → g.Live j → ρ i = ρ j → i = j
  live : ∀ k, g'.Live k ↔ ∃ i, g.Live i ∧ ρ i = k
  same : ∀ {i m m'}, g.modules.find? i = some m → g'.modules.find? (ρ i) = some m' →
    m.SameGroup m'
  edges : ∀ k l, g'.Edge k l ↔ quotientBy ρ g.Edge k l
  holds : ∀ x k, g'.Holds x k ↔ ∃ i, g.Holds x i ∧ ρ i = k

theorem Relabels.refl (hloop : ∀ i, ¬ g.Edge i i) : Relabels id g g where
  injective _ _ h := h
  live k := by simp
  same hm hm' := by
    rw [id, hm, Option.some.injEq] at hm'
    rw [hm']
    exact .refl _
  edges k l := (quotientBy_id hloop k l).symm
  holds x k := by simp

/-- A module of the second graph is one of the first under another id. -/
theorem Relabels.module (h : Relabels ρ g g') {k : Int} {m' : SchemaModule}
    (hm' : g'.modules.find? k = some m') :
    ∃ i m, g.modules.find? i = some m ∧ ρ i = k ∧ m.SameGroup m' := by
  obtain ⟨i, ⟨m, hm⟩, rfl⟩ := (h.live k).mp ⟨m', hm'⟩
  exact ⟨i, m, hm, rfl, h.same hm hm'⟩

theorem Relabels.trans (h : Relabels ρ g g') (h' : Relabels ρ' g' g'') :
    Relabels (ρ' ∘ ρ) g g'' where
  injective {i j} hi hj heq :=
    h.injective hi hj (h'.injective ((h.live _).mpr ⟨i, hi, rfl⟩) ((h.live _).mpr ⟨j, hj, rfl⟩) heq)
  live k := by
    rw [h'.live]
    constructor
    · rintro ⟨l, hl, rfl⟩
      obtain ⟨i, hi, rfl⟩ := (h.live l).mp hl
      exact ⟨i, hi, rfl⟩
    · rintro ⟨i, hi, rfl⟩
      exact ⟨ρ i, (h.live _).mpr ⟨i, hi, rfl⟩, rfl⟩
  same {i m m''} hm hm'' := by
    obtain ⟨m', hm'⟩ := (h.live (ρ i)).mpr ⟨i, ⟨m, hm⟩, rfl⟩
    exact (h.same hm hm').trans (h'.same hm' hm'')
  edges k l := by
    rw [h'.edges, ← quotientBy_quotientBy]
    unfold quotientBy
    simp only [h.edges]
    rfl
  holds x k := by
    rw [h'.holds]
    constructor
    · rintro ⟨l, hl, rfl⟩
      obtain ⟨i, hi, rfl⟩ := (h.holds x l).mp hl
      exact ⟨i, hi, rfl⟩
    · rintro ⟨i, hi, rfl⟩
      exact ⟨ρ i, (h.holds x _).mpr ⟨i, hi, rfl⟩, rfl⟩

/-- Two modules have an edge under their new ids exactly if they had one. -/
theorem Relabels.edge_iff (h : Relabels ρ g g') (hg : g.Simple) {i j : Int} (hi : g.Live i)
    (hj : g.Live j) : g'.Edge (ρ i) (ρ j) ↔ g.Edge i j := by
  rw [h.edges]
  constructor
  · rintro ⟨-, k, l, hkl, hk, hl⟩
    rw [← h.injective hkl.live hi hk, ← h.injective (hg.live_of_edge hkl) hj hl]
    exact hkl
  · intro hij
    refine ⟨fun heq => ?_, i, j, hij, rfl, rfl⟩
    rw [h.injective hi hj heq] at hij
    exact hg.loopless j hij

/-- Under other ids, the look-ups still send to a module what it holds. -/
theorem Relabels.holds_iff (h : Relabels ρ g g') (hg : Consistent s g) (x : RootNeed) (k : Int) :
    g'.Holds x k ↔ ∃ m', g'.modules.find? k = some m' ∧ m'.Owns x := by
  rw [h.holds]
  constructor
  · rintro ⟨i, hi, rfl⟩
    obtain ⟨m, hm, howns⟩ := (hg.holds_iff x i).mp hi
    obtain ⟨m', hm'⟩ := (h.live (ρ i)).mpr ⟨i, ⟨m, hm⟩, rfl⟩
    exact ⟨m', hm', ((h.same hm hm').owns x).mpr howns⟩
  · rintro ⟨m', hm', howns⟩
    obtain ⟨i, m, hm, rfl, hsame⟩ := h.module hm'
    exact ⟨i, (hg.holds_iff x i).mpr ⟨m, hm, (hsame.owns x).mp howns⟩, rfl⟩

/-- A grouping is one under other ids. -/
theorem Grouped.relabel (hg : Grouped s g) (h : Relabels ρ g g') (hw : g'.Wired)
    (hfresh : ∀ {k}, g'.Live k → k < g'.nextId) : Grouped s g' where
  toWired := hw
  loopless k hk := ((h.edges k k).mp hk).1 rfl
  unremoved hm' := by
    obtain ⟨i, m, hm, -, hsame⟩ := h.module hm'
    rw [hsame.removed]
    exact hg.unremoved hm
  messages name := h.holds_iff hg.toConsistent (.message name)
  enums name := h.holds_iff hg.toConsistent (.enum name)
  message_ns hm' name hname := by
    obtain ⟨i, m, hm, -, hsame⟩ := h.module hm'
    rw [hsame.ns]
    exact hg.message_ns hm name ((hsame.owns (.message name)).mp hname)
  enum_ns hm' name hname := by
    obtain ⟨i, m, hm, -, hsame⟩ := h.module hm'
    rw [hsame.ns]
    exact hg.enum_ns hm name ((hsame.owns (.enum name)).mp hname)
  rooted hm' := by
    obtain ⟨i, m, hm, -, hsame⟩ := h.module hm'
    rcases hg.rooted hm with ⟨n, hn⟩ | ⟨n, hn⟩
    · exact .inl ⟨n, (hsame.owns (.message n)).mpr hn⟩
    · exact .inr ⟨n, (hsame.owns (.enum n)).mpr hn⟩
  message_owned n := (owned_iff_of_holds h.holds (.message n)).trans (hg.message_owned n)
  enum_owned n := (owned_iff_of_holds h.holds (.enum n)).trans (hg.enum_owned n)
  edges := hg.edges_iff_of_quotientBy h.edges h.holds
  fresh := hfresh
  needs hm' := by
    obtain ⟨i, m, hm, -, hsame⟩ := h.module hm'
    exact hsame.needsFamilies (hg.needs hm)

/-! ## A new module for an old one -/

/-- The graph in which the new module `m` has taken over `other`. -/
def replaced (g : ModuleGraph) (m other : SchemaModule) : ModuleGraph :=
  ({ g with nextId := g.nextId + 1 } : ModuleGraph).afterMerge m other

section Replaced

variable {m other : SchemaModule} (hw : g.Wired) (hnew : ¬ g.Live m.id)
  (hedges : m.dependsOn = ∅ ∧ m.dependedOnBy = ∅)

/-- It makes no difference to the modules whether the new one was live before, so what
    is known of mergers of live modules carries over. -/
theorem find?_replaced (hne : m.id ≠ other.id) (i : Int) :
    (g.replaced m other).modules.find? i =
      ((g.withModule m).afterMerge m other).modules.find? i := by
  unfold replaced
  rw [find?_afterMerge hne, find?_afterMerge hne]
  split
  · rfl
  · split
    · rfl
    · rename_i him
      rw [find?_withModule, if_neg him]

theorem live_withModule_iff (i : Int) : (g.withModule m).Live i ↔ i = m.id ∨ g.Live i := by
  unfold Live
  rw [find?_withModule]
  by_cases hi : i = m.id
  · simp [hi]
  · simp [hi]

include hnew hedges in
/-- A new module without edges adds none. -/
theorem edge_withModule_iff (i j : Int) : (g.withModule m).Edge i j ↔ g.Edge i j := by
  unfold Edge
  rw [find?_withModule]
  by_cases hi : i = m.id
  · rw [if_pos hi]
    constructor
    · rintro ⟨x, hx, hj⟩
      cases hx
      rw [hedges.1] at hj
      exact absurd hj (OrderedSet.not_mem_empty j)
    · rintro ⟨x, hx, -⟩
      exact absurd ⟨x, hi ▸ hx⟩ hnew
  · rw [if_neg hi]

include hw hnew hedges in
theorem wired_withModule : (g.withModule m).Wired := by
  have hkeep : ∀ {i x}, g.modules.find? i = some x → (g.withModule m).modules.find? i = some x := by
    intro i x hx
    rw [find?_withModule, if_neg fun hi : i = m.id => hnew ⟨x, hi ▸ hx⟩]
    exact hx
  -- A module with an edge at one of its ends is not the new one.
  have hcases : ∀ {i x}, (g.withModule m).modules.find? i = some x →
      i = m.id ∧ x = m ∨ g.modules.find? i = some x := by
    intro i x hx
    rw [find?_withModule] at hx
    split at hx
    · rename_i hi
      exact .inl ⟨hi, (Option.some.inj hx).symm⟩
    · exact .inr hx
  constructor
  case keyed =>
    intro i x hx
    obtain ⟨rfl, rfl⟩ | hx := hcases hx
    · rfl
    · exact hw.keyed hx
  case forth =>
    intro i x j hx hj
    obtain ⟨-, rfl⟩ | hx := hcases hx
    · rw [hedges.1] at hj
      exact absurd hj (OrderedSet.not_mem_empty j)
    · obtain ⟨y, hy, hi⟩ := hw.forth hx hj
      exact ⟨y, hkeep hy, hi⟩
  case back =>
    intro j y i hy hi
    obtain ⟨-, rfl⟩ | hy := hcases hy
    · rw [hedges.2] at hi
      exact absurd hi (OrderedSet.not_mem_empty i)
    · obtain ⟨x, hx, hj⟩ := hw.back hy hi
      exact ⟨x, hkeep hx, hj⟩

variable (hother : g.modules.find? other.id = some other)

include hnew hother in
theorem ne_of_not_live : m.id ≠ other.id := fun h => hnew ⟨other, h ▸ hother⟩

include hnew hother in
theorem find?_withModule_other : (g.withModule m).modules.find? other.id = some other := by
  rw [find?_withModule, if_neg (ne_of_not_live hnew hother).symm]
  exact hother

theorem find?_withModule_self : (g.withModule m).modules.find? m.id = some m := by
  rw [find?_withModule, if_pos rfl]

include hw hnew hedges hother in
theorem wired_replaced : (g.replaced m other).Wired := by
  have hne := ne_of_not_live hnew hother
  have hwired := wired_afterMerge (wired_withModule hw hnew hedges) find?_withModule_self
    (find?_withModule_other hnew hother) hne
  refine ⟨fun hx => ?_, fun hx hj => ?_, fun hy hi => ?_⟩
  · rw [find?_replaced hne] at hx
    exact hwired.keyed hx
  · simp only [find?_replaced hne] at hx ⊢
    exact hwired.forth hx hj
  · simp only [find?_replaced hne] at hy ⊢
    exact hwired.back hy hi

include hw hnew hedges hother in
theorem edge_replaced (hloop : ∀ i, ¬ g.Edge i i) (k l : Int) :
    (g.replaced m other).Edge k l ↔ quotientBy (renamed m.id other.id) g.Edge k l := by
  have hne := ne_of_not_live hnew hother
  have hedge : (g.withModule m).Edge = g.Edge := by
    funext i j
    exact propext (edge_withModule_iff hnew hedges i j)
  have hjoined := edge_afterMerge (x := k) (y := l) (wired_withModule hw hnew hedges)
    find?_withModule_self (find?_withModule_other hnew hother) hne
  rw [hedge, joined_iff_quotientBy hloop] at hjoined
  rw [← hjoined]
  unfold Edge
  rw [find?_replaced hne]

include hnew hother in
theorem live_replaced_iff (k : Int) :
    (g.replaced m other).Live k ↔ ∃ i, g.Live i ∧ renamed m.id other.id i = k := by
  have hne := ne_of_not_live hnew hother
  have hlive : (g.replaced m other).Live k ↔ (k = m.id ∨ g.Live k) ∧ k ≠ other.id := by
    rw [← live_withModule_iff, ← live_afterMerge_iff find?_withModule_self hne]
    unfold Live
    rw [find?_replaced hne]
  rw [hlive]
  constructor
  · rintro ⟨rfl | hk, hko⟩
    · exact ⟨other.id, ⟨other, hother⟩, renamed_right _ _⟩
    · exact ⟨k, hk, renamed_of_ne hko⟩
  · rintro ⟨i, hi, rfl⟩
    refine ⟨?_, renamed_ne_right hne i⟩
    by_cases hio : i = other.id
    · exact .inl (hio ▸ renamed_right _ _)
    · rw [renamed_of_ne hio]
      exact .inr hi

/-- The look-ups go from the module taken over to the new one. -/
theorem find?_owners_replaced {roots : OrderedSet Label} {owners owners' : Registry Label Int}
    {a b : Int} {name : Label}
    (howners : owners'.find? name = if name ∈ roots then some a else owners.find? name)
    (hroots : name ∈ roots ↔ owners.find? name = some b) (k : Int) :
    owners'.find? name = some k ↔ ∃ i, owners.find? name = some i ∧ renamed a b i = k := by
  rw [howners]
  split
  · rename_i hname
    rw [hroots.mp hname]
    simp
  · rename_i hname
    constructor
    · intro hk
      exact ⟨k, hk, renamed_of_ne fun hkb => hname (hroots.mpr (hkb ▸ hk))⟩
    · rintro ⟨i, hi, rfl⟩
      rw [renamed_of_ne fun hib : i = b => hname (hroots.mpr (hib ▸ hi))]
      exact hi

/-- A new module that is the same as the one it takes over stands for it under its own
    id. -/
theorem relabels_replaced (hg : Consistent s g) (hnew : ¬ g.Live m.id)
    (hedges : m.dependsOn = ∅ ∧ m.dependedOnBy = ∅)
    (hother : g.modules.find? other.id = some other) (hsame : other.SameGroup (m.takeOver other)) :
    Relabels (renamed m.id other.id) g (g.replaced m other) where
  injective {i j} hi hj :=
    renamed_injOn (fun h => hnew (h ▸ hi)) fun h => hnew (h ▸ hj)
  live := live_replaced_iff hnew hother
  same := by
    intro i x x' hx hx'
    have hne := ne_of_not_live hnew hother
    -- The module taken over is found under the new id, all others under their own.
    by_cases hio : i = other.id
    · rw [hio, renamed_right] at hx'
      rw [hio, hother, Option.some.injEq] at hx
      have htaken : (g.replaced m other).modules.find? m.id = _ := find?_afterMerge_left hne
      rw [htaken, Option.some.injEq] at hx'
      rw [← hx, ← hx']
      exact hsame
    · have him : i ≠ m.id := fun h => hnew ⟨x, h ▸ hx⟩
      rw [renamed_of_ne hio] at hx'
      have hthird : (g.replaced m other).modules.find? i = _ := find?_afterMerge_of_ne hne him hio
      rw [hthird] at hx'
      obtain ⟨y, hy, rfl⟩ := Option.map_eq_some_iff.mp hx'
      obtain rfl : y = x := Option.some.inj (hy.symm.trans hx)
      exact ⟨rfl, rfl, fun z => by cases z <;> rfl, fun z => by cases z <;> rfl⟩
  edges := edge_replaced hg.toWired hnew hedges hother hg.loopless
  holds x k := by
    have howns : (m.takeOver other).Owns x ↔ g.Holds x other.id := by
      rw [hsame.owns, hg.holds_iff, hother]
      simp
    cases x with
    | message name =>
        exact find?_owners_replaced (Registry.find?_foldl_insert _ _ _ _) howns k
    | enum name =>
        exact find?_owners_replaced (Registry.find?_foldl_insert _ _ _ _) howns k

end Replaced

/-- The new module of a root message needs what the family of the message needs. -/
theorem needsFamilies_messageModuleOf (h : Schema.Resolved u s) {root : MessageType}
    {m : SchemaModule}
    (hadds : SchemaModule.Adds (s.FamilyNeed root.fullName) (g.messageModuleOf root) m) :
    m.NeedsFamilies s := by
  have hroots : m.rootMessages = OrderedSet.singleton root.fullName :=
    congrArg SchemaModule.rootMessages hadds.needless
  have hrootEnums : m.rootEnums = ∅ := congrArg SchemaModule.rootEnums hadds.needless
  refine SchemaModule.Single.needsFamilies h (.inl ⟨_, hroots, hrootEnums⟩) fun x => ?_
  have hnothing : ¬ (g.messageModuleOf root).Requires x := by
    cases x with
    | message name => exact OrderedSet.not_mem_empty name
    | enum name => exact OrderedSet.not_mem_empty name
  rw [hadds.requires, hroots]
  simp [hnothing]

/-- If it takes over the module that holds the message, it is the same as that one. -/
theorem Grouped.sameGroup_messageModuleOf (h : Schema.Resolved u s) (hg : Grouped s g)
    {root : MessageType} (hroot : s.messages.find? root.fullName = some root)
    {m other : SchemaModule}
    (hadds : SchemaModule.Adds (s.FamilyNeed root.fullName) (g.messageModuleOf root) m)
    (hother : g.modules.find? other.id = some other) (hmem : root.fullName ∈ other.rootMessages) :
    m.ns = other.ns ∧ other.SameGroup (m.takeOver other) := by
  have hns : m.ns = other.ns := by
    obtain ⟨t, ht, hns⟩ := hg.message_ns hother _ hmem
    rw [hroot, Option.some.injEq] at ht
    rw [← hns, ← ht]
    exact congrArg SchemaModule.ns hadds.needless
  have hremoved : m.removed = other.removed := by
    rw [hg.unremoved hother]
    exact congrArg SchemaModule.removed hadds.needless
  refine ⟨hns, SchemaModule.sameGroup_takeOver hns hremoved (fun x hx => ?_)
    (needsFamilies_messageModuleOf h hadds) (hg.needs hother)⟩
  cases x with
  | message name =>
      have hroots : m.rootMessages = OrderedSet.singleton root.fullName :=
        congrArg SchemaModule.rootMessages hadds.needless
      have hname : name = root.fullName := OrderedSet.mem_singleton.mp (hroots ▸ hx)
      exact hname ▸ hmem
  | enum name =>
      have hrootEnums : m.rootEnums = ∅ := congrArg SchemaModule.rootEnums hadds.needless
      exact absurd (hrootEnums ▸ hx) (OrderedSet.not_mem_empty name)

/-- A root message that is in a live module gets a new one, which takes that one over. -/
theorem Grouped.addMessageModule (h : Schema.Resolved u s) (hg : Grouped s g)
    {root : MessageType} (hroot : s.messages.find? root.fullName = some root)
    (hisRoot : root.isRoot = true) {i : Int}
    (hi : g.messageModule.find? root.fullName = some i) :
    ∃ g' m', ModuleGraph.addMessageModule s g root = .ok (g', m') ∧
      Relabels (renamed g.nextId i) g g' ∧ Grouped s g' ∧ g'.nextId = g.nextId + 1 ∧
      ∀ n, n ∈ m'.rootMessages ↔ g.messageModule.find? n = some i := by
  obtain ⟨family, m, hfamily, hm, hadds⟩ := family_needs_ok h g hroot hisRoot
  obtain ⟨other, hother, hmem⟩ := (hg.messages root.fullName i).mp hi
  obtain rfl := hg.keyed hother
  obtain ⟨hns, hsame⟩ := hg.sameGroup_messageModuleOf h hroot hadds hother hmem
  -- Only the needs of the new module were changed while it was made.
  have hid : m.id = g.nextId := congrArg SchemaModule.id hadds.needless
  have hedges : m.dependsOn = ∅ ∧ m.dependedOnBy = ∅ :=
    ⟨congrArg SchemaModule.dependsOn hadds.needless,
      congrArg SchemaModule.dependedOnBy hadds.needless⟩
  have hnew : ¬ g.Live m.id := fun hlive => absurd (hg.fresh hlive) (by omega)
  have hne := ne_of_not_live hnew hother
  have hrelabels := relabels_replaced hg.toConsistent hnew hedges hother hsame
  have hwired := wired_replaced hg.toWired hnew hedges hother
  refine ⟨g.replaced m other, m.takeOver other, ?_, hid ▸ hrelabels, ?_, rfl, fun n => ?_⟩
  · unfold messageModuleOf at hm
    unfold ModuleGraph.addMessageModule create
    dsimp only
    rw [hfamily, ok_bind, hm, ok_bind, hi]
    -- The counter goes on before the old module is looked up.
    have hadvanced : ({ g with nextId := g.nextId + 1 } : ModuleGraph).Wired :=
      ⟨hg.keyed, hg.forth, hg.back⟩
    have hfound : ({ g with nextId := g.nextId + 1 } : ModuleGraph).module other.id = .ok other :=
      module_eq_ok_iff.mpr hother
    dsimp only
    rw [hfound, ok_bind, absorb_eq_ok hadvanced hother hne hns]
    rfl
  · refine hg.relabel hrelabels hwired fun {k} hk => ?_
    show k < g.nextId + 1
    obtain ⟨j, hj, rfl⟩ := (live_replaced_iff hnew hother k).mp hk
    have hlt := hg.fresh hj
    unfold renamed
    split <;> omega
  · exact (hsame.owns (.message n)).trans (hg.messages.find?_iff hother n).symm

end ModuleGraph

end SchemaRecovery
