/-
  SchemaRecovery.Proofs.Absorption

  What a merger does to everything a module graph holds. Two live modules are
  merged unless their namespaces differ or they are one module; then the merger
  is refused before anything is changed. A merger that is made contracts the
  graph: the second module is gone, the first has the root types and needs of
  both, edges are those of the quotient in which the two are one, and nothing
  else is different (`Contracts`, `merge_contracts`).
-/
import SchemaRecovery.Proofs.Merger

namespace SchemaRecovery

namespace SchemaModule

/-- The module needs none of its own root types. -/
structure NeedsOutside (m : SchemaModule) : Prop where
  messages : ∀ name ∈ m.rootMessages, name ∉ m.dependsOnRootMessages
  enums : ∀ name ∈ m.rootEnums, name ∉ m.dependsOnRootEnums

/-- The third module is the first with what the second holds and needs, edges
    aside. What it holds it no longer needs. -/
structure Absorbs (m n k : SchemaModule) : Prop where
  id : k.id = m.id
  ns : k.ns = m.ns
  removed : k.removed = m.removed
  rootMessages : ∀ name, name ∈ k.rootMessages ↔ name ∈ m.rootMessages ∨ name ∈ n.rootMessages
  rootEnums : ∀ name, name ∈ k.rootEnums ↔ name ∈ m.rootEnums ∨ name ∈ n.rootEnums
  needsMessages : ∀ name, name ∈ k.dependsOnRootMessages ↔
    (name ∈ m.dependsOnRootMessages ∨ name ∈ n.dependsOnRootMessages) ∧ name ∉ k.rootMessages
  needsEnums : ∀ name, name ∈ k.dependsOnRootEnums ↔
    (name ∈ m.dependsOnRootEnums ∨ name ∈ n.dependsOnRootEnums) ∧ name ∉ k.rootEnums

theorem absorbs_takeOver (m n : SchemaModule) : Absorbs m n (m.takeOver n) where
  id := rfl
  ns := rfl
  removed := rfl
  rootMessages _ := OrderedSet.mem_union
  rootEnums _ := OrderedSet.mem_union
  needsMessages _ := OrderedSet.mem_diff.trans (and_congr_left' OrderedSet.mem_union)
  needsEnums _ := OrderedSet.mem_diff.trans (and_congr_left' OrderedSet.mem_union)

/-- Whoever takes a module over needs nothing that it now holds. -/
theorem Absorbs.needsOutside {m n k : SchemaModule} (h : Absorbs m n k) : k.NeedsOutside where
  messages name hroot hneed := ((h.needsMessages name).mp hneed).2 hroot
  enums name hroot hneed := ((h.needsEnums name).mp hneed).2 hroot

end SchemaModule

namespace ModuleGraph

/-- A graph in order: the ends of edges agree and are live, there are no
    loops, the look-ups are exact, root types have the namespace of their
    module, and no module needs a root type of its own. -/
structure Orderly (s : Schema) (g : ModuleGraph) : Prop extends Simple g where
  messages : g.OwnersExact (·.rootMessages) g.messageModule
  enums : g.OwnersExact (·.rootEnums) g.enumModule
  message_ns : ∀ {i m}, g.modules.find? i = some m → ∀ name ∈ m.rootMessages,
    ∃ t, s.messages.find? name = some t ∧ t.ns = m.ns
  enum_ns : ∀ {i m}, g.modules.find? i = some m → ∀ name ∈ m.rootEnums,
    ∃ t, s.enums.find? name = some t ∧ t.ns = m.ns
  outside : ∀ {i m}, g.modules.find? i = some m → m.NeedsOutside

/-- The second graph is the first with the module `n` contracted into `m`. -/
structure Contracts (g : ModuleGraph) (m n : SchemaModule) (g' : ModuleGraph) : Prop where
  gone : g'.modules.find? n.id = none
  merged : ∃ k, g'.modules.find? m.id = some k ∧ m.Absorbs n k
  others : ∀ i, i ≠ m.id → i ≠ n.id →
    (g'.modules.find? i).map (·.unwired) = (g.modules.find? i).map (·.unwired)
  edge : ∀ i j, g'.Edge i j ↔ quotientBy (renamed m.id n.id) g.Edge i j
  messageModule : ∀ name, g'.messageModule.find? name =
    if name ∈ n.rootMessages then some m.id else g.messageModule.find? name
  enumModule : ∀ name, g'.enumModule.find? name =
    if name ∈ n.rootEnums then some m.id else g.enumModule.find? name
  nextId : g'.nextId = g.nextId

/-- The graph at hand once a merger was tried, whether it was made or has failed on
    its way. -/
def tryMerge (g : ModuleGraph) (a b : Int) : ModuleGraph :=
  match mergeLive a b g with
  | .ok () g' => g'
  | .error _ g' => g'

section

variable {g : ModuleGraph} {m n : SchemaModule}

/-- Modules of two namespaces, and a module with itself, are not merged. -/
theorem absorb_refuses (h : m.ns ≠ n.ns ∨ m.id = n.id) :
    ∃ e, g.absorb m n = .error e ∧ e.kind = .invariant := by
  obtain ⟨e, hsteps, hkind⟩ := Merging.steps_refused (x := ⟨g, m, n⟩) h
  refine ⟨e, ?_, hkind⟩
  unfold absorb
  rw [hsteps]

/-- The graph is the same after a merger that was refused. -/
theorem tryMerge_refused (hm : g.modules.find? m.id = some m)
    (hn : g.modules.find? n.id = some n) (h : m.ns ≠ n.ns ∨ m.id = n.id) :
    g.tryMerge m.id n.id = g := by
  obtain ⟨e, hsteps, -⟩ := Merging.steps_refused (x := ⟨g, m, n⟩) h
  unfold tryMerge
  rw [mergeLive_eq hm hn, hsteps]
  -- The first module is put back as it was.
  show { g with modules := g.modules.insert m.id m } = g
  rw [Registry.insert_of_find? hm]

/-- After a merger that was made, the graph is the merged one. -/
theorem tryMerge_of_merge {a b : Int} {g' : ModuleGraph} (h : g.merge a b = .ok g') :
    g.tryMerge a b = g' := by
  unfold merge at h
  unfold tryMerge
  cases hmerge : mergeLive a b g with
  | error e _ =>
      rw [hmerge] at h
      cases h
  | ok _ _ =>
      rw [hmerge] at h
      exact Except.ok.inj h

/-- An exact look-up sends the types that are taken over to their new module
    and keeps all other entries. -/
theorem OwnersExact.find?_taken {roots : SchemaModule → OrderedSet Label}
    {owners owners' : Registry Label Int} (hexact : g.OwnersExact roots owners)
    (hm : g.modules.find? m.id = some m)
    (htake : ∀ name, name ∈ roots (m.takeOver n) ↔ name ∈ roots m ∨ name ∈ roots n)
    (howners : ∀ name, owners'.find? name =
      if name ∈ roots (m.takeOver n) then some m.id else owners.find? name) (name : Label) :
    owners'.find? name = if name ∈ roots n then some m.id else owners.find? name := by
  rw [howners]
  by_cases hn : name ∈ roots n
  · rw [if_pos hn, if_pos ((htake name).mpr (.inr hn))]
  · rw [if_neg hn]
    by_cases hroot : name ∈ roots m
    · -- The first module keeps what it had.
      rw [if_pos ((htake name).mpr (.inl hroot)), (hexact name m.id).mpr ⟨m, hm, hroot⟩]
    · rw [if_neg fun h => ((htake name).mp h).elim hroot hn]

theorem orderly_afterMerge {s : Schema} (hg : Orderly s g) (hm : g.modules.find? m.id = some m)
    (hn : g.modules.find? n.id = some n) (hne : m.id ≠ n.id) (hns : m.ns = n.ns) :
    Orderly s (g.afterMerge m n) where
  toSimple := simple_afterMerge hg.toSimple hm hn hne
  messages := messages_afterMerge hg.messages hm hn hne
  enums := enums_afterMerge hg.enums hm hn hne
  message_ns := placed_afterMerge
    (P := fun name ns => ∃ t, s.messages.find? name = some t ∧ t.ns = ns)
    hg.message_ns hm hn hne hns (fun _ => OrderedSet.mem_union) fun _ => rfl
  enum_ns := placed_afterMerge (P := fun name ns => ∃ t, s.enums.find? name = some t ∧ t.ns = ns)
    hg.enum_ns hm hn hne hns (fun _ => OrderedSet.mem_union) fun _ => rfl
  outside := forall_afterMerge (P := SchemaModule.NeedsOutside) hne hg.outside
    (SchemaModule.absorbs_takeOver m n).needsOutside fun _ hx => ⟨hx.messages, hx.enums⟩

theorem contracts_afterMerge {s : Schema} (hg : Orderly s g)
    (hm : g.modules.find? m.id = some m) (hn : g.modules.find? n.id = some n)
    (hne : m.id ≠ n.id) : Contracts g m n (g.afterMerge m n) where
  gone := find?_afterMerge_right hne
  merged := ⟨_, find?_afterMerge_left hne, SchemaModule.absorbs_takeOver m n⟩
  others i him hin := by
    rw [find?_afterMerge_of_ne hne him hin, Option.map_map]
    rfl
  edge i j := by rw [edge_afterMerge hg.toWired hm hn hne, joined_iff_quotientBy hg.loopless]
  messageModule := hg.messages.find?_taken hm (fun _ => OrderedSet.mem_union)
    fun _ => Registry.find?_foldl_insert _ _ _ _
  enumModule := hg.enums.find?_taken hm (fun _ => OrderedSet.mem_union)
    fun _ => Registry.find?_foldl_insert _ _ _ _
  nextId := rfl

end

/-! ## Types for the graph of three modules -/

/-- A message of the namespace `A` with nothing in it. -/
def bareMessage (name : Text) : MessageType where
  descriptor :=
    { name := some name, ns := some "A", kind := some .plainClass, interfaces := some [],
      fields := some [], properties := some [], fullName := some name, declaringType := none,
      nested := [] }
  rootMessage := none

/-- The types of `tangled`. -/
def tangledTypes : Schema where
  messages := ⟨[(some "P", bareMessage "P"), (some "Q", bareMessage "Q"),
    (some "R", bareMessage "R")], by decide⟩

theorem orderly_tangled : Orderly tangledTypes tangled where
  toSimple := simple_tangled
  messages := by
    intro name i
    rw [Registry.find?_eq_some_iff]
    simp only [tangled, List.mem_cons, Prod.mk.injEq, List.not_mem_nil, or_false]
    constructor
    · rintro (⟨rfl, rfl⟩ | ⟨rfl, rfl⟩ | ⟨rfl, rfl⟩) <;> exact ⟨_, rfl, by simp⟩
    · rintro ⟨m, hm, hname⟩
      rcases find?_tangled hm with ⟨rfl, h⟩ | ⟨rfl, h⟩ | ⟨rfl, h⟩ <;> cases h <;>
        simpa using hname
  enums := by
    intro name i
    constructor
    · intro h
      cases h
    · rintro ⟨m, hm, hname⟩
      rcases find?_tangled hm with ⟨rfl, h⟩ | ⟨rfl, h⟩ | ⟨rfl, h⟩ <;> cases h <;> simp at hname
  message_ns := by
    intro i m hm name hname
    rcases find?_tangled hm with ⟨rfl, h⟩ | ⟨rfl, h⟩ | ⟨rfl, h⟩ <;> cases h <;>
      simp only [OrderedSet.mem_ofList, List.mem_singleton] at hname <;> subst hname <;>
      exact ⟨_, rfl, rfl⟩
  enum_ns := by
    intro i m hm name hname
    rcases find?_tangled hm with ⟨rfl, h⟩ | ⟨rfl, h⟩ | ⟨rfl, h⟩ <;> cases h <;> simp at hname
  outside := by
    intro i m hm
    rcases find?_tangled hm with ⟨rfl, h⟩ | ⟨rfl, h⟩ | ⟨rfl, h⟩ <;> cases h <;>
      exact ⟨by simp; decide, by simp⟩

/-! ## Mergers -/

/-- In a graph in order, two live modules are not merged if their namespaces
    differ or they are one module; the graph is then the one it was. Otherwise
    the merger is made: the second module is marked as removed, the graph is
    contracted, and it is again in order. -/
theorem merge_contracts {s : Schema} {g : ModuleGraph} {a b : Int} {m n : SchemaModule}
    (hg : Orderly s g) (hm : g.modules.find? a = some m) (hn : g.modules.find? b = some n) :
    (m.ns ≠ n.ns ∨ a = b →
      (∃ e, g.merge a b = .error e ∧ e.kind = .invariant) ∧ g.tryMerge a b = g) ∧
    (m.ns = n.ns → a ≠ b →
      ∃ r, g.absorb m n = .ok r ∧ r.retired = { n with removed := true } ∧
        g.merge a b = .ok (g.tryMerge a b) ∧ Contracts g m n (g.tryMerge a b) ∧
        Orderly s (g.tryMerge a b)) := by
  obtain rfl := hg.keyed hm
  obtain rfl := hg.keyed hn
  constructor
  · intro h
    obtain ⟨e, habsorb, hkind⟩ := absorb_refuses (g := g) h
    have hmerge : g.merge m.id n.id = .error e := by
      rw [merge_eq_absorb hm hn, habsorb]
      rfl
    exact ⟨⟨e, hmerge, hkind⟩, tryMerge_refused hm hn h⟩
  · intro hns hne
    have hmerge := merge_eq_ok hg.toWired hm hn hne hns
    have hself : n.id ∉ n.dependsOn := fun hmem => hg.loopless n.id ⟨n, hn, hmem⟩
    rw [tryMerge_of_merge hmerge]
    refine ⟨_, absorb_eq_ok hg.toWired hn hne hns, ?_, hmerge, contracts_afterMerge hg hm hn hne,
      orderly_afterMerge hg hm hn hne hns⟩
    show n.retired m.id = { n with removed := true }
    unfold SchemaModule.retired
    rw [if_neg hself]

theorem merge_contracts_tangled :
    ∃ m n, tangled.modules.find? 1 = some m ∧ tangled.modules.find? 2 = some n ∧
      tangled.tryMerge 1 1 = tangled ∧ tangled.merge 1 2 = .ok (tangled.tryMerge 1 2) ∧
      Contracts tangled m n (tangled.tryMerge 1 2) ∧
      Orderly tangledTypes (tangled.tryMerge 1 2) := by
  obtain ⟨m, hm⟩ : tangled.Live 1 := ⟨_, rfl⟩
  obtain ⟨n, hn⟩ : tangled.Live 2 := ⟨_, rfl⟩
  have hns : m.ns = n.ns := by
    cases hm
    cases hn
    rfl
  obtain ⟨-, hsame⟩ := (merge_contracts orderly_tangled hm hm).1 (.inr rfl)
  obtain ⟨r, -, -, hmerge, hcontracts, horderly⟩ :=
    (merge_contracts orderly_tangled hm hn).2 hns (by decide)
  exact ⟨m, n, hm, hn, hsame, hmerge, hcontracts, horderly⟩

end ModuleGraph

end SchemaRecovery
