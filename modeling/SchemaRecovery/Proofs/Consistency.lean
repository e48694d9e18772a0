/-
  SchemaRecovery.Proofs.Consistency

  What a module graph has to be for its operations to make sense, and the
  search for cycles in such a graph.

    * `Wired`       — modules stand under their ids, and the two ends of each
                      edge agree and are live;
    * `Simple`      — wired and without loops;
    * `Consistent`  — simple, no live module marked as removed, the look-ups
                      send exactly the root types of live modules to their
                      modules, and root types have the namespace of their
                      module.

  In a wired graph the search for a cycle always answers, and rightly
  (`cycle?_decides`); so does the search in the view in which two modules are
  one (`hasCycleWhenMerged_decides`), whose edges are those of the relation
  `joined`.
-/
import SchemaRecovery.ModuleGraph.Merge
import SchemaRecovery.Proofs.CycleSearch
import SchemaRecovery.Proofs.Registry

namespace SchemaRecovery

open Relation

namespace SchemaModule

/-- The module without its edges. -/
def unwired (m : SchemaModule) : SchemaModule := { m with dependsOn := ∅, dependedOnBy := ∅ }

/-- Modules that are the same but for edges agree on all that is not an edge. -/
theorem eq_of_unwired_eq {α : Type} (f : SchemaModule → α) {m m' : SchemaModule}
    (h : m'.unwired = m.unwired) (hf : ∀ m, f m.unwired = f m) : f m' = f m := by
  rw [← hf m', h, hf]

end SchemaModule

namespace ModuleGraph

/-! ## Modules and edges -/

/-- A module with this id is live. -/
def Live (g : ModuleGraph) (i : Int) : Prop := ∃ m, g.modules.find? i = some m

/-- A live module depends on another. -/
def Edge (g : ModuleGraph) (i j : Int) : Prop :=
  ∃ m, g.modules.find? i = some m ∧ j ∈ m.dependsOn

/-- Modules stand under their ids, and the ends of each edge agree and are
    live. -/
structure Wired (g : ModuleGraph) : Prop where
  keyed : ∀ {i m}, g.modules.find? i = some m → m.id = i
  forth : ∀ {i m j}, g.modules.find? i = some m → j ∈ m.dependsOn →
    ∃ n, g.modules.find? j = some n ∧ i ∈ n.dependedOnBy
  back : ∀ {j n i}, g.modules.find? j = some n → i ∈ n.dependedOnBy →
    ∃ m, g.modules.find? i = some m ∧ j ∈ m.dependsOn

/-- The look-up `owners` sends exactly the root types that `roots` gives for
    the live modules to the module that holds them. -/
def OwnersExact (g : ModuleGraph) (roots : SchemaModule → OrderedSet Label)
    (owners : Registry Label Int) : Prop :=
  ∀ name i, owners.find? name = some i ↔ ∃ m, g.modules.find? i = some m ∧ name ∈ roots m

/-- A graph that is in order, cycles aside. -/
structure Consistent (s : Schema) (g : ModuleGraph) : Prop extends Wired g where
  loopless : ∀ i, ¬ g.Edge i i
  unremoved : ∀ {i m}, g.modules.find? i = some m → m.removed = false
  messages : g.OwnersExact (·.rootMessages) g.messageModule
  enums : g.OwnersExact (·.rootEnums) g.enumModule
  message_ns : ∀ {i m}, g.modules.find? i = some m → ∀ name ∈ m.rootMessages,
    ∃ t, s.messages.find? name = some t ∧ t.ns = m.ns
  enum_ns : ∀ {i m}, g.modules.find? i = some m → ∀ name ∈ m.rootEnums,
    ∃ t, s.enums.find? name = some t ∧ t.ns = m.ns

/-- A wired graph without loops. -/
structure Simple (g : ModuleGraph) : Prop extends Wired g where
  loopless : ∀ i, ¬ g.Edge i i

theorem Consistent.simple {s : Schema} {g : ModuleGraph} (h : Consistent s g) : g.Simple :=
  ⟨h.toWired, h.loopless⟩

theorem mem_sortedIds {g : ModuleGraph} {i : Int} : i ∈ g.sortedIds ↔ g.Live i := by
  unfold sortedIds Live
  rw [List.mem_mergeSort, Registry.mem_keys]

theorem nodup_sortedIds (g : ModuleGraph) : g.sortedIds.Nodup :=
  (List.mergeSort_perm g.modules.keys _).nodup_iff.mpr g.modules.keys_nodup

theorem module_eq_ok_iff {g : ModuleGraph} {i : Int} {m : SchemaModule} :
    g.module i = .ok m ↔ g.modules.find? i = some m := by
  unfold ModuleGraph.module
  cases g.modules.find? i with
  | none => simp
  | some n => simp

theorem Edge.live {g : ModuleGraph} {i j : Int} (h : g.Edge i j) : g.Live i := by
  obtain ⟨m, hm, -⟩ := h
  exact ⟨m, hm⟩

theorem Wired.live_of_edge {g : ModuleGraph} (hw : g.Wired) {i j : Int} (h : g.Edge i j) :
    g.Live j := by
  obtain ⟨m, hm, hj⟩ := h
  obtain ⟨n, hn, -⟩ := hw.forth hm hj
  exact ⟨n, hn⟩

/-! ## The search for cycles -/

theorem successors?_digraph (g : ModuleGraph) (i : Int) :
    g.digraph.successors? i = (g.modules.find? i).map (·.dependsOn.toList) := by
  have hrows : g.digraph = Digraph.mk (g.sortedIds.filterMap fun j =>
      ((g.modules.find? j).map (·.dependsOn.toList)).map fun next => (j, next)) := by
    unfold digraph
    simp only [Option.map_map]
    rfl
  rw [hrows, Digraph.successors?_tabulate]
  by_cases hi : i ∈ g.sortedIds
  · rw [if_pos hi]
  · rw [if_neg hi]
    cases hm : g.modules.find? i with
    | none => rfl
    | some m => exact absurd (mem_sortedIds.mpr ⟨m, hm⟩) hi

theorem edge_digraph {g : ModuleGraph} {i j : Int} : g.digraph.Edge i j ↔ g.Edge i j := by
  unfold Digraph.Edge Edge
  rw [successors?_digraph]
  constructor
  · rintro ⟨next, hnext, hj⟩
    obtain ⟨m, hm, rfl⟩ := Option.map_eq_some_iff.mp hnext
    exact ⟨m, hm, hj⟩
  · rintro ⟨m, hm, hj⟩
    exact ⟨m.dependsOn.toList, by rw [hm]; rfl, hj⟩

/-- A search from all nodes with rows answers rightly, if no edge leads to a
    node without one. -/
theorem cycleIn_decides (graph : Digraph Int) (starts : List Int)
    (hstarts : ∀ i, i ∈ starts ↔ graph.successors? i ≠ none)
    (hclosed : ∀ i j, graph.Edge i j → graph.successors? j ≠ none) :
    (∃ path, cycleIn graph starts = .ok (some path) ∧ IsCycle graph.Edge path) ∨
      (cycleIn graph starts = .ok none ∧ Acyclic graph.Edge) := by
  unfold cycleIn
  rcases Digraph.findCycle_decides (fun i hi => (hstarts i).mp hi) hclosed with
    ⟨path, hfind, hpath⟩ | ⟨hfind, hnone⟩
  · exact Or.inl ⟨path, by rw [hfind], hpath⟩
  · refine Or.inr ⟨by rw [hfind], fun i hcycle => ?_⟩
    have hrow : graph.successors? i ≠ none := by
      obtain ⟨j, ⟨next, hnext, -⟩, -⟩ := TransGen.head'_iff.mp hcycle
      rw [hnext]
      exact Option.some_ne_none next
    exact hnone i ((hstarts i).mpr hrow) i .refl hcycle

/-- In a wired graph the search shows a cycle or tells that there is none. -/
theorem cycle?_decides {g : ModuleGraph} (hw : g.Wired) :
    (∃ path, g.cycle? = .ok (some path) ∧ IsCycle g.Edge path) ∨
      (g.cycle? = .ok none ∧ Acyclic g.Edge) := by
  have hedge : g.digraph.Edge = g.Edge := by
    funext i j
    exact propext edge_digraph
  rw [← hedge]
  refine cycleIn_decides g.digraph g.sortedIds (fun i => ?_) fun i j hij => ?_
  · rw [mem_sortedIds, successors?_digraph, Ne, Option.map_eq_none_iff]
    unfold Live
    cases g.modules.find? i <;> simp
  · obtain ⟨n, hn⟩ := hw.live_of_edge (edge_digraph.mp hij)
    rw [successors?_digraph, hn]
    exact Option.some_ne_none _

/-! ## The view in which two modules are one -/

theorem renamed_eq_pair (a b i : Int) :
    (if (i == a || i == b) = true then a else i) = renamed a b i := by
  unfold renamed
  by_cases hb : i = b
  · simp [hb]
  · by_cases ha : i = a
    · simp [ha]
    · simp [ha, hb]

/-- The successors of a node of the view. -/
def viewRow (g : ModuleGraph) (a b : SchemaModule) (i : Int) : Option (List Int) :=
  if i = a.id then
    some ((a.dependsOn.union b.dependsOn).filter fun j => !(j == a.id || j == b.id)).toList
  else
    (g.modules.find? i).map fun m =>
      (OrderedSet.ofList (m.dependsOn.toList.map (renamed a.id b.id))).toList

theorem contracted_eq_tabulate (g : ModuleGraph) (a b : SchemaModule) :
    g.contracted a b = Digraph.mk
      ((OrderedSet.ofList (g.modules.keys.map (renamed a.id b.id))).toList.filterMap fun j =>
        (g.viewRow a b j).map fun next => (j, next)) := by
  unfold contracted
  simp only [renamed_eq_pair]
  congr 2
  funext j
  unfold viewRow
  by_cases hj : j = a.id
  · rw [if_pos hj, if_pos hj]
    rfl
  · rw [if_neg hj, if_neg hj, Option.map_map]
    rfl

theorem successors?_contracted_eq_some {g : ModuleGraph} {a b : SchemaModule} {i : Int}
    {next : List Int} :
    (g.contracted a b).successors? i = some next ↔
      (∃ k, g.Live k ∧ renamed a.id b.id k = i) ∧ g.viewRow a b i = some next := by
  have hmem : i ∈ (OrderedSet.ofList (g.modules.keys.map (renamed a.id b.id))).toList ↔
      ∃ k, g.Live k ∧ renamed a.id b.id k = i := by
    rw [← OrderedSet.mem_def, OrderedSet.mem_ofList, List.mem_map]
    simp only [Registry.mem_keys, Live]
  rw [contracted_eq_tabulate, Digraph.successors?_tabulate, ← hmem]
  split
  · rename_i h
    simp only [h, true_and]
  · rename_i h
    simp only [h, false_and, reduceCtorEq]

/-- Where an edge of the view begins at the joined module. -/
theorem mem_viewRow_left {g : ModuleGraph} {a b : SchemaModule} {next : List Int} {y : Int}
    (hrow : g.viewRow a b a.id = some next) :
    y ∈ next ↔ (y ∈ a.dependsOn ∨ y ∈ b.dependsOn) ∧ y ≠ a.id ∧ y ≠ b.id := by
  unfold viewRow at hrow
  rw [if_pos rfl, Option.some.injEq] at hrow
  rw [← hrow, ← OrderedSet.mem_def, OrderedSet.mem_filter, OrderedSet.mem_union]
  simp

/-- Where an edge of the view begins at another module. -/
theorem mem_viewRow_other {g : ModuleGraph} {a b m : SchemaModule} {i : Int} {next : List Int}
    {y : Int} (hi : i ≠ a.id) (hm : g.modules.find? i = some m)
    (hrow : g.viewRow a b i = some next) :
    y ∈ next ↔ ∃ j ∈ m.dependsOn, renamed a.id b.id j = y := by
  unfold viewRow at hrow
  rw [if_neg hi, hm, Option.map_some, Option.some.injEq] at hrow
  rw [← hrow, ← OrderedSet.mem_def, OrderedSet.mem_ofList, List.mem_map]
  rfl

/-- The edges of the view are those of the graph with `b` renamed to `a`. -/
theorem edge_contracted {g : ModuleGraph} {a b : SchemaModule} (hab : a.id ≠ b.id)
    (ha : g.modules.find? a.id = some a) (hb : g.modules.find? b.id = some b) {x y : Int} :
    (g.contracted a b).Edge x y ↔ joined a.id b.id g.Edge x y := by
  constructor
  · rintro ⟨next, hnext, hy⟩
    obtain ⟨⟨k, -, hk⟩, hrow⟩ := successors?_contracted_eq_some.mp hnext
    -- The row of `a` has the dependencies of both; the other rows only rename `b`.
    by_cases hx : x = a.id
    · subst hx
      obtain ⟨hdep, hya, hyb⟩ := (mem_viewRow_left hrow).mp hy
      refine ⟨?_, fun h => hya h.2⟩
      rcases hdep with hdep | hdep
      · exact ⟨a.id, y, ⟨a, ha, hdep⟩, renamed_left _ _, renamed_of_ne hyb⟩
      · exact ⟨b.id, y, ⟨b, hb, hdep⟩, renamed_right _ _, renamed_of_ne hyb⟩
    · have hxb : x ≠ b.id := hk ▸ renamed_ne_right hab k
      obtain ⟨m, hm⟩ : g.Live x := by
        unfold viewRow at hrow
        rw [if_neg hx] at hrow
        obtain ⟨m, hm, -⟩ := Option.map_eq_some_iff.mp hrow
        exact ⟨m, hm⟩
      obtain ⟨j, hj, hjy⟩ := (mem_viewRow_other hx hm hrow).mp hy
      exact ⟨⟨x, j, ⟨m, hm, hj⟩, renamed_of_ne hxb, hjy⟩, fun h => hx h.1⟩
  · rintro ⟨⟨i, j, ⟨m, hm, hj⟩, hi, hjy⟩, hloop⟩
    have hnode : ∃ k, g.Live k ∧ renamed a.id b.id k = x := ⟨i, ⟨m, hm⟩, hi⟩
    by_cases hx : x = a.id
    · subst hx
      -- An edge from one of the pair, which does not lead to the other.
      have hya : y ≠ a.id := fun h => hloop ⟨rfl, h⟩
      have hyb : y ≠ b.id := hjy ▸ renamed_ne_right hab j
      have hjeq : j = y := eq_of_renamed_eq hjy hya
      obtain ⟨next, hrow⟩ : ∃ next, g.viewRow a b a.id = some next := ⟨_, if_pos rfl⟩
      refine ⟨next, successors?_contracted_eq_some.mpr ⟨hnode, hrow⟩, ?_⟩
      rw [mem_viewRow_left hrow, ← hjeq]
      refine ⟨?_, hjeq ▸ hya, hjeq ▸ hyb⟩
      rcases renamed_eq_left_iff.mp hi with rfl | rfl
      · rw [ha, Option.some.injEq] at hm
        exact Or.inl (hm ▸ hj)
      · rw [hb, Option.some.injEq] at hm
        exact Or.inr (hm ▸ hj)
    · have hix : i = x := eq_of_renamed_eq hi hx
      subst hix
      obtain ⟨next, hrow⟩ : ∃ next, g.viewRow a b i = some next := by
        unfold viewRow
        rw [if_neg hx, hm]
        exact ⟨_, rfl⟩
      refine ⟨next, successors?_contracted_eq_some.mpr ⟨hnode, hrow⟩, ?_⟩
      exact (mem_viewRow_other hx hm hrow).mpr ⟨j, hj, hjy⟩

/-- Every live module has its node in the view. -/
theorem successors?_contracted_ne_none {g : ModuleGraph} {a b : SchemaModule} {k : Int}
    (hk : g.Live k) : (g.contracted a b).successors? (renamed a.id b.id k) ≠ none := by
  obtain ⟨next, hrow⟩ : ∃ next, g.viewRow a b (renamed a.id b.id k) = some next := by
    unfold viewRow
    by_cases ha : renamed a.id b.id k = a.id
    · exact ⟨_, if_pos ha⟩
    · obtain ⟨m, hm⟩ := hk
      rw [if_neg ha, ← eq_of_renamed_eq rfl ha, hm]
      exact ⟨_, rfl⟩
  rw [successors?_contracted_eq_some.mpr ⟨⟨k, hk, rfl⟩, hrow⟩]
  exact Option.some_ne_none next

/-- In a wired graph the test for a cycle after a merger answers whether the
    joined graph has one. -/
theorem hasCycleWhenMerged_decides {g : ModuleGraph} (hw : g.Wired) {a b : SchemaModule}
    (hab : a.id ≠ b.id) (ha : g.modules.find? a.id = some a)
    (hb : g.modules.find? b.id = some b) :
    (g.hasCycleWhenMerged a b = .ok true ∧ ¬ Acyclic (joined a.id b.id g.Edge)) ∨
      (g.hasCycleWhenMerged a b = .ok false ∧ Acyclic (joined a.id b.id g.Edge)) := by
  have hedge : (g.contracted a b).Edge = joined a.id b.id g.Edge := by
    funext x y
    exact propext (edge_contracted hab ha hb)
  rw [← hedge]
  -- The search starts at every node of the view, and all it meets are nodes.
  have hdecides := cycleIn_decides (g.contracted a b)
    ((g.contracted a b).rows.map (·.1)) ?_ ?_
  · unfold hasCycleWhenMerged
    dsimp only
    rcases hdecides with ⟨path, hfound, hpath⟩ | ⟨hfound, hacyclic⟩
    · refine Or.inl ⟨?_, hpath.not_acyclic⟩
      rw [hfound]
      rfl
    · refine Or.inr ⟨?_, hacyclic⟩
      rw [hfound]
      rfl
  · intro i
    unfold Digraph.successors?
    rw [Ne, Option.map_eq_none_iff, List.find?_eq_none, List.mem_map]
    simp
  · intro i j hij
    rw [edge_contracted hab ha hb] at hij
    obtain ⟨⟨k, l, hkl, -, rfl⟩, -⟩ := hij
    exact successors?_contracted_ne_none (hw.live_of_edge hkl)

/-! ## A graph of two modules -/

/-- Two modules without types, the first of which depends on the second. -/
def linked (ns ns' : Label) : ModuleGraph where
  modules := ⟨[(1, { id := 1, ns, dependsOn := .ofList [2] }),
    (2, { id := 2, ns := ns', dependedOnBy := .ofList [1] })], by simp⟩
  nextId := 3

/-- The modules of `linked`. -/
theorem find?_linked {ns ns' : Label} {i : Int} {m : SchemaModule}
    (h : (linked ns ns').modules.find? i = some m) :
    (i = 1 ∧ m = { id := 1, ns, dependsOn := .ofList [2] }) ∨
      (i = 2 ∧ m = { id := 2, ns := ns', dependedOnBy := .ofList [1] }) := by
  rw [Registry.find?_eq_some_iff] at h
  simpa [linked] using h

theorem edge_linked_iff {ns ns' : Label} {i j : Int} :
    (linked ns ns').Edge i j ↔ i = 1 ∧ j = 2 := by
  constructor
  · rintro ⟨m, hm, hj⟩
    obtain ⟨rfl, rfl⟩ | ⟨rfl, rfl⟩ := find?_linked hm
    · exact ⟨rfl, by simpa using hj⟩
    · simp at hj
  · rintro ⟨rfl, rfl⟩
    exact ⟨_, rfl, by simp⟩

theorem consistent_linked {s : Schema} (ns ns' : Label) : Consistent s (linked ns ns') where
  keyed := by
    intro i m hm
    obtain ⟨rfl, rfl⟩ | ⟨rfl, rfl⟩ := find?_linked hm <;> rfl
  forth := by
    intro i m j hm hj
    obtain ⟨rfl, rfl⟩ := edge_linked_iff.mp ⟨m, hm, hj⟩
    exact ⟨_, rfl, by simp⟩
  back := by
    intro j n i hn hi
    obtain ⟨rfl, rfl⟩ | ⟨rfl, rfl⟩ := find?_linked hn
    · simp at hi
    · rw [OrderedSet.mem_ofList, List.mem_singleton] at hi
      subst hi
      exact ⟨_, rfl, by simp⟩
  loopless := by
    intro i hi
    obtain ⟨rfl, h⟩ := edge_linked_iff.mp hi
    cases h
  unremoved := by
    intro i m hm
    obtain ⟨rfl, rfl⟩ | ⟨rfl, rfl⟩ := find?_linked hm <;> rfl
  messages := by
    intro name i
    constructor
    · intro h
      cases h
    · rintro ⟨m, hm, hname⟩
      obtain ⟨rfl, rfl⟩ | ⟨rfl, rfl⟩ := find?_linked hm <;> simp at hname
  enums := by
    intro name i
    constructor
    · intro h
      cases h
    · rintro ⟨m, hm, hname⟩
      obtain ⟨rfl, rfl⟩ | ⟨rfl, rfl⟩ := find?_linked hm <;> simp at hname
  message_ns := by
    intro i m hm name hname
    obtain ⟨rfl, rfl⟩ | ⟨rfl, rfl⟩ := find?_linked hm <;> simp at hname
  enum_ns := by
    intro i m hm name hname
    obtain ⟨rfl, rfl⟩ | ⟨rfl, rfl⟩ := find?_linked hm <;> simp at hname

theorem acyclic_linked (ns ns' : Label) : Acyclic (linked ns ns').Edge := by
  intro i hi
  obtain ⟨j, hij, hji⟩ := TransGen.head'_iff.mp hi
  obtain ⟨rfl, rfl⟩ := edge_linked_iff.mp hij
  rcases hji.cases_head with h | ⟨k, hk, -⟩
  · cases h
  · cases (edge_linked_iff.mp hk).1

/-! ## A graph of three modules -/

/-- A module for each of three messages. The first two need each other, and the
    third needs the second. -/
def tangled : ModuleGraph where
  modules := ⟨[
    (1, { id := 1, ns := some "A", rootMessages := .ofList [some "P"],
          dependsOnRootMessages := .ofList [some "Q"], dependsOn := .ofList [2],
          dependedOnBy := .ofList [2] }),
    (2, { id := 2, ns := some "A", rootMessages := .ofList [some "Q"],
          dependsOnRootMessages := .ofList [some "P"], dependsOn := .ofList [1],
          dependedOnBy := .ofList [1, 3] }),
    (3, { id := 3, ns := some "A", rootMessages := .ofList [some "R"],
          dependsOnRootMessages := .ofList [some "Q"], dependsOn := .ofList [2] })], by simp⟩
  messageModule := ⟨[(some "P", 1), (some "Q", 2), (some "R", 3)], by decide⟩
  nextId := 4

/-- The modules of `tangled`. -/
theorem find?_tangled {i : Int} {m : SchemaModule} (h : tangled.modules.find? i = some m) :
    (i = 1 ∧ tangled.modules.find? 1 = some m) ∨ (i = 2 ∧ tangled.modules.find? 2 = some m) ∨
      (i = 3 ∧ tangled.modules.find? 3 = some m) := by
  have hi : i ∈ tangled.modules.keys := Registry.mem_keys.mpr ⟨m, h⟩
  have hkeys : tangled.modules.keys = [1, 2, 3] := rfl
  rw [hkeys] at hi
  simp only [List.mem_cons, List.not_mem_nil, or_false] at hi
  rcases hi with rfl | rfl | rfl
  · exact Or.inl ⟨rfl, h⟩
  · exact Or.inr (Or.inl ⟨rfl, h⟩)
  · exact Or.inr (Or.inr ⟨rfl, h⟩)

theorem edge_tangled_iff {i j : Int} :
    tangled.Edge i j ↔ (i = 1 ∧ j = 2) ∨ (i = 2 ∧ j = 1) ∨ (i = 3 ∧ j = 2) := by
  constructor
  · rintro ⟨m, hm, hj⟩
    rcases find?_tangled hm with ⟨rfl, h⟩ | ⟨rfl, h⟩ | ⟨rfl, h⟩ <;> cases h <;> simpa using hj
  · rintro (⟨rfl, rfl⟩ | ⟨rfl, rfl⟩ | ⟨rfl, rfl⟩) <;> exact ⟨_, rfl, by simp⟩

theorem simple_tangled : tangled.Simple where
  keyed := by
    intro i m hm
    rcases find?_tangled hm with ⟨rfl, h⟩ | ⟨rfl, h⟩ | ⟨rfl, h⟩ <;> cases h <;> rfl
  forth := by
    intro i m j hm hj
    rcases edge_tangled_iff.mp ⟨m, hm, hj⟩ with ⟨rfl, rfl⟩ | ⟨rfl, rfl⟩ | ⟨rfl, rfl⟩ <;>
      exact ⟨_, rfl, by simp⟩
  back := by
    intro j n i hn hi
    rcases find?_tangled hn with ⟨rfl, h⟩ | ⟨rfl, h⟩ | ⟨rfl, h⟩ <;> cases h <;> simp at hi
    · exact hi ▸ ⟨_, rfl, by simp⟩
    · rcases hi with rfl | rfl <;> exact ⟨_, rfl, by simp⟩
  loopless := by
    intro i hi
    have hends := edge_tangled_iff.mp hi
    omega

end ModuleGraph

end SchemaRecovery
