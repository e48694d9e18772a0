/-
  SchemaRecovery.Proofs.Merger

  Merging two modules is contraction. In a wired graph two different live
  modules of one namespace can always be merged (`merge_eq_ok`). Afterwards the
  edges are those of the relation `joined` and both ends of each still agree
  (`edge_afterMerge`, `wired_afterMerge`), and a simple or consistent graph stays
  so (`simple_afterMerge`, `consistent_afterMerge`). The test that looks for a
  cycle in a view of the graph, without merging, finds the same
  (`hasCycleWhenMerged_iff_cycle_after`).
-/
import SchemaRecovery.Proofs.Merging

namespace SchemaRecovery.ModuleGraph

open Relation

/-! ## The graph after a merger -/

/-- The graph in which the live module `m` has taken over `other`. -/
def afterMerge (g : ModuleGraph) (m other : SchemaModule) : ModuleGraph :=
  let modules := (g.modules.erase other.id).mapValues fun id x =>
    if id = m.id then x else x.redirect other m.id
  (({ g with modules }).enterRoots (m.takeOver other)).add (m.takeOver other)

section Merger

variable {g : ModuleGraph} {m other : SchemaModule}

/-- A merger of live modules makes the module live that took over the other, also
    when it fails on its way. -/
theorem mergeLive_eq (hm : g.modules.find? m.id = some m)
    (hother : g.modules.find? other.id = some other) :
    mergeLive m.id other.id g = match Merging.steps ⟨g, m, other⟩ with
      | .ok () x => .ok () (x.graph.add x.merged)
      | .error e x => .error e (x.graph.add x.merged) := by
  unfold mergeLive
  rewrite [module_eq_ok_iff.mpr hm, module_eq_ok_iff.mpr hother]
  rfl

theorem merge_eq_absorb (hm : g.modules.find? m.id = some m)
    (hother : g.modules.find? other.id = some other) :
    g.merge m.id other.id = (g.absorb m other).map fun r => r.graph.add r.merged := by
  unfold merge absorb
  rw [mergeLive_eq hm hother]
  cases Merging.steps ⟨g, m, other⟩ <;> rfl

/-- A merger that was made is one of two live modules. -/
theorem exists_of_merge {a b : Int} {g' : ModuleGraph} (h : g.merge a b = .ok g') :
    (∃ m, g.modules.find? a = some m) ∧ ∃ other, g.modules.find? b = some other := by
  unfold merge mergeLive at h
  cases ha : g.module a with
  | error e =>
      rw [ha] at h
      cases h
  | ok m =>
      cases hb : g.module b with
      | error e =>
          rw [ha, hb] at h
          cases h
      | ok other => exact ⟨⟨m, module_eq_ok_iff.mp ha⟩, other, module_eq_ok_iff.mp hb⟩

/-- A live module of the same namespace can be taken over by a different
    module. -/
theorem absorb_eq_ok (hw : g.Wired) (hother : g.modules.find? other.id = some other)
    (hne : m.id ≠ other.id) (hns : m.ns = other.ns) :
    g.absorb m other = .ok
      { graph := ({ g with modules := (g.modules.erase other.id).mapValues fun id x =>
          if id = m.id then x else x.redirect other m.id }).enterRoots (m.takeOver other)
        merged := m.takeOver other
        retired := other.retired m.id } := by
  unfold absorb
  rw [Merging.steps_ok hw hother hne hns]

/-- Two different live modules of one namespace can be merged. -/
theorem merge_eq_ok (hw : g.Wired) (hm : g.modules.find? m.id = some m)
    (hother : g.modules.find? other.id = some other) (hne : m.id ≠ other.id)
    (hns : m.ns = other.ns) : g.merge m.id other.id = .ok (g.afterMerge m other) := by
  rw [merge_eq_absorb hm hother, absorb_eq_ok hw hother hne hns]
  rfl

/-- What stands under each id after a merger. -/
theorem find?_afterMerge (hne : m.id ≠ other.id) (i : Int) :
    (g.afterMerge m other).modules.find? i =
      if i = other.id then none
      else if i = m.id then some (m.takeOver other)
      else (g.modules.find? i).map (·.redirect other m.id) := by
  show (((g.modules.erase other.id).mapValues _).insert m.id (m.takeOver other)).find? i = _
  rw [Registry.find?_insert, Registry.find?_mapValues, Registry.find?_erase]
  by_cases him : i = m.id
  · rw [if_pos him, if_neg (him ▸ hne), if_pos him]
  · by_cases hio : i = other.id
    · rw [if_neg him, if_pos hio, if_pos hio]
      rfl
    · rw [if_neg him, if_neg hio, if_neg hio, if_neg him]
      cases g.modules.find? i with
      | none => rfl
      | some x => rw [Option.map_some, if_neg him, Option.map_some]

theorem find?_afterMerge_left (hne : m.id ≠ other.id) :
    (g.afterMerge m other).modules.find? m.id = some (m.takeOver other) := by
  rw [find?_afterMerge hne, if_neg hne, if_pos rfl]

theorem find?_afterMerge_right (hne : m.id ≠ other.id) :
    (g.afterMerge m other).modules.find? other.id = none := by
  rw [find?_afterMerge hne, if_pos rfl]

theorem find?_afterMerge_of_ne (hne : m.id ≠ other.id) {i : Int} (him : i ≠ m.id)
    (hio : i ≠ other.id) :
    (g.afterMerge m other).modules.find? i =
      (g.modules.find? i).map (·.redirect other m.id) := by
  rw [find?_afterMerge hne, if_neg hio, if_neg him]

/-- A module after a merger is the merged one, or a third one with its edges
    redirected. -/
theorem afterMerge_cases (hne : m.id ≠ other.id) {i : Int} {n : SchemaModule}
    (hn : (g.afterMerge m other).modules.find? i = some n) :
    (i = m.id ∧ n = m.takeOver other) ∨
      (i ≠ m.id ∧ i ≠ other.id ∧
        ∃ x, g.modules.find? i = some x ∧ n = x.redirect other m.id) := by
  by_cases hio : i = other.id
  · rw [hio, find?_afterMerge_right hne] at hn
    cases hn
  · by_cases him : i = m.id
    · rw [him, find?_afterMerge_left hne, Option.some.injEq] at hn
      exact Or.inl ⟨him, hn.symm⟩
    · rw [find?_afterMerge_of_ne hne him hio] at hn
      obtain ⟨x, hx, hxn⟩ := Option.map_eq_some_iff.mp hn
      exact Or.inr ⟨him, hio, x, hx, hxn.symm⟩

/-- The ids that are live after a merger. -/
theorem live_afterMerge_iff (hm : g.modules.find? m.id = some m) (hne : m.id ≠ other.id)
    {i : Int} : (g.afterMerge m other).Live i ↔ g.Live i ∧ i ≠ other.id := by
  unfold Live
  by_cases hio : i = other.id
  · rw [hio, find?_afterMerge_right hne]
    simp
  · by_cases him : i = m.id
    · rw [him, find?_afterMerge_left hne, hm]
      simp [hne]
    · rw [find?_afterMerge_of_ne hne him hio]
      simp [hio]

/-- A merger leaves one module fewer. -/
theorem size_afterMerge (hm : g.modules.find? m.id = some m)
    (hother : g.modules.find? other.id = some other) (hne : m.id ≠ other.id) :
    (g.afterMerge m other).size + 1 = g.size := by
  have hleft : m.id ∈ ((g.modules.erase other.id).mapValues fun id x =>
      if id = m.id then x else x.redirect other m.id).keys := by
    rw [Registry.keys_mapValues, Registry.keys_erase, List.mem_filter, Registry.mem_keys]
    exact ⟨⟨m, hm⟩, decide_eq_true hne⟩
  -- The merged module is stored under an id that is there already.
  have hkeys : (g.afterMerge m other).modules.keys =
      g.modules.keys.filter fun i => decide (i ≠ other.id) := by
    show (((g.modules.erase other.id).mapValues _).insert m.id (m.takeOver other)).keys = _
    rw [Registry.keys_insert_of_mem hleft, Registry.keys_mapValues, Registry.keys_erase]
  have hmem : other.id ∈ g.modules.keys := Registry.mem_keys.mpr ⟨other, hother⟩
  have hperm := List.perm_cons_erase hmem
  have hnodup : g.modules.keys.Nodup := g.modules.keys_nodup
  unfold size
  rw [← Registry.length_keys, ← Registry.length_keys, hkeys, hperm.length_eq, List.length_cons,
    hnodup.erase_eq_filter]
  congr 3
  funext i
  rw [bne, beq_eq_decide, decide_not]

/-! ## Edges after a merger -/

/-- The relation that one of the two edge sets of the modules gives. -/
def Via (sel : SchemaModule → OrderedSet Int) (g : ModuleGraph) (i j : Int) : Prop :=
  ∃ m, g.modules.find? i = some m ∧ j ∈ sel m

/-- Redirecting the edges with `b` to `a` renames `b` to `a`. -/
theorem mem_redirected {edges : OrderedSet Int} {a b y : Int} {p : Prop} [Decidable p]
    (hp : p ↔ b ∈ edges) :
    y ∈ (if p then (edges.erase b).insert a else edges) ↔ ∃ j ∈ edges, renamed a b j = y := by
  -- Only `b` gets a new name, and it is exchanged exactly if it is there.
  constructor
  · intro hy
    by_cases hb : b ∈ edges
    · rw [if_pos (hp.mpr hb), OrderedSet.mem_insert, OrderedSet.mem_erase] at hy
      rcases hy with rfl | ⟨hy, hyb⟩
      · exact ⟨b, hb, renamed_right _ _⟩
      · exact ⟨y, hy, renamed_of_ne hyb⟩
    · rw [if_neg (hp.not.mpr hb)] at hy
      exact ⟨y, hy, renamed_of_ne fun h => hb (h ▸ hy)⟩
  · rintro ⟨j, hj, rfl⟩
    by_cases hb : b ∈ edges
    · rw [if_pos (hp.mpr hb), OrderedSet.mem_insert, OrderedSet.mem_erase]
      by_cases hjb : j = b
      · exact Or.inl (hjb ▸ renamed_right a b)
      · rw [renamed_of_ne hjb]
        exact Or.inr ⟨hj, hjb⟩
    · have hjb : j ≠ b := fun h => hb (h ▸ hj)
      rw [if_neg (hp.not.mpr hb), renamed_of_ne hjb]
      exact hj

/-- A merger joins the two modules in the relation of an edge set, if it takes
    the set over and redirects it in third modules. -/
theorem via_afterMerge (sel : SchemaModule → OrderedSet Int)
    (hm : g.modules.find? m.id = some m) (hother : g.modules.find? other.id = some other)
    (hne : m.id ≠ other.id)
    (htake : ∀ y, y ∈ sel (m.takeOver other) ↔
      (y ∈ sel m ∨ y ∈ sel other) ∧ y ≠ m.id ∧ y ≠ other.id)
    (hredirect : ∀ i x, g.modules.find? i = some x → ∀ y,
      y ∈ sel (x.redirect other m.id) ↔ ∃ j ∈ sel x, renamed m.id other.id j = y) {x y : Int} :
    Via sel (g.afterMerge m other) x y ↔ joined m.id other.id (Via sel g) x y := by
  -- Edges at the merged module come from either of the two, all others are renamed.
  constructor
  · rintro ⟨n, hn, hy⟩
    obtain ⟨rfl, rfl⟩ | ⟨hxm, hxo, z, hz, rfl⟩ := afterMerge_cases hne hn
    · rw [htake] at hy
      obtain ⟨hdep, hya, hyb⟩ := hy
      refine ⟨?_, fun h => hya h.2⟩
      rcases hdep with hdep | hdep
      · exact ⟨m.id, y, ⟨m, hm, hdep⟩, renamed_left _ _, renamed_of_ne hyb⟩
      · exact ⟨other.id, y, ⟨other, hother, hdep⟩, renamed_right _ _, renamed_of_ne hyb⟩
    · obtain ⟨j, hj, hjy⟩ := (hredirect x z hz y).mp hy
      exact ⟨⟨x, j, ⟨z, hz, hj⟩, renamed_of_ne hxo, hjy⟩, fun h => hxm h.1⟩
  · rintro ⟨⟨i, j, ⟨z, hz, hj⟩, hi, hjy⟩, hloop⟩
    by_cases hxm : x = m.id
    · subst hxm
      -- The edge starts at one of the two and does not end there.
      have hya : y ≠ m.id := fun h => hloop ⟨rfl, h⟩
      have hyb : y ≠ other.id := hjy ▸ renamed_ne_right hne j
      have hjeq : j = y := eq_of_renamed_eq hjy hya
      refine ⟨m.takeOver other, find?_afterMerge_left hne, ?_⟩
      rw [htake, ← hjeq]
      refine ⟨?_, hjeq ▸ hya, hjeq ▸ hyb⟩
      rcases renamed_eq_left_iff.mp hi with rfl | rfl
      · rw [hm, Option.some.injEq] at hz
        exact Or.inl (hz ▸ hj)
      · rw [hother, Option.some.injEq] at hz
        exact Or.inr (hz ▸ hj)
    · have hxo : x ≠ other.id := hi ▸ renamed_ne_right hne i
      have hix : i = x := eq_of_renamed_eq hi hxm
      subst hix
      refine ⟨z.redirect other m.id, ?_, (hredirect i z hz y).mpr ⟨j, hj, hjy⟩⟩
      rw [find?_afterMerge_of_ne hne hxm hxo, hz]
      rfl

/-- If two edge sets give converse relations, a module is in the one set of
    `other` exactly if `other` is in its other set. -/
theorem mem_converse_iff {sel sel' : SchemaModule → OrderedSet Int}
    (hforth : ∀ {i m j}, g.modules.find? i = some m → j ∈ sel m →
      ∃ n, g.modules.find? j = some n ∧ i ∈ sel' n)
    (hback : ∀ {j n i}, g.modules.find? j = some n → i ∈ sel' n →
      ∃ m, g.modules.find? i = some m ∧ j ∈ sel m)
    (hother : g.modules.find? other.id = some other) {i : Int} {x : SchemaModule}
    (hx : g.modules.find? i = some x) : i ∈ sel' other ↔ other.id ∈ sel x := by
  constructor
  · intro hi
    obtain ⟨x', hx', hdep⟩ := hback hother hi
    rw [hx, Option.some.injEq] at hx'
    exact hx' ▸ hdep
  · intro hdep
    obtain ⟨o, ho, hi⟩ := hforth hx hdep
    rw [hother, Option.some.injEq] at ho
    exact ho ▸ hi

/-- The edges after a merger are the old ones, the two modules joined. -/
theorem edge_afterMerge (hw : g.Wired) (hm : g.modules.find? m.id = some m)
    (hother : g.modules.find? other.id = some other) (hne : m.id ≠ other.id) {x y : Int} :
    (g.afterMerge m other).Edge x y ↔ joined m.id other.id g.Edge x y := by
  refine via_afterMerge (·.dependsOn) hm hother hne (fun y => ?_) fun i x hx y => ?_
  · show y ∈ ((m.dependsOn.union other.dependsOn).erase m.id).erase other.id ↔ _
    rw [OrderedSet.mem_erase, OrderedSet.mem_erase, OrderedSet.mem_union, and_assoc]
  · refine mem_redirected ?_
    rw [hw.keyed hx]
    exact mem_converse_iff hw.forth hw.back hother hx

/-- So are the edges read at their other ends. -/
theorem backEdge_afterMerge (hw : g.Wired) (hm : g.modules.find? m.id = some m)
    (hother : g.modules.find? other.id = some other) (hne : m.id ≠ other.id) {x y : Int} :
    Via (·.dependedOnBy) (g.afterMerge m other) x y ↔
      joined m.id other.id (Via (·.dependedOnBy) g) x y := by
  refine via_afterMerge (·.dependedOnBy) hm hother hne (fun y => ?_) fun i x hx y => ?_
  · show y ∈ ((m.dependedOnBy.union other.dependedOnBy).erase m.id).erase other.id ↔ _
    rw [OrderedSet.mem_erase, OrderedSet.mem_erase, OrderedSet.mem_union, and_assoc]
  · refine mem_redirected ?_
    rw [hw.keyed hx]
    exact mem_converse_iff hw.back hw.forth hother hx

/-- The two ends of the edges of a wired graph agree. -/
theorem Wired.backEdge_iff (hw : g.Wired) {i j : Int} :
    Via (·.dependedOnBy) g j i ↔ g.Edge i j := by
  constructor
  · rintro ⟨n, hn, hi⟩
    exact hw.back hn hi
  · rintro ⟨m, hm, hj⟩
    exact hw.forth hm hj

/-- Modules still stand under their ids after a merger. -/
theorem keyed_afterMerge (hw : g.Wired) (hne : m.id ≠ other.id) {i : Int} {n : SchemaModule}
    (hn : (g.afterMerge m other).modules.find? i = some n) : n.id = i := by
  obtain ⟨rfl, rfl⟩ | ⟨-, -, x, hx, rfl⟩ := afterMerge_cases hne hn
  · rfl
  · show x.id = i
    exact hw.keyed hx

theorem wired_afterMerge (hw : g.Wired) (hm : g.modules.find? m.id = some m)
    (hother : g.modules.find? other.id = some other) (hne : m.id ≠ other.id) :
    (g.afterMerge m other).Wired := by
  -- Both relations are joined in the same way, so they stay converse.
  have hconverse : ∀ {i j}, (g.afterMerge m other).Edge i j ↔
      Via (·.dependedOnBy) (g.afterMerge m other) j i := by
    intro i j
    rw [edge_afterMerge hw hm hother hne, backEdge_afterMerge hw hm hother hne]
    unfold joined
    refine and_congr ⟨?_, ?_⟩ (not_congr and_comm)
    · rintro ⟨k, l, hkl, hk, hl⟩
      exact ⟨l, k, hw.backEdge_iff.mpr hkl, hl, hk⟩
    · rintro ⟨l, k, hlk, hl, hk⟩
      exact ⟨k, l, hw.backEdge_iff.mp hlk, hk, hl⟩
  exact ⟨keyed_afterMerge hw hne, fun hi hj => hconverse.mp ⟨_, hi, hj⟩,
    fun hj hi => hconverse.mpr ⟨_, hj, hi⟩⟩

/-- A merger makes no loop. -/
theorem simple_afterMerge (hg : g.Simple) (hm : g.modules.find? m.id = some m)
    (hother : g.modules.find? other.id = some other) (hne : m.id ≠ other.id) :
    (g.afterMerge m other).Simple := by
  refine ⟨wired_afterMerge hg.toWired hm hother hne, fun i hi => ?_⟩
  -- Without loops the joined graph is a quotient, which has none.
  rw [edge_afterMerge hg.toWired hm hother hne, joined_iff_quotientBy hg.loopless] at hi
  exact hi.1 rfl

/-! ## Root types after a merger -/

/-- A look-up stays exact if the root types of the merged module are entered
    and all others keep theirs. -/
theorem ownersExact_afterMerge {roots : SchemaModule → OrderedSet Label}
    {owners owners' : Registry Label Int} (hexact : g.OwnersExact roots owners)
    (hm : g.modules.find? m.id = some m) (hother : g.modules.find? other.id = some other)
    (hne : m.id ≠ other.id)
    (htake : ∀ name, name ∈ roots (m.takeOver other) ↔ name ∈ roots m ∨ name ∈ roots other)
    (hredirect : ∀ x, roots (x.redirect other m.id) = roots x)
    (howners : ∀ name, owners'.find? name =
      if name ∈ roots (m.takeOver other) then some m.id else owners.find? name) :
    (g.afterMerge m other).OwnersExact roots owners' := by
  intro name i
  -- By exactness the merged types are those whose owner is one of the two.
  have hmerged : name ∈ roots (m.takeOver other) ↔
      owners.find? name = some m.id ∨ owners.find? name = some other.id := by
    rw [htake, hexact, hexact, hm, hother]
    simp
  rw [howners]
  by_cases hin : name ∈ roots (m.takeOver other)
  · rw [if_pos hin, Option.some.injEq]
    constructor
    · rintro rfl
      exact ⟨m.takeOver other, find?_afterMerge_left hne, hin⟩
    · rintro ⟨n, hn, hname⟩
      obtain ⟨rfl, -⟩ | ⟨him, hio, x, hx, rfl⟩ := afterMerge_cases hne hn
      · rfl
      · -- A third module cannot hold a type of the two merged ones.
        have hi := (hexact name i).mpr ⟨x, hx, hredirect x ▸ hname⟩
        rw [hi, Option.some.injEq, Option.some.injEq] at hmerged
        rcases hmerged.mp hin with h | h
        · exact absurd h him
        · exact absurd h hio
  · rw [if_neg hin, hexact]
    -- A type of neither keeps its owner, which is a third module.
    have hnot := hmerged.not.mp hin
    rw [not_or] at hnot
    constructor
    · rintro ⟨x, hx, hname⟩
      have hi := (hexact name i).mpr ⟨x, hx, hname⟩
      have him : i ≠ m.id := fun h => hnot.1 (h ▸ hi)
      have hio : i ≠ other.id := fun h => hnot.2 (h ▸ hi)
      refine ⟨x.redirect other m.id, ?_, (hredirect x).symm ▸ hname⟩
      rw [find?_afterMerge_of_ne hne him hio, hx]
      rfl
    · rintro ⟨n, hn, hname⟩
      obtain ⟨rfl, rfl⟩ | ⟨-, -, x, hx, rfl⟩ := afterMerge_cases hne hn
      · exact absurd hname hin
      · exact ⟨x, hx, hredirect x ▸ hname⟩

/-- A property of modules holds of all live ones after a merger, if merging
    and redirecting keep it. -/
theorem forall_afterMerge {P : SchemaModule → Prop} (hne : m.id ≠ other.id)
    (hall : ∀ {i x}, g.modules.find? i = some x → P x) (hmerged : P (m.takeOver other))
    (hthird : ∀ x, P x → P (x.redirect other m.id)) {i : Int}
    {n : SchemaModule} (hn : (g.afterMerge m other).modules.find? i = some n) : P n := by
  obtain ⟨-, rfl⟩ | ⟨-, -, x, hx, rfl⟩ := afterMerge_cases hne hn
  · exact hmerged
  · exact hthird x (hall hx)

/-- Root types stay where their namespace allows it, if the two modules agree
    on theirs. -/
theorem placed_afterMerge {roots : SchemaModule → OrderedSet Label} {P : Label → Label → Prop}
    (hall : ∀ {i x}, g.modules.find? i = some x → ∀ name ∈ roots x, P name x.ns)
    (hm : g.modules.find? m.id = some m) (hother : g.modules.find? other.id = some other)
    (hne : m.id ≠ other.id) (hns : m.ns = other.ns)
    (htake : ∀ name, name ∈ roots (m.takeOver other) ↔ name ∈ roots m ∨ name ∈ roots other)
    (hredirect : ∀ x, roots (x.redirect other m.id) = roots x) {i : Int} {n : SchemaModule}
    (hn : (g.afterMerge m other).modules.find? i = some n) : ∀ name ∈ roots n, P name n.ns := by
  refine forall_afterMerge (P := fun n => ∀ name ∈ roots n, P name n.ns) hne hall ?_
    (fun x hx => by rw [hredirect]; exact hx) hn
  intro name hname
  rcases (htake name).mp hname with h | h
  · exact hall hm name h
  · rw [show (m.takeOver other).ns = other.ns from hns]
    exact hall hother name h

theorem messages_afterMerge (hmessages : g.OwnersExact (·.rootMessages) g.messageModule)
    (hm : g.modules.find? m.id = some m) (hother : g.modules.find? other.id = some other)
    (hne : m.id ≠ other.id) :
    (g.afterMerge m other).OwnersExact (·.rootMessages) (g.afterMerge m other).messageModule :=
  ownersExact_afterMerge hmessages hm hother hne (fun _ => OrderedSet.mem_union) (fun _ => rfl)
    fun _ => Registry.find?_foldl_insert _ _ _ _

theorem enums_afterMerge (henums : g.OwnersExact (·.rootEnums) g.enumModule)
    (hm : g.modules.find? m.id = some m) (hother : g.modules.find? other.id = some other)
    (hne : m.id ≠ other.id) :
    (g.afterMerge m other).OwnersExact (·.rootEnums) (g.afterMerge m other).enumModule :=
  ownersExact_afterMerge henums hm hother hne (fun _ => OrderedSet.mem_union) (fun _ => rfl)
    fun _ => Registry.find?_foldl_insert _ _ _ _

/-- A consistent graph is consistent after a merger. -/
theorem consistent_afterMerge {s : Schema} (hg : Consistent s g)
    (hm : g.modules.find? m.id = some m) (hother : g.modules.find? other.id = some other)
    (hne : m.id ≠ other.id) (hns : m.ns = other.ns) : Consistent s (g.afterMerge m other) where
  toWired := wired_afterMerge hg.toWired hm hother hne
  loopless := (simple_afterMerge hg.simple hm hother hne).loopless
  unremoved := forall_afterMerge (P := (·.removed = false)) hne hg.unremoved
    (show m.removed = false from hg.unremoved hm) fun _ hx => hx
  messages := messages_afterMerge hg.messages hm hother hne
  enums := enums_afterMerge hg.enums hm hother hne
  message_ns := placed_afterMerge
    (P := fun name ns => ∃ t, s.messages.find? name = some t ∧ t.ns = ns)
    hg.message_ns hm hother hne hns (fun _ => OrderedSet.mem_union) fun _ => rfl
  enum_ns := placed_afterMerge (P := fun name ns => ∃ t, s.enums.find? name = some t ∧ t.ns = ns)
    hg.enum_ns hm hother hne hns (fun _ => OrderedSet.mem_union) fun _ => rfl

/-! ## The test before a merger -/

/-- The test whether a merger would leave a cycle answers what the search in
    the merged graph answers. The graph may have cycles and loops already. -/
theorem hasCycleWhenMerged_iff_cycle_after (hw : g.Wired) (hm : g.modules.find? m.id = some m)
    (hother : g.modules.find? other.id = some other) (hne : m.id ≠ other.id)
    (hns : m.ns = other.ns) :
    ∃ g' verdict found, g.merge m.id other.id = .ok g' ∧
      g.hasCycleWhenMerged m other = .ok verdict ∧ g'.cycle? = .ok found ∧
      (verdict = true ↔ found.isSome = true) := by
  -- The view that the test searches has the edges of the merged graph.
  have hedge : (g.afterMerge m other).Edge = joined m.id other.id g.Edge := by
    funext x y
    exact propext (edge_afterMerge hw hm hother hne)
  have hcheck := hasCycleWhenMerged_decides hw hne hm hother
  have hsearch := cycle?_decides (wired_afterMerge hw hm hother hne)
  rw [hedge] at hsearch
  refine ⟨g.afterMerge m other, ?_⟩
  rcases hcheck with ⟨hverdict, hcyclic⟩ | ⟨hverdict, hacyclic⟩
  · rcases hsearch with ⟨path, hfound, -⟩ | ⟨-, hacyclic⟩
    · exact ⟨true, some path, merge_eq_ok hw hm hother hne hns, hverdict, hfound, by simp⟩
    · exact absurd hacyclic hcyclic
  · rcases hsearch with ⟨path, -, hpath⟩ | ⟨hfound, -⟩
    · exact absurd hacyclic hpath.not_acyclic
    · exact ⟨false, none, merge_eq_ok hw hm hother hne hns, hverdict, hfound, by simp⟩

end Merger

theorem hasCycleWhenMerged_iff_cycle_after_linked :
    ∃ m n g' verdict found, (linked (some "A") (some "A")).merge 1 2 = .ok g' ∧
      (linked (some "A") (some "A")).module 1 = .ok m ∧
      (linked (some "A") (some "A")).module 2 = .ok n ∧
      (linked (some "A") (some "A")).hasCycleWhenMerged m n = .ok verdict ∧
      g'.cycle? = .ok found ∧ (verdict = true ↔ found.isSome = true) := by
  have hw := (consistent_linked (s := {}) (some "A") (some "A")).toWired
  obtain ⟨m, hm⟩ : (linked (some "A") (some "A")).Live 1 := ⟨_, rfl⟩
  obtain ⟨n, hn⟩ : (linked (some "A") (some "A")).Live 2 := ⟨_, rfl⟩
  have hns : m.ns = n.ns := by
    cases hm
    cases hn
    rfl
  have hmid := hw.keyed hm
  have hnid := hw.keyed hn
  obtain ⟨g', verdict, found, hmerge, hrest⟩ :=
    hasCycleWhenMerged_iff_cycle_after hw (hmid.symm ▸ hm) (hnid.symm ▸ hn)
      (by rw [hmid, hnid]; decide) hns
  rw [hmid, hnid] at hmerge
  exact ⟨m, n, g', verdict, found, hmerge, module_eq_ok_iff.mpr hm, module_eq_ok_iff.mpr hn, hrest⟩

end SchemaRecovery.ModuleGraph
