/-
  SchemaRecovery.Proofs.Partition

  The first grouping of the types of a schema. It gives a consistent graph with
  one module for each root message and each root enum. A module has an edge to
  another exactly if a message below its root message depends on a type that the
  other holds or whose outermost message it holds (`partitioned_of_partition`).
  Mergers keep this (`Partitioned.quotient`).
-/
import SchemaRecovery.Proofs.Draft
import SchemaRecovery.Proofs.Merges

namespace SchemaRecovery.ModuleGraph

open Relation

variable {s : Schema}

/-! ## Edges -/

/-- The module that holds what is needed. -/
def Holds (g : ModuleGraph) : RootNeed → Int → Prop
  | .message name, i => g.messageModule.find? name = some i
  | .enum name, i => g.enumModule.find? name = some i

theorem Holds.unique {g : ModuleGraph} {x : RootNeed} {i j : Int} (hi : g.Holds x i)
    (hj : g.Holds x j) : i = j := by
  cases x with
  | message name => exact Option.some.inj (Eq.trans (Eq.symm hi) hj)
  | enum name => exact Option.some.inj (Eq.trans (Eq.symm hi) hj)

/-- The look-ups of a consistent graph send to a module what it holds. -/
theorem Consistent.holds_iff {g : ModuleGraph} (h : Consistent s g) (x : RootNeed) (i : Int) :
    g.Holds x i ↔ ∃ m, g.modules.find? i = some m ∧ m.Owns x := by
  cases x with
  | message name => exact h.messages name i
  | enum name => exact h.enums name i

theorem Holds.live {g : ModuleGraph} (hg : Consistent s g) {x : RootNeed} {i : Int}
    (h : g.Holds x i) : g.Live i := by
  obtain ⟨m, hm, -⟩ := (hg.holds_iff x i).mp h
  exact ⟨m, hm⟩

/-- If look-ups go along with the modules, a name has a module exactly if it had one. -/
theorem owned_iff_of_holds {g g' : ModuleGraph} {cls : Int → Int}
    (hholds : ∀ x k, g'.Holds x k ↔ ∃ i, g.Holds x i ∧ cls i = k) (x : RootNeed) :
    (∃ k, g'.Holds x k) ↔ ∃ i, g.Holds x i := by
  simp only [hholds]
  exact ⟨fun ⟨_, i, hi, _⟩ => ⟨i, hi⟩, fun ⟨i, hi⟩ => ⟨cls i, i, hi, rfl⟩⟩

/-- The second graph is the first with edges added, at both of their ends. -/
structure Wires (edges : Int × Int → Prop) (g g' : ModuleGraph) : Prop where
  messageModule : g'.messageModule = g.messageModule
  enumModule : g'.enumModule = g.enumModule
  nextId : g'.nextId = g.nextId
  unwired : ∀ i, (g'.modules.find? i).map (·.unwired) = (g.modules.find? i).map (·.unwired)
  dependsOn : ∀ {i m m'}, g.modules.find? i = some m → g'.modules.find? i = some m' →
    ∀ j, j ∈ m'.dependsOn ↔ j ∈ m.dependsOn ∨ edges (i, j)
  dependedOnBy : ∀ {j n n'}, g.modules.find? j = some n → g'.modules.find? j = some n' →
    ∀ i, i ∈ n'.dependedOnBy ↔ i ∈ n.dependedOnBy ∨ edges (i, j)
  ends : ∀ {i j}, edges (i, j) → i ≠ j ∧ g.Live i ∧ g.Live j

section Wires

variable {g g' g'' : ModuleGraph} {p q : Int × Int → Prop}

theorem Wires.nothing (g : ModuleGraph) : Wires (fun _ => False) g g where
  messageModule := rfl
  enumModule := rfl
  nextId := rfl
  unwired _ := rfl
  dependsOn hm hm' j := by
    rw [hm, Option.some.injEq] at hm'
    rw [hm', or_false]
  dependedOnBy hn hn' i := by
    rw [hn, Option.some.injEq] at hn'
    rw [hn', or_false]
  ends h := h.elim

theorem Wires.module (h : Wires p g g') {i : Int} {m' : SchemaModule}
    (hm' : g'.modules.find? i = some m') :
    ∃ m, g.modules.find? i = some m ∧ m'.unwired = m.unwired := by
  have hsame := h.unwired i
  rw [hm', Option.map_some, eq_comm] at hsame
  obtain ⟨m, hm, heq⟩ := Option.map_eq_some_iff.mp hsame
  exact ⟨m, hm, heq.symm⟩

theorem Wires.live_iff (h : Wires p g g') (i : Int) : g'.Live i ↔ g.Live i := by
  have hsame := congrArg Option.isSome (h.unwired i)
  rw [Option.isSome_map, Option.isSome_map, Bool.eq_iff_iff, Option.isSome_iff_exists,
    Option.isSome_iff_exists] at hsame
  exact hsame

theorem Wires.trans (h : Wires p g g') (h' : Wires q g' g'') :
    Wires (fun e => p e ∨ q e) g g'' where
  messageModule := h'.messageModule.trans h.messageModule
  enumModule := h'.enumModule.trans h.enumModule
  nextId := h'.nextId.trans h.nextId
  unwired i := (h'.unwired i).trans (h.unwired i)
  dependsOn hm hm'' j := by
    obtain ⟨m', hm', -⟩ := h'.module hm''
    rw [h'.dependsOn hm' hm'', h.dependsOn hm hm', or_assoc]
  dependedOnBy hn hn'' i := by
    obtain ⟨n', hn', -⟩ := h'.module hn''
    rw [h'.dependedOnBy hn' hn'', h.dependedOnBy hn hn', or_assoc]
  ends he := by
    rcases he with he | he
    · exact h.ends he
    · obtain ⟨hne, hi, hj⟩ := h'.ends he
      exact ⟨hne, (h.live_iff _).mp hi, (h.live_iff _).mp hj⟩

theorem Wires.congr (h : Wires p g g') (hpq : ∀ e, p e ↔ q e) : Wires q g g' := by
  rw [← funext fun e => propext (hpq e)]
  exact h

/-- The modules after an edge is added. -/
theorem addEdge_eq_ok {i j : Int} (hij : i ≠ j) (h : g.addEdge i j = .ok g') :
    g'.messageModule = g.messageModule ∧ g'.enumModule = g.enumModule ∧ g'.nextId = g.nextId ∧
      ∃ m n, g.modules.find? i = some m ∧ g.modules.find? j = some n ∧
        ∀ k, g'.modules.find? k =
          if k = j then some { n with dependedOnBy := n.dependedOnBy.insert i }
          else if k = i then some { m with dependsOn := m.dependsOn.insert j }
          else g.modules.find? k := by
  unfold addEdge modify at h
  obtain ⟨g₁, hg₁, h⟩ := bind_eq_ok.mp h
  obtain ⟨m, hm, hg₁⟩ := bind_eq_ok.mp hg₁
  obtain rfl := Except.ok.inj hg₁
  obtain ⟨n, hn, h⟩ := bind_eq_ok.mp h
  obtain rfl := Except.ok.inj h
  rw [module_eq_ok_iff] at hm hn
  dsimp only at hn
  rw [Registry.find?_insert, if_neg (Ne.symm hij)] at hn
  refine ⟨rfl, rfl, rfl, m, n, hm, hn, fun k => ?_⟩
  dsimp only
  rw [Registry.find?_insert, Registry.find?_insert]

theorem wires_of_addEdge {i j : Int} (hij : i ≠ j) (h : g.addEdge i j = .ok g') :
    Wires (· = (i, j)) g g' := by
  -- Two modules are changed: `i` at the start of the edge and `j` at its end.
  obtain ⟨hmessages, henums, hnext, m, n, hm, hn, hfind⟩ := addEdge_eq_ok hij h
  refine ⟨hmessages, henums, hnext, fun k => ?_, fun {k x x'} hx hx' l => ?_,
    fun {l x x'} hx hx' k => ?_, fun he => ?_⟩
  · rw [hfind]
    split
    · rename_i hk
      rw [hk, hn]
      rfl
    · split
      · rename_i hk
        rw [hk, hm]
        rfl
      · rfl
  · rw [hfind] at hx'
    split at hx'
    · rename_i hk
      rw [hk, hn, Option.some.injEq] at hx
      rw [← Option.some.inj hx', hx]
      simp [hk, Ne.symm hij]
    · split at hx'
      · rename_i hk
        rw [hk, hm, Option.some.injEq] at hx
        rw [← Option.some.inj hx', hx, OrderedSet.mem_insert]
        simp [hk, or_comm]
      · rename_i hkj hki
        rw [hx, Option.some.injEq] at hx'
        simp [hx', hki]
  · rw [hfind] at hx'
    split at hx'
    · rename_i hl
      rw [hl, hn, Option.some.injEq] at hx
      rw [← Option.some.inj hx', hx, OrderedSet.mem_insert]
      simp [hl, or_comm]
    · rename_i hlj
      split at hx'
      · rename_i hl
        rw [hl, hm, Option.some.injEq] at hx
        rw [← Option.some.inj hx', hx]
        simp [hlj]
      · rw [hx, Option.some.injEq] at hx'
        simp [hx', hlj]
  · obtain ⟨rfl, rfl⟩ := Prod.mk.inj he
    exact ⟨hij, ⟨m, hm⟩, n, hn⟩

end Wires

/-- The graph has the look-ups and the live modules of `base`, and its modules
    stand under their ids. -/
structure SameOwners (base g : ModuleGraph) : Prop where
  messageModule : g.messageModule = base.messageModule
  enumModule : g.enumModule = base.enumModule
  keyed : ∀ {i m}, g.modules.find? i = some m → m.id = i
  live : ∀ i, g.Live i ↔ base.Live i

theorem SameOwners.wires {base g g' : ModuleGraph} {p : Int × Int → Prop}
    (h : SameOwners base g) (hw : Wires p g g') : SameOwners base g' where
  messageModule := hw.messageModule.trans h.messageModule
  enumModule := hw.enumModule.trans h.enumModule
  keyed := by
    intro i m' hm'
    obtain ⟨m, hm, heq⟩ := hw.module hm'
    rw [SchemaModule.eq_of_unwired_eq SchemaModule.id heq fun _ => rfl]
    exact h.keyed hm
  live i := (hw.live_iff i).trans (h.live i)

/-- The edge from a module to the one that holds what it needs. -/
theorem wires_of_addNeed {base g g' : ModuleGraph} (h : SameOwners base g) {m other : SchemaModule}
    {i : Int} (hother : g.module i = .ok other) (hadd : addNeed m g other = .ok g') :
    Wires (· = (m.id, i)) g g' := by
  obtain rfl := h.keyed (module_eq_ok_iff.mp hother)
  unfold addNeed at hadd
  split at hadd
  · cases hadd
  · rename_i hne
    exact wires_of_addEdge (Ne.symm hne) hadd

theorem wires_of_messageNeed {base g g' : ModuleGraph} (h : SameOwners base g)
    {m : SchemaModule} {name : Label}
    (hadd : (do addNeed m g (← g.moduleForMessage name)) = .ok g') :
    Wires (fun e => e.1 = m.id ∧ base.Holds (.message name) e.2) g g' := by
  obtain ⟨other, hother, hadd⟩ := bind_eq_ok.mp hadd
  unfold moduleForMessage at hother
  split at hother
  · rename_i i hi
    rw [h.messageModule] at hi
    refine (wires_of_addNeed h hother hadd).congr fun e => ?_
    simp [Holds, hi, Prod.ext_iff, eq_comm]
  · cases hother

theorem wires_of_enumNeed {base g g' : ModuleGraph} (h : SameOwners base g)
    {m : SchemaModule} {name : Label}
    (hadd : (do addNeed m g (← g.moduleForEnum name)) = .ok g') :
    Wires (fun e => e.1 = m.id ∧ base.Holds (.enum name) e.2) g g' := by
  obtain ⟨other, hother, hadd⟩ := bind_eq_ok.mp hadd
  unfold moduleForEnum at hother
  split at hother
  · rename_i i hi
    rw [h.enumModule] at hi
    refine (wires_of_addNeed h hother hadd).congr fun e => ?_
    simp [Holds, hi, Prod.ext_iff, eq_comm]
  · cases hother

theorem wires_foldlM {base : ModuleGraph} {α : Type}
    {f : ModuleGraph → α → Except Failure ModuleGraph} {p : α → Int × Int → Prop}
    {l : List α} {g g' : ModuleGraph} (h : SameOwners base g) (hfold : l.foldlM f g = .ok g')
    (hstep : ∀ a g g', SameOwners base g → f g a = .ok g' → Wires (p a) g g') :
    Wires (fun e => ∃ a ∈ l, p a e) g g' :=
  (foldlM_adds Wires Wires.nothing Wires.trans (SameOwners base) h hfold
    fun a g g' hg hg' => ⟨hstep a g g' hg hg', hg.wires (hstep a g g' hg hg')⟩).1

/-- The edges of one module lead to the modules that hold what it needs. -/
theorem wires_of_addEdgesOf {base g g' : ModuleGraph} (h : SameOwners base g)
    {m : SchemaModule} (hadd : g.addEdgesOf m = .ok g') :
    Wires (fun e => e.1 = m.id ∧ ∃ x, m.Requires x ∧ base.Holds x e.2) g g' := by
  unfold addEdgesOf at hadd
  obtain ⟨messages, hmessages, hadd⟩ := bind_eq_ok.mp hadd
  obtain ⟨g₁, hg₁, hadd⟩ := bind_eq_ok.mp hadd
  obtain ⟨enums, henums, hadd⟩ := bind_eq_ok.mp hadd
  have hfirst := wires_foldlM h hg₁ fun _ _ _ hg hg' => wires_of_messageNeed hg hg'
  have hsecond := wires_foldlM (h.wires hfirst) hadd fun _ _ _ hg hg' => wires_of_enumNeed hg hg'
  refine (hfirst.trans hsecond).congr fun e => ?_
  have hmem : ∀ name, name ∈ messages ↔ m.Requires (.message name) :=
    fun name => (Label.perm_of_sortOn hmessages).mem_iff
  have hmem' : ∀ name, name ∈ enums ↔ m.Requires (.enum name) :=
    fun name => (Label.perm_of_sortOn henums).mem_iff
  constructor
  · rintro (⟨name, hname, hid, hholds⟩ | ⟨name, hname, hid, hholds⟩)
    · exact ⟨hid, .message name, (hmem name).mp hname, hholds⟩
    · exact ⟨hid, .enum name, (hmem' name).mp hname, hholds⟩
  · rintro ⟨hid, x, hx, hholds⟩
    cases x with
    | message name => exact Or.inl ⟨name, (hmem name).mpr hx, hid, hholds⟩
    | enum name => exact Or.inr ⟨name, (hmem' name).mpr hx, hid, hholds⟩

theorem wires_of_addAllEdges {g g' : ModuleGraph} (hkeyed : ∀ {i m},
    g.modules.find? i = some m → m.id = i) (hadd : g.addAllEdges = .ok g') :
    Wires (fun e => ∃ m, g.modules.find? e.1 = some m ∧ ∃ x, m.Requires x ∧ g.Holds x e.2)
      g g' := by
  unfold addAllEdges at hadd
  have hsame : SameOwners g g := ⟨rfl, rfl, hkeyed, fun _ => Iff.rfl⟩
  have hall := wires_foldlM hsame hadd fun _ _ _ hg hg' => wires_of_addEdgesOf hg hg'
  refine hall.congr fun e => ?_
  unfold sortedModules
  constructor
  · rintro ⟨m, hm, hid, hx⟩
    obtain ⟨i, -, hfind⟩ := List.mem_filterMap.mp hm
    rw [hid, hkeyed hfind]
    exact ⟨m, hfind, hx⟩
  · rintro ⟨m, hm, hx⟩
    refine ⟨m, List.mem_filterMap.mpr ⟨e.1, mem_sortedIds.mpr ⟨m, hm⟩, hm⟩, (hkeyed hm).symm, hx⟩

/-! ## The first grouping -/

/-- A consistent graph in which every root type has a module, every module has a
    root type, and modules have edges to the others that hold what the messages
    below their roots need. -/
structure Partitioned (s : Schema) (g : ModuleGraph) : Prop extends Consistent s g where
  rooted : ∀ {i m}, g.modules.find? i = some m → m.Rooted
  message_owned : ∀ n, (∃ i, g.messageModule.find? n = some i) ↔
    ∃ m, s.messages.find? n = some m ∧ m.isRoot = true
  enum_owned : ∀ n, (∃ i, g.enumModule.find? n = some i) ↔
    ∃ e, s.enums.find? n = some e ∧ e.isRoot = true
  edges : ∀ i j, g.Edge i j ↔ i ≠ j ∧ ∃ root, g.messageModule.find? root = some i ∧
    ∃ x, s.FamilyNeed root x ∧ g.Holds x j

/-- A drafted graph with its edges is consistent. -/
theorem Drafted.consistent {g g' : ModuleGraph} {p : Int × Int → Prop} (h : Drafted s g)
    (hw : Wires p g g') : Consistent s g' ∧ ∀ i j, g'.Edge i j ↔ p (i, j) := by
  -- There were no edges before, so the edges are those added.
  have hforth : ∀ {i m'}, g'.modules.find? i = some m' → ∀ j, j ∈ m'.dependsOn ↔ p (i, j) := by
    intro i m' hm' j
    obtain ⟨m, hm, -⟩ := hw.module hm'
    rw [hw.dependsOn hm hm' j, (h.edgeless hm).1]
    simp
  have hback : ∀ {j n'}, g'.modules.find? j = some n' → ∀ i, i ∈ n'.dependedOnBy ↔ p (i, j) := by
    intro j n' hn' i
    obtain ⟨n, hn, -⟩ := hw.module hn'
    rw [hw.dependedOnBy hn hn' i, (h.edgeless hn).2]
    simp
  have hedge : ∀ i j, g'.Edge i j ↔ p (i, j) := by
    intro i j
    constructor
    · rintro ⟨m', hm', hj⟩
      exact (hforth hm' j).mp hj
    · intro hp
      obtain ⟨-, hi, -⟩ := hw.ends hp
      obtain ⟨m', hm'⟩ := (hw.live_iff i).mpr hi
      exact ⟨m', hm', (hforth hm' j).mpr hp⟩
  -- Root types are not touched by edges.
  have howners : ∀ {roots : SchemaModule → OrderedSet Label} {owners : Registry Label Int},
      (∀ m : SchemaModule, roots m.unwired = roots m) → g.OwnersExact roots owners →
      g'.OwnersExact roots owners := by
    intro roots owners hroots hexact name i
    rw [hexact]
    constructor
    · rintro ⟨m, hm, hname⟩
      obtain ⟨m', hm'⟩ := (hw.live_iff i).mpr ⟨m, hm⟩
      obtain ⟨x, hx, heq⟩ := hw.module hm'
      rw [hm, Option.some.injEq] at hx
      refine ⟨m', hm', ?_⟩
      rw [← hroots m', heq, hroots, ← hx]
      exact hname
    · rintro ⟨m', hm', hname⟩
      obtain ⟨m, hm, heq⟩ := hw.module hm'
      refine ⟨m, hm, ?_⟩
      rw [← hroots m, ← heq, hroots]
      exact hname
  refine ⟨⟨⟨?_, ?_, ?_⟩, ?_, ?_, ?_, ?_, ?_, ?_⟩, hedge⟩
  · intro i m' hm'
    obtain ⟨m, hm, heq⟩ := hw.module hm'
    exact (SchemaModule.eq_of_unwired_eq _ heq fun _ => rfl).trans (h.keyed hm)
  · intro i m' j hm' hj
    have hp := (hforth hm' j).mp hj
    obtain ⟨n', hn'⟩ := (hw.live_iff j).mpr (hw.ends hp).2.2
    exact ⟨n', hn', (hback hn' i).mpr hp⟩
  · intro j n' i hn' hi
    have hp := (hback hn' i).mp hi
    obtain ⟨m', hm'⟩ := (hw.live_iff i).mpr (hw.ends hp).2.1
    exact ⟨m', hm', (hforth hm' j).mpr hp⟩
  · intro i hi
    exact (hw.ends ((hedge i i).mp hi)).1 rfl
  · intro i m' hm'
    obtain ⟨m, hm, heq⟩ := hw.module hm'
    exact (SchemaModule.eq_of_unwired_eq _ heq fun _ => rfl).trans (h.unremoved hm)
  · rw [hw.messageModule]
    exact howners (fun _ => rfl) h.messages
  · rw [hw.enumModule]
    exact howners (fun _ => rfl) h.enums
  · intro i m' hm' name hname
    obtain ⟨m, hm, heq⟩ := hw.module hm'
    rw [SchemaModule.eq_of_unwired_eq SchemaModule.rootMessages heq fun _ => rfl] at hname
    rw [SchemaModule.eq_of_unwired_eq SchemaModule.ns heq fun _ => rfl]
    exact h.message_ns hm name hname
  · intro i m' hm' name hname
    obtain ⟨m, hm, heq⟩ := hw.module hm'
    rw [SchemaModule.eq_of_unwired_eq SchemaModule.rootEnums heq fun _ => rfl] at hname
    rw [SchemaModule.eq_of_unwired_eq SchemaModule.ns heq fun _ => rfl]
    exact h.enum_ns hm name hname

/-- The first grouping is the modules of the root types with edges to the holders of
    what they need. -/
theorem drafted_of_partition (hs : s.WellNested) {g : ModuleGraph}
    (h : (partition s {}).outcome = .ok g) :
    ∃ draft, Drafted s draft ∧
      (∀ n, (∃ i, draft.messageModule.find? n = some i) ↔
        ∃ m, s.messages.find? n = some m ∧ m.isRoot = true) ∧
      (∀ n, (∃ i, draft.enumModule.find? n = some i) ↔
        ∃ e, s.enums.find? n = some e ∧ e.isRoot = true) ∧
      Wires (fun e => ∃ m, draft.modules.find? e.1 = some m ∧
        ∃ x, m.Requires x ∧ draft.Holds x e.2) draft g := by
  rw [outcome_partition] at h
  obtain ⟨g₁, hg₁, h⟩ := bind_eq_ok.mp h
  obtain ⟨draft, hdraft, hedges⟩ := bind_eq_ok.mp h
  obtain ⟨hdrafted, hmessages, henums⟩ := drafted_of_stages hs hg₁ hdraft
  exact ⟨draft, hdrafted, hmessages, henums, wires_of_addAllEdges hdrafted.keyed hedges⟩

/-- The first grouping of a schema whose types are in order. -/
theorem partitioned_of_partition (hs : s.WellNested) {g : ModuleGraph}
    (h : (partition s {}).outcome = .ok g) : Partitioned s g := by
  obtain ⟨draft, hdrafted, hmessages, henums, hw⟩ := drafted_of_partition hs h
  obtain ⟨hconsistent, hedges⟩ := hdrafted.consistent hw
  have hholds : ∀ x j, g.Holds x j ↔ draft.Holds x j := by
    intro x j
    unfold Holds
    rw [hw.messageModule, hw.enumModule]
  refine ⟨hconsistent, ?_, ?_, ?_, fun i j => ?_⟩
  · intro i m' hm'
    obtain ⟨m, hm, heq⟩ := hw.module hm'
    rw [SchemaModule.eq_of_unwired_eq SchemaModule.Rooted heq fun _ => rfl]
    exact (hdrafted.single hm).rooted
  · rw [hw.messageModule]
    exact hmessages
  · rw [hw.enumModule]
    exact henums
  · rw [hedges, hw.messageModule]
    simp only [hholds]
    constructor
    · rintro ⟨m, hm, x, hx, hj⟩
      obtain ⟨root, hroot, hneed⟩ := (hdrafted.needs hm x).mp hx
      have hne := (hw.ends ⟨m, hm, x, hx, hj⟩).1
      exact ⟨hne, root, (hdrafted.messages root i).mpr ⟨m, hm, hroot⟩, x, hneed, hj⟩
    · rintro ⟨-, root, hroot, x, hneed, hj⟩
      obtain ⟨m, hm, hmem⟩ := (hdrafted.messages root i).mp hroot
      exact ⟨m, hm, x, (hdrafted.needs hm x).mpr ⟨root, hmem, hneed⟩, hj⟩

/-- Each module of the first grouping has one root type. -/
theorem single_of_partition (hs : s.WellNested) {g : ModuleGraph}
    (h : (partition s {}).outcome = .ok g) {i : Int} {m : SchemaModule}
    (hm : g.modules.find? i = some m) : m.Single := by
  obtain ⟨draft, hdrafted, -, -, hw⟩ := drafted_of_partition hs h
  obtain ⟨m', hm', heq⟩ := hw.module hm
  rw [SchemaModule.eq_of_unwired_eq SchemaModule.Single heq fun _ => rfl]
  exact hdrafted.single hm'

/-! ## After mergers -/

/-- A root type goes to the class of its module. -/
theorem IsQuotient.find?_owners {roots : SchemaModule → OrderedSet Label} {g g' : ModuleGraph}
    {owners owners' : Registry Label Int} {cls : Int → Int} (hquot : IsQuotient g g' cls)
    (hexact : g.OwnersExact roots owners) (hexact' : g'.OwnersExact roots owners')
    (hroots : ∀ {k m'}, g'.modules.find? k = some m' → ∀ name, name ∈ roots m' ↔
      ∃ i m, g.modules.find? i = some m ∧ cls i = k ∧ name ∈ roots m) (name : Label) (k : Int) :
    owners'.find? name = some k ↔ ∃ i, owners.find? name = some i ∧ cls i = k := by
  rw [hexact']
  constructor
  · rintro ⟨m', hm', hname⟩
    obtain ⟨i, m, hm, hi, hroot⟩ := (hroots hm' name).mp hname
    exact ⟨i, (hexact name i).mpr ⟨m, hm, hroot⟩, hi⟩
  · rintro ⟨i, hi, rfl⟩
    obtain ⟨m, hm, hroot⟩ := (hexact name i).mp hi
    obtain ⟨m', hm'⟩ := hquot.live ⟨m, hm⟩
    exact ⟨m', hm', (hroots hm' name).mpr ⟨i, m, hm, rfl, hroot⟩⟩

theorem IsQuotient.holds_iff {g g' : ModuleGraph} {cls : Int → Int} (hquot : IsQuotient g g' cls)
    (hg : Consistent s g) (hg' : Consistent s g') (x : RootNeed) (k : Int) :
    g'.Holds x k ↔ ∃ i, g.Holds x i ∧ cls i = k := by
  cases x with
  | message name => exact hquot.find?_owners hg.messages hg'.messages hquot.messages name k
  | enum name => exact hquot.find?_owners hg.enums hg'.enums hquot.enums name k

/-- Edges lead to what is needed in other modules, also when types go to the classes
    of their modules. -/
theorem Partitioned.edges_iff_of_quotientBy {g g' : ModuleGraph} {cls : Int → Int}
    (h : Partitioned s g) (hedges : ∀ k l, g'.Edge k l ↔ quotientBy cls g.Edge k l)
    (hholds : ∀ x k, g'.Holds x k ↔ ∃ i, g.Holds x i ∧ cls i = k) (k l : Int) :
    g'.Edge k l ↔ k ≠ l ∧ ∃ root, g'.messageModule.find? root = some k ∧
      ∃ x, s.FamilyNeed root x ∧ g'.Holds x l := by
  rw [hedges]
  refine and_congr_right fun hkl => ?_
  constructor
  · rintro ⟨i, j, hij, rfl, rfl⟩
    obtain ⟨-, root, hroot, x, hx, hj⟩ := (h.edges i j).mp hij
    exact ⟨root, (hholds (.message root) _).mpr ⟨i, hroot, rfl⟩, x, hx,
      (hholds x _).mpr ⟨j, hj, rfl⟩⟩
  · rintro ⟨root, hroot, x, hx, hl⟩
    obtain ⟨i, hi, rfl⟩ := (hholds (.message root) k).mp hroot
    obtain ⟨j, hj, rfl⟩ := (hholds x l).mp hl
    have hij : i ≠ j := fun hij => hkl (congrArg cls hij)
    exact ⟨i, j, (h.edges i j).mpr ⟨hij, root, hi, x, hx, hj⟩, rfl, rfl⟩

/-- Mergers keep that edges lead to what is needed in other modules. -/
theorem Partitioned.quotient {g g' : ModuleGraph} {cls : Int → Int} (h : Partitioned s g)
    (hg' : Consistent s g') (hquot : IsQuotient g g' cls) : Partitioned s g' where
  toConsistent := hg'
  rooted := by
    intro k m' hm'
    obtain ⟨⟨m, hm⟩, hk⟩ := hquot.representative ⟨m', hm'⟩
    rcases h.rooted hm with ⟨n, hn⟩ | ⟨n, hn⟩
    · exact Or.inl ⟨n, (hquot.messages hm' n).mpr ⟨k, m, hm, hk, hn⟩⟩
    · exact Or.inr ⟨n, (hquot.enums hm' n).mpr ⟨k, m, hm, hk, hn⟩⟩
  message_owned n := (owned_iff_of_holds (hquot.holds_iff h.toConsistent hg') (.message n)).trans
    (h.message_owned n)
  enum_owned n := (owned_iff_of_holds (hquot.holds_iff h.toConsistent hg') (.enum n)).trans
    (h.enum_owned n)
  edges := h.edges_iff_of_quotientBy hquot.edges (hquot.holds_iff h.toConsistent hg')

end SchemaRecovery.ModuleGraph
