/-
  SchemaRecovery.Proofs.Coarsest

  The result of a compaction cannot be made coarser. The last phase only tries
  pairs, but pairs are enough: where several modules of one namespace could be
  one without a cycle, so could two of them that nothing lies between
  (`exists_joinable_pair`). If the namespaces themselves do not depend on each
  other in a circle, each ends up with one module (`compact_coarsest`).
-/
import SchemaRecovery.Proofs.Compaction

namespace SchemaRecovery.ModuleGraph

open Relation

universe u

variable {s : Schema}

/-- The classes of a partition have one namespace each. -/
def OneNamespaceEach {κ : Type u} (g : ModuleGraph) (cls : Int → κ) : Prop :=
  ∀ i j ns ns', cls i = cls j → g.HasNs i ns → g.HasNs j ns' → ns = ns'

/-- A module of one namespace depends on a module of another. -/
def NamespaceEdge (g : ModuleGraph) (ns ns' : Label) : Prop :=
  ns ≠ ns' ∧ ∃ i j, g.Edge i j ∧ g.HasNs i ns ∧ g.HasNs j ns'

theorem Live.hasNs {g : ModuleGraph} {i : Int} (h : g.Live i) : ∃ ns, g.HasNs i ns := by
  obtain ⟨m, hm⟩ := h
  exact ⟨m.ns, m, hm, rfl⟩

/-- Where no pair can be merged without a cycle, no larger classes can. -/
theorem Stuck.eq_of_class_eq {κ : Type u} {g : ModuleGraph} (hg : Consistent s g)
    (hacyclic : Acyclic g.Edge) (hstuck : g.Stuck) (cls : Int → κ)
    (hcls : g.OneNamespaceEach cls) (hquot : Acyclic (quotientBy cls g.Edge)) {i j : Int}
    (hi : g.Live i) (hj : g.Live j) (hij : cls i = cls j) : i = j := by
  by_contra hne
  obtain ⟨c, hc, d, hd, hcd, hclscd, hjoin⟩ :=
    exists_joinable_pair hacyclic g.sortedIds
      (fun x y hxy => mem_sortedIds.mpr (hg.toWired.live_of_edge hxy)) hquot
      (mem_sortedIds.mpr hi) (mem_sortedIds.mpr hj) hne hij
  obtain ⟨ns, hcns⟩ := (mem_sortedIds.mp hc).hasNs
  obtain ⟨ns', hdns⟩ := (mem_sortedIds.mp hd).hasNs
  rw [← hcls c d ns ns' hclscd hcns hdns] at hdns
  rcases hstuck c d ns hcd hcns hdns with hcycle | hcycle
  · exact hcycle (acyclic_joined hcd hacyclic hjoin)
  · exact hcycle (acyclic_joined hcd.symm hacyclic hjoin.symm)

/-- The namespace of a module, null for one that is not live. -/
def nsOf (g : ModuleGraph) (i : Int) : Label := ((g.modules.find? i).map (·.ns)).getD none

theorem HasNs.nsOf_eq {g : ModuleGraph} {i : Int} {ns : Label} (h : g.HasNs i ns) :
    g.nsOf i = ns := by
  obtain ⟨m, hm, rfl⟩ := h
  unfold nsOf
  rw [hm]
  rfl

/-- Where no pair can be merged without a cycle and the namespaces do not depend
    on each other in a circle, each namespace has one module. -/
theorem Stuck.eq_of_hasNs {g : ModuleGraph} (hg : Consistent s g) (hacyclic : Acyclic g.Edge)
    (hstuck : g.Stuck) (hns : Acyclic (quotientBy g.nsOf g.Edge)) {i j : Int} {ns : Label}
    (hi : g.HasNs i ns) (hj : g.HasNs j ns) : i = j := by
  refine hstuck.eq_of_class_eq hg hacyclic g.nsOf ?_ hns (hi.imp fun _ h => h.1)
    (hj.imp fun _ h => h.1) (hi.nsOf_eq.trans hj.nsOf_eq.symm)
  intro i j ns ns' hij hi hj
  rw [hi.nsOf_eq, hj.nsOf_eq] at hij
  exact hij

/-- Edges between namespaces after mergers were there before. -/
theorem IsQuotient.namespaceEdge {g g' : ModuleGraph} {cls : Int → Int} (hw : g.Wired)
    (h : IsQuotient g g' cls) {ns ns' : Label} (hedge : quotientBy g'.nsOf g'.Edge ns ns') :
    g.NamespaceEdge ns ns' := by
  obtain ⟨hne, k, l, hkl, rfl, rfl⟩ := hedge
  obtain ⟨-, i, j, hij, rfl, rfl⟩ := (h.edges k l).mp hkl
  obtain ⟨ns, hi⟩ := hij.live.hasNs
  obtain ⟨ns', hj⟩ := (hw.live_of_edge hij).hasNs
  rw [(h.hasNs hi).nsOf_eq, (h.hasNs hj).nsOf_eq] at hne ⊢
  exact ⟨hne, i, j, hij, hi, hj⟩

/-- No partition of the result of a compaction into classes of one namespace
    has an acyclic quotient, other than the one with a class for each module. If
    the namespaces do not depend on each other in a circle, the result has one
    module for each of them. -/
theorem compact_coarsest {g g' : ModuleGraph} (hg : Consistent s g)
    (hok : (g.compact s).outcome = .ok g') :
    (∀ {κ : Type u} (cls : Int → κ), g'.OneNamespaceEach cls →
      Acyclic (quotientBy cls g'.Edge) →
      ∀ i j, g'.Live i → g'.Live j → cls i = cls j → i = j) ∧
    (Acyclic g.NamespaceEdge →
      (∀ ns, g.Namespace ns → ∃! i, g'.HasNs i ns) ∧
        ∀ i ns, g'.HasNs i ns → g.Namespace ns) := by
  obtain ⟨hg', hacyclic, hstuck, cls', hquot⟩ := compact_ok hg hok
  refine ⟨?_, fun hns => ⟨?_, ?_⟩⟩
  · intro κ cls hcls hquot' i j hi hj hij
    exact hstuck.eq_of_class_eq hg' hacyclic cls hcls hquot' hi hj hij
  · rintro ns ⟨i, hi⟩
    refine ⟨cls' i, hquot.hasNs hi, fun j hj => ?_⟩
    refine hstuck.eq_of_hasNs hg' hacyclic ?_ hj (hquot.hasNs hi)
    exact hns.mono fun ns ns' hedge => hquot.namespaceEdge hg.toWired hedge
  · intro i ns hi
    exact ⟨i, hquot.hasNs_of hi⟩

/-- Two modules of one namespace, the first of which depends on the second,
    become one. -/
theorem compact_coarsest_linked :
    ∃ g', ((linked (some "A") (some "A")).compact {}).outcome = .ok g' ∧
      ∃! i, g'.HasNs i (some "A") := by
  have hg : Consistent {} (linked (some "A") (some "A")) := consistent_linked _ _
  obtain ⟨g', hok⟩ := (compact_returns_iff hg).mpr
    ⟨listable_linked _ _, not_hasMixedCycle_linked _ _⟩
  refine ⟨g', hok, ((compact_coarsest.{0} hg hok).2 ?_).1 _ ⟨1, _, rfl, rfl⟩⟩
  -- Both modules have the same namespace, so no edge leads to another one.
  have hsame : ∀ {i ns}, (linked (some "A") (some "A")).HasNs i ns → ns = some "A" := by
    rintro i ns ⟨m, hm, rfl⟩
    obtain ⟨rfl, rfl⟩ | ⟨rfl, rfl⟩ := find?_linked hm <;> rfl
  intro ns hcycle
  obtain ⟨ns', ⟨hne, i, j, -, hi, hj⟩, -⟩ := TransGen.head'_iff.mp hcycle
  exact hne ((hsame hi).trans (hsame hj).symm)

end SchemaRecovery.ModuleGraph
