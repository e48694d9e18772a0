/-
  SchemaRecovery.Proofs.CompactionHistory

  What a compaction goes through. The phases after the first keep a graph
  without cycles so after every single merger, also after those of a group that
  was put together before other groups of the round were merged
  (`acyclic_after_every_merger`). What a compaction leaves has no merger left
  for any phase: the last phase ends where no pair can be merged, and mergers
  of the other phases are mergers of pairs that could be (`compact_compact`).
-/
import Mathlib.Data.List.Permutation
import SchemaRecovery.Proofs.Coarsest

namespace SchemaRecovery.ModuleGraph

open Relation

variable {s : Schema}

/-! ## Every single merger -/

/-- A phase that starts with `g` and has `r` as its record stays simple and
    without cycles: each graph on record comes by one merger from the one before
    it, `g` before the first, and is as it should be; a phase that fails has made
    no merger. -/
structure Steady (g : ModuleGraph) (phase : Logged ModuleGraph)
    (r : Recorded ModuleGraph) : Prop where
  outcome : r.outcome = phase.outcome
  chain : (g :: r.history).IsChain fun x y => ∃ a b, x.merge a b = .ok y
  last : ∀ g', r.outcome = .ok g' → (g :: r.history).getLast? = some g'
  failed : ∀ e, r.outcome = .error e → r.history = []
  simple : ∀ x ∈ r.history, x.Simple
  acyclic : ∀ x ∈ r.history, Acyclic x.Edge
  consistent : ∀ s, Consistent s g → ∀ x ∈ r.history, Consistent s x

theorem MergeStep.exists_merge {ok : MergeRule} {g g' : ModuleGraph} (h : MergeStep ok g g')
    (hw : g.Wired) : ∃ a b, g.merge a b = .ok g' := by
  obtain ⟨m, other, hm, hother, hne, hns, -, rfl⟩ := h
  exact ⟨m.id, other.id, merge_eq_ok hw hm hother hne hns⟩

/-- The graphs on record follow each other, up to the last. -/
theorem Trail.chain {ok : MergeRule} {g g' : ModuleGraph} {history : List ModuleGraph}
    (h : Trail ok g history g') (hg : g.Simple) :
    (g :: history).getLast? = some g' ∧
      (g :: history).IsChain fun x y => ∃ a b, x.merge a b = .ok y := by
  induction h with
  | refl => exact ⟨rfl, List.isChain_singleton g⟩
  | @tail history g₁ g' hrun hstep ih =>
      obtain ⟨hlast, hchain⟩ := ih
      rw [← List.cons_append]
      refine ⟨List.getLast?_concat, List.isChain_append.mpr ⟨hchain, List.isChain_singleton g', ?_⟩⟩
      intro x hx y hy
      rw [hlast, Option.mem_some_iff] at hx
      rw [List.head?_cons, Option.mem_some_iff] at hy
      rw [← hx, ← hy]
      exact hstep.exists_merge (hrun.merges.simple hg).toWired

/-- Safe mergers on record keep a graph without cycles so at each of them. -/
theorem Trail.steady {g g' : ModuleGraph} {history : List ModuleGraph}
    (h : Trail Safe g history g') (hg : g.Simple) (hacyclic : Acyclic g.Edge)
    {phase : Logged ModuleGraph} (hphase : phase.outcome = .ok g') :
    Steady g phase ⟨history, .ok g'⟩ := by
  obtain ⟨hlast, hchain⟩ := h.chain hg
  have hkept := h.forall_mem (P := fun x => x.Simple ∧ Acyclic x.Edge)
    (fun hstep hx => ⟨hstep.simple hx.1, hstep.acyclic hx.1 hx.2⟩) ⟨hg, hacyclic⟩
  refine ⟨hphase.symm, hchain, fun x hx => ?_, fun e he => ?_, fun x hx => (hkept.2 x hx).1,
    fun x hx => (hkept.2 x hx).2, fun s hs => ?_⟩
  · cases hx
    exact hlast
  · cases he
  · exact (h.forall_mem (P := Consistent s) (fun hstep hx => hstep.consistent hx) hs).2

/-- After every merger that a phase makes, the first apart, a simple graph
    without cycles is again simple and without cycles. -/
theorem acyclic_after_every_merger {g : ModuleGraph} (hg : g.Simple)
    (hacyclic : Acyclic g.Edge) :
    Steady g (mergeGroups withoutDependencies g)
      (mergeGroupsBy recordMerge withoutDependencies g) ∧
    Steady g (mergeGroups withoutDependents g)
      (mergeGroupsBy recordMerge withoutDependents g) ∧
    Steady g (mergeGroups sameNeighbours g) (mergeGroupsBy recordMerge sameNeighbours g) ∧
    Steady g (mergeUntilCycle g) (mergeUntilCycleBy recordMerge g) := by
  refine ⟨?_, ?_, ?_, ?_⟩
  · obtain ⟨history, g', hrun, htrail⟩ := mergeGroupsBy_run likens_withoutDependencies hg
    rw [hrun]
    exact htrail.steady hg hacyclic (by rw [← outcome_mergeGroupsBy, hrun])
  · obtain ⟨history, g', hrun, htrail⟩ := mergeGroupsBy_run likens_withoutDependents hg
    rw [hrun]
    exact htrail.steady hg hacyclic (by rw [← outcome_mergeGroupsBy, hrun])
  · obtain ⟨history, g', hrun, htrail⟩ := mergeGroupsBy_run likens_sameNeighbours hg
    rw [hrun]
    exact htrail.steady hg hacyclic (by rw [← outcome_mergeGroupsBy, hrun])
  · -- Where the namespaces cannot be listed there is no merger at all.
    by_cases halone : Label.NullAlone g.Namespace
    · obtain ⟨history, g', hrun, htrail, -⟩ := mergeUntilCycleBy_run hg halone
      rw [hrun]
      exact htrail.steady hg hacyclic (by rw [← outcome_mergeUntilCycleBy, hrun])
    · have hrun := mergeUntilCycleBy_error hg.toWired halone
      have hout := outcome_mergeUntilCycleBy g
      rw [hrun] at hout ⊢
      refine ⟨hout, List.isChain_singleton g, fun g' h => ?_, fun _ _ => rfl, ?_, ?_, ?_⟩
      · cases h
      · simp
      · simp
      · simp

/-- Two modules of one namespace, the first of which depends on the second: the
    last phase makes a merger. -/
theorem acyclic_after_every_merger_linked :
    ∃ x, (mergeUntilCycleBy recordMerge (linked (some "A") (some "A"))).history = [x] ∧
      x.Simple ∧ Acyclic x.Edge := by
  have hlen :
      (mergeUntilCycleBy recordMerge (linked (some "A") (some "A"))).history.length = 1 := by cbv
  obtain ⟨x, hx⟩ := List.length_eq_one_iff.mp hlen
  have hmem : x ∈ (mergeUntilCycleBy recordMerge (linked (some "A") (some "A"))).history := by
    rw [hx]
    exact List.mem_singleton_self x
  have hg : (linked (some "A") (some "A")).Simple := (consistent_linked (s := {}) _ _).simple
  obtain ⟨-, -, -, hsteady⟩ := acyclic_after_every_merger hg (acyclic_linked _ _)
  exact ⟨x, hx, hsteady.simple x hmem, hsteady.acyclic x hmem⟩

/-! ## A second compaction -/

/-- In a graph without cycles no two modules reach each other. -/
theorem not_mergeStep_mutual {g g' : ModuleGraph} (hacyclic : Acyclic g.Edge) :
    ¬ MergeStep Mutual g g' := by
  rintro ⟨m, other, -, -, hne, -, ⟨hto, hback⟩, -⟩
  have hpath := (reflTransGen_iff_eq_or_transGen.mp hto).resolve_left hne.symm
  exact hacyclic m.id (hpath.trans_left hback)

/-- Where every merger of a pair would make a cycle, no merger is safe. -/
theorem Stuck.not_mergeStep_safe {g g' : ModuleGraph} (hg : Consistent s g)
    (hacyclic : Acyclic g.Edge) (hstuck : g.Stuck) : ¬ MergeStep Safe g g' := by
  rintro ⟨m, other, hm, hother, hne, hns, hsafe, -⟩
  -- Taking the two for one would be a coarser partition without a cycle.
  have hquot : Acyclic (quotientBy (renamed m.id other.id) g.Edge) :=
    (hsafe hacyclic).mono fun x y hxy => (joined_iff_quotientBy hg.loopless x y).mpr hxy
  have hclass : g.OneNamespaceEach (renamed m.id other.id) := by
    intro i j ns ns' hij hi hj
    by_cases hia : renamed m.id other.id i = m.id
    · have hpair : ∀ {k ns}, renamed m.id other.id k = m.id → g.HasNs k ns → ns = m.ns := by
        intro k ns hk hkns
        rcases renamed_eq_left_iff.mp hk with rfl | rfl
        · exact hkns.unique ⟨m, hm, rfl⟩
        · exact hkns.unique ⟨other, hother, hns.symm⟩
      exact (hpair hia hi).trans (hpair (hij ▸ hia) hj).symm
    · have heq : i = j := (eq_of_renamed_eq rfl hia).trans (eq_of_renamed_eq hij.symm hia).symm
      exact hi.unique (heq ▸ hj)
  exact hne (hstuck.eq_of_class_eq hg hacyclic _ hclass hquot ⟨m, hm⟩ ⟨other, hother⟩
    ((renamed_left _ _).trans (renamed_right _ _).symm))

/-- A second compaction makes no merger in any phase and leaves the graph as it
    is. -/
theorem compact_compact {g g' : ModuleGraph} (hg : Consistent s g)
    (hok : (g.compact s).outcome = .ok g') :
    compactBy recordMerge s g' = ⟨[], .ok g'⟩ ∧ (g'.compact s).outcome = .ok g' := by
  obtain ⟨hg', hacyclic, hstuck, cls, hquot⟩ := compact_ok hg hok
  have hlistable := hquot.listable_iff.mpr ((compact_returns_iff hg).mp ⟨g', hok⟩).1
  have hnone : ∀ x, ¬ MergeStep Safe g' x := fun x => hstuck.not_mergeStep_safe hg' hacyclic
  have hrun : compactBy recordMerge s g' = ⟨[], .ok g'⟩ := by
    obtain ⟨_, _, h₁, htrail₁, -⟩ := mergeCyclesBy_run hg'.simple
    obtain ⟨rfl, rfl⟩ := htrail₁.eq_of_no_step fun x => not_mergeStep_mutual hacyclic
    obtain ⟨_, _, h₂, htrail₂⟩ := mergeGroupsBy_run likens_withoutDependencies hg'.simple
    obtain ⟨rfl, rfl⟩ := htrail₂.eq_of_no_step hnone
    obtain ⟨_, _, h₃, htrail₃⟩ := mergeGroupsBy_run likens_withoutDependents hg'.simple
    obtain ⟨rfl, rfl⟩ := htrail₃.eq_of_no_step hnone
    obtain ⟨_, _, h₄, htrail₄⟩ := mergeGroupsBy_run likens_sameNeighbours hg'.simple
    obtain ⟨rfl, rfl⟩ := htrail₄.eq_of_no_step hnone
    obtain ⟨_, _, h₅, htrail₅, -⟩ := mergeUntilCycleBy_run hg'.simple hlistable.namespaces
    obtain ⟨rfl, rfl⟩ := htrail₅.eq_of_no_step hnone
    have hcheck : validate s g' = .ok () := by
      rcases validate_decides hg' with ⟨-, hnot⟩ | ⟨-, ⟨hcheck, -⟩ | ⟨-, -, hcyclic⟩⟩
      · exact absurd ⟨hlistable.messages, hlistable.enums⟩ hnot
      · exact hcheck
      · exact absurd hacyclic hcyclic
    unfold compactBy
    rw [phaseBy_recorded _ h₁, Recorded.ok_bind, phaseBy_recorded _ h₂, Recorded.ok_bind,
      phaseBy_recorded _ h₃, Recorded.ok_bind, phaseBy_recorded _ h₄, Recorded.ok_bind,
      phaseBy_recorded _ h₅, Recorded.ok_bind, hcheck]
    rfl
  refine ⟨hrun, ?_⟩
  rw [← outcome_compactBy, hrun]

/-- The compaction of two modules of one namespace, run again. -/
theorem compact_compact_linked :
    ∃ g', ((linked (some "A") (some "A")).compact {}).outcome = .ok g' ∧
      compactBy recordMerge {} g' = ⟨[], .ok g'⟩ := by
  have hg : Consistent {} (linked (some "A") (some "A")) := consistent_linked _ _
  obtain ⟨g', hok⟩ := (compact_returns_iff hg).mpr
    ⟨listable_linked _ _, not_hasMixedCycle_linked _ _⟩
  exact ⟨g', hok, (compact_compact hg hok).1⟩

end SchemaRecovery.ModuleGraph
