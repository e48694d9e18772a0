/-
  SchemaRecovery.Proofs.PairPhase

  The last phase of the compaction, which merges pairs of modules as long as
  that makes no cycle. It needs the namespaces in order, so it fails where a
  null namespace stands beside another; else it makes safe mergers only and
  ends in a graph in which every merger of two modules of one namespace would
  make a cycle (`mergeUntilCycleBy_run`). A round is the last one exactly if it
  has merged no module (`mergePairsOnceBy_stops_iff`).
-/
import SchemaRecovery.Proofs.LabelOrder
import SchemaRecovery.Proofs.MergePhases

namespace SchemaRecovery.ModuleGraph

open Relation

/-! ## The candidates -/

theorem sublist_of_mem_pairs {α : Type} {l : List α} {a b : α} (h : (a, b) ∈ pairs l) :
    [a, b].Sublist l := by
  induction l with
  | nil => cases h
  | cons c rest ih =>
      rw [pairs, List.mem_append] at h
      rcases h with h | h
      · obtain ⟨d, hd, heq⟩ := List.mem_map.mp h
        obtain ⟨rfl, rfl⟩ := Prod.mk.inj heq
        exact (List.singleton_sublist.mpr hd).cons_cons c
      · exact (ih h).cons c

/-- Of two different entries one comes before the other. -/
theorem mem_pairs_or {α : Type} {l : List α} {a b : α} (ha : a ∈ l) (hb : b ∈ l) (hab : a ≠ b) :
    (a, b) ∈ pairs l ∨ (b, a) ∈ pairs l := by
  induction l with
  | nil => cases ha
  | cons c rest ih =>
      rw [pairs, List.mem_append, List.mem_append, List.mem_map, List.mem_map]
      rcases List.mem_cons.mp ha with rfl | ha'
      · exact Or.inl (Or.inl ⟨b, (List.mem_cons.mp hb).resolve_left hab.symm, rfl⟩)
      · rcases List.mem_cons.mp hb with rfl | hb'
        · exact Or.inr (Or.inl ⟨a, ha', rfl⟩)
        · exact (ih ha' hb').imp Or.inr Or.inr

/-- A namespace of a live module. -/
def Namespace (g : ModuleGraph) (ns : Label) : Prop := ∃ i, g.HasNs i ns

theorem IsQuotient.namespace_iff {g g' : ModuleGraph} {cls : Int → Int}
    (h : IsQuotient g g' cls) (ns : Label) : g'.Namespace ns ↔ g.Namespace ns := by
  constructor
  · rintro ⟨i, hi⟩
    exact ⟨i, h.hasNs_of hi⟩
  · rintro ⟨i, hi⟩
    exact ⟨cls i, h.hasNs hi⟩

/-- The list has every two different modules of one namespace, in one order at
    least, and nothing else. -/
structure Candidates (g : ModuleGraph) (l : List (Int × Int)) : Prop where
  sound : ∀ {p}, p ∈ l → p.1 ≠ p.2 ∧ ∃ ns, g.HasNs p.1 ns ∧ g.HasNs p.2 ns
  complete : ∀ {a b ns}, a ≠ b → g.HasNs a ns → g.HasNs b ns → (a, b) ∈ l ∨ (b, a) ∈ l

/-- The ids of the modules of a namespace. -/
theorem mem_ids_iff {g : ModuleGraph} (hw : g.Wired) {ns : Label} {i : Int} :
    i ∈ (g.sortedModules.filter fun m => some m.ns = some ns).map (·.id) ↔ g.HasNs i ns := by
  rw [List.mem_map]
  constructor
  · rintro ⟨m, hm, rfl⟩
    rw [List.mem_filter, mem_sortedModules hw, decide_eq_true_eq, Option.some.injEq] at hm
    exact ⟨m, hm.1, hm.2⟩
  · rintro ⟨m, hm, rfl⟩
    obtain rfl : m.id = i := hw.keyed hm
    refine ⟨m, ?_, rfl⟩
    rw [List.mem_filter, mem_sortedModules hw]
    exact ⟨hm, decide_eq_true rfl⟩

theorem mem_keys_byNamespace {g : ModuleGraph} (hw : g.Wired) {ns : Label} :
    ns ∈ (groupOn (fun m => some m.ns) g.sortedModules).keys ↔ g.Namespace ns := by
  rw [Registry.mem_keys]
  constructor
  · rintro ⟨group, hgroup⟩
    obtain ⟨hne, rfl⟩ := find?_groupOn.mp hgroup
    obtain ⟨m, hm⟩ := List.exists_mem_of_ne_nil _ hne
    exact ⟨m.id, (mem_ids_iff hw).mp (List.mem_map_of_mem hm)⟩
  · rintro ⟨i, hi⟩
    refine ⟨_, find?_groupOn.mpr ⟨fun hnil => ?_, rfl⟩⟩
    have hmem := (mem_ids_iff hw).mpr hi
    rw [hnil] at hmem
    cases hmem

theorem candidates_of_groups {g : ModuleGraph} (hw : g.Wired)
    {groups : List (Label × List SchemaModule)}
    (hperm : groups.Perm (groupOn (fun m => some m.ns) g.sortedModules).entries) :
    Candidates g ((groups.map fun e => e.2.map (·.id)).flatMap pairs) := by
  have hgroup : ∀ {e}, e ∈ groups ↔
      e.2 ≠ [] ∧ e.2 = g.sortedModules.filter fun m => some m.ns = some e.1 := by
    intro e
    rw [hperm.mem_iff, ← find?_groupOn, Registry.find?_eq_some_iff]
  constructor
  · rintro ⟨a, b⟩ hp
    obtain ⟨ids, hids, hp⟩ := List.mem_flatMap.mp hp
    obtain ⟨e, he, rfl⟩ := List.mem_map.mp hids
    have hsub := sublist_of_mem_pairs hp
    rw [(hgroup.mp he).2] at hsub
    -- The pair is in order of ids, each of which is listed once.
    have hnodup : [a, b].Nodup := by
      refine List.Nodup.sublist (hsub.trans (List.filter_sublist.map _)) ?_
      rw [map_id_sortedModules hw]
      exact nodup_sortedIds g
    refine ⟨?_, e.1, ?_, ?_⟩
    · simpa using hnodup
    · exact (mem_ids_iff hw).mp (hsub.subset (by simp))
    · exact (mem_ids_iff hw).mp (hsub.subset (by simp))
  · intro a b ns hab ha hb
    obtain ⟨group, hfind⟩ := Registry.mem_keys.mp ((mem_keys_byNamespace hw).mpr ⟨a, ha⟩)
    -- Both modules are in the group of their namespace.
    have hmem : (ns, group) ∈ groups := hperm.mem_iff.mpr (Registry.find?_eq_some_iff.mp hfind)
    have hids := List.mem_map_of_mem (f := fun e : Label × List SchemaModule => e.2.map (·.id)) hmem
    rw [← mem_ids_iff hw, ← (find?_groupOn.mp hfind).2] at ha hb
    exact (mem_pairs_or ha hb hab).imp (fun h => List.mem_flatMap.mpr ⟨_, hids, h⟩)
      fun h => List.mem_flatMap.mpr ⟨_, hids, h⟩

/-- The modules can be listed by namespace unless a null namespace stands
    beside another. -/
theorem idsByNamespace_decides {g : ModuleGraph} (hw : g.Wired) :
    (∃ groups, g.idsByNamespace = .ok groups ∧ Candidates g (groups.flatMap pairs) ∧
        Label.NullAlone g.Namespace) ∨
      (g.idsByNamespace = .error .nullOperand ∧ ¬ Label.NullAlone g.Namespace) := by
  rw [← Label.NullAlone.congr fun _ => mem_keys_byNamespace hw]
  have hkeys := (groupOn (fun m => some m.ns) g.sortedModules).keys_nodup
  unfold idsByNamespace
  rcases Label.sortOn_decides hkeys with ⟨groups, hsort, hperm, halone⟩ | ⟨hsort, halone⟩
  · refine Or.inl ⟨_, ?_, candidates_of_groups hw hperm, halone⟩
    rw [hsort]
    rfl
  · refine Or.inr ⟨?_, halone⟩
    rw [hsort]
    rfl

/-! ## A round of pairs -/

/-- What a round keeps on its way from `g`, with `rest` of the candidates still
    to come: a candidate that shares no module with an earlier merger has two
    live modules of one namespace, every merger marks two modules, and as long as
    no merger is made all candidates so far would have made a cycle. -/
structure PairRound (g : ModuleGraph) (all rest : List (Int × Int))
    (history : List ModuleGraph) (state : ModuleGraph × List Int) : Prop where
  run : Trail Safe g history state.1
  simple : state.1.Simple
  pending : ∀ {p}, p ∈ rest → p.1 ≠ p.2 ∧ (p.1 ∉ state.2 → p.2 ∉ state.2 →
    ∃ ns, state.1.HasNs p.1 ns ∧ state.1.HasNs p.2 ns)
  marked : state.2.length = 2 * history.length
  untouched : state.1 = g → ∀ p ∈ all, p ∈ rest ∨ ¬ Acyclic (joined p.1 p.2 g.Edge)

/-- A round leaves as many modules exactly if none is marked. -/
theorem PairRound.not_size_lt_iff {g : ModuleGraph} {all rest : List (Int × Int)}
    {history : List ModuleGraph} {state : ModuleGraph × List Int}
    (h : PairRound g all rest history state) : ¬ state.1.size < g.size ↔ state.2 = [] := by
  have hsize := h.run.size_add_length
  have hmarked := h.marked
  rw [← List.length_eq_zero_iff]
  omega

/-- A candidate that is passed over leaves the round as it is. -/
theorem PairRound.skip {g : ModuleGraph} {all rest : List (Int × Int)}
    {history : List ModuleGraph} {state : ModuleGraph × List Int} {p : Int × Int}
    (h : PairRound g all (p :: rest) history state)
    (hp : state.1 = g → ¬ Acyclic (joined p.1 p.2 g.Edge)) :
    PairRound g all rest (history ++ []) state where
  run := by
    rw [List.append_nil]
    exact h.run
  simple := h.simple
  pending hq := h.pending (List.mem_cons_of_mem p hq)
  marked := by
    rw [List.append_nil]
    exact h.marked
  untouched heq q hq := by
    rcases h.untouched heq q hq with hmem | hcycle
    · rcases List.mem_cons.mp hmem with rfl | hmem
      · exact Or.inr (hp heq)
      · exact Or.inl hmem
    · exact Or.inr hcycle

/-- A merger that makes no cycle. -/
theorem PairRound.merged {g g' : ModuleGraph} {all rest : List (Int × Int)}
    {history : List ModuleGraph} {gone : List Int} {m n : SchemaModule}
    (h : PairRound g all ((m.id, n.id) :: rest) history (g', gone))
    (hm : g'.modules.find? m.id = some m) (hn : g'.modules.find? n.id = some n)
    (hne : m.id ≠ n.id) (hns : m.ns = n.ns) (hacyclic : Acyclic (joined m.id n.id g'.Edge)) :
    PairRound g all rest (history ++ [g'.afterMerge m n])
      (g'.afterMerge m n, m.id :: n.id :: gone) := by
  have hstep : MergeStep Safe g' (g'.afterMerge m n) :=
    ⟨m, n, hm, hn, hne, hns, fun _ => hacyclic, rfl⟩
  refine ⟨h.run.tail hstep, hstep.simple h.simple, fun {p} hp => ?_, ?_, fun heq => ?_⟩
  · obtain ⟨hpne, hpending⟩ := h.pending (List.mem_cons_of_mem _ hp)
    refine ⟨hpne, fun h1 h2 => ?_⟩
    rw [List.mem_cons, List.mem_cons, not_or, not_or] at h1 h2
    obtain ⟨ns, hp1, hp2⟩ := hpending h1.2.2 h2.2.2
    exact ⟨ns, hasNs_afterMerge h.simple hm hn hne hns h1.2.1 hp1,
      hasNs_afterMerge h.simple hm hn hne hns h2.2.1 hp2⟩
  · have hmarked := h.marked
    simp only [List.length_cons, List.length_append, List.length_nil] at hmarked ⊢
    omega
  · -- The merger leaves fewer modules than there were.
    have hlt := hstep.size_lt
    have hle := Merges.size_le h.run.merges
    dsimp only at heq hle
    rw [heq] at hlt
    omega

/-- A step of the round. -/
theorem mergePairBy_step {g : ModuleGraph} {all rest : List (Int × Int)} {p : Int × Int}
    {history : List ModuleGraph} {state : ModuleGraph × List Int}
    (h : PairRound g all (p :: rest) history state) :
    ∃ more state', mergePairBy recordMerge state p = ⟨more, .ok state'⟩ ∧
      PairRound g all rest (history ++ more) state' := by
  obtain ⟨g', gone⟩ := state
  obtain ⟨a, b⟩ := p
  obtain ⟨hne, hpending⟩ := h.pending List.mem_cons_self
  unfold mergePairBy
  dsimp only
  by_cases hgone : (gone.contains a || gone.contains b) = true
  · rw [if_pos hgone]
    refine ⟨[], (g', gone), rfl, h.skip fun heq => ?_⟩
    -- Where something has been merged the graph is not the first any more.
    have hnil : gone = [] := h.not_size_lt_iff.mp (by rw [heq]; exact Nat.lt_irrefl _)
    rw [hnil] at hgone
    cases hgone
  · rw [if_neg hgone]
    rw [Bool.or_eq_true, not_or, List.contains_iff_mem, List.contains_iff_mem] at hgone
    obtain ⟨ns, ⟨m, hm, hmns⟩, n, hn, hnns⟩ := hpending hgone.1 hgone.2
    obtain rfl : m.id = a := h.simple.keyed hm
    obtain rfl : n.id = b := h.simple.keyed hn
    have hns : m.ns = n.ns := hmns.trans hnns.symm
    rw [module_eq_ok_iff.mpr hm, module_eq_ok_iff.mpr hn, Recorded.lift_ok_bind,
      Recorded.lift_ok_bind]
    -- The test answers for the joined graph, which is what a merger gives.
    rcases hasCycleWhenMerged_decides h.simple.toWired hne hm hn with
      ⟨hcheck, hcycle⟩ | ⟨hcheck, hacyclic⟩
    · rw [hcheck]
      exact ⟨[], (g', gone), rfl, h.skip fun heq => heq ▸ hcycle⟩
    · rw [hcheck, recordMerge_eq (merge_eq_ok h.simple.toWired hm hn hne hns)]
      exact ⟨_, _, rfl, h.merged hm hn hne hns hacyclic⟩

/-- Every merger of two modules of one namespace would make a cycle. -/
def Stuck (g : ModuleGraph) : Prop :=
  ∀ a b ns, a ≠ b → g.HasNs a ns → g.HasNs b ns →
    ¬ Acyclic (joined a b g.Edge) ∨ ¬ Acyclic (joined b a g.Edge)

/-- A round goes through all candidates and makes safe mergers only. -/
theorem mergePairsOnceBy_round {g : ModuleGraph} (hg : g.Simple)
    (halone : Label.NullAlone g.Namespace) :
    ∃ groups history g' merged, g.idsByNamespace = .ok groups ∧
      Candidates g (groups.flatMap pairs) ∧
      (groups.flatMap pairs).foldlM (mergePairBy recordMerge) (g, []) =
        ⟨history, .ok (g', merged)⟩ ∧
      mergePairsOnceBy recordMerge g = ⟨history, .ok g'⟩ ∧
      PairRound g (groups.flatMap pairs) [] history (g', merged) := by
  rcases idsByNamespace_decides hg.toWired with ⟨groups, hgroups, hall, -⟩ | ⟨-, hnot⟩
  · have hstart : PairRound g (groups.flatMap pairs) (groups.flatMap pairs) [] (g, []) :=
      ⟨.refl, hg, fun hp => ⟨(hall.sound hp).1, fun _ _ => (hall.sound hp).2⟩, rfl,
        fun _ _ hp => Or.inl hp⟩
    obtain ⟨history, ⟨g', merged⟩, hfold, hround⟩ := Recorded.foldlM_ok
      (f := mergePairBy recordMerge) (PairRound g (groups.flatMap pairs))
      (fun _ _ _ _ => mergePairBy_step) hstart
    refine ⟨groups, history, g', merged, hgroups, hall, hfold, ?_, hround⟩
    unfold mergePairsOnceBy
    rw [hgroups, Recorded.lift_ok_bind, hfold, Recorded.ok_bind]
    dsimp only
    rw [Recorded.pure_eq, List.append_nil]
  · exact absurd halone hnot

/-- A round of pairs leaves as many modules exactly if no module has been marked
    as merged in the end. -/
theorem mergePairsOnceBy_stops_iff {g : ModuleGraph} (hg : g.Simple)
    (halone : Label.NullAlone g.Namespace) :
    ∃ groups history g' merged, g.idsByNamespace = .ok groups ∧
      (groups.flatMap pairs).foldlM (mergePairBy recordMerge) (g, []) =
        ⟨history, .ok (g', merged)⟩ ∧
      mergePairsOnceBy recordMerge g = ⟨history, .ok g'⟩ ∧
      (¬ g'.size < g.size ↔ merged = []) := by
  obtain ⟨groups, history, g', merged, hgroups, -, hfold, hrun, hround⟩ :=
    mergePairsOnceBy_round hg halone
  exact ⟨groups, history, g', merged, hgroups, hfold, hrun, hround.not_size_lt_iff⟩

/-- A round makes at least one merger unless there is none to make. -/
theorem mergePairsOnceBy_run {g : ModuleGraph} (hg : g.Simple)
    (halone : Label.NullAlone g.Namespace) :
    ∃ history g', mergePairsOnceBy recordMerge g = ⟨history, .ok g'⟩ ∧ Trail Safe g history g' ∧
      g'.Simple ∧ (g' = g → g.Stuck) := by
  obtain ⟨groups, history, g', merged, -, hall, -, hrun, hround⟩ :=
    mergePairsOnceBy_round hg halone
  refine ⟨history, g', hrun, hround.run, hround.simple, fun heq a b ns hab ha hb => ?_⟩
  -- Nothing was merged, so every candidate would have made a cycle.
  have hmissing : ∀ {p}, p ∈ groups.flatMap pairs → ¬ Acyclic (joined p.1 p.2 g.Edge) :=
    fun hp => (hround.untouched heq _ hp).resolve_left List.not_mem_nil
  exact (hall.complete hab ha hb).imp hmissing hmissing

/-- The phase makes safe mergers until there is none left to make. -/
theorem mergeUntilCycleBy_run {g : ModuleGraph} (hg : g.Simple)
    (halone : Label.NullAlone g.Namespace) :
    ∃ history g', mergeUntilCycleBy recordMerge g = ⟨history, .ok g'⟩ ∧
      Trail Safe g history g' ∧ g'.Stuck := by
  have hshrink := shrinkBy_run Safe (mergePairsOnceBy recordMerge)
    (fun g => g.Simple ∧ Label.NullAlone g.Namespace) ?_ ⟨hg, halone⟩
  · obtain ⟨history, g', hg', hrun, ⟨hsimple, halone'⟩, hend⟩ := hshrink
    refine ⟨history, g', hg', hrun, ?_⟩
    -- The last round changed nothing.
    obtain ⟨history', next, hnext, -, -, hstuck⟩ := mergePairsOnceBy_run hsimple halone'
    rw [hnext, Except.ok.injEq] at hend
    exact hstuck hend
  · rintro g ⟨hg, halone⟩
    obtain ⟨history, g', hg', hrun, hsimple, -⟩ := mergePairsOnceBy_run hg halone
    obtain ⟨cls, hquot⟩ := hrun.merges.exists_quotient hg
    exact ⟨history, g', hg', hrun, hsimple,
      (Label.NullAlone.congr hquot.namespace_iff).mpr halone⟩

/-- Where the namespaces cannot be listed the phase fails before it makes a
    merger. -/
theorem mergeUntilCycleBy_error {g : ModuleGraph} (hw : g.Wired)
    (hnot : ¬ Label.NullAlone g.Namespace) :
    mergeUntilCycleBy recordMerge g = ⟨[], .error .nullOperand⟩ := by
  rcases idsByNamespace_decides hw with ⟨-, -, -, halone⟩ | ⟨hgroups, -⟩
  · exact absurd halone hnot
  · unfold mergeUntilCycleBy
    rw [shrinkBy]
    unfold mergePairsOnceBy
    rw [hgroups]
    rfl

end SchemaRecovery.ModuleGraph
