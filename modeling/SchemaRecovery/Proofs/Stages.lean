/-
  SchemaRecovery.Proofs.Stages

  The stages of a recovery without their logs: the outcome of each stage is
  that of its steps in a row, and what is only written to the log does not
  count. `outcome_analyze_steps` has the steps of all stages up to the modules.

  Runs on fixed inputs are evaluated in the modules from here on. Evaluation needs
  equations of library functions, some of which come with the whole of Mathlib only.
  It is imported here for all of them.
-/
import Mathlib
import SchemaRecovery.Proofs.Outcome
import SchemaRecovery.Recovery

namespace SchemaRecovery

/-! ## Modules -/

namespace ModuleGraph

/-- The steps of the first grouping, without the log. -/
theorem outcome_partition (s : Schema) (g : ModuleGraph) :
    (partition s g).outcome = (do
      let g ← addEnumModules s g
      let g ← addMessageModules s g
      g.addAllEdges) := by
  unfold partition
  simp only [Logged.outcome_bind]
  show (addEnumModules s g >>= _) = _
  refine bind_congr fun g₁ => ?_
  show (addMessageModules s g₁ >>= _) = _
  refine bind_congr fun g₂ => ?_
  show (g₂.addAllEdges >>= fun g => Except.ok g) = _
  cases g₂.addAllEdges with
  | error e => rfl
  | ok g => rfl

theorem outcome_phaseBy (description : Text) (run : ModuleGraph → Logged ModuleGraph)
    (g : ModuleGraph) : (phaseBy description run g).outcome = (run g).outcome := by
  unfold phaseBy
  rw [Logged.outcome_bind]
  show ((run g) >>= _).outcome = _
  rw [Logged.outcome_bind]
  cases (run g).outcome with
  | error e => rfl
  | ok g' => rfl

theorem outcome_compact (s : Schema) (g : ModuleGraph) :
    (g.compact s).outcome = (do
      let g ← g.mergeCycles.outcome
      let g ← (g.mergeGroups withoutDependencies).outcome
      let g ← (g.mergeGroups withoutDependents).outcome
      let g ← (g.mergeGroups sameNeighbours).outcome
      let g ← g.mergeUntilCycle.outcome
      validate s g
      return g) := by
  unfold compact compactBy
  simp only [Logged.outcome_bind, outcome_phaseBy]
  rfl

end ModuleGraph

/-! ## The whole run -/

namespace Recovery

/-- Writing an entry for each label of a list always succeeds. -/
theorem outcome_forM_info (labels : List Label) (entry : Label → Text) :
    (labels.forM fun x => Logged.info (entry x)).outcome = .ok () := by
  induction labels with
  | nil => rfl
  | cons x rest ih =>
      show (Logged.info (entry x) >>= fun _ => rest.forM _).outcome = _
      rw [Logged.outcome_bind]
      exact ih

theorem outcome_forM_announce (files : List OutputFile) :
    (files.forM announce).outcome = .ok () := by
  induction files with
  | nil => rfl
  | cons f rest ih =>
      show (announce f >>= fun _ => rest.forM announce).outcome = _
      rw [Logged.outcome_bind]
      exact ih

theorem outcome_discover (a : Assembly) :
    (discover a).outcome = (do
      a.checkRuntime.outcome
      let s ← Schema.gather a {}
      let s ← s.populateFields.outcome
      let _ ← namespaces s
      return s) := by
  unfold discover
  simp only [Logged.outcome_bind]
  congr 1
  funext _
  show (Schema.gather a {} >>= _) = _
  congr 1
  funext gathered
  congr 1
  funext s
  -- Nothing but the list of namespaces can still fail.
  split
  · simp only [Logged.outcome_bind, outcome_forM_info]
    rfl
  · simp only [Logged.outcome_bind, outcome_forM_info]
    rfl

theorem discover_eq_ok {a : Assembly} {s : Schema} (h : (discover a).outcome = .ok s) :
    ∃ gathered, Schema.gather a {} = .ok gathered ∧ gathered.populateFields.outcome = .ok s := by
  rw [outcome_discover] at h
  obtain ⟨-, -, h⟩ := bind_eq_ok.mp h
  obtain ⟨gathered, hgather, h⟩ := bind_eq_ok.mp h
  obtain ⟨filled, hfilled, h⟩ := bind_eq_ok.mp h
  obtain ⟨-, -, h⟩ := bind_eq_ok.mp h
  obtain rfl := Except.ok.inj h
  exact ⟨gathered, hgather, hfilled⟩

theorem outcome_relate (s : Schema) :
    (relate s).outcome = (do
      let s ← s.connect
      let s ← s.populateDependencies.outcome
      return s.prune.1) := by
  unfold relate
  simp only [Logged.outcome_bind]
  rfl

theorem relate_eq_ok {s s' : Schema} (h : (relate s).outcome = .ok s') :
    ∃ linked u, s.connect = .ok linked ∧ linked.populateDependencies.outcome = .ok u ∧
      s' = u.prune.1 := by
  rw [outcome_relate] at h
  obtain ⟨linked, hlinked, h⟩ := bind_eq_ok.mp h
  obtain ⟨u, hu, h⟩ := bind_eq_ok.mp h
  exact ⟨linked, u, hlinked, hu, (Except.ok.inj h).symm⟩

theorem outcome_analyze (a : Assembly) :
    (analyze a).outcome = (do
      let s ← (discover a).outcome
      let s ← (relate s).outcome
      let g ← (ModuleGraph.partition s {}).outcome
      let g ← (g.compact s).outcome
      return { schema := s, graph := g }) := by
  unfold analyze
  simp only [Logged.outcome_bind]
  rfl

/-- The same with the steps of each stage. -/
theorem outcome_analyze_steps (a : Assembly) :
    (analyze a).outcome = (do
      a.checkRuntime.outcome
      let s ← Schema.gather a {}
      let s ← s.populateFields.outcome
      let _ ← namespaces s
      let s ← s.connect
      let s ← s.populateDependencies.outcome
      let s := s.prune.1
      let g ← ModuleGraph.addEnumModules s {}
      let g ← ModuleGraph.addMessageModules s g
      let g ← g.addAllEdges
      let g ← g.mergeCycles.outcome
      let g ← (g.mergeGroups ModuleGraph.withoutDependencies).outcome
      let g ← (g.mergeGroups ModuleGraph.withoutDependents).outcome
      let g ← (g.mergeGroups ModuleGraph.sameNeighbours).outcome
      let g ← g.mergeUntilCycle.outcome
      ModuleGraph.validate s g
      return { schema := s, graph := g }) := by
  simp only [outcome_analyze, outcome_discover, outcome_relate, ModuleGraph.outcome_partition,
    ModuleGraph.outcome_compact, bind_assoc, pure_bind]

theorem analyze_eq_ok {a : Assembly} {r : Recovery} (h : (analyze a).outcome = .ok r) :
    ∃ s₀ g₀, (discover a).outcome = .ok s₀ ∧ (relate s₀).outcome = .ok r.schema ∧
      (ModuleGraph.partition r.schema {}).outcome = .ok g₀ ∧
      (g₀.compact r.schema).outcome = .ok r.graph := by
  rw [outcome_analyze] at h
  obtain ⟨s₀, hs₀, h⟩ := bind_eq_ok.mp h
  obtain ⟨s, hs, h⟩ := bind_eq_ok.mp h
  obtain ⟨g₀, hg₀, h⟩ := bind_eq_ok.mp h
  obtain ⟨g, hg, h⟩ := bind_eq_ok.mp h
  obtain rfl := Except.ok.inj h
  exact ⟨s₀, g₀, hs₀, hs, hg₀, hg⟩

theorem outcome_rebuild (a : Assembly) :
    (rebuild a).outcome = (do
      let r ← (analyze a).outcome
      let files ← OutputFile.plan r.schema r.graph
      return (r, files)) := by
  unfold rebuild
  simp only [Logged.outcome_bind, outcome_forM_announce]
  rfl

/-- The steps of the recovery of an assembly. -/
theorem rebuild_eq_ok {a : Assembly} {r : Recovery} {files : List OutputFile}
    (h : (rebuild a).outcome = .ok (r, files)) :
    ∃ s₀ g₀, (discover a).outcome = .ok s₀ ∧ (relate s₀).outcome = .ok r.schema ∧
      (ModuleGraph.partition r.schema {}).outcome = .ok g₀ ∧
      (g₀.compact r.schema).outcome = .ok r.graph ∧
      OutputFile.plan r.schema r.graph = .ok files := by
  rw [outcome_rebuild] at h
  obtain ⟨r', hr', h⟩ := bind_eq_ok.mp h
  obtain ⟨files', hfiles, h⟩ := bind_eq_ok.mp h
  obtain ⟨rfl, rfl⟩ := Prod.mk.inj (Except.ok.inj h)
  obtain ⟨s₀, g₀, hs₀, hs, hg₀, hg⟩ := analyze_eq_ok hr'
  exact ⟨s₀, g₀, hs₀, hs, hg₀, hg, hfiles⟩

theorem outcome_run (a : Assembly) :
    (run a).outcome = (do
      let (r, files) ← (rebuild a).outcome
      (renderFiles r.schema files).outcome) := by
  unfold run
  rw [Logged.outcome_bind]

end Recovery

end SchemaRecovery
