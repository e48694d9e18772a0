/-
  SchemaRecovery.Proofs.Compaction

  What the compaction of a consistent graph comes to. Its first phase only
  merges modules that reach each other, so it neither makes nor breaks a cycle
  through two namespaces; the other phases make safe mergers, so a graph that
  is without cycles after the first phase stays so. The last check therefore
  tells exactly whether the graph had a cycle through two namespaces
  (`compact_decides`).

  Three lists are put in order on the way: the namespaces, the root messages
  and the root enums. Where a null stands beside another label in one of them
  the compaction fails, whatever the edges are (`null_beside_text`).
-/
import SchemaRecovery.Proofs.PairPhase

namespace SchemaRecovery.ModuleGraph

open Relation

variable {s : Schema}

/-! ## The last check -/

/-- A root type of a live module. -/
def Root (g : ModuleGraph) (roots : SchemaModule → OrderedSet Label) (name : Label) : Prop :=
  ∃ i m, g.modules.find? i = some m ∧ name ∈ roots m

/-- The lists that the compaction puts in order can be put in order. -/
structure Listable (g : ModuleGraph) : Prop where
  namespaces : Label.NullAlone g.Namespace
  messages : Label.NullAlone (g.Root (·.rootMessages))
  enums : Label.NullAlone (g.Root (·.rootEnums))

theorem root_iff_of_quotient {g g' : ModuleGraph} {roots : SchemaModule → OrderedSet Label}
    {cls : Int → Int} (hlive : ∀ {i}, g.Live i → g'.Live (cls i))
    (hroots : ∀ {k m'}, g'.modules.find? k = some m' → ∀ name, name ∈ roots m' ↔
      ∃ i m, g.modules.find? i = some m ∧ cls i = k ∧ name ∈ roots m) (name : Label) :
    g'.Root roots name ↔ g.Root roots name := by
  constructor
  · rintro ⟨k, m', hm', hname⟩
    obtain ⟨i, m, hm, -, hname⟩ := (hroots hm' name).mp hname
    exact ⟨i, m, hm, hname⟩
  · rintro ⟨i, m, hm, hname⟩
    obtain ⟨m', hm'⟩ := hlive ⟨m, hm⟩
    exact ⟨cls i, m', hm', (hroots hm' name).mpr ⟨i, m, hm, rfl, hname⟩⟩

/-- The check of a look-up passes unless the look-up cannot be listed. -/
theorem checkOwners_decides {g : ModuleGraph} {roots : SchemaModule → OrderedSet Label}
    {owners : Registry Label Int} (howners : g.OwnersExact roots owners)
    (stranded : Label → Int → Failure) :
    (checkOwners g stranded owners = .ok () ∧ Label.NullAlone (g.Root roots)) ∨
      (checkOwners g stranded owners = .error .nullOperand ∧
        ¬ Label.NullAlone (g.Root roots)) := by
  have hkeys : ∀ name, name ∈ owners.entries.map (·.1) ↔ g.Root roots name := by
    intro name
    show name ∈ owners.keys ↔ _
    rw [Registry.mem_keys]
    exact exists_congr fun i => howners name i
  rw [← Label.NullAlone.congr hkeys]
  unfold checkOwners
  rcases Label.sortOn_decides owners.keys_nodup with ⟨r, hsort, hperm, halone⟩ | ⟨hsort, halone⟩
  · refine Or.inl ⟨?_, halone⟩
    rw [hsort, ok_bind]
    refine forM_eq_ok fun e he => ?_
    obtain ⟨m, hm, -⟩ :=
      (howners e.1 e.2).mp (Registry.find?_eq_some_iff.mpr (hperm.mem_iff.mp he))
    rw [if_pos (Registry.contains_iff.mpr ⟨m, hm⟩)]
  · exact Or.inr ⟨by rw [hsort]; rfl, halone⟩

/-- The check of a module of a consistent graph passes. -/
theorem checkModule_eq_ok {g : ModuleGraph} (hg : Consistent s g) {i : Int} {m : SchemaModule}
    (hm : g.modules.find? i = some m) : checkModule s g m = .ok () := by
  have hlive : ∀ {j n}, g.modules.find? j = some n → g.modules.contains j = true :=
    fun hn => Registry.contains_iff.mpr ⟨_, hn⟩
  -- Both ends of an edge are live, so no edge dangles.
  have hdangling : ((m.dependsOn.union m.dependedOnBy).filter
      fun id => !g.modules.contains id).isEmpty = true := by
    rw [OrderedSet.isEmpty, List.isEmpty_iff, List.eq_nil_iff_forall_not_mem]
    intro j hj
    rw [← OrderedSet.mem_def, OrderedSet.mem_filter, OrderedSet.mem_union] at hj
    obtain ⟨hj | hj, hgone⟩ := hj
    · obtain ⟨n, hn, -⟩ := hg.forth hm hj
      rw [hlive hn] at hgone
      cases hgone
    · obtain ⟨n, hn, -⟩ := hg.back hm hj
      rw [hlive hn] at hgone
      cases hgone
  -- The root types have the namespace of the module.
  have hmessages : (m.rootMessages.toList.forM fun name => do
      if (← s.message name).ns ≠ m.ns then .error (.foreignMessage name m.ns m.id)) =
        (.ok () : Except Failure Unit) := by
    refine forM_eq_ok fun name hname => ?_
    obtain ⟨t, ht, hns⟩ := hg.message_ns hm name hname
    unfold Schema.message
    rw [ht, ok_bind, if_neg (not_not_intro hns)]
    rfl
  have henums : (m.rootEnums.toList.forM fun name => do
      if (← s.enum name).ns ≠ m.ns then .error (.foreignEnum name m.ns m.id)) =
        (.ok () : Except Failure Unit) := by
    refine forM_eq_ok fun name hname => ?_
    obtain ⟨t, ht, hns⟩ := hg.enum_ns hm name hname
    unfold Schema.enum
    rw [ht, ok_bind, if_neg (not_not_intro hns)]
    rfl
  unfold checkModule
  dsimp only
  rw [hg.unremoved hm, hdangling, hmessages, henums]
  rfl

/-- The last check fails on a look-up that cannot be listed, and else exactly
    on a cycle. -/
theorem validate_decides {g : ModuleGraph} (hg : Consistent s g) :
    (validate s g = .error .nullOperand ∧ ¬ (Label.NullAlone (g.Root (·.rootMessages)) ∧
        Label.NullAlone (g.Root (·.rootEnums)))) ∨
      ((Label.NullAlone (g.Root (·.rootMessages)) ∧ Label.NullAlone (g.Root (·.rootEnums))) ∧
        ((validate s g = .ok () ∧ Acyclic g.Edge) ∨
          ∃ path, validate s g = .error (.moduleCycle path) ∧ ¬ Acyclic g.Edge)) := by
  unfold validate
  -- The look-ups are listed first: a null beside another label ends the check.
  rcases checkOwners_decides hg.messages .strandedMessage with ⟨hmessages, hm⟩ | ⟨hmessages, hm⟩
  · rw [hmessages, ok_bind]
    rcases checkOwners_decides hg.enums .strandedEnum with ⟨henums, he⟩ | ⟨henums, he⟩
    · have hmodules : g.sortedModules.forM (checkModule s g) = .ok () :=
        forM_eq_ok fun m hmem => checkModule_eq_ok hg ((mem_sortedModules hg.toWired).mp hmem)
      rw [henums, ok_bind, hmodules, ok_bind]
      refine Or.inr ⟨⟨hm, he⟩, ?_⟩
      -- Only the search for a cycle can still fail.
      rcases cycle?_decides hg.toWired with ⟨path, hfound, hpath⟩ | ⟨hfound, hacyclic⟩
      · have hlive : ∀ i ∈ path, g.Live i := fun i hi => live_of_isCycle hpath hi
        obtain ⟨labels, hlabels, -, -⟩ := labelled_eq_ok hlive
        refine Or.inr ⟨labels, ?_, hpath.not_acyclic⟩
        rw [hfound, ok_bind]
        dsimp only
        rw [hlabels]
        rfl
      · exact Or.inl ⟨by rw [hfound]; rfl, hacyclic⟩
    · rw [henums]
      exact Or.inl ⟨rfl, fun h => he h.2⟩
  · rw [hmessages]
    exact Or.inl ⟨rfl, fun h => hm h.1⟩

/-! ## All phases -/

/-- The phases before the last one always end. -/
theorem compact_eq_last_phase {g : ModuleGraph} (hg : Consistent s g) :
    ∃ g₁ g₄, Merges Mutual g g₁ ∧ (Acyclic g₁.Edge ∨ g₁.HasMixedCycle) ∧ Merges Safe g₁ g₄ ∧
      (g.compact s).outcome = (mergeUntilCycle g₄).outcome >>= fun g₅ =>
        validate s g₅ >>= fun _ => .ok g₅ := by
  obtain ⟨_, g₁, h₁, hrun₁, hcycles⟩ := mergeCyclesBy_run hg.simple
  have hg₁ := hrun₁.merges.simple hg.simple
  obtain ⟨_, g₂, h₂, hrun₂⟩ := mergeGroupsBy_run likens_withoutDependencies hg₁
  have hg₂ := hrun₂.merges.simple hg₁
  obtain ⟨_, g₃, h₃, hrun₃⟩ := mergeGroupsBy_run likens_withoutDependents hg₂
  have hg₃ := hrun₃.merges.simple hg₂
  obtain ⟨_, g₄, h₄, hrun₄⟩ := mergeGroupsBy_run likens_sameNeighbours hg₃
  refine ⟨g₁, g₄, hrun₁.merges, hcycles, ((hrun₂.trans hrun₃).trans hrun₄).merges, ?_⟩
  -- Each phase passes its graph on to the next.
  rw [outcome_compact, ← outcome_mergeCyclesBy, h₁, ok_bind, ← outcome_mergeGroupsBy, h₂,
    ok_bind, ← outcome_mergeGroupsBy, h₃, ok_bind, ← outcome_mergeGroupsBy, h₄, ok_bind]
  rfl

/-- Mergers leave the lists of labels as they are. -/
theorem IsQuotient.listable_iff {g g' : ModuleGraph} {cls : Int → Int}
    (h : IsQuotient g g' cls) : g'.Listable ↔ g.Listable := by
  have hns := Label.NullAlone.congr h.namespace_iff
  have hmessages := Label.NullAlone.congr (root_iff_of_quotient h.live h.messages)
  have henums := Label.NullAlone.congr (root_iff_of_quotient h.live h.enums)
  constructor
  · intro hl
    exact ⟨hns.mp hl.namespaces, hmessages.mp hl.messages, henums.mp hl.enums⟩
  · intro hl
    exact ⟨hns.mpr hl.namespaces, hmessages.mpr hl.messages, henums.mpr hl.enums⟩

/-- How a compaction can go: it fails because a list cannot be put in order, or
    it makes mergers until none is left and then finds a cycle or not. -/
theorem compact_cases {g : ModuleGraph} (hg : Consistent s g) :
    (¬ g.Listable ∧ (g.compact s).outcome = .error .nullOperand) ∨
      (g.Listable ∧ ∃ g₁ g', Merges Mutual g g₁ ∧ (Acyclic g₁.Edge ∨ g₁.HasMixedCycle) ∧
        Merges Safe g₁ g' ∧ g'.Stuck ∧
        ((Acyclic g'.Edge ∧ (g.compact s).outcome = .ok g') ∨
          (¬ Acyclic g'.Edge ∧ ∃ path, (g.compact s).outcome = .error (.moduleCycle path)))) := by
  obtain ⟨g₁, g₄, hrun₁, hcycles, hrun₄, hout⟩ := compact_eq_last_phase hg
  have hg₁ := Merges.consistent hrun₁ hg
  have hg₄ := Merges.consistent hrun₄ hg₁
  obtain ⟨cls₁, hquot₁⟩ := Merges.exists_quotient hrun₁ hg.simple
  obtain ⟨cls₄, hquot₄⟩ := Merges.exists_quotient hrun₄ hg₁.simple
  have hns := (hquot₁.trans hquot₄).namespace_iff
  rw [hout]
  -- The last phase lists the namespaces, the check after it the root types.
  by_cases halone : Label.NullAlone g₄.Namespace
  · obtain ⟨_, g', hlast, htrail, hstuck⟩ := mergeUntilCycleBy_run hg₄.simple halone
    have hrun' := htrail.merges
    have hg' := Merges.consistent hrun' hg₄
    obtain ⟨cls', hquot'⟩ := Merges.exists_quotient hrun' hg₄.simple
    -- Mergers neither make nor remove labels, so the lists are those of `g`.
    have hlistable := ((hquot₁.trans hquot₄).trans hquot').listable_iff
    rw [← outcome_mergeUntilCycleBy, hlast, ok_bind, ← hlistable]
    rcases validate_decides hg' with ⟨hcheck, hnot⟩ | ⟨hroots, hend⟩
    · rw [hcheck]
      exact Or.inl ⟨fun hl => hnot ⟨hl.messages, hl.enums⟩, rfl⟩
    · have hns' := (Label.NullAlone.congr hquot'.namespace_iff).mpr halone
      refine Or.inr ⟨⟨hns', hroots.1, hroots.2⟩, g₁, g', hrun₁, hcycles, hrun₄.trans hrun',
        hstuck, ?_⟩
      rcases hend with ⟨hcheck, hacyclic⟩ | ⟨path, hcheck, hcyclic⟩
      · rw [hcheck]
        exact Or.inl ⟨hacyclic, rfl⟩
      · rw [hcheck]
        exact Or.inr ⟨hcyclic, path, rfl⟩
  · rw [← outcome_mergeUntilCycleBy, mergeUntilCycleBy_error hg₄.toWired halone]
    refine Or.inl ⟨fun hl => halone ?_, rfl⟩
    exact (Label.NullAlone.congr hns).mpr hl.namespaces

/-- What the first phase leaves has a cycle through two namespaces exactly if
    the graph had one. -/
theorem hasMixedCycle_iff_of_mutual {g g₁ : ModuleGraph} (hg : Consistent s g)
    (hrun : Merges Mutual g g₁) : g₁.HasMixedCycle ↔ g.HasMixedCycle := by
  obtain ⟨cls, hquot⟩ := Merges.exists_quotient hrun hg.simple
  exact ⟨hrun.hasMixedCycle_of_mutual hg.simple, hquot.hasMixedCycle⟩

/-- The end of the mergers has no cycle exactly if the graph had none through
    two namespaces. -/
theorem acyclic_end_iff {g g₁ g' : ModuleGraph} (hg : Consistent s g)
    (hrun₁ : Merges Mutual g g₁) (hcycles : Acyclic g₁.Edge ∨ g₁.HasMixedCycle)
    (hrun' : Merges Safe g₁ g') : Acyclic g'.Edge ↔ ¬ g.HasMixedCycle := by
  have hg₁ := Merges.consistent hrun₁ hg
  rw [← hasMixedCycle_iff_of_mutual hg hrun₁]
  constructor
  -- A cycle through two namespaces is never contracted to a point.
  · intro hacyclic hmixed
    obtain ⟨cls, hquot⟩ := Merges.exists_quotient hrun' hg₁.simple
    exact (hquot.hasMixedCycle hmixed).not_acyclic hacyclic
  · intro hmixed
    exact hrun'.acyclic hg₁.simple (hcycles.resolve_right hmixed)

/-- The result of a compaction. -/
theorem compact_ok {g g' : ModuleGraph} (hg : Consistent s g)
    (hok : (g.compact s).outcome = .ok g') :
    Consistent s g' ∧ Acyclic g'.Edge ∧ g'.Stuck ∧ ∃ cls, IsQuotient g g' cls := by
  rcases compact_cases hg with ⟨-, hout⟩ | ⟨-, g₁, g'', hrun₁, -, hrun', hstuck, hend⟩
  · rw [hout] at hok
    cases hok
  · rcases hend with ⟨hacyclic, hout⟩ | ⟨-, path, hout⟩
    · rw [hout] at hok
      cases hok
      have hg₁ := Merges.consistent hrun₁ hg
      obtain ⟨cls₁, hquot₁⟩ := Merges.exists_quotient hrun₁ hg.simple
      obtain ⟨cls', hquot'⟩ := Merges.exists_quotient hrun' hg₁.simple
      exact ⟨Merges.consistent hrun' hg₁, hacyclic, hstuck, _, hquot₁.trans hquot'⟩
    · rw [hout] at hok
      cases hok

/-- The compaction gives a result exactly if its lists of labels can be put in
    order and no cycle goes through two namespaces. -/
theorem compact_returns_iff {g : ModuleGraph} (hg : Consistent s g) :
    (∃ g', (g.compact s).outcome = .ok g') ↔ g.Listable ∧ ¬ g.HasMixedCycle := by
  rcases compact_cases hg with ⟨hnot, hout⟩ | ⟨hl, g₁, g', hrun₁, hcycles, hrun', -, hend⟩
  · rw [hout]
    simp [hnot]
  · rw [← acyclic_end_iff hg hrun₁ hcycles hrun']
    rcases hend with ⟨hacyclic, hout⟩ | ⟨hcyclic, path, hout⟩
    · rw [hout]
      simp [hl, hacyclic]
    · rw [hout]
      simp [hcyclic]

/-- The compaction of a consistent graph gives a result exactly if its lists of
    labels can be put in order and no cycle goes through two namespaces, that is,
    if modules that reach each other have one namespace. The result is
    consistent, without cycles, and the quotient of the graph by classes of one
    namespace. There are two failures: the one of a list that cannot be put in
    order, and, if all can, the cycle that the last check finds. -/
theorem compact_decides {g : ModuleGraph} (hg : Consistent s g) :
    ((∃ g', (g.compact s).outcome = .ok g') ↔ g.Listable ∧ ¬ g.HasMixedCycle) ∧
    (¬ g.HasMixedCycle ↔
      ∀ i j ns ns', Mutual g i j → g.HasNs i ns → g.HasNs j ns' → ns = ns') ∧
    (∀ g', (g.compact s).outcome = .ok g' →
      Consistent s g' ∧ Acyclic g'.Edge ∧ ∃ cls, IsQuotient g g' cls) ∧
    ∀ e, (g.compact s).outcome = .error e →
      (¬ g.Listable ∧ e = .nullOperand) ∨
        (g.Listable ∧ g.HasMixedCycle ∧ ∃ path, e = .moduleCycle path) := by
  refine ⟨compact_returns_iff hg, not_hasMixedCycle_iff, ?_, ?_⟩
  · intro g' hok
    obtain ⟨hcons, hacyclic, -, hquot⟩ := compact_ok hg hok
    exact ⟨hcons, hacyclic, hquot⟩
  · intro e herr
    rcases compact_cases hg with ⟨hnot, hout⟩ | ⟨hl, g₁, g', hrun₁, hcycles, hrun', -, hend⟩
    · rw [hout] at herr
      cases herr
      exact Or.inl ⟨hnot, rfl⟩
    · rcases hend with ⟨-, hout⟩ | ⟨hcyclic, path, hout⟩
      · rw [hout] at herr
        cases herr
      · rw [hout] at herr
        cases herr
        refine Or.inr ⟨hl, ?_, path, rfl⟩
        rw [acyclic_end_iff hg hrun₁ hcycles hrun', not_not] at hcyclic
        exact hcyclic

theorem listable_linked (t t' : Text) : (linked (some t) (some t')).Listable := by
  refine ⟨?_, ?_, ?_⟩
  · rintro ⟨i, m, hm, hns⟩
    obtain ⟨rfl, rfl⟩ | ⟨rfl, rfl⟩ := find?_linked hm <;> cases hns
  · rintro ⟨i, m, hm, hname⟩
    obtain ⟨rfl, rfl⟩ | ⟨rfl, rfl⟩ := find?_linked hm <;> simp at hname
  · rintro ⟨i, m, hm, hname⟩
    obtain ⟨rfl, rfl⟩ | ⟨rfl, rfl⟩ := find?_linked hm <;> simp at hname

theorem not_hasMixedCycle_linked (ns ns' : Label) : ¬ (linked ns ns').HasMixedCycle :=
  fun hmixed => hmixed.not_acyclic (acyclic_linked ns ns')

/-- Two modules of different namespaces, neither of them null: the compaction
    gives a result. -/
theorem compact_decides_linked :
    ∃ g', ((linked (some "A") (some "B")).compact {}).outcome = .ok g' :=
  (compact_decides (consistent_linked _ _)).1.mpr
    ⟨listable_linked _ _, not_hasMixedCycle_linked _ _⟩

/-- A null namespace beside another one: the graph is consistent and without
    cycles, and its compaction fails. -/
theorem null_beside_text :
    Consistent {} (linked none (some "A")) ∧ ¬ (linked none (some "A")).HasMixedCycle ∧
      ((linked none (some "A")).compact {}).outcome = .error .nullOperand := by
  refine ⟨consistent_linked _ _, not_hasMixedCycle_linked _ _, ?_⟩
  rcases compact_cases (s := {}) (consistent_linked none (some "A")) with ⟨-, hout⟩ | ⟨hl, -⟩
  · exact hout
  · exact absurd (hl.namespaces ⟨1, _, rfl, rfl⟩ (some "A") ⟨2, _, rfl, rfl⟩)
      (Option.some_ne_none _)

end SchemaRecovery.ModuleGraph
