/-
  SchemaRecovery.Proofs.MergePhases

  Each phase of the compaction ends, fails in no simple graph, and only makes
  mergers that follow its rule: the first phase mergers of modules that reach
  each other, the others safe ones. What is on record of a phase are these
  mergers, in their order. A phase ends in a graph in which its round makes no
  merger: rounds are repeated as long as they leave fewer modules, and a round
  leaves as many exactly if it finds nothing to merge
  (`collapseCycleBy_stops_iff`, `mergeGroupsOnceBy_stops_iff`).
-/
import SchemaRecovery.Proofs.History
import SchemaRecovery.Proofs.MergeRules

namespace SchemaRecovery.ModuleGraph

open Relation

/-! ## Rounds and their repetition -/

/-- Repeating a round that makes mergers by a rule ends where the round makes
    none. -/
theorem shrinkBy_run (ok : MergeRule) (round : ModuleGraph → Recorded ModuleGraph)
    (I : ModuleGraph → Prop)
    (hround : ∀ g, I g → ∃ history g', round g = ⟨history, .ok g'⟩ ∧ Trail ok g history g' ∧ I g')
    {g : ModuleGraph} (hg : I g) :
    ∃ history g', shrinkBy round g = ⟨history, .ok g'⟩ ∧ Trail ok g history g' ∧ I g' ∧
      (round g').outcome = .ok g' := by
  -- Induction on the number of live modules, which falls with every round.
  generalize hn : g.size = n
  induction n using Nat.strongRecOn generalizing g with
  | _ n ih =>
      obtain ⟨history, next, hnext, hrun, hI⟩ := hround g hg
      rw [shrinkBy, hnext, Recorded.ok_bind]
      by_cases hlt : next.size < g.size
      · rw [if_pos hlt]
        obtain ⟨history', g', hg', hrun', hI', hend⟩ := ih next.size (hn ▸ hlt) hI rfl
        exact ⟨history ++ history', g', by rw [hg'], hrun.trans hrun', hI', hend⟩
      · rw [if_neg hlt]
        have heq : next = g := Merges.eq_of_size_le hrun.merges (Nat.le_of_not_lt hlt)
        refine ⟨history, next, ?_, hrun, hI, ?_⟩
        · rw [Recorded.pure_eq, List.append_nil]
        · rw [heq] at hnext ⊢
          rw [hnext]

theorem hasNs_afterMerge {g : ModuleGraph} {m other : SchemaModule} (hg : g.Simple)
    (hm : g.modules.find? m.id = some m) (hother : g.modules.find? other.id = some other)
    (hne : m.id ≠ other.id) (hns : m.ns = other.ns) {i : Int} {ns : Label} (hi : i ≠ other.id)
    (h : g.HasNs i ns) : (g.afterMerge m other).HasNs i ns := by
  have hafter := (isQuotient_afterMerge hg hm hother hne hns).hasNs h
  rw [renamed_of_ne hi] at hafter
  exact hafter

/-- The modules that are still to be merged into `m` keep their namespace when
    `other` is. -/
theorem hasNs_rest_afterMerge {g : ModuleGraph} {m other : SchemaModule} {rest : List Int}
    {ns : Label} (hg : g.Simple) (hm : g.modules.find? m.id = some m)
    (hother : g.modules.find? other.id = some other) (hne : m.id ≠ other.id)
    (hsame : m.ns = other.ns) (hlater : other.id ∉ rest)
    (hns : ∀ i ∈ m.id :: other.id :: rest, g.HasNs i ns) :
    ∀ i ∈ m.id :: rest, (g.afterMerge m other).HasNs i ns := by
  intro i hi
  rcases List.mem_cons.mp hi with rfl | hi
  · exact hasNs_afterMerge hg hm hother hne hsame hne (hns _ List.mem_cons_self)
  · -- A module that is still to come is not the one just taken over.
    have hio : i ≠ other.id := fun h => hlater (h ▸ hi)
    exact hasNs_afterMerge hg hm hother hne hsame hio
      (hns i (List.mem_cons_of_mem _ (List.mem_cons_of_mem _ hi)))

/-- Merging several modules of a namespace into one, step by step. The
    invariant `I` sees the modules that are still to be merged and gives the
    rule for the next merger. -/
theorem mergeInto_run (ok : MergeRule) (first : Int) (ns : Label)
    (I : List Int → ModuleGraph → Prop)
    (hstep : ∀ {g : ModuleGraph} {m other : SchemaModule} {rest : List Int}, g.Simple →
      g.modules.find? m.id = some m → g.modules.find? other.id = some other →
      m.id = first → m.id ≠ other.id → m.ns = other.ns → other.id ∉ rest →
      I (other.id :: rest) g → ok g m.id other.id ∧ I rest (g.afterMerge m other))
    {g : ModuleGraph} {others : List Int} (hg : g.Simple)
    (hns : ∀ i ∈ first :: others, g.HasNs i ns) (hnodup : (first :: others).Nodup)
    (hI : I others g) :
    ∃ history g', mergeIntoBy recordMerge g first others = ⟨history, .ok g'⟩ ∧
      Trail ok g history g' ∧ g'.Simple ∧ I [] g' := by
  -- Besides `I`: the modules to come are different and still have the namespace.
  have hfold := Recorded.foldlM_ok (f := fun g other => recordMerge g first other)
    (fun rest history g' => Trail ok g history g' ∧ g'.Simple ∧
      (∀ i ∈ first :: rest, g'.HasNs i ns) ∧ (first :: rest).Nodup ∧ I rest g') ?_
      (l := others) (b := g) ⟨.refl, hg, hns, hnodup, hI⟩
  · obtain ⟨history, g', hg', hrun, hsimple, -, -, hend⟩ := hfold
    exact ⟨history, g', hg', hrun, hsimple, hend⟩
  · rintro o rest history g' ⟨hrun, hcons, hall, hdistinct, hI'⟩
    obtain ⟨m, hm, hmns⟩ := hall first List.mem_cons_self
    obtain ⟨other, hother, hons⟩ := hall o (List.mem_cons_of_mem _ List.mem_cons_self)
    obtain rfl : m.id = first := hcons.keyed hm
    obtain rfl : other.id = o := hcons.keyed hother
    rw [List.nodup_cons, List.nodup_cons, List.mem_cons, not_or] at hdistinct
    obtain ⟨⟨hne, hfirst⟩, hlater, hrest⟩ := hdistinct
    have hsame : m.ns = other.ns := hmns.trans hons.symm
    obtain ⟨hok, hnext⟩ := hstep hcons hm hother rfl hne hsame hlater hI'
    refine ⟨_, g'.afterMerge m other,
      recordMerge_eq (merge_eq_ok hcons.toWired hm hother hne hsame),
      hrun.tail ⟨m, other, hm, hother, hne, hsame, hok, rfl⟩,
      simple_afterMerge hcons hm hother hne,
      hasNs_rest_afterMerge hcons hm hother hne hsame hlater hall,
      List.nodup_cons.mpr ⟨hfirst, hrest⟩, hnext⟩

/-! ## Collapsing cycles -/

/-- Live modules along a path are found with their namespaces. -/
theorem labelled_eq_ok {g : ModuleGraph} {path : List Int} (h : ∀ i ∈ path, g.Live i) :
    ∃ labels, g.labelled path = .ok labels ∧ labels.map (·.1) = path ∧
      ∀ e ∈ labels, g.HasNs e.1 e.2 := by
  induction path with
  | nil => exact ⟨[], rfl, rfl, by simp⟩
  | cons i rest ih =>
      obtain ⟨m, hm⟩ := h i List.mem_cons_self
      obtain ⟨labels, hlabels, hmap, hns⟩ := ih fun j hj => h j (List.mem_cons_of_mem i hj)
      refine ⟨(i, m.ns) :: labels, ?_, by rw [List.map_cons, hmap], ?_⟩
      · unfold labelled at hlabels ⊢
        rw [List.mapM_cons, module_eq_ok_iff.mpr hm, hlabels]
        rfl
      · intro e he
        rcases List.mem_cons.mp he with rfl | he
        · exact ⟨m, hm, rfl⟩
        · exact hns e he

/-- Collapsing a cycle within a namespace makes mergers of modules that reach
    each other, at least one. -/
theorem mergeInto_cycle {g : ModuleGraph} (hg : g.Simple) {first : Int}
    {others : List Int} (ns : Label) (hothers : others ≠ [])
    (hns : ∀ i ∈ first :: others, g.HasNs i ns) (hnodup : (first :: others).Nodup)
    (hmutual : ∀ o ∈ others, Mutual g first o) :
    ∃ history g', mergeIntoBy recordMerge g first others = ⟨history, .ok g'⟩ ∧
      Trail Mutual g history g' ∧ g'.size < g.size := by
  -- The modules on the cycle keep reaching each other, and those merged are gone.
  have hinto := mergeInto_run Mutual first ns
    (fun rest g' => (∀ o ∈ rest, Mutual g' first o) ∧ ∀ o ∈ others, o ∉ rest → ¬ g'.Live o)
    ?_ hg hns hnodup ⟨hmutual, fun o ho hrest => absurd ho hrest⟩
  · obtain ⟨history, g', hg', hrun, -, -, hgone⟩ := hinto
    refine ⟨history, g', hg', hrun, ?_⟩
    -- Were the size the same nothing had been merged, but one module is gone.
    by_contra hsize
    have heq : g' = g := Merges.eq_of_size_le hrun.merges (Nat.le_of_not_lt hsize)
    obtain ⟨o, ho⟩ := List.exists_mem_of_ne_nil others hothers
    obtain ⟨m, hm, -⟩ := hns o (List.mem_cons_of_mem first ho)
    exact hgone o ho List.not_mem_nil (heq ▸ ⟨m, hm⟩)
  · rintro g m other rest hg hm hother rfl hne hsame hlater ⟨hmutual, hgone⟩
    refine ⟨hmutual other.id List.mem_cons_self, fun o ho => ?_, fun o ho hrest hlive => ?_⟩
    · have hoo : o ≠ other.id := fun h => hlater (h ▸ ho)
      exact (hmutual o (List.mem_cons_of_mem _ ho)).afterMerge hg hm hother hne hsame hoo
    · obtain ⟨hlive, hoo⟩ := (live_afterMerge_iff hm hne).mp hlive
      refine hgone o ho (fun h => ?_) hlive
      rcases List.mem_cons.mp h with h | h
      · exact hoo h
      · exact hrest h

/-- Every node of a cycle is the start of an edge. -/
theorem live_of_isCycle {g : ModuleGraph} {path : List Int} (hpath : IsCycle g.Edge path)
    {i : Int} (hi : i ∈ path) : g.Live i := by
  obtain ⟨s, mid, rfl, -, hchain⟩ := id hpath
  have hstart : g.Live s := by
    cases mid with
    | nil => exact (List.isChain_pair.mp hchain).live
    | cons m mid => exact (List.isChain_cons_cons.mp hchain).1.live
  -- Any other node has an edge on its way back to the first.
  rcases (hpath.reaches hi List.mem_cons_self).cases_head with rfl | ⟨j, hij, -⟩
  · exact hstart
  · exact hij.live

/-- Not all modules on the path have one namespace. -/
def Spans (g : ModuleGraph) (path : List Int) : Prop :=
  ∃ i ∈ path, ∃ j ∈ path, ∃ ns ns', g.HasNs i ns ∧ g.HasNs j ns' ∧ ns ≠ ns'

/-- What a round of the first phase finds: the modules on a cycle with their
    namespaces, at least two. -/
structure Circle (g : ModuleGraph) (path : List Int) (first : Int) (ns : Label)
    (others : List (Int × Label)) : Prop where
  mem_path : ∀ i, i ∈ path ↔ i ∈ first :: others.map (·.1)
  others_ne : others ≠ []
  hasNs : ∀ e ∈ (first, ns) :: others, g.HasNs e.1 e.2
  nodup : (first :: others.map (·.1)).Nodup
  reaches : ∀ e ∈ others, Mutual g first e.1

theorem exists_foreign {ns : Label} {others : List (Int × Label)}
    (hall : ¬ (others.all fun e => e.2 = ns) = true) : ∃ e ∈ others, ns ≠ e.2 := by
  rw [List.all_eq_true] at hall
  push Not at hall
  obtain ⟨e, he, hens⟩ := hall
  exact ⟨e, he, fun heq => hens (decide_eq_true heq.symm)⟩

section

variable {g : ModuleGraph} {path : List Int} {first : Int} {ns : Label}
  {others : List (Int × Label)} (h : g.Circle path first ns others)
include h

/-- A circle within a namespace. -/
theorem Circle.sameNs (hall : (others.all fun e => e.2 = ns) = true) :
    ∀ i ∈ first :: others.map (·.1), g.HasNs i ns := by
  rw [List.all_eq_true] at hall
  intro i hi
  rcases List.mem_cons.mp hi with rfl | hi
  · exact h.hasNs (i, ns) List.mem_cons_self
  · obtain ⟨e, he, rfl⟩ := List.mem_map.mp hi
    have hns := h.hasNs e (List.mem_cons_of_mem _ he)
    rw [of_decide_eq_true (hall e he)] at hns
    exact hns

/-- The first module of a circle and any module on it reach each other. -/
theorem Circle.mutual : ∀ i ∈ first :: others.map (·.1), Mutual g first i := by
  intro i hi
  rcases List.mem_cons.mp hi with rfl | hi
  · exact ⟨.refl, .refl⟩
  · obtain ⟨e, he, rfl⟩ := List.mem_map.mp hi
    exact h.reaches e he

/-- A circle that leaves the namespace of its first module. -/
theorem Circle.hasMixedCycle (hall : ¬ (others.all fun e => e.2 = ns) = true) :
    g.HasMixedCycle := by
  obtain ⟨e, he, hne⟩ := exists_foreign hall
  exact .of_reaches (h.reaches e he).1 (h.reaches e he).2 (h.hasNs (first, ns) List.mem_cons_self)
    (h.hasNs e (List.mem_cons_of_mem _ he)) hne

/-- The namespaces of a circle are compared with that of its first module. -/
theorem Circle.spans_iff : g.Spans path ↔ ¬ (others.all fun e => e.2 = ns) = true := by
  constructor
  · rintro ⟨i, hi, j, hj, ns₁, ns₂, hi₁, hj₂, hne⟩ hall
    have hsame := h.sameNs hall
    have h₁ : ns₁ = ns := hi₁.unique (hsame i ((h.mem_path i).mp hi))
    have h₂ : ns₂ = ns := hj₂.unique (hsame j ((h.mem_path j).mp hj))
    exact hne (h₁.trans h₂.symm)
  · intro hall
    obtain ⟨e, he, hne⟩ := exists_foreign hall
    have hfirst : first ∈ path := (h.mem_path first).mpr List.mem_cons_self
    have hother : e.1 ∈ path :=
      (h.mem_path e.1).mpr (List.mem_cons_of_mem _ (List.mem_map_of_mem he))
    exact ⟨first, hfirst, e.1, hother, ns, e.2, h.hasNs (first, ns) List.mem_cons_self,
      h.hasNs e (List.mem_cons_of_mem _ he), hne⟩

end

/-- The circle of a cycle that was found, and where its labels stand. -/
theorem circle_of_isCycle {g : ModuleGraph} (hg : g.Simple) {path : List Int}
    (hpath : IsCycle g.Edge path) :
    ∃ labels first ns o others, g.labelled path = .ok labels ∧
      labels.dropLast = (first, ns) :: o :: others ∧ g.Circle path first ns (o :: others) := by
  have hlive : ∀ i ∈ path, g.Live i := fun i hi => live_of_isCycle hpath hi
  obtain ⟨labels, hlabels, hmap, hns⟩ := labelled_eq_ok hlive
  obtain ⟨first, mid, hsplit, hnodup, hchain⟩ := id hpath
  cases mid with
  | nil =>
      -- A cycle of one module would be an edge to itself.
      rw [hsplit] at hchain
      exact absurd (List.isChain_pair.mp hchain) (hg.loopless first)
  | cons m mid =>
      -- The last label repeats the first and is dropped.
      have hdropMap : labels.dropLast.map (·.1) = first :: m :: mid := by
        rw [List.map_dropLast, hmap, hsplit, ← List.cons_append, List.dropLast_concat]
      have hmodules : ∀ e ∈ labels.dropLast, g.HasNs e.1 e.2 ∧ e.1 ∈ path := by
        intro e he
        have hmem := List.dropLast_subset labels he
        refine ⟨hns e hmem, ?_⟩
        rw [← hmap]
        exact List.mem_map_of_mem hmem
      match hdrop : labels.dropLast, hdropMap with
      | (id, ns) :: o :: others, hdropMap =>
          rw [hdrop] at hmodules
          have hids : id :: (o :: others).map (·.1) = first :: m :: mid := hdropMap
          have hfirst := (hmodules (id, ns) List.mem_cons_self).2
          -- The first module closes the cycle, so it is on it in any case.
          have hpathIds : ∀ i, i ∈ path ↔ i ∈ id :: (o :: others).map (·.1) := by
            intro i
            rw [hids, hsplit, ← List.cons_append, List.mem_append, List.mem_singleton]
            exact ⟨fun h => h.elim (fun h => h) fun h => h ▸ List.mem_cons_self, Or.inl⟩
          refine ⟨labels, id, ns, o, others, hlabels, hdrop, ⟨hpathIds, List.cons_ne_nil _ _,
            fun e he => (hmodules e he).1, hids ▸ hnodup, fun e he => ?_⟩⟩
          have hother := (hmodules e (List.mem_cons_of_mem _ he)).2
          exact ⟨hpath.reaches hfirst hother, hpath.reaches hother hfirst⟩

/-- A round of the first phase, in any monad: it finds no cycle, or it finds a
    circle and merges it if it is within a namespace; else it only warns. -/
theorem collapseCycleBy_finds {M : Type → Type} [Monad M] [MonadLiftT (Except Failure) M]
    [MonadLog M]
    (hlift : ∀ {α β : Type} (a : α) (f : α → M β), (liftM (.ok a : Except Failure α) >>= f) = f a)
    (merge : ModuleGraph → Int → Int → M ModuleGraph) {g : ModuleGraph} (hg : g.Simple) :
    (g.cycle? = .ok none ∧ collapseCycleBy merge g = pure g ∧ Acyclic g.Edge) ∨
      ∃ path first ns others warning, g.cycle? = .ok (some path) ∧
        g.Circle path first ns others ∧ collapseCycleBy merge g =
        if (others.all fun e => e.2 = ns) then mergeIntoBy merge g first (others.map (·.1))
        else do
          MonadLog.write .warning warning
          return g := by
  unfold collapseCycleBy
  rcases cycle?_decides hg.toWired with ⟨path, hfound, hpath⟩ | ⟨hfound, hacyclic⟩
  · obtain ⟨labels, first, ns, o, others, hlabels, hdrop, hcircle⟩ := circle_of_isCycle hg hpath
    refine Or.inr ⟨path, first, ns, o :: others,
      "  Cannot merge cycle spanning namespaces: " ++ Failure.pathText labels, hfound, hcircle, ?_⟩
    rw [hfound, hlift]
    dsimp only
    rw [hlabels, hlift, hdrop]
  · refine Or.inl ⟨hfound, ?_, hacyclic⟩
    rw [hfound, hlift]

/-- The search finds no cycle, or one that spans namespaces. -/
def NothingToCollapse (g : ModuleGraph) : Prop :=
  g.cycle? = .ok none ∨ ∃ path, g.cycle? = .ok (some path) ∧ g.Spans path

/-- A round of the first phase leaves a graph that has no cycle, or one
    through two namespaces, as it is; any other it makes smaller. -/
theorem collapseCycleBy_cases {g : ModuleGraph} (hg : g.Simple) :
    (collapseCycleBy recordMerge g = ⟨[], .ok g⟩ ∧ g.NothingToCollapse ∧
        (Acyclic g.Edge ∨ g.HasMixedCycle)) ∨
      ∃ history g', collapseCycleBy recordMerge g = ⟨history, .ok g'⟩ ∧ ¬ g.NothingToCollapse ∧
        Trail Mutual g history g' ∧ g'.size < g.size := by
  rcases collapseCycleBy_finds Recorded.lift_ok_bind recordMerge hg with
    ⟨hfound, hround, hacyclic⟩ | ⟨path, first, ns, others, warning, hfound, hcircle, hround⟩
  · exact Or.inl ⟨hround, Or.inl hfound, Or.inl hacyclic⟩
  · rw [hround]
    by_cases hall : (others.all fun e => e.2 = ns) = true
    · rw [if_pos hall]
      have hids : others.map (·.1) ≠ [] := by
        rw [Ne, List.map_eq_nil_iff]
        exact hcircle.others_ne
      obtain ⟨history, g', hg', hrun, hlt⟩ :=
        mergeInto_cycle hg ns hids (hcircle.sameNs hall) hcircle.nodup
          fun i hi => hcircle.mutual i (List.mem_cons_of_mem first hi)
      refine Or.inr ⟨history, g', hg', ?_, hrun, hlt⟩
      -- The search has one answer, and this cycle is within a namespace.
      rintro (hnone | ⟨path', hfound', hspans⟩)
      · rw [hfound] at hnone
        cases hnone
      · rw [hfound] at hfound'
        cases hfound'
        exact hcircle.spans_iff.mp hspans hall
    · rw [if_neg hall]
      exact Or.inl ⟨rfl, Or.inr ⟨path, hfound, hcircle.spans_iff.mpr hall⟩,
        Or.inr (hcircle.hasMixedCycle hall)⟩

/-- A round of the first phase leaves as many modules exactly if it finds no
    cycle or one that spans namespaces. -/
theorem collapseCycleBy_stops_iff {g : ModuleGraph} (hg : g.Simple) :
    ∃ history g', collapseCycleBy recordMerge g = ⟨history, .ok g'⟩ ∧
      (¬ g'.size < g.size ↔ g.NothingToCollapse) := by
  rcases collapseCycleBy_cases hg with ⟨hround, hend, -⟩ | ⟨history, g', hround, hgo, -, hlt⟩
  · exact ⟨[], g, hround, iff_of_true (Nat.lt_irrefl _) hend⟩
  · exact ⟨history, g', hround, iff_of_false (not_not_intro hlt) hgo⟩

/-- The first phase ends without a cycle or with one through two
    namespaces. -/
theorem mergeCyclesBy_run {g : ModuleGraph} (hg : g.Simple) :
    ∃ history g', mergeCyclesBy recordMerge g = ⟨history, .ok g'⟩ ∧ Trail Mutual g history g' ∧
      (Acyclic g'.Edge ∨ g'.HasMixedCycle) := by
  have hshrink := shrinkBy_run Mutual (collapseCycleBy recordMerge) Simple ?_ hg
  · obtain ⟨history, g', hg', hrun, hsimple, hend⟩ := hshrink
    refine ⟨history, g', hg', hrun, ?_⟩
    -- The last round changed nothing, so it did not make the graph smaller.
    rcases collapseCycleBy_cases hsimple with ⟨-, -, h⟩ | ⟨history', next, hnext, -, -, hlt⟩
    · exact h
    · rw [hnext, Except.ok.injEq] at hend
      rw [hend] at hlt
      exact absurd hlt (Nat.lt_irrefl _)
  · intro g hg
    rcases collapseCycleBy_cases hg with ⟨hout, -⟩ | ⟨history, next, hnext, -, hrun, -⟩
    · exact ⟨[], g, hout, .refl, hg⟩
    · exact ⟨history, next, hnext, hrun, hrun.merges.simple hg⟩

/-! ## Groups of like modules -/

section Groups

variable {α κ : Type} [DecidableEq κ]

/-- Grouping puts the entries with a key at the end of the group of the key. -/
theorem find?_foldl_group (key : α → Option κ) (l : List α) (groups : Registry κ (List α))
    (k : κ) :
    (l.foldl (fun groups a =>
      match key a with
      | none => groups
      | some k => groups.insert k ((groups.find? k).getD [] ++ [a])) groups).find? k =
      if (l.filter fun a => key a = some k) = [] then groups.find? k
      else some ((groups.find? k).getD [] ++ l.filter fun a => key a = some k) := by
  induction l generalizing groups with
  | nil => rfl
  | cons a rest ih =>
      rw [List.foldl_cons, ih]
      cases hkey : key a with
      | none => simp [hkey]
      | some j =>
          dsimp only
          rw [Registry.find?_insert]
          -- The entry goes to the end of its group and leaves the others alone.
          by_cases hj : k = j
          · subst hj
            rw [if_pos rfl, List.filter_cons_of_pos (by simp [hkey]), if_neg (List.cons_ne_nil _ _)]
            split
            · rename_i hnil
              rw [hnil]
            · rw [Option.getD_some, List.append_assoc]
              rfl
          · rw [if_neg hj, List.filter_cons_of_neg (by simp [hkey, Ne.symm hj])]

/-- The group of a key holds the entries with that key, in order. -/
theorem find?_groupOn {key : α → Option κ} {l : List α} {k : κ} {group : List α} :
    (groupOn key l).find? k = some group ↔
      group ≠ [] ∧ group = l.filter fun a => key a = some k := by
  have hfold : (groupOn key l).find? k = _ := find?_foldl_group key l ∅ k
  rw [hfold]
  split
  · rename_i hnil
    rw [hnil, Registry.find?_empty]
    grind
  · rename_i hne
    rw [Registry.find?_empty, Option.some.injEq]
    constructor
    · rintro rfl
      exact ⟨hne, rfl⟩
    · rintro ⟨-, rfl⟩
      rfl

/-- No entry is in two groups. -/
theorem disjoint_groupOn (key : α → Option κ) (l : List α) :
    (groupOn key l).values.Pairwise List.Disjoint := by
  have hkeys := (groupOn key l).keys_nodup
  unfold Registry.values
  rw [List.Nodup, List.pairwise_map] at hkeys
  rw [List.pairwise_map]
  refine hkeys.imp_of_mem ?_
  intro e e' he he' hne a ha ha'
  have hgroup := (find?_groupOn.mp (Registry.find?_eq_some_iff.mpr he)).2
  have hgroup' := (find?_groupOn.mp (Registry.find?_eq_some_iff.mpr he')).2
  rw [hgroup, List.mem_filter, decide_eq_true_eq] at ha
  rw [hgroup', List.mem_filter, decide_eq_true_eq] at ha'
  exact hne (Option.some.inj (ha.2.symm.trans ha'.2))

end Groups

/-- The listed modules stand under their ids. -/
theorem map_id_sortedModules {g : ModuleGraph} (hw : g.Wired) :
    g.sortedModules.map (·.id) = g.sortedIds := by
  have hlist : ∀ l : List Int, (∀ i ∈ l, g.Live i) →
      (l.filterMap g.modules.find?).map (·.id) = l := by
    intro l
    induction l with
    | nil => exact fun _ => rfl
    | cons i rest ih =>
        intro hlive
        obtain ⟨m, hm⟩ := hlive i List.mem_cons_self
        rw [List.filterMap_cons_some hm, List.map_cons, hw.keyed hm,
          ih fun j hj => hlive j (List.mem_cons_of_mem i hj)]
  exact hlist g.sortedIds fun i hi => mem_sortedIds.mp hi

theorem mem_sortedModules {g : ModuleGraph} (hw : g.Wired) {m : SchemaModule} :
    m ∈ g.sortedModules ↔ g.modules.find? m.id = some m := by
  unfold sortedModules
  rw [List.mem_filterMap]
  constructor
  · rintro ⟨i, -, hm⟩
    rw [hw.keyed hm]
    exact hm
  · intro hm
    exact ⟨m.id, mem_sortedIds.mpr ⟨m, hm⟩, hm⟩

/-- Different live modules of one namespace, each two of them alike. -/
structure Group (like : MergeRule) (g : ModuleGraph) (ids : List Int) : Prop where
  nodup : ids.Nodup
  ns : ∃ ns, ∀ i ∈ ids, g.HasNs i ns
  alike : ∀ i ∈ ids, ∀ j ∈ ids, i ≠ j → like g i j

theorem Group.sublist {like : MergeRule} {g : ModuleGraph} {ids ids' : List Int}
    (h : Group like g ids) (hsub : ids'.Sublist ids) : Group like g ids' where
  nodup := h.nodup.sublist hsub
  ns := h.ns.imp fun _ hns i hi => hns i (hsub.subset hi)
  alike i hi j hj := h.alike i (hsub.subset hi) j (hsub.subset hj)

/-- A group stays one when two like modules are merged, unless the module that
    is taken over belongs to it. -/
theorem Group.afterMerge {like : MergeRule} (hlike : Likeness like) {g : ModuleGraph}
    {m other : SchemaModule} {ids : List Int} (hg : g.Simple)
    (hm : g.modules.find? m.id = some m) (hother : g.modules.find? other.id = some other)
    (hne : m.id ≠ other.id) (hns : m.ns = other.ns) (hpair : like g m.id other.id)
    (hout : other.id ∉ ids) (h : Group like g ids) : Group like (g.afterMerge m other) ids where
  nodup := h.nodup
  ns := by
    obtain ⟨ns, hall⟩ := h.ns
    refine ⟨ns, fun i hi => ?_⟩
    exact hasNs_afterMerge hg hm hother hne hns (ne_of_mem_of_not_mem hi hout) (hall i hi)
  alike i hi j hj hij :=
    hlike.stable hg hm hother hne hpair (ne_of_mem_of_not_mem hi hout)
      (ne_of_mem_of_not_mem hj hout) (h.alike i hi j hj hij)

/-- Merging a group is safe and leaves the groups that share no module with it
    as they are. -/
theorem mergeInto_group {like : MergeRule} (hlike : Likeness like) {g : ModuleGraph}
    {first : Int} {others : List Int} {later : List (List Int)} (hg : g.Simple)
    (hgroup : Group like g (first :: others)) (hlater : ∀ ids ∈ later, Group like g ids)
    (hapart : ∀ ids ∈ later, (first :: others).Disjoint ids) :
    ∃ history g', mergeIntoBy recordMerge g first others = ⟨history, .ok g'⟩ ∧
      Trail Safe g history g' ∧ g'.Simple ∧ ∀ ids ∈ later, Group like g' ids := by
  obtain ⟨ns, hns⟩ := hgroup.ns
  -- Later groups stay groups: no merger touches a module of theirs.
  have hinto := mergeInto_run Safe first ns
    (fun rest g' => Group like g' (first :: rest) ∧ (∀ ids ∈ later, Group like g' ids) ∧
      ∀ ids ∈ later, (first :: rest).Disjoint ids) ?_ hg hns hgroup.nodup
    ⟨hgroup, hlater, hapart⟩
  · obtain ⟨history, g', hg', hrun, hsimple, -, hlater', -⟩ := hinto
    exact ⟨history, g', hg', hrun, hsimple, hlater'⟩
  · rintro g m other rest hg hm hother rfl hne hsame hrest ⟨hgroup, hlater, hapart⟩
    have hpair : like g m.id other.id :=
      hgroup.alike _ List.mem_cons_self _ (List.mem_cons_of_mem _ List.mem_cons_self) hne
    have hsub : (m.id :: rest).Sublist (m.id :: other.id :: rest) :=
      (List.sublist_cons_self other.id rest).cons_cons m.id
    have hout : other.id ∉ m.id :: rest := by
      rw [List.mem_cons, not_or]
      exact ⟨hne.symm, hrest⟩
    refine ⟨hlike.safe hne hpair, ?_, fun ids hids => ?_, fun ids hids => ?_⟩
    · exact (hgroup.sublist hsub).afterMerge hlike hg hm hother hne hsame hpair hout
    · refine (hlater ids hids).afterMerge hlike hg hm hother hne hsame hpair fun hmem => ?_
      exact hapart ids hids (List.mem_cons_of_mem _ List.mem_cons_self) hmem
    · exact List.disjoint_of_subset_left hsub.subset (hapart ids hids)

/-- Modules with one key are alike. -/
structure Likens {κ : Type} (key : SchemaModule → Option κ) (like : MergeRule) : Prop where
  likeness : Likeness like
  alike : ∀ {g : ModuleGraph} {m n : SchemaModule} {k}, g.Wired →
    g.modules.find? m.id = some m → g.modules.find? n.id = some n → key m = some k →
    key n = some k → like g m.id n.id

/-- The groups of live modules with one namespace and one key. -/
theorem group_of_groupOn {κ : Type} [DecidableEq κ] {key : SchemaModule → Option κ}
    {like : MergeRule} {g : ModuleGraph} (hw : g.Wired) (hkey : Likens key like)
    {group : List SchemaModule}
    (h : group ∈ (groupOn (fun m => (key m).map fun k => (m.ns, k)) g.sortedModules).values) :
    Group like g (group.map (·.id)) := by
  obtain ⟨⟨ns, k⟩, hfind⟩ := Registry.mem_values.mp h
  obtain ⟨-, rfl⟩ := find?_groupOn.mp hfind
  -- What is known of a module in the group of a namespace and a key.
  have hmem : ∀ i ∈ (g.sortedModules.filter fun m =>
      (key m).map (fun k => (m.ns, k)) = some (ns, k)).map (·.id),
      ∃ m, g.modules.find? m.id = some m ∧ m.ns = ns ∧ key m = some k ∧ m.id = i := by
    intro i hi
    obtain ⟨m, hm, rfl⟩ := List.mem_map.mp hi
    rw [List.mem_filter, mem_sortedModules hw, decide_eq_true_eq, Option.map_eq_some_iff] at hm
    obtain ⟨hlive, k', hk', heq⟩ := hm
    obtain ⟨rfl, rfl⟩ := Prod.mk.inj heq
    exact ⟨m, hlive, rfl, hk', rfl⟩
  refine ⟨?_, ⟨ns, fun i hi => ?_⟩, fun i hi j hj _ => ?_⟩
  · refine List.Nodup.sublist (List.filter_sublist.map _) ?_
    rw [map_id_sortedModules hw]
    exact nodup_sortedIds g
  · obtain ⟨m, hm, hns, -, rfl⟩ := hmem i hi
    exact ⟨m, hm, hns⟩
  · obtain ⟨m, hm, -, hmk, rfl⟩ := hmem i hi
    obtain ⟨n, hn, -, hnk, rfl⟩ := hmem j hj
    exact hkey.alike hw hm hn hmk hnk

/-- No module is in two groups. -/
theorem disjoint_ids_groupOn {κ : Type} [DecidableEq κ] (key : SchemaModule → Option κ)
    {g : ModuleGraph} (hw : g.Wired) :
    ((groupOn key g.sortedModules).values.map fun group => group.map (·.id)).Pairwise
      List.Disjoint := by
  rw [List.pairwise_map]
  refine (disjoint_groupOn key g.sortedModules).imp_of_mem ?_
  intro group group' hgroup hgroup' hdisjoint i hi hi'
  obtain ⟨m, hm, rfl⟩ := List.mem_map.mp hi
  obtain ⟨m', hm', hid⟩ := List.mem_map.mp hi'
  -- Modules are found under their ids, so equal ids are equal modules.
  have hlive : ∀ {l n}, l ∈ (groupOn key g.sortedModules).values → n ∈ l →
      g.modules.find? n.id = some n := by
    intro l n hl hn
    obtain ⟨k, hk⟩ := Registry.mem_values.mp hl
    rw [(find?_groupOn.mp hk).2, List.mem_filter] at hn
    exact (mem_sortedModules hw).mp hn.1
  have hfind := hlive hgroup hm
  rw [← hid, hlive hgroup' hm', Option.some.injEq] at hfind
  exact hdisjoint hm (hfind ▸ hm')

/-- A round that merges groups of like modules makes safe mergers only. -/
theorem mergeGroupsOnceBy_run {κ : Type} [DecidableEq κ] {key : SchemaModule → Option κ}
    {like : MergeRule} (hkey : Likens key like) {g : ModuleGraph} (hg : g.Simple) :
    ∃ history g', mergeGroupsOnceBy recordMerge key g = ⟨history, .ok g'⟩ ∧
      Trail Safe g history g' ∧ g'.Simple := by
  unfold mergeGroupsOnceBy
  dsimp only
  -- The groups were made once; those still to come must stay groups.
  refine (Recorded.foldlM_ok (fun (rest : List (List SchemaModule)) history g' =>
      Trail Safe g history g' ∧ g'.Simple ∧
        (∀ ids ∈ rest.map (fun group => group.map (·.id)), Group like g' ids) ∧
        (rest.map fun group => group.map (·.id)).Pairwise List.Disjoint) ?_
    ⟨.refl, hg, ?_, disjoint_ids_groupOn _ hg.toWired⟩).imp
    fun history => Exists.imp fun g' ⟨hg', hrun, hsimple, _⟩ => ⟨hg', hrun, hsimple⟩
  · rintro group rest history g' ⟨hrun, hcons, hgroups, hapart⟩
    rw [List.map_cons] at hgroups hapart
    rw [List.pairwise_cons] at hapart
    obtain ⟨hgroup, hlater⟩ := List.forall_mem_cons.mp hgroups
    revert hgroup hapart
    -- The group is empty or has a first module, which takes over the others.
    generalize group.map (·.id) = ids
    intro hapart hgroup
    cases ids with
    | nil =>
        refine ⟨[], g', rfl, ?_, hcons, hlater, hapart.2⟩
        rw [List.append_nil]
        exact hrun
    | cons first others =>
        obtain ⟨more, g'', hg'', hrun', hcons', hlater'⟩ :=
          mergeInto_group hkey.likeness hcons hgroup hlater hapart.1
        exact ⟨more, g'', hg'', hrun.trans hrun', hcons', hlater', hapart.2⟩
  · intro ids hids
    obtain ⟨group, hgroup, rfl⟩ := List.mem_map.mp hids
    exact group_of_groupOn hg.toWired hkey hgroup

/-- A round of groups leaves as many modules exactly if it makes no merger: no
    group has two modules. -/
theorem mergeGroupsOnceBy_stops_iff {κ : Type} [DecidableEq κ] {key : SchemaModule → Option κ}
    {like : MergeRule} (hkey : Likens key like) {g : ModuleGraph} (hg : g.Simple) :
    ∃ history g', mergeGroupsOnceBy recordMerge key g = ⟨history, .ok g'⟩ ∧
      (¬ g'.size < g.size ↔ history = []) ∧
      (history = [] ↔ ∀ group ∈ (groupOn (fun m => (key m).map fun k => (m.ns, k))
        g.sortedModules).values, group.length ≤ 1) := by
  obtain ⟨history, g', hround, hrun, -⟩ := mergeGroupsOnceBy_run hkey hg
  refine ⟨history, g', hround, ?_, ?_⟩
  · have hsize := hrun.size_add_length
    rw [← List.length_eq_zero_iff]
    omega
  · -- One merger is on record for every module of a group but its first.
    rw [← List.length_eq_zero_iff, length_of_mergeGroupsOnceBy hround, List.length_eq_zero_iff,
      List.flatMap_eq_nil_iff]
    simp only [← List.length_eq_zero_iff, List.length_tail, Nat.sub_eq_zero_iff_le]

/-- A phase that merges groups of like modules makes safe mergers only. -/
theorem mergeGroupsBy_run {κ : Type} [DecidableEq κ] {key : SchemaModule → Option κ}
    {like : MergeRule} (hkey : Likens key like) {g : ModuleGraph} (hg : g.Simple) :
    ∃ history g', mergeGroupsBy recordMerge key g = ⟨history, .ok g'⟩ ∧
      Trail Safe g history g' := by
  have hshrink := shrinkBy_run Safe (mergeGroupsOnceBy recordMerge key) Simple
    (fun _ hg => mergeGroupsOnceBy_run hkey hg) hg
  obtain ⟨history, g', hg', hrun, -, -⟩ := hshrink
  exact ⟨history, g', hg', hrun⟩

theorem likens_withoutDependencies : Likens withoutDependencies BothSinks := by
  refine ⟨likeness_bothSinks, fun {g m n k} _ hm hn hmk hnk => ?_⟩
  have hsink : ∀ {x : SchemaModule}, g.modules.find? x.id = some x →
      withoutDependencies x = some k → ∀ c, ¬ g.Edge x.id c := by
    rintro x hx hxk c ⟨x', hx', hc⟩
    rw [hx, Option.some.injEq] at hx'
    unfold withoutDependencies at hxk
    rw [← hx', OrderedSet.mem_def] at hc
    split at hxk
    · rename_i hempty
      rw [OrderedSet.isEmpty, List.isEmpty_iff] at hempty
      rw [hempty] at hc
      exact absurd hc List.not_mem_nil
    · cases hxk
  exact ⟨hsink hm hmk, hsink hn hnk⟩

theorem likens_withoutDependents : Likens withoutDependents BothSources := by
  refine ⟨likeness_bothSources, fun {g m n k} hw hm hn hmk hnk => ?_⟩
  have hsource : ∀ {x : SchemaModule}, g.modules.find? x.id = some x →
      withoutDependents x = some k → ∀ c, ¬ g.Edge c x.id := by
    rintro x hx hxk c ⟨y, hy, hc⟩
    obtain ⟨x', hx', hback⟩ := hw.forth hy hc
    rw [hx, Option.some.injEq] at hx'
    unfold withoutDependents at hxk
    rw [← hx', OrderedSet.mem_def] at hback
    split at hxk
    · rename_i hempty
      rw [OrderedSet.isEmpty, List.isEmpty_iff] at hempty
      rw [hempty] at hback
      exact absurd hback List.not_mem_nil
    · cases hxk
  exact ⟨hsource hm hmk, hsource hn hnk⟩

theorem likens_sameNeighbours : Likens sameNeighbours SameDependencies := by
  refine ⟨likeness_sameDependencies, fun {g m n k} _ hm hn hmk hnk => ?_⟩
  have hdeps : m.dependsOn = n.dependsOn :=
    congrArg Prod.fst (Option.some.inj (hmk.trans hnk.symm))
  intro c
  unfold Edge
  rw [hm, hn]
  simp [hdeps]

end SchemaRecovery.ModuleGraph
