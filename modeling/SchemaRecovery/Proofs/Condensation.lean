/-
  SchemaRecovery.Proofs.Condensation

  The first phase of the compaction and the modules that reach each other. The
  phase is run with the merger that keeps track of where each module
  goes (`trackMerge`), which changes nothing of its outcome
  (`trackedReading`). A round collapses one circle; over all rounds the classes
  of modules that were put together are classes of modules that reached each
  other at the start. If these have one namespace each, the phase leaves exactly
  their condensation (`mergeCycles_condenses`).
-/
import SchemaRecovery.Proofs.MergePhases

namespace SchemaRecovery.ModuleGraph

open Relation

/-! ## Keeping track of modules -/

/-- Computations that know which module each module is part of by now. -/
abbrev Tracked := StateT (Int → Int) (Except Failure)

/-- Log entries are dropped. -/
instance : MonadLog Tracked where
  write _ _ := pure ()

/-- Merges two modules. What was part of the second is then part of the
    first. -/
def trackMerge (g : ModuleGraph) (a b : Int) : Tracked ModuleGraph := do
  let g' ← g.merge a b
  modifyThe (Int → Int) fun part => renamed a b ∘ part
  return g'

theorem trackMerge_eq {g g' : ModuleGraph} {a b : Int} (h : g.merge a b = .ok g')
    (part : Int → Int) : (trackMerge g a b).run part = .ok (g', renamed a b ∘ part) := by
  unfold trackMerge
  rw [h]
  rfl

theorem Tracked.lift_ok_bind {α β : Type} (a : α) (f : α → Tracked β) :
    (liftM (.ok a : Except Failure α) >>= f) = f a := rfl

/-- Two tracked computations in a row. -/
theorem Tracked.run_bind_ok {α β : Type} {x : Tracked α} {part part' : Int → Int} {a : α}
    (h : x.run part = .ok (a, part')) (f : α → Tracked β) :
    (x >>= f).run part = (f a).run part' := by
  rw [StateT.run_bind, h]
  rfl

/-- Wherever modules were before, the outcome is the same. -/
def trackedReading : Reading Tracked where
  yields x e := ∀ part, (x.run part).map Prod.fst = e
  pure _ _ := rfl
  lift x _ := by cases x <;> rfl
  bind {_ _ x e f k} hx hf part := by
    rw [StateT.run_bind, ← hx part]
    cases x.run part with
    | error e => rfl
    | ok r => exact hf r.1 r.2
  write _ _ _ := rfl

theorem trackedReading_trackMerge (g : ModuleGraph) (a b : Int) :
    trackedReading.yields (trackMerge g a b) (g.merge a b) := by
  intro part
  unfold trackMerge
  cases g.merge a b <;> rfl

/-! ## Collapsing a circle -/

/-- Each of `others` goes to `first`. -/
def collapse (first : Int) (others : List Int) (i : Int) : Int := if i ∈ others then first else i

theorem collapse_cons (first o : Int) (rest : List Int) :
    collapse first rest ∘ renamed first o = collapse first (o :: rest) := by
  funext i
  unfold collapse
  rw [Function.comp_apply]
  by_cases hio : i = o
  · rw [hio, renamed_right, ite_self, if_pos List.mem_cons_self]
  · rw [renamed_of_ne hio]
    simp only [List.mem_cons, hio, false_or]

/-- Different modules that go to one place were among those collapsed. -/
theorem mem_of_collapse_eq {first : Int} {others : List Int} {i j : Int}
    (h : collapse first others i = collapse first others j) :
    i = j ∨ (i ∈ first :: others ∧ j ∈ first :: others) := by
  unfold collapse at h
  grind

/-- Merging several modules of a namespace into one collapses them. -/
theorem mergeInto_tracked {g : ModuleGraph} {first : Int} {others : List Int} (hg : g.Simple)
    {ns : Label} (hns : ∀ i ∈ first :: others, g.HasNs i ns) (hnodup : (first :: others).Nodup)
    (part : Int → Int) :
    ∃ g', (mergeIntoBy trackMerge g first others).run part =
        .ok (g', collapse first others ∘ part) ∧
      g'.Simple ∧ IsQuotient g g' (collapse first others) ∧ g'.size + others.length = g.size := by
  induction others generalizing g part with
  | nil =>
      have hid : collapse first [] = id := by
        funext i
        exact if_neg List.not_mem_nil
      rw [hid]
      exact ⟨g, rfl, hg, .refl hg.loopless, rfl⟩
  | cons o rest ih =>
      obtain ⟨m, hm, hmns⟩ := hns first List.mem_cons_self
      obtain ⟨other, hother, hons⟩ := hns o (List.mem_cons_of_mem _ List.mem_cons_self)
      obtain rfl : m.id = first := hg.keyed hm
      obtain rfl : other.id = o := hg.keyed hother
      rw [List.nodup_cons, List.nodup_cons, List.mem_cons, not_or] at hnodup
      obtain ⟨⟨hne, hfirst⟩, hlater, hrest⟩ := hnodup
      have hsame : m.ns = other.ns := hmns.trans hons.symm
      have hstay := hasNs_rest_afterMerge hg hm hother hne hsame hlater hns
      obtain ⟨g', hrun, hsimple, hquot, hsize⟩ :=
        ih (simple_afterMerge hg hm hother hne) hstay (List.nodup_cons.mpr ⟨hfirst, hrest⟩)
          (renamed m.id other.id ∘ part)
      refine ⟨g', ?_, hsimple, ?_, ?_⟩
      · unfold mergeIntoBy at hrun ⊢
        rw [List.foldlM_cons,
          Tracked.run_bind_ok (trackMerge_eq (merge_eq_ok hg.toWired hm hother hne hsame) part),
          hrun, ← Function.comp_assoc, collapse_cons]
      · rw [← collapse_cons]
        exact (isQuotient_afterMerge hg hm hother hne hsame).trans hquot
      · have hone := size_afterMerge hm hother hne
        rw [List.length_cons]
        omega

/-- The second graph is the first with classes of modules that reach each other
    put together. -/
structure Collapses (g g' : ModuleGraph) (cls : Int → Int) : Prop where
  simple : g'.Simple
  quotient : IsQuotient g g' cls
  reaches : ∀ i j, cls i = cls j → Mutual g i j

theorem Collapses.refl {g : ModuleGraph} (hg : g.Simple) : Collapses g g id where
  simple := hg
  quotient := .refl hg.loopless
  reaches i j h := by
    obtain rfl : i = j := h
    exact ⟨.refl, .refl⟩

theorem Collapses.trans {g₁ g₂ g₃ : ModuleGraph} {cls cls' : Int → Int}
    (h : Collapses g₁ g₂ cls) (h' : Collapses g₂ g₃ cls') : Collapses g₁ g₃ (cls' ∘ cls) where
  simple := h'.simple
  quotient := h.quotient.trans h'.quotient
  reaches i j hij := by
    -- What is reached among the classes is reached among their members.
    have hmembers : ∀ x y, cls x = cls y → ReflTransGen g₁.Edge x y :=
      fun x y hxy => (h.reaches x y hxy).1
    have hmutual := h'.reaches (cls i) (cls j) hij
    exact ⟨h.quotient.reaches_of hmembers hmutual.1, h.quotient.reaches_of hmembers hmutual.2⟩

/-- A round of the first phase leaves a graph without cycles, or with a cycle
    through two namespaces, as it is; else it collapses modules that reach each
    other and leaves fewer. -/
theorem collapseCycle_tracked {g : ModuleGraph} (hg : g.Simple) (part : Int → Int) :
    ((collapseCycleBy trackMerge g).run part = .ok (g, part) ∧
        (Acyclic g.Edge ∨ g.HasMixedCycle)) ∨
      ∃ g' cls, (collapseCycleBy trackMerge g).run part = .ok (g', cls ∘ part) ∧
        Collapses g g' cls ∧ g'.size < g.size := by
  rcases collapseCycleBy_finds Tracked.lift_ok_bind trackMerge hg with
    ⟨-, hround, hacyclic⟩ | ⟨path, first, ns, others, warning, -, hcircle, hround⟩
  · rw [hround]
    exact Or.inl ⟨rfl, Or.inl hacyclic⟩
  · rw [hround]
    by_cases hall : (others.all fun e => e.2 = ns) = true
    · rw [if_pos hall]
      obtain ⟨g', hrun, hsimple, hquot, hsize⟩ :=
        mergeInto_tracked hg (hcircle.sameNs hall) hcircle.nodup part
      refine Or.inr ⟨g', _, hrun, ⟨hsimple, hquot, fun i j hij => ?_⟩, ?_⟩
      · have hfirst := hcircle.mutual
        rcases mem_of_collapse_eq hij with rfl | ⟨hi, hj⟩
        · exact ⟨.refl, .refl⟩
        · exact ⟨(hfirst i hi).2.trans (hfirst j hj).1, (hfirst j hj).2.trans (hfirst i hi).1⟩
      · rw [List.length_map] at hsize
        have hpos := List.length_pos_iff.mpr hcircle.others_ne
        omega
    · rw [if_neg hall]
      exact Or.inl ⟨rfl, Or.inr (hcircle.hasMixedCycle hall)⟩

/-! ## The whole phase -/

/-- The first phase ends, and all it does is to collapse modules that reach each
    other, until there is no cycle or one through two namespaces. -/
theorem mergeCycles_tracked {g : ModuleGraph} (hg : g.Simple) (part : Int → Int) :
    ∃ g' cls, (mergeCyclesBy trackMerge g).run part = .ok (g', cls ∘ part) ∧
      Collapses g g' cls ∧ (Acyclic g'.Edge ∨ g'.HasMixedCycle) := by
  unfold mergeCyclesBy
  -- Induction on the number of live modules, which falls with every round but the last.
  generalize hn : g.size = n
  induction n using Nat.strongRecOn generalizing g part with
  | _ n ih =>
      rw [shrinkBy]
      rcases collapseCycle_tracked hg part with ⟨hround, hend⟩ | ⟨next, cls, hround, hnext, hlt⟩
      · rw [Tracked.run_bind_ok hround, if_neg (Nat.lt_irrefl _)]
        exact ⟨g, id, rfl, .refl hg, hend⟩
      · rw [Tracked.run_bind_ok hround, if_pos hlt]
        obtain ⟨g', cls', hrun, hcollapses, hend⟩ :=
          ih next.size (hn ▸ hlt) hnext.simple (cls ∘ part) rfl
        exact ⟨g', cls' ∘ cls, hrun, hnext.trans hcollapses, hend⟩

/-- In a quotient without cycles modules that reach each other are one. -/
theorem IsQuotient.eq_of_mutual {g g' : ModuleGraph} {cls : Int → Int} (h : IsQuotient g g' cls)
    (hacyclic : Acyclic g'.Edge) {i j : Int} (hij : Mutual g i j) : cls i = cls j := by
  by_contra hne
  have hforth := (reflTransGen_iff_eq_or_transGen.mp (h.reaches hij.1)).resolve_left (Ne.symm hne)
  exact hacyclic _ (hforth.trans_left (h.reaches hij.2))

/-- In every wired graph without loops the first phase ends and does not fail.
    It only ever puts modules together that reached each other at the start.
    If modules that reach each other have one namespace, it leaves their
    condensation: two modules are one in the end exactly if they reach each
    other, and there is an edge between two results exactly if they differ and
    an edge of the start joins their components. -/
theorem mergeCycles_condenses {g : ModuleGraph} (hg : g.Simple) :
    ∃ g' cls, (mergeCyclesBy trackMerge g).run id = .ok (g', cls) ∧
      (mergeCycles g).outcome = .ok g' ∧ IsQuotient g g' cls ∧
      (∀ i j, cls i = cls j → Mutual g i j) ∧
      ((∀ i j ns ns', Mutual g i j → g.HasNs i ns → g.HasNs j ns' → ns = ns') →
        (∀ i j, cls i = cls j ↔ Mutual g i j) ∧
        ∀ i j, g'.Edge (cls i) (cls j) ↔
          ¬ Mutual g i j ∧ ∃ i' j', Mutual g i i' ∧ Mutual g j j' ∧ g.Edge i' j') := by
  obtain ⟨g', cls, hrun, hcollapses, hend⟩ := mergeCycles_tracked hg id
  have houtcome : (mergeCycles g).outcome = .ok g' := by
    rw [← trackedReading.mergeCycles trackedReading_trackMerge g id, hrun]
    rfl
  refine ⟨g', cls, hrun, houtcome, hcollapses.quotient, hcollapses.reaches, fun hsame => ?_⟩
  have hacyclic : Acyclic g'.Edge := by
    refine hend.resolve_right fun hmixed => not_hasMixedCycle_iff.mpr hsame ?_
    have hreach := fun i j hij => (hcollapses.reaches i j hij).1
    exact hcollapses.quotient.hasMixedCycle_of hreach hmixed
  have hclass : ∀ i j, cls i = cls j ↔ Mutual g i j := fun i j =>
    ⟨hcollapses.reaches i j, fun hij => hcollapses.quotient.eq_of_mutual hacyclic hij⟩
  refine ⟨hclass, fun i j => ?_⟩
  rw [hcollapses.quotient.edges]
  unfold quotientBy
  rw [← hclass]
  refine and_congr_right fun _ => ⟨?_, ?_⟩
  · rintro ⟨i', j', hedge, hi, hj⟩
    exact ⟨i', j', (hclass i i').mp hi.symm, (hclass j j').mp hj.symm, hedge⟩
  · rintro ⟨i', j', hi, hj, hedge⟩
    exact ⟨i', j', hedge, ((hclass i i').mpr hi).symm, ((hclass j j').mpr hj).symm⟩

/-- The first two modules of `tangled` become one, and the third depends on it. -/
theorem mergeCycles_condenses_tangled :
    ∃ g' cls, (mergeCyclesBy trackMerge tangled).run id = .ok (g', cls) ∧
      (mergeCycles tangled).outcome = .ok g' ∧ cls 1 = cls 2 ∧ cls 1 ≠ cls 3 ∧
      g'.Edge (cls 3) (cls 1) := by
  obtain ⟨g', cls, hrun, houtcome, -, -, hcondenses⟩ := mergeCycles_condenses simple_tangled
  have h12 : tangled.Edge 1 2 := edge_tangled_iff.mpr (by decide)
  have h21 : tangled.Edge 2 1 := edge_tangled_iff.mpr (by decide)
  have h32 : tangled.Edge 3 2 := edge_tangled_iff.mpr (by decide)
  have hsame : ∀ i j ns ns', Mutual tangled i j → tangled.HasNs i ns → tangled.HasNs j ns' →
      ns = ns' := by
    have hns : ∀ {i ns}, tangled.HasNs i ns → ns = some "A" := by
      rintro i ns ⟨m, hm, rfl⟩
      rcases find?_tangled hm with ⟨rfl, h⟩ | ⟨rfl, h⟩ | ⟨rfl, h⟩ <;> cases h <;> rfl
    intro i j ns ns' _ hi hj
    rw [hns hi, hns hj]
  obtain ⟨hclass, hedge⟩ := hcondenses hsame
  -- Nothing leads to the third module.
  have h13 : ¬ Mutual tangled 1 3 := by
    rintro ⟨h, -⟩
    rcases h.cases_tail with h | ⟨k, -, hk⟩
    · cases h
    · have hends := edge_tangled_iff.mp hk
      omega
  refine ⟨g', cls, hrun, houtcome, (hclass 1 2).mpr ⟨.single h12, .single h21⟩,
    fun h => h13 ((hclass 1 3).mp h), (hedge 3 1).mpr ⟨fun h => h13 ⟨h.2, h.1⟩, 3, 2, ?_⟩⟩
  exact ⟨⟨.refl, .refl⟩, ⟨.single h12, .single h21⟩, h32⟩

end SchemaRecovery.ModuleGraph
