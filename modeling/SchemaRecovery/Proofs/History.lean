/-
  SchemaRecovery.Proofs.History

  The compaction with every merger on record. The merger that puts the graph it
  leaves on record (`recordMerge`) makes a phase give the graphs that it goes
  through, one for each merger, also if it fails in the end. Whatever the monad,
  a phase has one outcome if the outcomes of its steps can be read (`Reading`):
  so forgetting the record leaves what forgetting the log does
  (`outcome_mergeGroupsBy`, `outcome_mergeUntilCycleBy`, `outcome_compactBy`).
-/
import SchemaRecovery.Proofs.Stages

namespace SchemaRecovery

/-! ## Computations on record -/

/-- The graphs that the mergers of a computation left, first to last, and the
    outcome of the computation. The record is kept when it fails. -/
structure Recorded (α : Type) where
  history : List ModuleGraph
  outcome : Except Failure α

namespace Recorded

variable {α β : Type}

/-- A value, without a merger. -/
def pure (a : α) : Recorded α := ⟨[], .ok a⟩

/-- Goes on with the value of `x`, unless it failed. -/
def bind (x : Recorded α) (f : α → Recorded β) : Recorded β :=
  match x.outcome with
  | .error e => ⟨x.history, .error e⟩
  | .ok a => ⟨x.history ++ (f a).history, (f a).outcome⟩

instance : Monad Recorded where
  pure := Recorded.pure
  bind := Recorded.bind

/-- A computation without a merger. -/
instance : MonadLift (Except Failure) Recorded where
  monadLift x := ⟨[], x⟩

/-- Only mergers go on record. -/
instance : MonadLog Recorded where
  write _ _ := ⟨[], .ok ()⟩

theorem pure_eq (a : α) : (Pure.pure a : Recorded α) = ⟨[], .ok a⟩ := rfl

theorem ok_bind (history : List ModuleGraph) (a : α) (f : α → Recorded β) :
    ((⟨history, .ok a⟩ : Recorded α) >>= f) =
      ⟨history ++ (f a).history, (f a).outcome⟩ := rfl

theorem lift_ok_bind (a : α) (f : α → Recorded β) :
    (liftM (.ok a : Except Failure α) >>= f) = f a := rfl

/-- The outcome of two computations in a row does not depend on the record. -/
theorem outcome_bind (x : Recorded α) (f : α → Recorded β) :
    (x >>= f).outcome = x.outcome >>= fun a => (f a).outcome := by
  obtain ⟨history, outcome⟩ := x
  cases outcome with
  | error e => rfl
  | ok a => rfl

/-- A fold whose every step succeeds succeeds; the invariant sees what is still
    to come and the record so far. -/
theorem foldlM_ok {f : β → α → Recorded β} (I : List α → List ModuleGraph → β → Prop)
    (hstep : ∀ a rest history b, I (a :: rest) history b →
      ∃ more b', f b a = ⟨more, .ok b'⟩ ∧ I rest (history ++ more) b')
    {l : List α} {b : β} (h : I l [] b) :
    ∃ history b', l.foldlM f b = ⟨history, .ok b'⟩ ∧ I [] history b' := by
  -- From any record on, what is added to it is the record of the rest.
  have hfrom : ∀ (l : List α) history b, I l history b →
      ∃ more b', l.foldlM f b = ⟨more, .ok b'⟩ ∧ I [] (history ++ more) b' := by
    intro l
    induction l with
    | nil =>
        intro history b h
        refine ⟨[], b, rfl, ?_⟩
        rw [List.append_nil]
        exact h
    | cons a rest ih =>
        intro history b h
        obtain ⟨more, b', hb', hI⟩ := hstep a rest history b h
        obtain ⟨more', r, hr, hend⟩ := ih _ _ hI
        refine ⟨more ++ more', r, ?_, ?_⟩
        · rw [List.foldlM_cons, hb', ok_bind, hr]
        · rw [← List.append_assoc]
          exact hend
  exact hfrom l [] b h

/-- A fold whose steps each record one merger for every entry of a list records
    one for every entry of all these lists. -/
theorem length_foldlM {γ : Type} {f : β → α → Recorded β} (parts : α → List γ)
    (hstep : ∀ {b a history b'}, f b a = ⟨history, .ok b'⟩ → history.length = (parts a).length)
    {l : List α} {b b' : β} {history : List ModuleGraph}
    (h : l.foldlM f b = ⟨history, .ok b'⟩) : history.length = (l.flatMap parts).length := by
  induction l generalizing b history with
  | nil =>
      rw [List.foldlM_nil, pure_eq, mk.injEq] at h
      rw [← h.1]
      rfl
  | cons a rest ih =>
      rw [List.foldlM_cons] at h
      -- A step that fails ends the fold, so this one has succeeded.
      match hfirst : f b a with
      | ⟨first, .error e⟩ =>
          rw [hfirst] at h
          cases h
      | ⟨first, .ok b₁⟩ =>
          rw [hfirst, ok_bind, mk.injEq] at h
          have hrest := ih (show rest.foldlM f b₁ = ⟨_, .ok b'⟩ by rw [← h.2])
          rw [← h.1, List.length_append, hstep hfirst, hrest, List.flatMap_cons,
            List.length_append]

end Recorded

namespace ModuleGraph

/-! ## Mergers on record -/

/-- Merges two modules and puts the graph that this leaves on record. -/
def recordMerge (g : ModuleGraph) (a b : Int) : Recorded ModuleGraph :=
  match g.merge a b with
  | .error e => ⟨[], .error e⟩
  | .ok g' => ⟨[g'], .ok g'⟩

theorem recordMerge_eq {g g' : ModuleGraph} {a b : Int} (h : g.merge a b = .ok g') :
    recordMerge g a b = ⟨[g'], .ok g'⟩ := by
  unfold recordMerge
  rw [h]

theorem outcome_recordMerge (g : ModuleGraph) (a b : Int) :
    (recordMerge g a b).outcome = g.merge a b := by
  unfold recordMerge
  cases g.merge a b with
  | error e => rfl
  | ok g' => rfl

theorem length_of_recordMerge {g g' : ModuleGraph} {a b : Int} {history : List ModuleGraph}
    (h : recordMerge g a b = ⟨history, .ok g'⟩) : history.length = 1 := by
  unfold recordMerge at h
  split at h
  · cases h
  · cases h
    rfl

/-- Merging several modules into one puts one merger on record for each. -/
theorem length_of_mergeIntoBy {g g' : ModuleGraph} {first : Int} {others : List Int}
    {history : List ModuleGraph}
    (h : mergeIntoBy recordMerge g first others = ⟨history, .ok g'⟩) :
    history.length = others.length := by
  have hlength := Recorded.length_foldlM (fun other => [other]) length_of_recordMerge h
  rw [hlength, List.flatMap_singleton']

/-- A round of groups takes all modules of a group but the first over. -/
theorem length_of_mergeGroupsOnceBy {κ : Type} [DecidableEq κ]
    {key : SchemaModule → Option κ} {g g' : ModuleGraph} {history : List ModuleGraph}
    (h : mergeGroupsOnceBy recordMerge key g = ⟨history, .ok g'⟩) :
    history.length =
      ((groupOn (fun m => (key m).map fun k => (m.ns, k)) g.sortedModules).values.flatMap
        List.tail).length := by
  refine Recorded.length_foldlM _ (fun {b group history b'} hstep => ?_) h
  cases group with
  | nil =>
      cases hstep
      rfl
  | cons m rest => rw [length_of_mergeIntoBy hstep, List.length_map, List.tail_cons]

/-- What a phase logs does not go on record. -/
theorem phaseBy_recorded (description : Text) {run : ModuleGraph → Recorded ModuleGraph}
    {g g' : ModuleGraph} {history : List ModuleGraph} (h : run g = ⟨history, .ok g'⟩) :
    phaseBy description run g = ⟨history, .ok g'⟩ := by
  unfold phaseBy
  show (run g >>= _) = _
  rw [h, Recorded.ok_bind]
  show (⟨history ++ [], .ok g'⟩ : Recorded ModuleGraph) = _
  rw [List.append_nil]

/-! ## Readings of the phases -/

/-- A way to read the outcome off the computations of a monad, step by step. -/
structure Reading (M : Type → Type) [Monad M] [MonadLiftT (Except Failure) M] [MonadLog M] where
  yields : {α : Type} → M α → Except Failure α → Prop
  pure : ∀ {α : Type} (a : α), yields (Pure.pure a) (.ok a)
  lift : ∀ {α : Type} (x : Except Failure α), yields (liftM x) x
  bind : ∀ {α β : Type} {x : M α} {e : Except Failure α} {f : α → M β} {k : α → Except Failure β},
    yields x e → (∀ a, yields (f a) (k a)) → yields (x >>= f) (e >>= k)
  write : ∀ (level : LogLevel) (text : Text), yields (MonadLog.write level text) (.ok ())

namespace Reading

variable {M : Type → Type} [Monad M] [MonadLiftT (Except Failure) M] [MonadLog M] (R : Reading M)
include R

theorem foldlM {α β : Type} {f : β → α → M β} {k : β → α → Except Failure β}
    (hstep : ∀ b a, R.yields (f b a) (k b a)) (l : List α) (b : β) :
    R.yields (l.foldlM f b) (l.foldlM k b) := by
  induction l generalizing b with
  | nil => exact R.pure b
  | cons a rest ih =>
      rw [List.foldlM_cons, List.foldlM_cons]
      exact R.bind (hstep b a) ih

section Rounds

variable {round : ModuleGraph → M ModuleGraph}
  {round' : ModuleGraph → Except Failure ModuleGraph}
  (hround : ∀ g, R.yields (round g) (round' g))
include hround

/-- Repeated rounds have one outcome if each round has. -/
theorem shrinkBy (g : ModuleGraph) :
    R.yields (ModuleGraph.shrinkBy round g) (ModuleGraph.shrinkBy round' g) := by
  -- Induction on the number of live modules, which falls with every round.
  generalize hn : g.size = n
  induction n using Nat.strongRecOn generalizing g with
  | _ n ih =>
      rw [ModuleGraph.shrinkBy, ModuleGraph.shrinkBy]
      refine R.bind (hround g) fun next => ?_
      by_cases hlt : next.size < g.size
      · rw [if_pos hlt, if_pos hlt]
        exact ih next.size (hn ▸ hlt) next rfl
      · rw [if_neg hlt, if_neg hlt]
        exact R.pure next

/-- What a phase logs is not read. -/
theorem phaseBy (description : Text) (g : ModuleGraph) :
    R.yields (ModuleGraph.phaseBy description round g)
      (ModuleGraph.phaseBy description round' g) := by
  unfold ModuleGraph.phaseBy
  refine R.bind (R.write _ _) fun _ => ?_
  refine R.bind (hround g) fun next => ?_
  exact R.bind (R.write _ _) fun _ => R.pure next

end Rounds

section Phases

variable {merge : ModuleGraph → Int → Int → M ModuleGraph}
  (hmerge : ∀ g a b, R.yields (merge g a b) (g.merge a b))
include hmerge

theorem mergeIntoBy (g : ModuleGraph) (first : Int) (others : List Int) :
    R.yields (ModuleGraph.mergeIntoBy merge g first others)
      (ModuleGraph.mergeIntoBy ModuleGraph.merge g first others) :=
  R.foldlM (fun g other => hmerge g first other) others g

theorem collapseCycleBy (g : ModuleGraph) :
    R.yields (ModuleGraph.collapseCycleBy merge g)
      (ModuleGraph.collapseCycleBy ModuleGraph.merge g) := by
  unfold ModuleGraph.collapseCycleBy
  refine R.bind (R.lift _) fun found => ?_
  cases found with
  | none => exact R.pure g
  | some path =>
      refine R.bind (R.lift _) fun labels => ?_
      match labels.dropLast with
      | [] => exact R.pure g
      | [(id, _)] => exact R.lift (.error (.selfDependency id))
      | (id, ns) :: o :: others =>
          dsimp only
          split
          · exact R.mergeIntoBy hmerge g id ((o :: others).map (·.1))
          · exact R.bind (R.write _ _) fun _ => R.pure g

theorem mergeCyclesBy (g : ModuleGraph) :
    R.yields (ModuleGraph.mergeCyclesBy merge g)
      (ModuleGraph.mergeCyclesBy ModuleGraph.merge g) :=
  R.shrinkBy (R.collapseCycleBy hmerge) g

theorem mergeGroupsOnceBy {κ : Type} [DecidableEq κ] (key : SchemaModule → Option κ)
    (g : ModuleGraph) :
    R.yields (ModuleGraph.mergeGroupsOnceBy merge key g)
      (ModuleGraph.mergeGroupsOnceBy ModuleGraph.merge key g) := by
  refine R.foldlM (fun g group => ?_) _ g
  cases group.map (·.id) with
  | nil => exact R.pure g
  | cons first others => exact R.mergeIntoBy hmerge g first others

theorem mergeGroupsBy {κ : Type} [DecidableEq κ] (key : SchemaModule → Option κ)
    (g : ModuleGraph) :
    R.yields (ModuleGraph.mergeGroupsBy merge key g)
      (ModuleGraph.mergeGroupsBy ModuleGraph.merge key g) :=
  R.shrinkBy (R.mergeGroupsOnceBy hmerge key) g

theorem mergePairBy (state : ModuleGraph × List Int) (pair : Int × Int) :
    R.yields (ModuleGraph.mergePairBy merge state pair)
      (ModuleGraph.mergePairBy ModuleGraph.merge state pair) := by
  obtain ⟨g, merged⟩ := state
  obtain ⟨a, b⟩ := pair
  unfold ModuleGraph.mergePairBy
  dsimp only
  split
  · exact R.pure _
  · refine R.bind (R.lift _) fun first => ?_
    refine R.bind (R.lift _) fun second => ?_
    refine R.bind (R.lift _) fun verdict => ?_
    split
    · exact R.pure _
    · exact R.bind (hmerge g a b) fun next => R.pure _

theorem mergePairsOnceBy (g : ModuleGraph) :
    R.yields (ModuleGraph.mergePairsOnceBy merge g)
      (ModuleGraph.mergePairsOnceBy ModuleGraph.merge g) := by
  unfold ModuleGraph.mergePairsOnceBy
  refine R.bind (R.lift _) fun groups => ?_
  refine R.bind (R.foldlM (R.mergePairBy hmerge) _ _) fun state => ?_
  exact R.pure state.1

theorem mergeUntilCycleBy (g : ModuleGraph) :
    R.yields (ModuleGraph.mergeUntilCycleBy merge g)
      (ModuleGraph.mergeUntilCycleBy ModuleGraph.merge g) :=
  R.shrinkBy (R.mergePairsOnceBy hmerge) g

theorem compactBy (s : Schema) (g : ModuleGraph) :
    R.yields (ModuleGraph.compactBy merge s g)
      (ModuleGraph.compactBy ModuleGraph.merge s g) := by
  unfold ModuleGraph.compactBy
  refine R.bind (R.phaseBy (R.mergeCyclesBy hmerge) _ g) fun g => ?_
  refine R.bind (R.phaseBy (R.mergeGroupsBy hmerge withoutDependencies) _ g) fun g => ?_
  refine R.bind (R.phaseBy (R.mergeGroupsBy hmerge withoutDependents) _ g) fun g => ?_
  refine R.bind (R.phaseBy (R.mergeGroupsBy hmerge sameNeighbours) _ g) fun g => ?_
  refine R.bind (R.phaseBy (R.mergeUntilCycleBy hmerge) _ g) fun g => ?_
  refine R.bind (R.write _ _) fun _ => ?_
  refine R.bind (R.lift _) fun _ => ?_
  exact R.bind (R.write _ _) fun _ => R.pure g

end Phases

end Reading

/-! ## Forgetting the log and the record -/

/-- Forgetting the log reads the outcome. -/
def loggedReading : Reading Logged where
  yields x e := x.outcome = e
  pure _ := rfl
  lift _ := rfl
  bind {_ _ x _ f _} hx hf := by
    rw [Logged.outcome_bind x f, hx]
    exact congrArg _ (funext hf)
  write _ _ := rfl

/-- Forgetting the record reads the outcome. -/
def recordedReading : Reading Recorded where
  yields x e := x.outcome = e
  pure _ := rfl
  lift _ := rfl
  bind {_ _ x _ f _} hx hf := by
    rw [Recorded.outcome_bind x f, hx]
    exact congrArg _ (funext hf)
  write _ _ := rfl

theorem outcome_mergeLogged (g : ModuleGraph) (a b : Int) :
    (mergeLogged g a b).outcome = g.merge a b := rfl

/-- What a reading of the first phase yields is the outcome of the phase. -/
theorem Reading.mergeCycles {M : Type → Type} [Monad M] [MonadLiftT (Except Failure) M]
    [MonadLog M] (R : Reading M) {merge : ModuleGraph → Int → Int → M ModuleGraph}
    (hmerge : ∀ g a b, R.yields (merge g a b) (g.merge a b)) (g : ModuleGraph) :
    R.yields (ModuleGraph.mergeCyclesBy merge g) g.mergeCycles.outcome := by
  have hlogged : g.mergeCycles.outcome = ModuleGraph.mergeCyclesBy ModuleGraph.merge g :=
    loggedReading.mergeCyclesBy outcome_mergeLogged g
  rw [hlogged]
  exact R.mergeCyclesBy hmerge g

theorem outcome_mergeCyclesBy (g : ModuleGraph) :
    (mergeCyclesBy recordMerge g).outcome = (mergeCycles g).outcome :=
  recordedReading.mergeCycles outcome_recordMerge g

theorem outcome_mergeGroupsBy {κ : Type} [DecidableEq κ] (key : SchemaModule → Option κ)
    (g : ModuleGraph) :
    (mergeGroupsBy recordMerge key g).outcome = (mergeGroups key g).outcome :=
  (recordedReading.mergeGroupsBy outcome_recordMerge key g).trans
    (loggedReading.mergeGroupsBy outcome_mergeLogged key g).symm

theorem outcome_mergeUntilCycleBy (g : ModuleGraph) :
    (mergeUntilCycleBy recordMerge g).outcome = (mergeUntilCycle g).outcome :=
  (recordedReading.mergeUntilCycleBy outcome_recordMerge g).trans
    (loggedReading.mergeUntilCycleBy outcome_mergeLogged g).symm

theorem outcome_compactBy (s : Schema) (g : ModuleGraph) :
    (compactBy recordMerge s g).outcome = (g.compact s).outcome :=
  (recordedReading.compactBy outcome_recordMerge s g).trans
    (loggedReading.compactBy outcome_mergeLogged s g).symm

end ModuleGraph

end SchemaRecovery
