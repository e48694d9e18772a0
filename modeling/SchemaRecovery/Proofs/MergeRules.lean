/-
  SchemaRecovery.Proofs.MergeRules

  Which mergers keep cycles under control.

    * `Mutual` — the two modules reach each other. Such mergers change nothing
      about which modules reach which, so they make no cycle through two
      namespaces that was not there.
    * `Safe`   — if the graph has no cycle, it has none after the merger.

  A likeness of modules (`Likeness`) is a relation that makes mergers safe and
  survives the mergers of like modules. The modules without dependencies, those
  without dependents and those with the same dependencies are alike in this
  sense, so groups of like modules stay safe to merge while other groups are
  being merged.
-/
import SchemaRecovery.Proofs.Merges

namespace SchemaRecovery.ModuleGraph

open Relation

/-! ## Modules that reach each other -/

/-- The two modules reach each other. -/
def Mutual : MergeRule := fun g a b => ReflTransGen g.Edge a b ∧ ReflTransGen g.Edge b a

/-- No cycle goes through two namespaces exactly if modules that reach each
    other have one namespace. -/
theorem not_hasMixedCycle_iff {g : ModuleGraph} :
    ¬ g.HasMixedCycle ↔
      ∀ i j ns ns', Mutual g i j → g.HasNs i ns → g.HasNs j ns' → ns = ns' := by
  constructor
  · intro hmixed i j ns ns' hij hi hj
    by_contra hne
    exact hmixed (.of_reaches hij.1 hij.2 hi hj hne)
  · rintro hsame ⟨i, j, ns, ns', hij, hji, hi, hj, hne⟩
    exact hne (hsame i j ns ns' ⟨hij.to_reflTransGen, hji.to_reflTransGen⟩ hi hj)

theorem IsQuotient.hasNs_of {g g' : ModuleGraph} {cls : Int → Int} (h : IsQuotient g g' cls)
    {k : Int} {ns : Label} (hk : g'.HasNs k ns) : g.HasNs k ns := by
  obtain ⟨m', hm', rfl⟩ := hk
  obtain ⟨⟨m, hm⟩, hcls⟩ := h.representative ⟨m', hm'⟩
  exact ⟨m, hm, (h.ns hm (hcls.symm ▸ hm')).symm⟩

/-- If the modules of a class reach each other, a path between classes is a path
    between their members. -/
theorem IsQuotient.reaches_of {g g' : ModuleGraph} {cls : Int → Int} (h : IsQuotient g g' cls)
    (hreach : ∀ i j, cls i = cls j → ReflTransGen g.Edge i j) {x y : Int}
    (hxy : ReflTransGen g'.Edge (cls x) (cls y)) : ReflTransGen g.Edge x y := by
  rw [h.edge_eq] at hxy
  exact reaches_of_reaches_quotientBy hreach hxy

/-- Putting modules together that reach each other makes no cycle through two
    namespaces. -/
theorem IsQuotient.hasMixedCycle_of {g g' : ModuleGraph} {cls : Int → Int}
    (h : IsQuotient g g' cls) (hreach : ∀ i j, cls i = cls j → ReflTransGen g.Edge i j)
    (hmixed : g'.HasMixedCycle) : g.HasMixedCycle := by
  obtain ⟨i, j, ns, ns', hij, hji, hi, hj, hne⟩ := hmixed
  have hrep : ∀ {k ns}, g'.HasNs k ns → cls k = k :=
    fun hk => (h.representative (hk.imp fun _ hm => hm.1)).2
  have hback : ∀ {x y}, cls x = x → cls y = y → TransGen g'.Edge x y →
      ReflTransGen g.Edge x y := by
    intro x y hx hy hxy
    refine h.reaches_of hreach ?_
    rw [hx, hy]
    exact hxy.to_reflTransGen
  exact .of_reaches (hback (hrep hi) (hrep hj) hij) (hback (hrep hj) (hrep hi) hji)
    (h.hasNs_of hi) (h.hasNs_of hj) hne

/-- Modules that a merger of two gives one name reach each other if the two
    do. -/
theorem reaches_of_mutual {g : ModuleGraph} {a b : Int} (hmutual : Mutual g a b) (i j : Int)
    (hij : renamed a b i = renamed a b j) : ReflTransGen g.Edge i j := by
  by_cases hia : renamed a b i = a
  · have hja : renamed a b j = a := hij ▸ hia
    rcases renamed_eq_left_iff.mp hia with rfl | rfl
    · rcases renamed_eq_left_iff.mp hja with rfl | rfl
      · exact .refl
      · exact hmutual.1
    · rcases renamed_eq_left_iff.mp hja with rfl | rfl
      · exact hmutual.2
      · exact .refl
  · have hi : i = renamed a b i := eq_of_renamed_eq rfl hia
    have hj : j = renamed a b i := eq_of_renamed_eq hij.symm hia
    rw [hj, ← hi]

theorem MergeStep.hasMixedCycle_of_mutual {g g' : ModuleGraph}
    (h : MergeStep Mutual g g') (hg : g.Simple) (hmixed : g'.HasMixedCycle) :
    g.HasMixedCycle := by
  obtain ⟨m, other, hm, hother, hne, hns, hmutual, rfl⟩ := h
  exact (isQuotient_afterMerge hg hm hother hne hns).hasMixedCycle_of (reaches_of_mutual hmutual)
    hmixed

theorem Merges.hasMixedCycle_of_mutual {g g' : ModuleGraph}
    (h : Merges Mutual g g') (hg : g.Simple) (hmixed : g'.HasMixedCycle) :
    g.HasMixedCycle := by
  induction h with
  | refl => exact hmixed
  | tail hrun hstep ih =>
    exact ih (hstep.hasMixedCycle_of_mutual (Merges.simple hrun hg) hmixed)

/-- After the merger of a module with `first`, those that `first` was in a
    cycle with still are. -/
theorem Mutual.afterMerge {g : ModuleGraph} {m other : SchemaModule}
    (hg : g.Simple) (hm : g.modules.find? m.id = some m)
    (hother : g.modules.find? other.id = some other) (hne : m.id ≠ other.id)
    (hns : m.ns = other.ns) {i : Int} (hi : i ≠ other.id) (h : Mutual g m.id i) :
    Mutual (g.afterMerge m other) m.id i := by
  have hquot := isQuotient_afterMerge hg hm hother hne hns
  have hto := hquot.reaches h.1
  have hfrom := hquot.reaches h.2
  rw [renamed_left, renamed_of_ne hi] at hto hfrom
  exact ⟨hto, hfrom⟩

/-! ## Mergers that make no cycle -/

/-- If there is no cycle, joining the two modules makes none. -/
def Safe : MergeRule := fun g a b => Acyclic g.Edge → Acyclic (joined a b g.Edge)

/-- A safe merger makes no cycle. -/
theorem MergeStep.acyclic {g g' : ModuleGraph} (h : MergeStep Safe g g') (hg : g.Simple)
    (hacyclic : Acyclic g.Edge) : Acyclic g'.Edge := by
  obtain ⟨m, other, hm, hother, hne, -, hsafe, rfl⟩ := h
  refine (hsafe hacyclic).mono fun x y hxy => ?_
  exact (edge_afterMerge hg.toWired hm hother hne).mp hxy

/-- Safe mergers make no cycle. -/
theorem Merges.acyclic {g g' : ModuleGraph} (h : Merges Safe g g')
    (hg : g.Simple) (hacyclic : Acyclic g.Edge) : Acyclic g'.Edge := by
  induction h with
  | refl => exact hacyclic
  | tail hrun hstep ih => exact hstep.acyclic (Merges.simple hrun hg) ih

/-- A relation of modules that makes their mergers safe and survives mergers
    of modules that are in it. -/
structure Likeness (like : MergeRule) : Prop where
  safe : ∀ {g a b}, a ≠ b → like g a b → Safe g a b
  stable : ∀ {g} {m other : SchemaModule} {x y}, g.Simple →
    g.modules.find? m.id = some m → g.modules.find? other.id = some other → m.id ≠ other.id →
    like g m.id other.id → x ≠ other.id → y ≠ other.id → like g x y →
    like (g.afterMerge m other) x y

/-- Neither module depends on any. -/
def BothSinks : MergeRule := fun g a b => (∀ c, ¬ g.Edge a c) ∧ ∀ c, ¬ g.Edge b c

/-- No module depends on either. -/
def BothSources : MergeRule := fun g a b => (∀ c, ¬ g.Edge c a) ∧ ∀ c, ¬ g.Edge c b

/-- Both modules depend on the same modules. -/
def SameDependencies : MergeRule := fun g a b => ∀ c, g.Edge a c ↔ g.Edge b c

/-- The two modules that may have a name after joining. -/
theorem renamed_eq_cases {a b i x : Int} (h : renamed a b i = x) : i = x ∨ i = b ∧ x = a := by
  by_cases hib : i = b
  · rw [hib, renamed_right] at h
    exact Or.inr ⟨hib, h.symm⟩
  · rw [renamed_of_ne hib] at h
    exact Or.inl h

theorem likeness_bothSinks : Likeness BothSinks where
  safe hab h hacyclic := acyclic_joined hab hacyclic (.of_sinks h.1 h.2)
  stable := by
    intro g m other x y hg hm hother hne hpair _ _ hxy
    have hsink : ∀ z, (∀ c, ¬ g.Edge z c) → ∀ c, ¬ (g.afterMerge m other).Edge z c := by
      intro z hz c hc
      rw [edge_afterMerge hg.toWired hm hother hne] at hc
      obtain ⟨⟨i, j, hij, hi, -⟩, -⟩ := hc
      rcases renamed_eq_cases hi with rfl | ⟨rfl, -⟩
      · exact hz j hij
      · exact hpair.2 j hij
    exact ⟨hsink x hxy.1, hsink y hxy.2⟩

theorem likeness_bothSources : Likeness BothSources where
  safe hab h hacyclic := acyclic_joined hab hacyclic (.of_sources h.1 h.2)
  stable := by
    intro g m other x y hg hm hother hne hpair _ _ hxy
    have hsource : ∀ z, (∀ c, ¬ g.Edge c z) → ∀ c, ¬ (g.afterMerge m other).Edge c z := by
      intro z hz c hc
      rw [edge_afterMerge hg.toWired hm hother hne] at hc
      obtain ⟨⟨i, j, hij, -, hj⟩, -⟩ := hc
      rcases renamed_eq_cases hj with rfl | ⟨rfl, -⟩
      · exact hz i hij
      · exact hpair.2 i hij
    exact ⟨hsource x hxy.1, hsource y hxy.2⟩

/-- What a module depends on after two modules with the same dependencies are
    merged: what it did, renamed. -/
theorem edge_afterMerge_of_same {g : ModuleGraph} {m other : SchemaModule}
    (hg : g.Simple) (hm : g.modules.find? m.id = some m)
    (hother : g.modules.find? other.id = some other) (hne : m.id ≠ other.id)
    (hsame : SameDependencies g m.id other.id) {x c : Int} (hx : x ≠ other.id) :
    (g.afterMerge m other).Edge x c ↔ ∃ j, g.Edge x j ∧ renamed m.id other.id j = c := by
  rw [edge_afterMerge hg.toWired hm hother hne]
  constructor
  · rintro ⟨⟨i, j, hij, hi, hj⟩, -⟩
    rcases renamed_eq_cases hi with rfl | ⟨rfl, rfl⟩
    · exact ⟨j, hij, hj⟩
    · exact ⟨j, (hsame j).mpr hij, hj⟩
  · rintro ⟨j, hxj, hj⟩
    refine ⟨⟨x, j, hxj, renamed_of_ne hx, hj⟩, ?_⟩
    rintro ⟨rfl, rfl⟩
    -- An edge between the two would be a loop of one of them.
    rcases renamed_eq_left_iff.mp hj with rfl | rfl
    · exact hg.loopless _ hxj
    · exact hg.loopless _ ((hsame _).mp hxj)

theorem likeness_sameDependencies : Likeness SameDependencies where
  safe hab h hacyclic := acyclic_joined hab hacyclic (.of_same_successors hacyclic h)
  stable := by
    intro g m other x y hg hm hother hne hpair hx hy hxy c
    rw [edge_afterMerge_of_same hg hm hother hne hpair hx,
      edge_afterMerge_of_same hg hm hother hne hpair hy]
    simp only [hxy _]

end SchemaRecovery.ModuleGraph
