/-
  SchemaRecovery.Proofs.Merging

  The steps of a merger. A merger that is refused stops before anything is changed
  (`Merging.steps_refused`). Otherwise the root types come first, then each
  neighbour of the module that is taken over is changed once for each end of an
  edge (`Merging.forM_change_ok`), and the edges last. In a wired graph no neighbour
  is missing, so the steps come to their end, and together they are one change of
  all live modules (`Merging.steps_ok`).
-/
import SchemaRecovery.Proofs.Consistency
import SchemaRecovery.Proofs.Sorting

namespace SchemaRecovery

/-! ## Modules before and after -/

namespace SchemaModule

/-- The module with the types and edges of `other` taken over. -/
def takeOver (m other : SchemaModule) : SchemaModule := (m.takeRoots other).takeEdges other

/-- A third module, its edges with `other` turned to `target`. -/
def redirect (m other : SchemaModule) (target : Int) : SchemaModule :=
  { m with
    dependedOnBy :=
      if m.id ∈ other.dependsOn then (m.dependedOnBy.erase other.id).insert target
      else m.dependedOnBy
    dependsOn :=
      if m.id ∈ other.dependedOnBy then (m.dependsOn.erase other.id).insert target
      else m.dependsOn }

/-- A third module, its edges turned one after the other. -/
theorem redirect_eq {m m' other : SchemaModule} {target : Int}
    (hm' : m' = if m.id ∈ other.dependsOn then m.turnDependent other.id target else m) :
    (if m.id ∈ other.dependedOnBy then m'.turnDependency other.id target else m') =
      m.redirect other target := by
  subst hm'
  unfold redirect turnDependency turnDependent
  by_cases hto : m.id ∈ other.dependsOn
  · by_cases hfrom : m.id ∈ other.dependedOnBy
    · simp [hto, hfrom]
    · simp [hto, hfrom]
  · by_cases hfrom : m.id ∈ other.dependedOnBy
    · simp [hto, hfrom]
    · simp [hto, hfrom]

/-- The module as it is when it has been taken over: an edge to itself has become one
    from `target`. -/
def retired (m : SchemaModule) (target : Int) : SchemaModule :=
  { (if m.id ∈ m.dependsOn then m.turnDependent m.id target else m) with removed := true }

/-- The modules are the same but for edges with `a` and `b`. -/
structure SameApart (a b : Int) (m m' : SchemaModule) : Prop where
  unwired : m'.unwired = m.unwired
  dependsOn : ∀ y, y ≠ a → y ≠ b → (y ∈ m'.dependsOn ↔ y ∈ m.dependsOn)
  dependedOnBy : ∀ y, y ≠ a → y ≠ b → (y ∈ m'.dependedOnBy ↔ y ∈ m.dependedOnBy)

section

variable {a b : Int} {m m' m'' other other' : SchemaModule}

theorem SameApart.refl (a b : Int) (m : SchemaModule) : SameApart a b m m :=
  ⟨rfl, fun _ _ _ => Iff.rfl, fun _ _ _ => Iff.rfl⟩

theorem SameApart.trans (h : SameApart a b m m') (h' : SameApart a b m' m'') :
    SameApart a b m m'' where
  unwired := h'.unwired.trans h.unwired
  dependsOn y ha hb := (h'.dependsOn y ha hb).trans (h.dependsOn y ha hb)
  dependedOnBy y ha hb := (h'.dependedOnBy y ha hb).trans (h.dependedOnBy y ha hb)

theorem SameApart.id_eq (h : SameApart a b m m') : m'.id = m.id :=
  eq_of_unwired_eq (·.id) h.unwired fun _ => rfl

theorem sameApart_turnDependent (a b : Int) (m : SchemaModule) :
    SameApart a b m (m.turnDependent b a) := by
  refine ⟨rfl, fun _ _ _ => Iff.rfl, fun y ha hb => ?_⟩
  unfold turnDependent
  rw [OrderedSet.mem_insert, OrderedSet.mem_erase]
  simp [ha, hb]

theorem sameApart_turnDependency (a b : Int) (m : SchemaModule) :
    SameApart a b m (m.turnDependency b a) := by
  refine ⟨rfl, fun y ha hb => ?_, fun _ _ _ => Iff.rfl⟩
  unfold turnDependency
  rw [OrderedSet.mem_insert, OrderedSet.mem_erase]
  simp [ha, hb]

theorem SameApart.ite {f : SchemaModule → SchemaModule} (hf : SameApart a b m (f m))
    (p : Prop) [Decidable p] : SameApart a b m (if p then f m else m) := by
  by_cases hp : p
  · rwa [if_pos hp]
  · rw [if_neg hp]
    exact .refl a b m

/-- Edges between the two modules make no difference to the one that takes over the
    edges of the other. -/
theorem SameApart.takeEdges_eq (h : SameApart m.id other.id m m')
    (hother : SameApart m.id other.id other other') : m'.takeEdges other' = m.takeEdges other := by
  have hon : ((m'.dependsOn.union other'.dependsOn).erase m'.id).erase other'.id =
      ((m.dependsOn.union other.dependsOn).erase m.id).erase other.id := by
    rw [h.id_eq, hother.id_eq]
    exact OrderedSet.erase_erase_union_congr h.dependsOn hother.dependsOn
  have hby : ((m'.dependedOnBy.union other'.dependedOnBy).erase m'.id).erase other'.id =
      ((m.dependedOnBy.union other.dependedOnBy).erase m.id).erase other.id := by
    rw [h.id_eq, hother.id_eq]
    exact OrderedSet.erase_erase_union_congr h.dependedOnBy hother.dependedOnBy
  unfold takeEdges
  rw [hon, hby]
  exact congrArg (fun n => { n with
    dependsOn := ((m.dependsOn.union other.dependsOn).erase m.id).erase other.id
    dependedOnBy := ((m.dependedOnBy.union other.dependedOnBy).erase m.id).erase other.id })
    h.unwired

end

end SchemaModule

namespace Merging

open ModuleGraph SchemaModule

variable {x x' x₁ x₂ : Merger} {f : SchemaModule → SchemaModule} {ids : List Int}

/-- A step that comes to its end is followed by the next. -/
theorem bind_ok {α β : Type} {step : Merging α} {next : α → Merging β} {a : α}
    (h : step x = .ok a x') : (step >>= next) x = next a x' := by
  show EStateM.bind step next x = _
  unfold EStateM.bind
  rw [h]

/-- After a step that fails no other one is taken. -/
theorem bind_error {α β : Type} {step : Merging α} {next : α → Merging β} {e : Failure}
    (h : step x = .error e x') : (step >>= next) x = .error e x' := by
  show EStateM.bind step next x = _
  unfold EStateM.bind
  rw [h]

/-! ## Refusal -/

theorem check_ok (hns : x.merged.ns = x.retired.ns) (hne : x.merged.id ≠ x.retired.id) :
    check x = .ok () x := by
  show (if x.merged.ns ≠ x.retired.ns then throw _ else if _ then throw _ else _ : Merging Unit) x
    = _
  rw [if_neg (not_not_intro hns), if_neg hne]
  rfl

/-- Modules of two namespaces, and a module with itself, are refused. -/
theorem check_refuses (h : x.merged.ns ≠ x.retired.ns ∨ x.merged.id = x.retired.id) :
    ∃ e, check x = .error e x ∧ e.kind = .invariant := by
  have hcheck : check x = (if x.merged.ns ≠ x.retired.ns
      then throw (.mergeAcross x.merged.ns x.retired.ns)
      else if x.merged.id = x.retired.id then throw (.mergeWithItself x.merged.id)
      else pure () : Merging Unit) x := rfl
  rw [hcheck]
  by_cases hns : x.merged.ns = x.retired.ns
  · rw [if_neg (not_not_intro hns), if_pos (h.resolve_left (not_not_intro hns))]
    exact ⟨_, rfl, rfl⟩
  · rw [if_pos hns]
    exact ⟨_, rfl, rfl⟩

/-- A merger that is refused has changed nothing. -/
theorem steps_refused (h : x.merged.ns ≠ x.retired.ns ∨ x.merged.id = x.retired.id) :
    ∃ e, steps x = .error e x ∧ e.kind = .invariant := by
  obtain ⟨e, hcheck, hkind⟩ := check_refuses h
  exact ⟨e, bind_error hcheck, hkind⟩

/-! ## Neighbours -/

/-- The modules with the given ids are changed, each one once, and nothing else. -/
structure Changed (f : SchemaModule → SchemaModule) (ids : List Int) (x x' : Merger) :
    Prop where
  keys : x'.graph.modules.keys = x.graph.modules.keys
  find : ∀ i, x'.graph.modules.find? i =
    (x.graph.modules.find? i).map fun n => if i ∈ ids ∧ i ≠ x.merged.id then f n else n
  rest : x'.graph = { x.graph with modules := x'.graph.modules }
  merged : x'.merged = if x.merged.id ∈ ids then f x.merged else x.merged
  retired : x'.retired =
    if x.retired.id ∈ ids ∧ x.retired.id ≠ x.merged.id then f x.retired else x.retired

theorem Changed.nil (f : SchemaModule → SchemaModule) (x : Merger) : Changed f [] x x where
  keys := rfl
  find i := by simp
  rest := rfl
  merged := rfl
  retired := by simp

theorem Changed.merged_id (h : Changed f ids x x') (hf : ∀ n, (f n).id = n.id) :
    x'.merged.id = x.merged.id := by
  rw [h.merged]
  split
  · exact hf _
  · rfl

theorem Changed.retired_id (h : Changed f ids x x') (hf : ∀ n, (f n).id = n.id) :
    x'.retired.id = x.retired.id := by
  rw [h.retired]
  split
  · exact hf _
  · rfl

theorem Changed.live_iff (h : Changed f ids x x') {i : Int} :
    x'.graph.Live i ↔ x.graph.Live i := by
  unfold Live
  rw [← Registry.mem_keys, ← Registry.mem_keys, h.keys]

/-- A neighbour that is there can be changed. -/
theorem change_ok {i : Int} (hlive : i ≠ x.merged.id → x.graph.Live i) :
    ∃ x', change f i x = .ok () x' ∧ Changed f [i] x x' := by
  have hget : (get : Merging Merger) x = .ok x x := rfl
  by_cases hi : i = x.merged.id
  · refine ⟨{ x with merged := f x.merged }, ?_, ?_⟩
    · unfold change
      rewrite [bind_ok hget, if_pos hi]
      rfl
    · refine ⟨rfl, fun j => ?_, rfl, ?_, ?_⟩
      · have hj : ∀ n, (if j ∈ [i] ∧ j ≠ x.merged.id then f n else n) = n := by
          intro n
          refine if_neg ?_
          rintro ⟨hji, hne⟩
          exact hne ((List.mem_singleton.mp hji).trans hi)
        simp only [hj, Option.map_id']
      · rw [if_pos (List.mem_singleton.mpr hi.symm)]
      · have hretired : ¬ (x.retired.id ∈ [i] ∧ x.retired.id ≠ x.merged.id) := by
          rw [List.mem_singleton]
          rintro ⟨heq, hne⟩
          exact hne (heq.trans hi)
        rw [if_neg hretired]
  · obtain ⟨n, hn⟩ := hlive hi
    have hmodify : x.graph.modify i f =
        .ok { x.graph with modules := x.graph.modules.insert i (f n) } := by
      unfold ModuleGraph.modify
      rw [module_eq_ok_iff.mpr hn]
      rfl
    refine ⟨{ x with
      graph := { x.graph with modules := x.graph.modules.insert i (f n) }
      retired := if i = x.retired.id then f x.retired else x.retired }, ?_, ?_⟩
    · unfold change
      rewrite [bind_ok hget, if_neg hi, hmodify]
      rfl
    · refine ⟨Registry.keys_insert_of_mem (Registry.mem_keys.mpr ⟨n, hn⟩), fun j => ?_, rfl, ?_, ?_⟩
      · dsimp only
        rw [Registry.find?_insert]
        by_cases hj : j = i
        · rw [if_pos hj, hj, hn]
          simp [hi]
        · rw [if_neg hj]
          simp [hj]
      · rw [if_neg fun hmem => hi (List.mem_singleton.mp hmem).symm]
      · dsimp only
        by_cases hr : i = x.retired.id
        · rw [if_pos hr, if_pos ⟨List.mem_singleton.mpr hr.symm, hr ▸ hi⟩]
        · rw [if_neg hr, if_neg fun h => hr (List.mem_singleton.mp h.1).symm]

theorem Changed.cons (hf : ∀ n, (f n).id = n.id) {i : Int} (hi : i ∉ ids)
    (h : Changed f [i] x x₁) (hs : Changed f ids x₁ x₂) : Changed f (i :: ids) x x₂ := by
  have hmid := h.merged_id hf
  have hrid := h.retired_id hf
  refine ⟨hs.keys.trans h.keys, fun j => ?_, ?_, ?_, ?_⟩
  · rw [hs.find, h.find, Option.map_map]
    congr 1
    funext n
    rw [hmid, Function.comp_apply]
    by_cases hj : j = i
    · simp [hj, hi]
    · simp [hj]
  · rw [hs.rest, h.rest]
  · rw [hs.merged, hmid, h.merged]
    by_cases hm : x.merged.id = i
    · simp [hm, hi]
    · simp [hm]
  · rw [hs.retired, hmid, hrid, h.retired]
    by_cases hr : x.retired.id = i
    · simp [hr, hi]
    · simp [hr]

/-- Neighbours that are all there are changed one after another. -/
theorem forM_change_ok (hf : ∀ n, (f n).id = n.id) (hids : ids.Nodup)
    (hlive : ∀ i ∈ ids, i ≠ x.merged.id → x.graph.Live i) :
    ∃ x', ids.forM (change f) x = .ok () x' ∧ Changed f ids x x' := by
  induction ids generalizing x with
  | nil => exact ⟨x, rfl, .nil f x⟩
  | cons i rest ih =>
      obtain ⟨hi, hrest⟩ := List.nodup_cons.mp hids
      obtain ⟨x₁, hstep, h₁⟩ := change_ok (f := f) (hlive i List.mem_cons_self)
      -- A change takes no module away.
      have hlive₁ : ∀ j ∈ rest, j ≠ x₁.merged.id → x₁.graph.Live j := by
        intro j hj hne
        rw [h₁.merged_id hf] at hne
        exact h₁.live_iff.mpr (hlive j (List.mem_cons_of_mem i hj) hne)
      obtain ⟨x₂, hsteps, h₂⟩ := ih hrest hlive₁
      exact ⟨x₂, (bind_ok hstep).trans hsteps, h₁.cons hf hi h₂⟩

/-! ## All steps -/

variable {g : ModuleGraph} {m other : SchemaModule}

section Turned

variable (hw : g.Wired) (hother : g.modules.find? other.id = some other) (hne : m.id ≠ other.id)

include hw hother hne

/-- The module that is taken over, once the modules that it depends on have been
    turned away from it: an edge of the module to itself is not turned again. -/
theorem not_mem_dependedOnBy_turned :
    other.id ∉ (if other.id ∈ other.dependsOn then other.turnDependent other.id m.id
      else other).dependedOnBy := by
  by_cases hself : other.id ∈ other.dependsOn
  · rw [if_pos hself]
    unfold turnDependent
    rw [OrderedSet.mem_insert, OrderedSet.mem_erase]
    simp [hne.symm]
  · rw [if_neg hself]
    intro hmem
    obtain ⟨n, hn, hdep⟩ := hw.back hother hmem
    rw [hother, Option.some.injEq] at hn
    exact hself (hn ▸ hdep)

omit hother hne in
/-- With both ends of its edges turned, every live module but the two is
    redirected. -/
theorem erase_turned (hmid : x₁.merged.id = m.id)
    (hsame : SameApart m.id other.id other x₁.retired)
    (h₁ : Changed (.turnDependent other.id m.id) other.dependsOn.toList ⟨g, m, other⟩ x₁)
    (h₂ : Changed (.turnDependency other.id m.id) x₁.retired.dependedOnBy.toList x₁ x₂) :
    x₂.graph.modules.erase other.id = (g.modules.erase other.id).mapValues
      (fun id x => if id = m.id then x else x.redirect other m.id) := by
  apply Registry.ext_find?
  · rw [Registry.keys_erase, h₂.keys, h₁.keys, Registry.keys_mapValues, Registry.keys_erase]
  · intro i
    rw [Registry.find?_erase, Registry.find?_mapValues, Registry.find?_erase]
    by_cases hio : i = other.id
    · rw [if_pos hio, if_pos hio]
      rfl
    · rw [if_neg hio, if_neg hio, h₂.find, h₁.find, Option.map_map, hmid]
      dsimp only
      cases hn : g.modules.find? i with
      | none => rfl
      | some n =>
          rw [Option.map_some, Option.map_some, Function.comp_apply]
          by_cases him : i = m.id
          · rw [if_pos him, if_neg fun h => h.2 him, if_neg fun h => h.2 him]
          · have hto : (i ∈ other.dependsOn.toList ∧ i ≠ m.id) ↔ n.id ∈ other.dependsOn := by
              rw [hw.keyed hn]
              exact and_iff_left him
            have hfrom : (i ∈ x₁.retired.dependedOnBy.toList ∧ i ≠ m.id) ↔
                n.id ∈ other.dependedOnBy := by
              rw [hw.keyed hn]
              exact (and_iff_left him).trans (hsame.dependedOnBy i him hio)
            simp only [hto, hfrom, if_neg him]
            exact congrArg some (redirect_eq rfl)

/-- The neighbours of a module of a wired graph, turned to the one that takes it
    over. -/
theorem turnEdges_ok :
    ∃ x', turnEdges ⟨g, m, other⟩ = .ok () x' ∧
      x'.graph.modules.erase other.id = (g.modules.erase other.id).mapValues
        (fun id x => if id = m.id then x else x.redirect other m.id) ∧
      x'.graph = { g with modules := x'.graph.modules } ∧
      SameApart m.id other.id m x'.merged ∧ SameApart m.id other.id other x'.retired ∧
      { x'.retired with removed := true } = other.retired m.id := by
  obtain ⟨x₁, hfirst, h₁⟩ := forM_change_ok (f := .turnDependent other.id m.id)
    (x := ⟨g, m, other⟩) (fun _ => rfl) other.dependsOn.nodup_toList fun i hi _ => by
      obtain ⟨n, hn, -⟩ := hw.forth hother hi
      exact ⟨n, hn⟩
  have hmid : x₁.merged.id = m.id := h₁.merged_id fun _ => rfl
  have hrid : x₁.retired.id = other.id := h₁.retired_id fun _ => rfl
  have hretired : x₁.retired =
      if other.id ∈ other.dependsOn then other.turnDependent other.id m.id else other := by
    rw [h₁.retired]
    exact if_congr (and_iff_left hne.symm) rfl rfl
  have hsame : SameApart m.id other.id other x₁.retired := by
    rw [hretired]
    exact (sameApart_turnDependent m.id other.id other).ite _
  -- What depends on the module to be taken over is there still, or takes over itself.
  have hlive : ∀ i ∈ x₁.retired.dependedOnBy, i ≠ x₁.merged.id → x₁.graph.Live i := by
    intro i hi hne'
    rw [hmid] at hne'
    apply h₁.live_iff.mpr
    by_cases hio : i = other.id
    · exact ⟨other, hio ▸ hother⟩
    · obtain ⟨n, hn, -⟩ := hw.back hother ((hsame.dependedOnBy i hne' hio).mp hi)
      exact ⟨n, hn⟩
  obtain ⟨x₂, hsecond, h₂⟩ := forM_change_ok (f := .turnDependency x₁.retired.id x₁.merged.id)
    (x := x₁) (fun _ => rfl) x₁.retired.dependedOnBy.nodup_toList hlive
  rw [hmid, hrid] at h₂
  refine ⟨x₂, (bind_ok hfirst).trans hsecond, erase_turned hw hmid hsame h₁ h₂, ?_, ?_, ?_, ?_⟩
  · rw [h₂.rest, h₁.rest]
  · rw [h₂.merged, hmid, h₁.merged]
    exact ((sameApart_turnDependent m.id other.id m).ite _).trans
      ((sameApart_turnDependency m.id other.id _).ite _)
  · rw [h₂.retired]
    exact hsame.trans ((sameApart_turnDependency m.id other.id _).ite _)
  · have hnot : other.id ∉ x₁.retired.dependedOnBy := by
      rw [hretired]
      exact not_mem_dependedOnBy_turned hw hother hne
    rw [h₂.retired, hrid, if_neg fun h => hnot h.1, hretired]
    rfl

end Turned

/-- In a wired graph a live module is taken over by a different one of its
    namespace. -/
theorem steps_ok (hw : g.Wired) (hother : g.modules.find? other.id = some other)
    (hne : m.id ≠ other.id) (hns : m.ns = other.ns) :
    steps ⟨g, m, other⟩ = .ok ()
      { graph := ({ g with modules := (g.modules.erase other.id).mapValues fun id x =>
          if id = m.id then x else x.redirect other m.id }).enterRoots (m.takeOver other)
        merged := m.takeOver other
        retired := other.retired m.id } := by
  have hcheck : check ⟨g, m, other⟩ = .ok () ⟨g, m, other⟩ := check_ok hns hne
  have hroots : (modify fun x : Merger => { x with merged := x.merged.takeRoots x.retired } :
      Merging Unit) ⟨g, m, other⟩ = .ok () ⟨g, m.takeRoots other, other⟩ := rfl
  obtain ⟨x, hturn, hmodules, hrest, hmerged, hretired, hremoved⟩ :=
    turnEdges_ok (m := m.takeRoots other) hw hother hne
  have htake : x.merged.takeEdges x.retired = m.takeOver other := hmerged.takeEdges_eq hretired
  have hedges : (modify fun x : Merger => { x with merged := x.merged.takeEdges x.retired } :
      Merging Unit) x = .ok () { x with merged := m.takeOver other } := by
    rw [← htake]
    rfl
  unfold steps
  rw [bind_ok hcheck, bind_ok hroots, bind_ok hturn, bind_ok hedges]
  show EStateM.Result.ok () (Merger.mk { x.graph.enterRoots (m.takeOver other) with
    modules := x.graph.modules.erase x.retired.id } _ _) = _
  rw [hretired.id_eq, hmodules, hremoved, hrest]
  rfl

end Merging

end SchemaRecovery
