/-
  SchemaRecovery.Proofs.ReorderedAnalysis

  The analysis of schemas that are alike. The schema type of a managed type is
  the same in both (`Alike.sameNames`). What a message needs is recorded for
  the messages of a family one after another; as no message looks at what the
  others have recorded, their order makes no difference
  (`follows_addNeeds_comm`), and the schemas stay alike (`follows_relate`).
-/
import SchemaRecovery.Proofs.Needs
import SchemaRecovery.Proofs.ReorderedSchema

namespace SchemaRecovery

namespace Schema

variable {s s' : Schema}

/-! ## Needs -/

theorem Alike.sameNames (h : s.Alike s') : SameNames s s' where
  messages := by
    intro n
    rcases h.messages.find? n with ⟨hm, hm'⟩ | ⟨m, m', hm, hm', hmm⟩
    · rw [hm, hm', Option.map_none]
    · rw [hm, hm', Option.map_some, Option.map_some, hmm.name, hmm.ns, hmm.fullName,
        hmm.rootMessage]
  enums := by
    intro n
    rcases h.enums.find? n with ⟨he, he'⟩ | ⟨e, e', he, he', hee⟩
    · rw [he, he', Option.map_none]
    · rw [he, he', Option.map_some, Option.map_some, hee.name, hee.ns, hee.rootMessage]

theorem SameNames.withNeeds (h : SameNames s s') (m : MessageType) :
    m.withNeeds s = m.withNeeds s' := by
  unfold MessageType.withNeeds MessageType.addFieldNeeds MessageType.addReference
  simp only [h.mapType, h.contains_message, h.contains_enum]

theorem follows_addReference {m m' : MessageType} (h : m.Alike m') (f : Field) (name : Text) :
    Follows MessageType.Alike (MessageType.addReference s f m name)
      (MessageType.addReference s f m' name) := by
  unfold MessageType.addReference
  split
  · refine .ok { h with dependsOnEnums := ?_ }
    dsimp only
    rw [h.dependsOnEnums]
  · split
    · refine .ok { h with dependsOnMessages := ?_ }
      dsimp only
      rw [h.dependsOnMessages]
    · exact .error _

theorem follows_withNeeds {m m' : MessageType} (h : m.Alike m') :
    Follows MessageType.Alike (m.withNeeds s).outcome (m'.withNeeds s).outcome := by
  unfold MessageType.withNeeds
  rw [Logged.outcome_foldlM, Logged.outcome_foldlM, h.allFields]
  refine .foldlM_same _ (fun x x' f hx => ?_) h
  unfold MessageType.addFieldNeeds
  rw [Logged.outcome_bind, Logged.outcome_bind]
  refine .bind_same fun mapping => ?_
  cases mapping with
  | unmapped => exact .ok hx
  | mapped t =>
      refine .foldlM_same _ (fun y y' name hy => follows_addReference hy f name) ?_
      refine { hx with imports := ?_ }
      dsimp only
      rw [hx.imports]

theorem follows_addNeeds (h : s.Alike s') (n : Label) :
    Follows Alike (s.addNeeds n).outcome (s'.addNeeds n).outcome := by
  unfold addNeeds
  rw [Logged.outcome_bind, Logged.outcome_bind]
  refine (h.message n).bind fun m m' hm => ?_
  rw [Logged.outcome_bind, Logged.outcome_bind, ← h.sameNames.withNeeds]
  refine (follows_withNeeds hm).bind fun x x' hx => .ok ?_
  exact ⟨h.messages.insert n hx, h.enums⟩

/-- Recording the needs of a message keeps all names. -/
theorem sameNames_of_addNeeds {n : Label} {u : Schema} (h : (s.addNeeds n).outcome = .ok u) :
    SameNames s u :=
  ((SameTypes.refl s).addNeeds h).symm.sameNames

/-- The needs of two messages are recorded in either order. -/
theorem follows_addNeeds_comm (s : Schema) (n k : Label) :
    Follows Eq ((s.addNeeds n).outcome >>= fun u => (u.addNeeds k).outcome)
      ((s.addNeeds k).outcome >>= fun u => (u.addNeeds n).outcome) := by
  by_cases hnk : n = k
  · rw [hnk]
    exact .of_eq rfl
  · intro v hv
    obtain ⟨u, hu, hv⟩ := bind_eq_ok.mp hv
    have hnames := sameNames_of_addNeeds hu
    obtain ⟨m, m', hm, hm', rfl⟩ := addNeeds_eq_ok_iff.mp hu
    obtain ⟨x, x', hx, hx', rfl⟩ := addNeeds_eq_ok_iff.mp hv
    rw [Registry.find?_insert, if_neg (Ne.symm hnk)] at hx
    rw [← hnames.withNeeds] at hx'
    -- The second message is as it was, and so is the first after it.
    have hother : (s.addNeeds k).outcome = .ok { s with messages := s.messages.insert k x' } :=
      addNeeds_eq_ok_iff.mpr ⟨x, x', hx, hx', rfl⟩
    have hnames' := sameNames_of_addNeeds hother
    refine ⟨_, bind_eq_ok.mpr ⟨_, hother, addNeeds_eq_ok_iff.mpr ⟨m, m', ?_, ?_, rfl⟩⟩, ?_⟩
    · rw [Registry.find?_insert, if_neg hnk]
      exact hm
    · rw [← hnames'.withNeeds]
      exact hm'
    · dsimp only
      rw [Registry.insert_comm (Ne.symm hnk) (Registry.mem_keys.mpr ⟨m, hm⟩)]

theorem follows_addNeedsBelow (h : s.Alike s') {m m' : MessageType} (hm : m.Alike m') :
    Follows Alike (s.addNeedsBelow m) (s'.addNeedsBelow m') := by
  unfold addNeedsBelow
  refine (follows_subtree h hm).bind fun below below' hbelow => ?_
  have hnames := Shuffled.of_perm (hbelow.map_perm fun x x' hx => hx.fullName)
  refine hnames.foldlM ?_ follows_addNeeds_comm h
  rintro u u' n _ hu rfl
  exact follows_addNeeds hu n

theorem follows_populateDependencies (h : s.Alike s') :
    Follows Alike s.populateDependencies.outcome s'.populateDependencies.outcome := by
  have hbelow : ∀ u : Schema, u.populateDependencies.outcome =
      u.rootMessages.foldlM addNeedsBelow u := by
    intro u
    unfold populateDependencies
    rw [Logged.outcome_foldlM]
    simp only [Logged.outcome_bind, Logged.outcome_foldlM]
    rfl
  rw [hbelow, hbelow]
  exact .foldlM h.rootMessages (fun _ _ _ _ hu hm => follows_addNeedsBelow hu hm) h

/-! ## Dropping enums -/

theorem Alike.prune (h : s.Alike s') : s.prune.1.Alike s'.prune.1 := by
  have hkept : s.referencedEnums = s'.referencedEnums := by
    unfold referencedEnums
    rw [List.flatMap_def, List.flatMap_def, map_eq_of_forall₂ h.messages.values fun m m' hm =>
      congrArg OrderedSet.toList hm.dependsOnEnums]
  unfold Schema.prune
  dsimp only
  rw [hkept]
  have henums := h.enums.filterKeys fun name => (name.map s'.referencedEnums.contains).getD false
  refine ⟨h.messages.mapValues fun n m m' _ hm => { hm with nestedEnums := ?_ }, henums⟩
  dsimp only
  rw [funext henums.contains]
  exact hm.nestedEnums.filter _

/-! ## The analysis -/

theorem follows_relate (h : s.Alike s') (hone : ∀ {n m}, s.messages.find? n = some m →
    (m.descriptor.nested.map (·.name)).Nodup) :
    Follows Alike (Recovery.relate s).outcome (Recovery.relate s').outcome := by
  rw [Recovery.outcome_relate, Recovery.outcome_relate]
  refine (follows_connect h hone).bind fun u u' hu => ?_
  exact (follows_populateDependencies hu).bind fun v v' hv => .ok hv.prune

end Schema

namespace Recovery

theorem checkRuntime_of_reordered {U : TypeDescriptor → TypeDescriptor → Prop} {a a' : Assembly}
    (h : a.Reordered U a') : a.checkRuntime = a'.checkRuntime := by
  unfold Assembly.checkRuntime Assembly.reference?
  rw [h.name, h.references]

theorem namespaces_of_alike {s s' : Schema} (h : s.Alike s') : namespaces s = namespaces s' := by
  unfold namespaces
  rw [map_eq_of_forall₂ h.messages.values fun _ _ hm => hm.ns]

/-- The types of an assembly in another order are discovered alike. -/
theorem follows_discover {a a' : Assembly} (ha : a.Named)
    (h : a.Reordered TypeDescriptor.Reordered a') :
    Follows Schema.Alike (discover a).outcome (discover a').outcome := by
  rw [outcome_discover, outcome_discover, checkRuntime_of_reordered h]
  refine .bind_same fun _ => (Schema.follows_gather ha h).bind fun s s' hs => ?_
  refine (Schema.follows_populateFields hs).bind fun u u' hu => ?_
  rw [namespaces_of_alike hu]
  exact .bind_same fun _ => .ok hu

/-- Types at the top in another order are discovered as they were. -/
theorem follows_discover_perm {a a' : Assembly} (ha : a.Named) (h : a.Reordered Eq a') :
    Follows Eq (discover a).outcome (discover a').outcome := by
  rw [outcome_discover, outcome_discover, checkRuntime_of_reordered h]
  refine .bind_same fun _ => (Schema.follows_gather_perm ha h {}).bind fun s s' hs => ?_
  rw [hs]
  exact .of_eq rfl

end Recovery

end SchemaRecovery
