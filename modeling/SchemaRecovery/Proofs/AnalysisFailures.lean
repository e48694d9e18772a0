/-
  SchemaRecovery.Proofs.AnalysisFailures

  Why the analysis of an assembly can fail. Discovering types and recording needs
  fail only for what the document says (`Failure.OfDocument`): every message and
  enum that is looked up by its name is there, because nested types are linked
  only if they are, and because the root message that a type records is one
  (`failsOnly_discover`, `failsOnly_populateDependencies`). The check of the links
  fails only for types that are linked to no message (`failsOnly_connect`).
-/
import SchemaRecovery.Proofs.Needs

namespace SchemaRecovery

/-- The failure comes from what the document says: a type is not described as it
    has to be, the runtime library is not referenced, or null stands where a value
    is worked with. -/
def Failure.OfDocument (e : Failure) : Prop :=
  e.kind = .metadata ∨ e.kind = .missingDependency ∨ e.kind = .nullOperand ∨ e.kind = .member

theorem Failure.OfDocument.metadata {e : Failure} (h : e.kind = .metadata) : e.OfDocument :=
  Or.inl h

theorem Failure.OfDocument.null : Failure.nullOperand.OfDocument := Or.inr (Or.inr (Or.inl rfl))

theorem Failure.OfDocument.nullName : Failure.nullName.OfDocument := Or.inr (Or.inr (Or.inr rfl))

open Failure (OfDocument)

section Null

variable {α : Type} {P : Failure → Prop} (h : P .nullOperand)

include h

theorem failsOnly_present (x : Option α) : FailsOnly P (TypeDescriptor.present x) := by
  cases x with
  | none => exact .error h
  | some a => exact .ok a

theorem Label.failsOnly_sortOn (key : α → Label) (l : List α) : FailsOnly P (sortOn key l) := by
  unfold sortOn
  split
  · exact .ok _
  · exact .error h

theorem Label.failsOnly_sortOnPair (key : α → Label × Label) (l : List α) :
    FailsOnly P (sortOnPair key l) := by
  unfold sortOnPair
  split
  · exact .ok _
  · exact .error h

end Null

/-! ## Discovering types -/

theorem TypeDescriptor.failsOnly_implements (t : TypeDescriptor) (interface : Text) :
    FailsOnly OfDocument (t.implements interface) :=
  (failsOnly_present .null _).bind fun _ _ => .ok _

theorem Assembly.failsOnly_checkRuntime (a : Assembly) :
    FailsOnly OfDocument a.checkRuntime.outcome := by
  refine Logged.failsOnly_bind ((failsOnly_present .null _).bind fun _ _ => .ok _) fun found _ => ?_
  cases found with
  | none => exact .error (Or.inr (Or.inl rfl))
  | some r => exact .ok ()

namespace Schema

mutual

theorem failsOnly_enlist : ∀ (t : TypeDescriptor) (root : Label),
    FailsOnly OfDocument (enlist root t)
  | ⟨name, ns, kind, interfaces, fields, properties, fullName, declaringType, nested⟩, root => by
      rw [enlist]
      refine (TypeDescriptor.failsOnly_implements _ _).bind fun isMessage _ => ?_
      refine (failsOnly_enlistAll nested _).bind fun below _ => ?_
      exact (Label.failsOnly_sortOn .null _ _).bind fun _ _ => .ok _

theorem failsOnly_enlistAll : ∀ (ts : List TypeDescriptor) (root : Label),
    FailsOnly OfDocument (enlistAll root ts)
  | [], root => by
      rw [enlistAll]
      exact .ok _
  | t :: rest, root => by
      rw [enlistAll]
      refine (failsOnly_enlist t root).bind fun types _ => ?_
      exact (failsOnly_enlistAll rest root).bind fun _ _ => .ok _

end

theorem failsOnly_register (s : Schema) (entry : TypeDescriptor × Label) :
    FailsOnly OfDocument (s.register entry) := by
  unfold register
  refine (TypeDescriptor.failsOnly_implements _ _).bind fun isMessage _ => ?_
  dsimp only
  split
  · refine FailsOnly.bind ?_ fun values _ => .ok _
    exact (failsOnly_present .null _).bind fun _ _ => .ok _
  · exact .ok _

theorem failsOnly_gather (a : Assembly) (s : Schema) : FailsOnly OfDocument (gather a s) := by
  unfold gather
  refine (failsOnly_enlistAll a.types none).bind fun listings _ => ?_
  refine (Label.failsOnly_sortOn .null _ _).bind fun sorted _ => ?_
  exact FailsOnly.foldlM_of_forall failsOnly_register _ s

end Schema

/-! ## Recovering fields -/

theorem TypeReference.failsOnly_ofLabel (n : Label) : FailsOnly OfDocument (ofLabel n) := by
  unfold ofLabel
  split
  · exact .error .null
  · split
    · exact .ok _
    · exact .error (.metadata rfl)

theorem failsOnly_nameText (n : Label) : FailsOnly OfDocument (nameText n) := by
  unfold nameText
  split
  · exact .error .nullName
  · exact .ok _

namespace TypeDescriptor

variable (t : TypeDescriptor)

theorem failsOnly_property? (name : Label) : FailsOnly OfDocument (t.property? name) :=
  (failsOnly_present .null _).bind fun _ _ => .ok _

theorem failsOnly_fieldOf (p : PropertyDescriptor) (name : Label) (number : Constant)
    (isMember : Bool) : FailsOnly OfDocument (t.fieldOf p name number isMember) := by
  unfold fieldOf
  refine (TypeReference.failsOnly_ofLabel _).bind fun valueType _ => ?_
  refine FailsOnly.bind ?_ fun presence _ => .ok _
  exact (failsOnly_present .null _).bind fun _ _ => .ok _

theorem failsOnly_addMember (oneof : Text) (found : List Field × List Field)
    (value : FieldDescriptor) : FailsOnly OfDocument (t.addMember oneof found value) := by
  unfold addMember
  dsimp only
  split
  · exact .ok _
  · split
    · exact .ok _
    · refine (t.failsOnly_property? _).bind fun property _ => ?_
      split
      · exact .error (.metadata rfl)
      · refine (t.failsOnly_fieldOf _ _ _ _).bind fun member _ => ?_
        split
        · exact .error (.metadata rfl)
        · exact .ok _

theorem failsOnly_oneofOf (enums : Registry Label EnumType) (p : PropertyDescriptor) :
    FailsOnly OfDocument (oneofOf enums p) := by
  unfold oneofOf
  split
  · exact .ok _
  · refine (failsOnly_nameText _).bind fun name _ => ?_
    split
    · exact .ok _
    · refine (TypeReference.failsOnly_ofLabel _).bind fun ref _ => ?_
      split
      · exact .ok _
      · split
        · exact .ok _
        · exact .ok _

theorem failsOnly_addOneof (enums : Registry Label EnumType) (found : List Field × List Oneof)
    (p : PropertyDescriptor) : FailsOnly OfDocument (addOneof enums t found p) := by
  unfold addOneof
  refine (failsOnly_oneofOf enums p).bind fun tells _ => ?_
  split
  · exact .ok _
  · refine (failsOnly_present .null _).bind fun values _ => ?_
    refine (FailsOnly.foldlM_of_forall (t.failsOnly_addMember _) _ _).bind fun made _ => ?_
    exact .ok _

theorem failsOnly_numberedOf (c : FieldDescriptor) : FailsOnly OfDocument (numberedOf c) := by
  unfold numberedOf
  split
  · exact .ok _
  · split
    · exact .ok _
    · refine (failsOnly_nameText _).bind fun name _ => ?_
      split
      · exact .ok _
      · exact .ok _

theorem failsOnly_addField (found : List Field × List Field) (c : FieldDescriptor) :
    FailsOnly OfDocument (t.addField found c) := by
  unfold addField
  refine (failsOnly_numberedOf c).bind fun numbered _ => ?_
  split
  · exact .ok _
  · refine (t.failsOnly_property? _).bind fun property _ => ?_
    split
    · exact .error (.metadata rfl)
    · refine (t.failsOnly_fieldOf _ _ _ _).bind fun field _ => ?_
      split
      · exact .ok _
      · split
        · exact .ok _
        · exact .error (.metadata rfl)

theorem failsOnly_recoverFields (enums : Registry Label EnumType) :
    FailsOnly OfDocument (t.recoverFields enums) := by
  unfold recoverFields
  refine (failsOnly_present .null _).bind fun properties _ => ?_
  refine (FailsOnly.foldlM_of_forall (t.failsOnly_addOneof enums) _ _).bind fun oneofs _ => ?_
  refine (failsOnly_present .null _).bind fun constants _ => ?_
  exact (FailsOnly.foldlM_of_forall t.failsOnly_addField _ _).bind fun _ _ => .ok _

end TypeDescriptor

theorem Schema.failsOnly_populateFields (s : Schema) :
    FailsOnly OfDocument s.populateFields.outcome := by
  unfold Schema.populateFields
  rw [Logged.outcome_foldlM]
  refine FailsOnly.foldlM_of_forall (fun x e => ?_) _ s
  refine Logged.failsOnly_bind ?_ fun m _ => .ok _
  exact Logged.failsOnly_bind (e.2.descriptor.failsOnly_recoverFields x.enums) fun _ _ => .ok _

/-- Types are not discovered only if the document does not describe them. -/
theorem Recovery.failsOnly_discover (a : Assembly) :
    FailsOnly OfDocument (discover a).outcome := by
  rw [outcome_discover]
  refine a.failsOnly_checkRuntime.bind fun _ _ => ?_
  refine (Schema.failsOnly_gather a {}).bind fun gathered _ => ?_
  refine gathered.failsOnly_populateFields.bind fun s _ => ?_
  exact (Label.failsOnly_sortOn .null _ _).bind fun _ _ => .ok _

/-! ## Linking nested types -/

/-- The failure tells of types that are linked to no message. -/
def Failure.OfOrphans (e : Failure) : Prop :=
  (∃ names, e = .orphanMessages names) ∨ ∃ names, e = .orphanEnums names

/-- The messages that are linked to a message are there. -/
theorem Schema.Discovered.nested_found {s : Schema} {l : List (TypeDescriptor × Label)}
    (h : s.Discovered l) {n n' : Label} {m : MessageType}
    (hm : s.linkNested.messages.find? n = some m) (hn' : n' ∈ m.nestedMessages) :
    ∃ m', s.linkNested.messages.find? n' = some m' := by
  obtain ⟨x, hx, rfl⟩ := s.find?_linkNested hm
  obtain ⟨-, -, -, hcontains⟩ := (h.message hx).mem_nestedMessages_iff.mp hn'
  obtain ⟨y, hy⟩ := Registry.contains_iff.mp hcontains
  exact ⟨y.withNested s, s.find?_linkNested_of_find? hy⟩

/-- The check of the links finds every message that it looks up. -/
theorem Schema.Discovered.failsOnly_connect {s : Schema} {l : List (TypeDescriptor × Label)}
    (h : s.Discovered l) : FailsOnly Failure.OfOrphans s.connect := by
  unfold Schema.connect
  refine FailsOnly.bind ?_ fun _ _ => .ok _
  unfold Schema.checkNesting
  refine FailsOnly.bind ?_ fun families _ => ?_
  · refine FailsOnly.mapM fun root hroot => ?_
    obtain ⟨hfound, hisRoot⟩ := (Schema.mem_rootMessages_iff h.keyed_linkNested).mp hroot
    obtain ⟨family, hfamily⟩ :=
      Schema.family_ok h.keyed_linkNested h.nested_found hfound hisRoot
    exact .of_ok hfamily
  · dsimp only
    split
    · exact .error (Or.inl ⟨_, rfl⟩)
    · split
      · exact .error (Or.inr ⟨_, rfl⟩)
      · exact .ok _

/-! ## Schema types -/

namespace Schema

variable {s : Schema}

theorem failsOnly_dotted (segments : List Label) : FailsOnly OfDocument (dotted segments) :=
  (FailsOnly.mapM fun segment _ => failsOnly_present .null segment).bind fun _ _ => .ok _

/-- The name of a message or enum is put together from the name of its root message,
    which is there. -/
theorem WellNested.failsOnly_typeName (hs : s.WellNested) {n : Label}
    (hn : (s.messages.contains n || s.enums.contains n) = true) :
    FailsOnly OfDocument (s.typeName n) := by
  have hroot : ∀ {name ns r}, s.entity? n = some (name, ns, some r) →
      ∃ root, s.messages.find? (some r) = some root := by
    intro name ns r hentity
    unfold entity? at hentity
    cases hm : s.messages.find? n with
    | some m =>
        rw [hm, Option.some.injEq] at hentity
        obtain ⟨⟨root, hroot, -⟩, -⟩ := hs.owned_message hm (Prod.mk.inj (Prod.mk.inj hentity).2).2
        exact ⟨root, hroot⟩
    | none =>
        rw [hm] at hentity
        obtain ⟨e, he, hdata⟩ := Option.map_eq_some_iff.mp hentity
        obtain ⟨⟨root, hroot, -⟩, -⟩ := hs.owned_enum he (Prod.mk.inj (Prod.mk.inj hdata).2).2
        exact ⟨root, hroot⟩
  obtain ⟨⟨name, ns, rootMessage⟩, hentity⟩ := contains_iff_entity.mp hn
  unfold typeName
  rw [hentity]
  cases rootMessage with
  | none => exact failsOnly_dotted _
  | some r =>
      obtain ⟨root, hfound⟩ := hroot hentity
      exact (FailsOnly.of_ok (message_eq_ok_iff.mpr hfound)).bind fun _ _ => failsOnly_dotted _

theorem failsOnly_mapMisfit (t : TypeReference) : FailsOnly OfDocument (mapMisfit t) := by
  unfold mapMisfit
  split
  · exact .error (.metadata rfl)
  · exact .ok _

theorem WellNested.failsOnly_mapPlain (hs : s.WellNested) (name fullName : Text) :
    FailsOnly OfDocument (s.mapPlain name fullName) := by
  unfold mapPlain
  split
  · exact .ok _
  · split
    · exact .ok _
    · split
      · rename_i hcontains
        exact (hs.failsOnly_typeName hcontains).bind fun _ _ => .ok _
      · exact .ok _

/-- The schema type of a type cannot be told only if its name is null somewhere or
    it has the wrong number of arguments. -/
theorem WellNested.failsOnly_mapType (hs : s.WellNested) (t : TypeReference) :
    FailsOnly OfDocument (s.mapType t) := by
  fun_induction mapType s t with
  | case1 name rank fullName hrank => exact .ok _
  | case2 name rank fullName hrank => exact hs.failsOnly_mapPlain name fullName
  | case3 name a rank t hrank => exact .ok _
  | case4 a rank hrank t ih => exact ih.bind fun _ _ => .ok _
  | case5 a rank hrank t hne ih => exact ih.bind fun _ _ => .ok _
  | case6 name a rank t hrank hnullable hrepeated => exact failsOnly_mapMisfit t
  | case7 name a b rank t hrank => exact .ok _
  | case8 a b rank hrank t iha ihb => exact iha.bind fun _ _ => ihb.bind fun _ _ => .ok _
  | case9 name a b rank t hrank hmap => exact failsOnly_mapMisfit t
  | case10 name a b c rest rank t hrank => exact .ok _
  | case11 name a b c rest rank t hrank => exact failsOnly_mapMisfit t

/-! ## Recording needs -/

/-- What a schema type mentions is a message or an enum, so it can be recorded. -/
theorem addReference_ok {f : Field} {m : MessageType} {name : Text}
    (h : (s.messages.contains (some name) || s.enums.contains (some name)) = true) :
    ∃ m', MessageType.addReference s f m name = .ok m' := by
  unfold MessageType.addReference
  split
  · exact ⟨_, rfl⟩
  · rename_i henum
    rw [Bool.not_eq_true] at henum
    rw [henum, Bool.or_false] at h
    rw [if_pos h]
    exact ⟨_, rfl⟩

theorem WellNested.failsOnly_withNeeds (hs : s.WellNested) (m : MessageType) :
    FailsOnly OfDocument (m.withNeeds s).outcome := by
  unfold MessageType.withNeeds
  rw [Logged.outcome_foldlM]
  refine FailsOnly.foldlM_of_forall (fun m f => ?_) _ m
  unfold MessageType.addFieldNeeds
  refine Logged.failsOnly_bind (hs.failsOnly_mapType f.valueType) fun mapping hmapping => ?_
  split
  · exact .ok _
  · rename_i t
    have hknown := (mapType_eq_mapped_iff.mp hmapping).contains_internal
    rw [Logged.outcome_lift]
    refine FailsOnly.foldlM (fun rest _ => rest ⊆ t.internalTypes) ?_ fun _ hx => hx
    intro name rest m hsub
    obtain ⟨hname, hrest⟩ := List.cons_subset.mp hsub
    obtain ⟨m', hm'⟩ := addReference_ok (hknown name hname)
    exact ⟨.of_ok hm', fun _ _ => hrest⟩

/-- Recording the needs below a root message finds every message that it looks up. -/
theorem SameTypes.failsOnly_addNeedsBelow {s' : Schema} (h : SameTypes s s') (hs : s.WellNested)
    {root : MessageType} (hroot : s.messages.find? root.fullName = some root) :
    FailsOnly OfDocument (s'.addNeedsBelow root) ∧
      ∀ s'', s'.addNeedsBelow root = .ok s'' → SameTypes s s'' := by
  have hs' := h.wellNested hs
  obtain ⟨root', hroot', hbare⟩ := h.message hroot
  have hname : root.fullName = root'.fullName :=
    MessageType.eq_of_bare_eq (·.fullName) hbare.symm fun _ => rfl
  have hlist : root.nestedMessages = root'.nestedMessages :=
    MessageType.eq_of_bare_eq (·.nestedMessages) hbare.symm fun _ => rfl
  rw [hname] at hroot'
  obtain ⟨below', hbelow'⟩ := hs'.subtree_ok hroot'
  -- The walk starts from the root as it was before anything was recorded.
  obtain ⟨below, hbelow, hnames⟩ := descend_congr hname hlist hbelow'
  have hfound : ∀ n ∈ below.map (·.fullName), ∃ m, s.messages.find? n = some m := by
    intro n hn
    rw [hnames] at hn
    obtain ⟨x, hx, rfl⟩ := List.mem_map.mp hn
    obtain ⟨m, hm, -⟩ := h.symm.message ((mem_subtree_iff hs' hroot' hbelow').mp hx).1
    exact ⟨m, hm⟩
  unfold addNeedsBelow
  rw [show s'.subtree root = .ok below from hbelow, ok_bind]
  constructor
  · refine FailsOnly.foldlM (fun rest x => SameTypes s x ∧ rest ⊆ below.map (·.fullName)) ?_
      ⟨h, fun _ hx => hx⟩
    rintro n rest x ⟨hx, hsub⟩
    obtain ⟨hn, hrest⟩ := List.cons_subset.mp hsub
    obtain ⟨m₀, hm₀⟩ := hfound n hn
    obtain ⟨m, hm, -⟩ := hx.message hm₀
    refine ⟨?_, fun x' hx' => ⟨hx.addNeeds hx', hrest⟩⟩
    unfold Schema.addNeeds
    refine Logged.failsOnly_bind (.of_ok (message_eq_ok_iff.mpr hm)) fun m _ => ?_
    exact Logged.failsOnly_bind ((hx.wellNested hs).failsOnly_withNeeds m) fun _ _ => .ok _
  · intro s'' hs''
    exact foldlM_keeps (fun _ x => SameTypes s x) (fun _ _ _ _ hx hx' => hx.addNeeds hx') h hs''

/-- Recording the needs of all messages fails only if a schema type cannot be told. -/
theorem WellNested.failsOnly_populateDependencies (hs : s.WellNested) :
    FailsOnly OfDocument s.populateDependencies.outcome := by
  unfold populateDependencies
  rw [Logged.outcome_foldlM]
  simp only [Logged.outcome_bind, Logged.outcome_foldlM]
  refine FailsOnly.foldlM (f := addNeedsBelow)
    (fun rest x => SameTypes s x ∧ rest ⊆ s.rootMessages) ?_ ⟨.refl s, fun _ hx => hx⟩
  rintro root rest x ⟨hx, hsub⟩
  obtain ⟨hroot, hrest⟩ := List.cons_subset.mp hsub
  obtain ⟨hfails, hkeeps⟩ :=
    hx.failsOnly_addNeedsBelow hs ((mem_rootMessages_iff hs.keyed_message).mp hroot).1
  exact ⟨hfails, fun x' hx' => ⟨hkeeps x' hx', hrest⟩⟩

end Schema

end SchemaRecovery
