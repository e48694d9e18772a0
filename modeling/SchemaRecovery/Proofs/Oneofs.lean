/-
  SchemaRecovery.Proofs.Oneofs

  The oneofs of a message. Each comes from a property that tells its case, in the
  order of the properties, and its members from the positive values of the enum of
  cases, in the order of the values. The search takes a property for one that tells
  a case also if nothing stands before `Case` in its name, or if its type is an array
  of an enum of cases. Only where there is no such property are the oneofs those of
  which case properties tell (`oneofs_of_gather`).
-/
import SchemaRecovery.Proofs.NumberClashes

namespace SchemaRecovery

open TypeDescriptor

/-! ## Entries made of others -/

section Selected

variable {α β ε σ : Type} {wanted wanted' : α → Prop} {R R' : α → β → Prop} {l : List α}
  {made made' : List β}

/-- The second list has one entry for each entry of the first that is wanted, in
    order. -/
inductive Selected (wanted : α → Prop) (R : α → β → Prop) : List α → List β → Prop
  | nil : Selected wanted R [] []
  | skip {a : α} {l : List α} {made : List β} (ha : ¬wanted a) (h : Selected wanted R l made) :
      Selected wanted R (a :: l) made
  | take {a : α} {b : β} {l : List α} {made : List β} (ha : wanted a) (hb : R a b)
      (h : Selected wanted R l made) : Selected wanted R (a :: l) (b :: made)

namespace Selected

/-- Entries that are wanted under one name and made under it are so under another that
    agrees on the list. -/
theorem congr (h : Selected wanted R l made) (hwanted : ∀ a ∈ l, wanted a ↔ wanted' a)
    (hR : ∀ a ∈ l, ∀ b, R a b → R' a b) : Selected wanted' R' l made := by
  induction h with
  | nil => exact .nil
  | skip ha _ ih =>
      obtain ⟨hhead, htail⟩ := List.forall_mem_cons.mp hwanted
      exact .skip (fun ha' => ha (hhead.mpr ha')) (ih htail (List.forall_mem_cons.mp hR).2)
  | take ha hb _ ih =>
      obtain ⟨hhead, htail⟩ := List.forall_mem_cons.mp hwanted
      obtain ⟨hb', hrest⟩ := List.forall_mem_cons.mp hR
      exact .take (hhead.mp ha) (hb' _ hb) (ih htail hrest)

/-- An entry is made from one that is wanted. -/
theorem exists_of_mem (h : Selected wanted R l made) {b : β} (hb : b ∈ made) :
    ∃ a ∈ l, wanted a ∧ R a b := by
  induction h with
  | nil => cases hb
  | skip _ _ ih =>
      obtain ⟨a, ha, hab⟩ := ih hb
      exact ⟨a, List.mem_cons_of_mem _ ha, hab⟩
  | take ha hab _ ih =>
      rcases List.mem_cons.mp hb with rfl | hb
      · exact ⟨_, List.mem_cons_self, ha, hab⟩
      · obtain ⟨a, ha, hab⟩ := ih hb
        exact ⟨a, List.mem_cons_of_mem _ ha, hab⟩

/-- The fewer entries are wanted, the fewer are made. -/
theorem length_le (h : Selected wanted R l made) (h' : Selected wanted' R' l made')
    (hsub : ∀ a, wanted' a → wanted a) : made'.length ≤ made.length := by
  -- Both selections walk down the same list, one entry at a time.
  induction h generalizing made' with
  | nil =>
      cases h'
      exact Nat.le_refl 0
  | skip ha _ ih =>
      cases h' with
      | skip _ h' => exact ih h'
      | take ha' _ _ => exact absurd (hsub _ ha') ha
  | take _ _ _ ih =>
      cases h' with
      | skip _ h' => exact Nat.le_succ_of_le (ih h')
      | take _ _ h' => exact Nat.succ_le_succ (ih h')

/-- If as many entries are made although fewer may be wanted, the same are wanted. -/
theorem wanted_of_made (h : Selected wanted R l made) (h' : Selected wanted' R' l made)
    (hsub : ∀ a, wanted' a → wanted a) : ∀ a ∈ l, wanted a → wanted' a := by
  induction h with
  | nil => simp
  | skip ha _ ih =>
      cases h' with
      | skip _ h' => exact List.forall_mem_cons.mpr ⟨fun hwanted => absurd hwanted ha, ih h'⟩
      | take ha' _ _ => exact absurd (hsub _ ha') ha
  | take _ _ h ih =>
      cases h' with
      | skip _ h' =>
          -- The entry made here would be missing at the end.
          have hle := h.length_le h' hsub
          rw [List.length_cons] at hle
          omega
      | take ha' _ h' => exact List.forall_mem_cons.mpr ⟨fun _ => ha', ih h'⟩

/-- A fold selects, if each of its steps makes nothing or one entry, which goes to the
    end. -/
theorem of_foldlM {f : σ → α → Except ε σ} (list : σ → List β) {x r : σ}
    (hstep : ∀ a x x', f x a = .ok x' → (¬wanted a ∧ list x' = list x) ∨
      (wanted a ∧ ∃ b, R a b ∧ list x' = list x ++ [b]))
    (h : l.foldlM f x = .ok r) : ∃ made, Selected wanted R l made ∧ list r = list x ++ made := by
  -- The start is general, as each step leaves another one to the rest.
  induction l generalizing x with
  | nil =>
      obtain rfl : x = r := Except.ok.inj h
      exact ⟨[], .nil, (List.append_nil _).symm⟩
  | cons a rest ih =>
      rw [List.foldlM_cons] at h
      obtain ⟨x', hx', h⟩ := bind_eq_ok.mp h
      obtain ⟨made, hmade, hr⟩ := ih h
      rcases hstep a x x' hx' with ⟨hskip, heq⟩ | ⟨htake, b, hb, heq⟩
      · exact ⟨made, .skip hskip hmade, heq ▸ hr⟩
      · refine ⟨b :: made, .take htake hb hmade, ?_⟩
        rw [hr, heq, List.append_assoc]
        rfl

end Selected

end Selected

namespace TypeDescriptor

/-! ## What oneofs come from -/

/-- The property is taken for the one that tells the case of the oneof by the enum. -/
structure TellsOneof (enums : Registry Label EnumType) (p : PropertyDescriptor) (oneof : Text)
    (e : EnumType) : Prop extends TellsCase enums p e where
  name : p.name = some (oneof ++ caseEnding)

/-- The property tells the case of the oneof by the enum: an instance lets it be read,
    it has the name of the oneof, which is not void, before `Case`, and its type as a
    whole, without arguments and brackets, is an enum of cases. -/
structure IsCaseOf (enums : Registry Label EnumType) (p : PropertyDescriptor) (oneof : Text)
    (e : EnumType) : Prop where
  readable : p.isInstanceReadable = true
  name : p.name = some (oneof ++ caseEnding)
  named : oneof ≠ []
  typed : ∃ ref, TypeReference.ofLabel p.type = .ok ref ∧ ref.arguments = [] ∧
    ref.arrayRank = 0 ∧ Text.hasEnding ref.simpleName caseEnumEnding = true ∧
    enums.find? (some ref.name) = some e

/-- The field is the member that a value of a case enum names: it has the number of
    the value, and the type of the property of its name. -/
structure MemberOf (t : TypeDescriptor) (v : FieldDescriptor) (f : Field) : Prop where
  value : IsMember v (f.name, f.number)
  member : f.isOneofMember = true
  type : ∃ p, t.property? v.name = .ok (some p) ∧ TypeReference.ofLabel p.type = .ok f.valueType

/-- The oneof has the cases of the enum. Its members are those that the positive
    static constants of the enum name, in order. -/
structure OneofOf (t : TypeDescriptor) (e : EnumType) (o : Oneof) : Prop where
  discriminator : o.discriminator = e.fullName
  members : ∃ values, e.descriptor.fields = some values ∧
    Selected (fun v => ∃ x, IsMember v x) (MemberOf t) values o.members

variable {t : TypeDescriptor} {enums : Registry Label EnumType} {p : PropertyDescriptor}
  {oneof : Text} {e : EnumType} {v : FieldDescriptor}

/-- What `IsCaseOf` asks for besides. -/
theorem TellsOneof.isCaseOf_iff (h : TellsOneof enums p oneof e) : IsCaseOf enums p oneof e ↔
    oneof ≠ [] ∧ ∀ ref, TypeReference.ofLabel p.type = .ok ref → ref.arrayRank = 0 := by
  obtain ⟨ref, href, hplain, hending, he⟩ := h.typed
  constructor
  · rintro ⟨-, -, hnamed, ref', href', -, hrank, -, -⟩
    refine ⟨hnamed, fun x hx => ?_⟩
    rw [href', Except.ok.injEq] at hx
    exact hx ▸ hrank
  · rintro ⟨hnamed, hrank⟩
    refine ⟨h.readable, h.name, hnamed, ref, href, ?_, hrank ref href, hending, he⟩
    simpa [TypeReference.isGeneric] using hplain

theorem IsCaseOf.tellsOneof (h : IsCaseOf enums p oneof e) : TellsOneof enums p oneof e := by
  obtain ⟨ref, href, hplain, -, hending, he⟩ := h.typed
  have hgeneric : ref.isGeneric = false := by simp [TypeReference.isGeneric, hplain]
  exact ⟨⟨h.readable, ⟨oneof, h.name⟩, ref, href, hgeneric, hending, he⟩, h.name⟩

theorem TellsOneof.name_unique {oneof' : Text} {e' : EnumType} (h : TellsOneof enums p oneof e)
    (h' : TellsOneof enums p oneof' e') : oneof = oneof' := by
  have hname := h.name.symm.trans h'.name
  rwa [Option.some.injEq, List.append_left_inj] at hname

theorem TellsOneof.enum_unique {oneof' : Text} {e' : EnumType} (h : TellsOneof enums p oneof e)
    (h' : TellsOneof enums p oneof' e') : e = e' := by
  obtain ⟨ref, href, -, -, he⟩ := h.typed
  obtain ⟨ref', href', -, -, he'⟩ := h'.typed
  rw [href, Except.ok.injEq] at href'
  rw [href', he', Option.some.injEq] at he
  exact he.symm

/-! ## The search -/

theorem name_of_oneofOf (h : oneofOf enums p = .ok (some (oneof, e))) :
    p.name = some (oneof ++ caseEnding) := by
  unfold oneofOf at h
  split at h
  · cases h
  · obtain ⟨name, hname, h⟩ := bind_eq_ok.mp h
    split at h
    · cases h
    · rename_i x hx
      obtain ⟨ref, -, h⟩ := bind_eq_ok.mp h
      split at h
      · cases h
      · split at h
        · cases h
        · cases h
          rw [eq_some_of_nameText hname, Text.withoutEnding?_eq_some_iff.mp hx]

theorem tellsOneof_of_oneofOf (h : oneofOf enums p = .ok (some (oneof, e))) :
    TellsOneof enums p oneof e :=
  ⟨oneofOf_eq_some_iff.mp ⟨oneof, h⟩, name_of_oneofOf h⟩

/-- A value adds the member that it names, or nothing. -/
theorem memberOf_of_addMember {found found' : List Field × List Field}
    (h : t.addMember oneof found v = .ok found') :
    (¬(∃ x, IsMember v x) ∧ found'.2 = found.2) ∨
      ((∃ x, IsMember v x) ∧ ∃ f, MemberOf t v f ∧ found'.2 = found.2 ++ [f]) := by
  by_cases hmember : ∃ x, IsMember v x
  · obtain ⟨x, hx⟩ := id hmember
    rw [addMember_of_isMember hx] at h
    obtain ⟨property, hproperty, h⟩ := bind_eq_ok.mp h
    split at h
    · cases h
    · rename_i p
      obtain ⟨f, hf, h⟩ := bind_eq_ok.mp h
      -- A number that is known already is a failure.
      split at h
      · cases h
      · cases h
        unfold fieldOf at hf
        obtain ⟨valueType, htype, hf⟩ := bind_eq_ok.mp hf
        obtain ⟨presence, -, hf⟩ := bind_eq_ok.mp hf
        cases hf
        exact Or.inr ⟨hmember, _, ⟨hx, rfl, p, hx.2.1 ▸ hproperty, htype⟩, rfl⟩
  · have hnot := not_exists.mp hmember
    rw [addMember_of_not hnot] at h
    cases h
    exact Or.inl ⟨hmember, rfl⟩

/-- A property adds the oneof of which it tells, or nothing. -/
theorem oneofOf_of_addOneof {found found' : List Field × List Oneof}
    (h : addOneof enums t found p = .ok found') :
    (¬(∃ oneof e, TellsOneof enums p oneof e) ∧ found'.2 = found.2) ∨
      ((∃ oneof e, TellsOneof enums p oneof e) ∧
        ∃ o, (∃ e, TellsOneof enums p o.name e ∧ OneofOf t e o) ∧ found'.2 = found.2 ++ [o]) := by
  unfold addOneof at h
  obtain ⟨tells, htells, h⟩ := bind_eq_ok.mp h
  split at h
  · cases h
    refine Or.inl ⟨?_, rfl⟩
    rintro ⟨oneof, e, hcase⟩
    obtain ⟨oneof', honeof'⟩ := oneofOf_eq_some_iff.mpr hcase.toTellsCase
    rw [htells] at honeof'
    cases honeof'
  · rename_i oneof e
    have hcase := tellsOneof_of_oneofOf htells
    dsimp only at h
    obtain ⟨values, hvalues, h⟩ := bind_eq_ok.mp h
    obtain ⟨⟨seen, members⟩, hfold, h⟩ := bind_eq_ok.mp h
    cases h
    obtain ⟨made, hmade, heq⟩ := Selected.of_foldlM (fun x : List Field × List Field => x.2)
      (fun v x x' hstep => memberOf_of_addMember hstep) hfold
    rw [List.nil_append] at heq
    subst heq
    refine Or.inr ⟨⟨oneof, e, hcase⟩, _, ⟨e, hcase, rfl, values, ?_, hmade⟩, rfl⟩
    exact present_eq_ok_iff.mp hvalues

/-- Properties tell of oneofs by `tells`, and these are the oneofs, in order. -/
def OneofsBy (tells : PropertyDescriptor → Text → EnumType → Prop) (t : TypeDescriptor)
    (oneofs : List Oneof) : Prop :=
  ∃ properties, t.properties = some properties ∧
    Selected (fun p => ∃ oneof e, tells p oneof e)
      (fun p o => ∃ e, tells p o.name e ∧ OneofOf t e o) properties oneofs

theorem oneofsBy_of_recoverFields {oneofs : List Oneof} {fields : List Field}
    (h : recoverFields enums t = .ok (oneofs, fields)) :
    OneofsBy (TellsOneof enums) t oneofs := by
  unfold recoverFields at h
  obtain ⟨properties, hproperties, h⟩ := bind_eq_ok.mp h
  obtain ⟨⟨seen, oneofs'⟩, hfold, h⟩ := bind_eq_ok.mp h
  obtain ⟨constants, -, h⟩ := bind_eq_ok.mp h
  obtain ⟨⟨seen', fields'⟩, -, h⟩ := bind_eq_ok.mp h
  cases h
  obtain ⟨made, hmade, heq⟩ := Selected.of_foldlM (fun x : List Field × List Oneof => x.2)
    (fun p x x' hstep => oneofOf_of_addOneof hstep) hfold
  rw [List.nil_append] at heq
  subst heq
  exact ⟨properties, present_eq_ok_iff.mp hproperties, hmade⟩

end TypeDescriptor

/-! ## The oneofs of a message -/

/-- The oneofs of the message are those of which properties are taken to tell. They are
    those of which case properties tell if and only if each of these properties has a
    name before `Case`, and a type that is no array. -/
structure MessageType.OneofsFound (enums : Registry Label EnumType) (m : MessageType) :
    Prop where
  told : OneofsBy (TellsOneof enums) m.descriptor m.oneofs
  cases_iff : OneofsBy (IsCaseOf enums) m.descriptor m.oneofs ↔
    ∀ properties, m.descriptor.properties = some properties → ∀ p ∈ properties, ∀ oneof e,
      TellsOneof enums p oneof e →
        oneof ≠ [] ∧ ∀ ref, TypeReference.ofLabel p.type = .ok ref → ref.arrayRank = 0

theorem MessageType.oneofsFound_of_told {enums : Registry Label EnumType} {m : MessageType}
    (h : OneofsBy (TellsOneof enums) m.descriptor m.oneofs) : m.OneofsFound enums := by
  refine ⟨h, ?_⟩
  obtain ⟨properties, hproperties, hselected⟩ := h
  constructor
  · rintro ⟨properties', hproperties', hexact⟩ x hx p hp oneof e htells
    obtain rfl := Option.some.inj (hproperties.symm.trans hproperties')
    obtain rfl := Option.some.inj (hproperties.symm.trans hx)
    -- As many oneofs are made, so the property is one that tells a case.
    obtain ⟨oneof', e', hcase⟩ := hselected.wanted_of_made hexact
      (fun p ⟨oneof, e, hcase⟩ => ⟨oneof, e, hcase.tellsOneof⟩) p hp ⟨oneof, e, htells⟩
    obtain rfl := htells.name_unique hcase.tellsOneof
    obtain rfl := htells.enum_unique hcase.tellsOneof
    exact htells.isCaseOf_iff.mp hcase
  · intro hall
    have hcase : ∀ p ∈ properties, ∀ oneof e, TellsOneof enums p oneof e →
        IsCaseOf enums p oneof e :=
      fun p hp oneof e htells =>
        htells.isCaseOf_iff.mpr (hall properties hproperties p hp oneof e htells)
    refine ⟨properties, hproperties, hselected.congr (fun p hp => ?_) fun p hp o => ?_⟩
    · exact exists₂_congr fun oneof e => ⟨hcase p hp oneof e, IsCaseOf.tellsOneof⟩
    · rintro ⟨e, htells, ho⟩
      exact ⟨e, hcase p hp o.name e htells, ho⟩

theorem MessageType.oneofsFound_of_withFields {enums : Registry Label EnumType}
    {m m' : MessageType} (hfresh : m.fields = [] ∧ m.oneofs = [])
    (h : (m.withFields enums).outcome = .ok m') : m'.OneofsFound enums := by
  rw [outcome_withFields, map_eq_ok] at h
  obtain ⟨⟨oneofs, fields⟩, hrecovered, rfl⟩ := h
  refine oneofsFound_of_told ?_
  rw [hfresh.2, List.nil_append]
  exact oneofsBy_of_recoverFields hrecovered

/-- The oneofs of gathered messages are found as their properties tell. -/
theorem oneofs_of_gather {a : Assembly} {s : Schema} (hgather : Schema.gather a {} = .ok s) :
    (∀ n m m', s.messages.find? n = some m → (m.withFields s.enums).outcome = .ok m' →
      m'.OneofsFound s.enums) ∧
    ∀ s', s.populateFields.outcome = .ok s' → ∀ m' ∈ s'.messages.values,
      m'.OneofsFound s.enums := by
  have hfresh := fresh_of_gather hgather
  refine ⟨fun n m m' hm hm' => MessageType.oneofsFound_of_withFields (hfresh.message hm) hm',
    fun s' hs' m' hm' => ?_⟩
  obtain ⟨n, hn⟩ := Registry.mem_values.mp hm'
  obtain ⟨m, hm, hfilled⟩ := Schema.find?_populateFields hs' hn
  exact MessageType.oneofsFound_of_withFields (hfresh.message hm) hfilled

/-! ## A property with an array of cases -/

section Cases

/-- A message with a member `X` of a oneof, whose case a property of some type tells. -/
def casedMessage (type : Text) : TypeDescriptor :=
  ⟨some "A", some "", some .plainClass, some ["Google.Protobuf.IMessage"], some [],
    some [readable "X" "System.Int32", readable "KindCase" type], some "A", none,
    [kindCases.descriptor]⟩

def casedSchema (type : Text) : Schema where
  messages :=
    ⟨[(some "A", { descriptor := casedMessage type, rootMessage := none })],
      List.nodup_singleton _⟩
  enums := ⟨[(some "A/KindOneofCase", kindCases)], List.nodup_singleton _⟩

theorem gather_casedSchema (type : Text) :
    Schema.gather (.ofTypes (some "") (some []) [casedMessage type]) {} =
      .ok (casedSchema type) := by
  cbv

theorem oneofOf_casedX (type : Text) :
    oneofOf (casedSchema type).enums (readable "X" "System.Int32") = .ok none := by
  cbv

/-- The oneof is found whether its case property has the enum or an array of it for its
    type. -/
theorem withFields_casedMessage {type : Text}
    (h : TellsOneof (casedSchema type).enums (readable "KindCase" type) "Kind" kindCases) :
    ∃ m', (MessageType.withFields (casedSchema type).enums
        { descriptor := casedMessage type, rootMessage := none }).outcome = .ok m' ∧
      m'.descriptor = casedMessage type ∧ m'.oneofs.map (·.name) = [("Kind" : Text)] := by
  obtain ⟨oneof, honeof⟩ := oneofOf_eq_some_iff.mpr h.toTellsCase
  obtain rfl := h.name_unique (tellsOneof_of_oneofOf honeof)
  have hrecovered : recoverFields (casedSchema type).enums (casedMessage type) =
      .ok ([⟨"Kind", some "A/KindOneofCase",
        [⟨some "X", .int 1, ⟨"System.Int32", [], 0⟩, true, false⟩]⟩], []) := by
    unfold recoverFields
    simp only [casedMessage, present, ok_bind, List.foldlM_cons, List.foldlM_nil]
    unfold addOneof
    rw [oneofOf_casedX, honeof]
    cbv
  rw [MessageType.outcome_withFields, hrecovered]
  exact ⟨_, rfl, rfl, rfl⟩

theorem ofLabel_plain : TypeReference.ofLabel (some ("A/KindOneofCase" : Text)) =
    .ok ⟨"A/KindOneofCase", [], 0⟩ := by
  cbv

theorem tellsOneof_plain : TellsOneof (casedSchema "A/KindOneofCase").enums
    (readable "KindCase" "A/KindOneofCase") "Kind" kindCases :=
  ⟨⟨rfl, ⟨"Kind", rfl⟩, ⟨"A/KindOneofCase", [], 0⟩, ofLabel_plain, rfl, by cbv, by cbv⟩, rfl⟩

theorem ofLabel_array : TypeReference.ofLabel (some ("A/KindOneofCase[]" : Text)) =
    .ok ⟨"A/KindOneofCase", [], 1⟩ := by
  cbv

theorem tellsOneof_array : TellsOneof (casedSchema "A/KindOneofCase[]").enums
    (readable "KindCase" "A/KindOneofCase[]") "Kind" kindCases :=
  ⟨⟨rfl, ⟨"Kind", rfl⟩, ⟨"A/KindOneofCase", [], 1⟩, ofLabel_array, rfl, by cbv, by cbv⟩, rfl⟩

/-- A property that tells a case makes the oneof. -/
theorem oneofs_of_gather_cases :
    ∃ m', (MessageType.withFields (casedSchema "A/KindOneofCase").enums
        { descriptor := casedMessage "A/KindOneofCase", rootMessage := none }).outcome = .ok m' ∧
      m'.oneofs.map (·.name) = [("Kind" : Text)] ∧
      OneofsBy (IsCaseOf (casedSchema "A/KindOneofCase").enums) m'.descriptor m'.oneofs := by
  obtain ⟨m', hm', hdescriptor, hnames⟩ := withFields_casedMessage tellsOneof_plain
  refine ⟨m', hm', hnames, ?_⟩
  have hfound := (oneofs_of_gather (gather_casedSchema "A/KindOneofCase")).1 (some "A") _ m' rfl hm'
  refine hfound.cases_iff.mpr fun properties hproperties p hp oneof e htells => ?_
  rw [hdescriptor] at hproperties
  cases hproperties
  simp only [List.mem_cons, List.not_mem_nil, or_false] at hp
  rcases hp with rfl | rfl
  · obtain ⟨oneof', honeof'⟩ := oneofOf_eq_some_iff.mpr htells.toTellsCase
    rw [oneofOf_casedX] at honeof'
    cases honeof'
  · obtain rfl := htells.name_unique tellsOneof_plain
    refine ⟨by decide, fun ref href => ?_⟩
    obtain rfl := Except.ok.inj (ofLabel_plain.symm.trans href)
    rfl

/-- A property that has an array of the enum of cases for its type makes the oneof, though
    it tells no case. -/
theorem array_taken_for_cases : ∃ s m m',
    Schema.gather (.ofTypes (some "") (some []) [casedMessage "A/KindOneofCase[]"]) {} = .ok s ∧
      s.messages.find? (some "A") = some m ∧ (m.withFields s.enums).outcome = .ok m' ∧
      m'.oneofs.map (·.name) = [("Kind" : Text)] ∧
      ¬OneofsBy (IsCaseOf s.enums) m'.descriptor m'.oneofs := by
  obtain ⟨m', hm', hdescriptor, hnames⟩ := withFields_casedMessage tellsOneof_array
  refine ⟨_, _, m', gather_casedSchema _, rfl, hm', hnames, fun hcases => ?_⟩
  have hfound := MessageType.oneofsFound_of_withFields ⟨rfl, rfl⟩ hm'
  have hall := hfound.cases_iff.mp hcases
  rw [hdescriptor] at hall
  -- The type of the property has a pair of brackets.
  obtain ⟨-, hrank⟩ := hall _ rfl _ (by simp) "Kind" kindCases tellsOneof_array
  exact absurd (hrank _ ofLabel_array) (by decide)

end Cases

end SchemaRecovery
