/-
  SchemaRecovery.Proofs.NumberClashes

  Numbers that a message declares for two fields. Where every property that is
  looked up is there and every type can be read (`Readable`), and no name is null
  (`NamesGiven`), looking for fields fails only for a clash, because all that the
  table of numbers holds is declared. A number that is declared under two names
  cannot be in the table twice, so the search does fail
  (`distinct_numbers_of_gather`).
-/
import SchemaRecovery.Proofs.FieldNumbers

namespace SchemaRecovery

open TypeDescriptor

/-! ## Clashes -/

namespace TypeDescriptor

/-- Every property that is looked up is there, and every type that is read is a
    type reference. -/
structure Readable (enums : Registry Label EnumType) (t : TypeDescriptor) : Prop where
  cases : ∀ properties, t.properties = some properties → ∀ p ∈ properties,
    p.isInstanceReadable = true → ∀ oneof, p.name = some (oneof ++ caseEnding) →
    ∃ ref, TypeReference.ofLabel p.type = .ok ref
  fields : ∀ x, Declares enums t x → ∃ p ref, t.property? x.1 = .ok (some p) ∧
    TypeReference.ofLabel p.type = .ok ref

/-- No null stands for the name of a property that may tell a case or of a
    constant that may be a number. -/
structure NamesGiven (t : TypeDescriptor) : Prop where
  properties : ∀ properties, t.properties = some properties → ∀ p ∈ properties,
    p.isInstanceReadable = true → p.name ≠ none
  constants : ∀ constants, t.fields = some constants → ∀ c ∈ constants,
    ∀ n, c.constant = some (.int n) → c.name ≠ none

end TypeDescriptor

/-- The failure tells of two declared fields with one number. -/
def OfClash (enums : Registry Label EnumType) (t : TypeDescriptor) (e : Failure) : Prop :=
  ∃ x y, Declares enums t x ∧ Declares enums t y ∧ x.2.value = y.2.value ∧
    e = .numberClash y.2 x.1 y.1 t.fullName

/-- The fields of the table are declared. -/
def AllDeclared (enums : Registry Label EnumType) (t : TypeDescriptor) (seen : List Field) : Prop :=
  ∀ f ∈ seen, Declares enums t (f.name, f.number)

namespace TypeDescriptor

section Clashes

variable {t : TypeDescriptor} {enums : Registry Label EnumType} {oneof : Text}
  {found found' : List Field × List Field}

theorem Records.allDeclared {p : Label × Constant → Prop} (h : Records p found found')
    (hp : ∀ x, p x → Declares enums t x) (hfound : AllDeclared enums t found.1) :
    AllDeclared enums t found'.1 := by
  obtain ⟨new, rfl, hnew⟩ := h.added
  intro f hf
  exact (List.mem_append.mp hf).elim (hfound f) fun hf => hp _ (hnew f hf)

theorem ofClash_of_holder {x : Label × Constant} {seen : List Field} {other : Field}
    (hseen : AllDeclared enums t seen) (hx : Declares enums t x)
    (h : holder? seen x.2 = some other) :
    OfClash enums t (.numberClash x.2 other.name x.1 t.fullName) := by
  have hvalue : other.number.value = x.2.value := by simpa using List.find?_some h
  exact ⟨_, x, hseen other (List.mem_of_find?_eq_some h), hx, hvalue, rfl⟩

/-- A declared field is made if its property is there with a type. -/
theorem Readable.fieldOf_ok (h : Readable enums t) {x : Label × Constant}
    (hx : Declares enums t x) (isMember : Bool) :
    ∃ p f, t.property? x.1 = .ok (some p) ∧ t.fieldOf p x.1 x.2 isMember = .ok f ∧
      f.name = x.1 := by
  obtain ⟨p, ref, hp, href⟩ := h.fields x hx
  obtain ⟨properties, hproperties, -⟩ := bind_eq_ok.mp hp
  have hpresence : ∃ b, t.hasPresence x.1 = .ok b := by
    unfold hasPresence
    rw [hproperties]
    exact ⟨_, rfl⟩
  obtain ⟨hasPresence, hpresence⟩ := hpresence
  refine ⟨p, ⟨x.1, x.2, ref, isMember, hasPresence⟩, hp, ?_, rfl⟩
  unfold fieldOf
  rw [href, hpresence]
  rfl

theorem Readable.failsOnly_addMember (h : Readable enums t) {v : FieldDescriptor}
    (hv : ∀ x, IsMember v x → Declares enums t x) (hfound : AllDeclared enums t found.1) :
    FailsOnly (OfClash enums t) (t.addMember oneof found v) := by
  by_cases hmember : ∃ x, IsMember v x
  · obtain ⟨x, hx⟩ := hmember
    obtain ⟨p, f, hp, hf, hname⟩ := h.fieldOf_ok (hv x hx) true
    rw [addMember_of_isMember hx, hp, ok_bind]
    dsimp only
    rw [hf, ok_bind]
    split
    · rename_i other hother
      rw [hname]
      exact .error (ofClash_of_holder hfound (hv x hx) hother)
    · exact .ok _
  · rw [not_exists] at hmember
    exact .of_ok (addMember_of_not hmember)

/-- Whether a property tells of a oneof can be told. -/
theorem oneofOf_ok {p : PropertyDescriptor} (hname : p.isInstanceReadable = true → p.name ≠ none)
    (htype : p.isInstanceReadable = true → ∀ oneof, p.name = some (oneof ++ caseEnding) →
      ∃ ref, TypeReference.ofLabel p.type = .ok ref) :
    ∃ tells, oneofOf enums p = .ok tells := by
  unfold oneofOf
  split
  · exact ⟨none, rfl⟩
  · rename_i hreadable
    rw [Bool.not_eq_true, Bool.not_eq_false'] at hreadable
    obtain ⟨name, hsome⟩ := Option.ne_none_iff_exists'.mp (hname hreadable)
    rw [hsome]
    dsimp only [nameText]
    rw [ok_bind]
    split
    · exact ⟨none, rfl⟩
    · rename_i oneof honeof
      rw [Text.withoutEnding?_eq_some_iff] at honeof
      obtain ⟨ref, href⟩ := htype hreadable oneof (by rw [hsome, honeof])
      rw [href, ok_bind]
      split
      · exact ⟨_, rfl⟩
      · split
        · exact ⟨_, rfl⟩
        · exact ⟨_, rfl⟩

/-- Whether a constant numbers a field can be told. -/
theorem numberedOf_ok {c : FieldDescriptor}
    (hname : ∀ n, c.constant = some (.int n) → c.name ≠ none) :
    ∃ numbered, numberedOf c = .ok numbered := by
  unfold numberedOf
  split
  · exact ⟨none, rfl⟩
  · rename_i number hnumber
    cases number with
    | bool b => exact ⟨none, rfl⟩
    | int n =>
        obtain ⟨name, hsome⟩ := Option.ne_none_iff_exists'.mp (hname n hnumber)
        rw [hsome, if_neg (by simp [Constant.isBool])]
        dsimp only [nameText]
        rw [ok_bind]
        split
        · exact ⟨none, rfl⟩
        · exact ⟨_, rfl⟩

/-- The first loop fails only for a clash. -/
theorem Readable.failsOnly_oneofs (h : Readable enums t) (hnames : NamesGiven t)
    (henums : ∀ {n e}, enums.find? n = some e → ∃ values, e.descriptor.fields = some values)
    {properties : List PropertyDescriptor} (hproperties : t.properties = some properties) :
    FailsOnly (OfClash enums t) (properties.foldlM (addOneof enums t) ([], [])) := by
  refine FailsOnly.foldlM (fun rest found => AllDeclared enums t found.1 ∧ rest ⊆ properties) ?_
    ⟨by simp [AllDeclared], fun _ hx => hx⟩
  rintro p rest ⟨seen, oneofs⟩ ⟨hseen, hsub⟩
  obtain ⟨hp, hrest⟩ := List.cons_subset.mp hsub
  have hmembers : ∀ x, TellsOfMember enums p x → Declares enums t x :=
    fun x hx => Or.inl ⟨properties, hproperties, p, hp, hx⟩
  refine ⟨?_, fun found' hstep => ⟨(records_of_addOneof hstep).allDeclared hmembers hseen, hrest⟩⟩
  obtain ⟨tells, htells⟩ : ∃ tells, oneofOf enums p = .ok tells :=
    oneofOf_ok (hnames.properties properties hproperties p hp)
      (h.cases properties hproperties p hp)
  unfold addOneof
  rw [htells, ok_bind]
  split
  · exact .ok _
  · rename_i oneof e
    have hcase := oneofOf_eq_some_iff.mp ⟨oneof, htells⟩
    obtain ⟨ref, -, -, -, he⟩ := hcase.typed
    obtain ⟨values, hvalues⟩ := henums he
    dsimp only
    rw [present_eq_ok_iff.mpr hvalues, ok_bind]
    refine FailsOnly.bind ?_ fun _ _ => .ok _
    refine FailsOnly.foldlM (fun rest found => AllDeclared enums t found.1 ∧ rest ⊆ values) ?_
      ⟨hseen, fun _ hx => hx⟩
    rintro v rest found ⟨hfound, hsub⟩
    obtain ⟨hv, hrest⟩ := List.cons_subset.mp hsub
    have hdeclared : ∀ x, IsMember v x → Declares enums t x :=
      fun x hx => hmembers x ⟨e, values, hcase, hvalues, v, hv, hx⟩
    exact ⟨h.failsOnly_addMember hdeclared hfound,
      fun found' hstep => ⟨(records_of_addMember hstep).allDeclared hdeclared hfound, hrest⟩⟩

/-- The second loop fails only for a clash. -/
theorem Readable.failsOnly_constants (h : Readable enums t) (hnames : NamesGiven t)
    {constants : List FieldDescriptor} (hconstants : t.fields = some constants)
    {seen : List Field} (hseen : AllDeclared enums t seen) :
    FailsOnly (OfClash enums t) (constants.foldlM (addField t) (seen, [])) := by
  refine FailsOnly.foldlM (fun rest found => AllDeclared enums t found.1 ∧ rest ⊆ constants) ?_
    ⟨hseen, fun _ hx => hx⟩
  rintro c rest found ⟨hfound, hsub⟩
  obtain ⟨hc, hrest⟩ := List.cons_subset.mp hsub
  have hdeclared : ∀ x, IsNumber c x → Declares enums t x :=
    fun x hx => Or.inr ⟨constants, hconstants, c, hc, hx⟩
  refine ⟨?_, fun found' hstep =>
    ⟨(records_of_addField hstep).allDeclared hdeclared hfound, hrest⟩⟩
  obtain ⟨numbered, hnumbered⟩ := numberedOf_ok (hnames.constants constants hconstants c hc)
  unfold addField
  rw [hnumbered, ok_bind]
  split
  · exact .ok _
  · rename_i name number
    have hx := hdeclared _ (numberedOf_eq_some_iff.mp hnumbered)
    obtain ⟨p, f, hp, hf, hname⟩ := h.fieldOf_ok hx false
    dsimp only
    rw [hp, ok_bind]
    dsimp only
    rw [hf, ok_bind]
    split
    · exact .ok _
    · rename_i other hother
      split
      · exact .ok _
      · rw [hname]
        exact .error (ofClash_of_holder hfound hx hother)

end Clashes

end TypeDescriptor

/-! ## Fresh messages -/

/-- The messages have no fields yet, and the enums have their values. -/
structure Schema.Fresh (s : Schema) : Prop where
  message : ∀ {n m}, s.messages.find? n = some m → m.fields = [] ∧ m.oneofs = []
  enum : ∀ {n e}, s.enums.find? n = some e → ∃ values, e.descriptor.fields = some values

theorem Schema.Fresh.register {s s' : Schema} {entry : TypeDescriptor × Label} (h : s.Fresh)
    (hs' : s.register entry = .ok s') : s'.Fresh := by
  constructor
  · intro n m hm
    rcases message_of_register hs' hm with hm | ⟨-, -, rfl⟩
    · exact h.message hm
    · exact ⟨rfl, rfl⟩
  · intro n e he
    rcases enum_of_register hs' he with he | ⟨-, -, values, hvalues, rfl⟩
    · exact h.enum he
    · obtain ⟨fields, hfields, -⟩ := bind_eq_ok.mp hvalues
      exact ⟨fields, present_eq_ok_iff.mp hfields⟩

theorem fresh_of_gather {a : Assembly} {s : Schema} (h : Schema.gather a {} = .ok s) :
    s.Fresh := by
  unfold Schema.gather at h
  obtain ⟨listings, -, h⟩ := bind_eq_ok.mp h
  obtain ⟨sorted, -, h⟩ := bind_eq_ok.mp h
  have hempty : ({} : Schema).Fresh := ⟨fun h => (by cases h), fun h => (by cases h)⟩
  exact foldlM_keeps (fun _ (x : Schema) => x.Fresh) (fun _ _ _ _ hx hx' => hx.register hx')
    hempty h

/-- Fields that are found with one number have one name. -/
theorem name_eq_of_found {fields : List Field} (hd : (numbers fields).Nodup)
    {x y : Label × Constant} (hvalue : x.2.value = y.2.value)
    (hx : ∃ f ∈ fields, f.name = x.1 ∧ f.number.value = x.2.value)
    (hy : ∃ f ∈ fields, f.name = y.1 ∧ f.number.value = y.2.value) : x.1 = y.1 := by
  obtain ⟨f, hf, hfname, hfvalue⟩ := hx
  obtain ⟨g, hg, hgname, hgvalue⟩ := hy
  have heq : f = g :=
    List.inj_on_of_nodup_map hd hf hg (hfvalue.trans (hvalue.trans hgvalue.symm))
  rw [← hfname, ← hgname, heq]

namespace TypeDescriptor

variable {t : TypeDescriptor} {enums : Registry Label EnumType} {x y : Label × Constant}

/-- Where a number is declared under two names and every declared field can be made,
    the recovery fails only for a clash. -/
theorem Readable.failsOnly_recoverFields (h : Readable enums t) (hnames : NamesGiven t)
    (henums : ∀ {n e}, enums.find? n = some e → ∃ values, e.descriptor.fields = some values)
    (hx : Declares enums t x) (hy : Declares enums t y) (hname : x.1 ≠ y.1)
    (hvalue : x.2.value = y.2.value) :
    FailsOnly (OfClash enums t) (t.recoverFields enums) := by
  obtain ⟨p, ref, hp, -⟩ := h.fields x hx
  obtain ⟨properties, hproperties, -⟩ := bind_eq_ok.mp hp
  unfold recoverFields
  rw [hproperties, ok_bind]
  rw [present_eq_ok_iff] at hproperties
  refine (h.failsOnly_oneofs hnames henums hproperties).bind fun found honeofs => ?_
  obtain ⟨seen, oneofs⟩ := found
  obtain ⟨-, hmembers⟩ := records_of_oneofs hproperties honeofs
  dsimp only
  cases hconstants : t.fields with
  | none =>
      -- Both are members of oneofs, but these have different numbers.
      have hmember : ∀ z, Declares enums t z → DeclaresMember enums t z := by
        rintro z (hz | ⟨constants, hsome, -⟩)
        · exact hz
        · rw [hconstants] at hsome
          cases hsome
      exact absurd (name_eq_of_found (hmembers.distinct List.nodup_nil) hvalue
        (hmembers.complete x (hmember x hx)) (hmembers.complete y (hmember y hy))) hname
  | some constants =>
      have hseen := hmembers.allDeclared (fun z hz => Or.inl hz)
        (show AllDeclared enums t [] by simp [AllDeclared])
      rw [present_eq_ok_iff.mpr rfl, ok_bind]
      exact (h.failsOnly_constants hnames hconstants hseen).bind fun _ _ => .ok _

/-- A number that is declared under two names makes the recovery fail. -/
theorem Readable.clash (h : Readable enums t) (hnames : NamesGiven t)
    (henums : ∀ {n e}, enums.find? n = some e → ∃ values, e.descriptor.fields = some values)
    (hx : Declares enums t x) (hy : Declares enums t y) (hname : x.1 ≠ y.1)
    (hvalue : x.2.value = y.2.value) :
    ∃ e, OfClash enums t e ∧ t.recoverFields enums = .error e := by
  cases hrecovered : t.recoverFields enums with
  | error e =>
      have hfails := h.failsOnly_recoverFields hnames henums hx hy hname hvalue
      exact ⟨e, hfails e hrecovered, rfl⟩
  | ok made =>
      obtain ⟨hdistinct, hfound⟩ := found_of_recoverFields hrecovered
      exact absurd (name_eq_of_found hdistinct hvalue (hfound x hx) (hfound y hy)) hname

end TypeDescriptor

/-! ## All messages -/

namespace Schema

variable {s s' : Schema}

/-- Each message is given the fields that are recovered for it alone. -/
theorem find?_populateFields (h : s.populateFields.outcome = .ok s') {n : Label}
    {m' : MessageType} (hm' : s'.messages.find? n = some m') :
    ∃ m, s.messages.find? n = some m ∧ (m.withFields s.enums).outcome = .ok m' := by
  unfold populateFields at h
  rw [Logged.outcome_foldlM] at h
  -- Messages whose turn is still to come are as they were.
  refine ((foldlM_keeps (fun rest (x : Schema) => x.enums = s.enums ∧ rest ⊆ s.messages.entries ∧
    ∀ n m', x.messages.find? n = some m' → (n, m') ∈ rest ∨
      ∃ m, s.messages.find? n = some m ∧ (m.withFields s.enums).outcome = .ok m') ?_
    ⟨rfl, fun _ hx => hx, fun n m' hm' => Or.inl (Registry.find?_eq_some_iff.mp hm')⟩
    h).2.2 n m' hm').resolve_left List.not_mem_nil
  rintro ⟨k, m⟩ rest x x' ⟨henums, hsub, hmade⟩ hx'
  obtain ⟨hk, hrest⟩ := List.cons_subset.mp hsub
  obtain ⟨filled, hfilled, hx'⟩ := Logged.outcome_bind_eq_ok.mp hx'
  cases hx'
  rw [henums] at hfilled
  refine ⟨henums, hrest, fun n m' hm' => ?_⟩
  rw [Registry.find?_insert] at hm'
  split at hm'
  · rename_i hn
    cases hm'
    exact Or.inr ⟨m, hn ▸ Registry.find?_eq_some_iff.mpr hk, hfilled⟩
  · rename_i hn
    refine (hmade n m' hm').imp_left fun hmem => ?_
    exact (List.mem_cons.mp hmem).resolve_left fun heq => hn (Prod.mk.inj heq).1

/-- Recovering the fields of all messages fails as that of one of them does. -/
theorem failsOnly_populateFields_message (s : Schema) :
    FailsOnly (fun e => ∃ n m, s.messages.find? n = some m ∧
      (m.withFields s.enums).outcome = .error e) s.populateFields.outcome := by
  unfold populateFields
  rw [Logged.outcome_foldlM]
  refine FailsOnly.foldlM (fun rest (x : Schema) => x.enums = s.enums ∧
    rest ⊆ s.messages.entries) ?_ ⟨rfl, fun _ hx => hx⟩
  rintro ⟨k, m⟩ rest x ⟨henums, hsub⟩
  obtain ⟨hk, hrest⟩ := List.cons_subset.mp hsub
  constructor
  · refine Logged.failsOnly_bind (fun e he => ?_) fun _ _ => .ok _
    rw [← henums]
    exact ⟨k, m, Registry.find?_eq_some_iff.mpr hk, he⟩
  · intro x' hx'
    obtain ⟨filled, -, hx'⟩ := Logged.outcome_bind_eq_ok.mp hx'
    cases hx'
    exact ⟨henums, hrest⟩

end Schema

/-- The fields of gathered messages have different numbers, each that a constant
    gives being that of the field the constant is named for; and a number that a
    message declares under two names makes the recovery of its fields, and of all
    fields, fail. -/
theorem distinct_numbers_of_gather {a : Assembly} {s : Schema}
    (hgather : Schema.gather a {} = .ok s) :
    (∀ n m m', s.messages.find? n = some m → (m.withFields s.enums).outcome = .ok m' →
      m'.Numbered) ∧
    (∀ s', s.populateFields.outcome = .ok s' → ∀ m' ∈ s'.messages.values, m'.Numbered) ∧
    ∀ n m, s.messages.find? n = some m → Readable s.enums m.descriptor →
      NamesGiven m.descriptor → ∀ x y, Declares s.enums m.descriptor x →
      Declares s.enums m.descriptor y → x.1 ≠ y.1 → x.2.value = y.2.value →
      (∃ e, OfClash s.enums m.descriptor e ∧ (m.withFields s.enums).outcome = .error e) ∧
      ∃ e, s.populateFields.outcome = .error e ∧ ∃ n' m', s.messages.find? n' = some m' ∧
        (m'.withFields s.enums).outcome = .error e := by
  have hfresh := fresh_of_gather hgather
  refine ⟨fun n m m' hm hm' => MessageType.numbered_of_withFields (hfresh.message hm) hm',
    fun s' hs' m' hm' => ?_, ?_⟩
  · obtain ⟨n, hn⟩ := Registry.mem_values.mp hm'
    obtain ⟨m, hm, hfilled⟩ := Schema.find?_populateFields hs' hn
    exact MessageType.numbered_of_withFields (hfresh.message hm) hfilled
  · intro n m hm hread hnames x y hx hy hname hvalue
    obtain ⟨e, hclash, hrecovered⟩ := hread.clash hnames hfresh.enum hx hy hname hvalue
    have hfails : (m.withFields s.enums).outcome = .error e := by
      rw [MessageType.outcome_withFields, hrecovered]
      rfl
    refine ⟨⟨e, hclash, hfails⟩, ?_⟩
    cases hall : s.populateFields.outcome with
    | error e' => exact ⟨e', rfl, s.failsOnly_populateFields_message e' hall⟩
    | ok s' =>
        -- The message would have been given its fields.
        have hkey : n ∈ s'.messages.keys := by
          rw [Schema.keys_populateFields hall]
          exact Registry.mem_keys.mpr ⟨m, hm⟩
        obtain ⟨m', hm'⟩ := Registry.mem_keys.mp hkey
        obtain ⟨m₀, hm₀, hok⟩ := Schema.find?_populateFields hall hm'
        rw [hm, Option.some.injEq] at hm₀
        rw [← hm₀, hfails] at hok
        cases hok

/-! ## A oneof beside a field -/

section Kind

/-- A constant with a number. -/
def numberConstant (name : Label) (n : Int) : FieldDescriptor :=
  ⟨name, some "", some (.int n), some false⟩

/-- A readable property. -/
def readable (name type : Text) : PropertyDescriptor :=
  ⟨some name, some type, some true, some false, some false⟩

/-- The enum of the cases of a oneof with the member `X`. -/
def kindCases : EnumType where
  descriptor := ⟨some "KindOneofCase", some "", some .enumeration, some [],
    some [⟨some "None", some "", some (.int 0), some true⟩,
      ⟨some "X", some "", some (.int 1), some true⟩],
    some [], some "A/KindOneofCase", some "A", []⟩
  rootMessage := some "A"
  values := [(some "None", .int 0), (some "X", .int 1)]

/-- A message with the oneof `Kind` and a property `Y`. -/
def kindMessage (constants : List FieldDescriptor) : TypeDescriptor :=
  ⟨some "A", some "", some .plainClass, some ["Google.Protobuf.IMessage"], some constants,
    some [readable "X" "System.Int32", readable "Y" "System.Int32",
      readable "KindCase" "A/KindOneofCase"], some "A", none, [kindCases.descriptor]⟩

/-- The schema with the message alone. -/
def kindSchema (constants : List FieldDescriptor) : Schema where
  messages := ⟨[(some "A", { descriptor := kindMessage constants, rootMessage := none })], by simp⟩
  enums := ⟨[(some "A/KindOneofCase", kindCases)], by simp⟩

theorem gather_kindSchema (constants : List FieldDescriptor) :
    Schema.gather (.ofTypes (some "") (some []) [kindMessage constants]) {} =
      .ok (kindSchema constants) := by
  cbv

theorem tellsCase_kind (constants : List FieldDescriptor) :
    TellsCase (kindSchema constants).enums (readable "KindCase" "A/KindOneofCase") kindCases :=
  ⟨rfl, ⟨"Kind", rfl⟩, ⟨"A/KindOneofCase", [], 0⟩, by cbv, rfl, by cbv, by cbv⟩

/-- Constants that number `X` and `Y`, behind others. -/
def numberXY (others : List FieldDescriptor) (n : Int) : List FieldDescriptor :=
  others ++ [numberConstant (some "XFieldNumber") 1, numberConstant (some "YFieldNumber") n]

theorem oneofOf_X (constants : List FieldDescriptor) :
    oneofOf (kindSchema constants).enums (readable "X" "System.Int32") = .ok none := by
  cbv

theorem oneofOf_Y (constants : List FieldDescriptor) :
    oneofOf (kindSchema constants).enums (readable "Y" "System.Int32") = .ok none := by
  cbv

theorem numberedOf_X : numberedOf (numberConstant (some "XFieldNumber") 1) =
    .ok (some ("X", .int 1)) := by
  cbv

theorem numberedOf_Y (n : Int) : numberedOf (numberConstant (some "YFieldNumber") n) =
    .ok (some ("Y", .int n)) := by
  cbv

variable {others : List FieldDescriptor} {n : Int}

theorem declares_X : Declares (kindSchema (numberXY others n)).enums
    (kindMessage (numberXY others n)) (some ("X" : Text), .int 1) := by
  refine Or.inr ⟨numberXY others n, rfl, _, ?_, numberedOf_eq_some_iff.mp numberedOf_X⟩
  simp [numberXY]

theorem declares_Y : Declares (kindSchema (numberXY others n)).enums
    (kindMessage (numberXY others n)) (some ("Y" : Text), .int n) := by
  refine Or.inr ⟨numberXY others n, rfl, _, ?_, numberedOf_eq_some_iff.mp (numberedOf_Y n)⟩
  simp [numberXY]

/-- The fields that are declared: the member `X`, which has a constant too, and `Y`. -/
theorem declares_kindMessage (hothers : ∀ c ∈ others, c.name = none) {x : Label × Constant}
    (h : Declares (kindSchema (numberXY others n)).enums (kindMessage (numberXY others n)) x) :
    x = (some ("X" : Text), .int 1) ∨ x = (some ("Y" : Text), .int n) := by
  rcases h with ⟨properties, hproperties, p, hp, htells⟩ | ⟨constants, hconstants, c, hc, hx⟩
  · cases hproperties
    obtain ⟨e, values, hcase, -⟩ := id htells
    obtain ⟨oneof, honeof⟩ := oneofOf_eq_some_iff.mpr hcase
    simp only [List.mem_cons, List.not_mem_nil, or_false] at hp
    rcases hp with rfl | rfl | rfl
    · rw [oneofOf_X] at honeof
      cases honeof
    · rw [oneofOf_Y] at honeof
      cases honeof
    · obtain ⟨v, hv, -, hname, hconstant, hpos⟩ :=
        ((tellsCase_kind (numberXY others n)).tellsOfMember_iff rfl).mp htells
      simp only [List.mem_cons, List.not_mem_nil, or_false] at hv
      rcases hv with rfl | rfl
      · rw [← Option.some.inj hconstant] at hpos
        cases hpos
      · exact Or.inl (Prod.ext hname.symm (Option.some.inj hconstant).symm)
  · cases hconstants
    simp only [numberXY, List.mem_append, List.mem_cons, List.not_mem_nil, or_false] at hc
    rcases hc with hc | rfl | rfl
    · obtain ⟨name, k, hname, -⟩ := hx
      rw [hothers c hc] at hname
      cases hname
    · exact Or.inl (hx.unique (numberedOf_eq_some_iff.mp numberedOf_X))
    · exact Or.inr (hx.unique (numberedOf_eq_some_iff.mp (numberedOf_Y n)))

theorem readable_kindMessage (hothers : ∀ c ∈ others, c.name = none) :
    Readable (kindSchema (numberXY others n)).enums (kindMessage (numberXY others n)) where
  cases := by
    intro properties hproperties p hp _ _ _
    cases hproperties
    simp only [List.mem_cons, List.not_mem_nil, or_false] at hp
    rcases hp with rfl | rfl | rfl
    · exact ⟨⟨"System.Int32", [], 0⟩, by cbv⟩
    · exact ⟨⟨"System.Int32", [], 0⟩, by cbv⟩
    · exact ⟨⟨"A/KindOneofCase", [], 0⟩, by cbv⟩
  fields := by
    intro x hx
    rcases declares_kindMessage hothers hx with rfl | rfl
    · exact ⟨readable "X" "System.Int32", ⟨"System.Int32", [], 0⟩, rfl, by cbv⟩
    · exact ⟨readable "Y" "System.Int32", ⟨"System.Int32", [], 0⟩, rfl, by cbv⟩

theorem namesGiven_kindMessage (n : Int) : NamesGiven (kindMessage (numberXY [] n)) where
  properties := by
    intro properties hproperties p hp _
    cases hproperties
    have hall : ∀ p ∈ [readable "X" "System.Int32", readable "Y" "System.Int32",
        readable "KindCase" "A/KindOneofCase"], p.name ≠ none := by decide
    exact hall p hp
  constants := by
    intro constants hconstants c hc _ _
    cases hconstants
    have hall : ∀ c ∈ numberXY [] n, c.name ≠ none := by simp [numberXY, numberConstant]
    exact hall c hc

/-- What becomes of the message: the names of its plain fields and of its members, or
    a failure. -/
def recoveredNames (constants : List FieldDescriptor) :
    Except Failure (List Label × List (List Label)) :=
  (fun m => (m.fields.map (·.name), m.oneofs.map fun o => o.members.map (·.name))) <$>
    (MessageType.withFields (kindSchema constants).enums
      { descriptor := kindMessage constants, rootMessage := none }).outcome

theorem recoveredNames_distinct :
    recoveredNames (numberXY [] 2) = .ok ([some ("Y" : Text)], [[some ("X" : Text)]]) := by
  obtain ⟨oneof, honeof⟩ := oneofOf_eq_some_iff.mpr (tellsCase_kind (numberXY [] 2))
  unfold recoveredNames
  rw [MessageType.outcome_withFields]
  unfold recoverFields
  simp only [kindMessage, present, ok_bind, List.foldlM_cons, List.foldlM_nil]
  unfold addOneof
  rw [oneofOf_X, oneofOf_Y, honeof]
  cbv

/-- The member `X` and the field `Y` get their numbers if these differ, and clash if
    they do not. -/
theorem distinct_numbers_of_gather_kind :
    (∃ m', (MessageType.withFields (kindSchema (numberXY [] 2)).enums
        { descriptor := kindMessage (numberXY [] 2), rootMessage := none }).outcome = .ok m' ∧
      m'.fields.map (·.name) = [some ("Y" : Text)] ∧
      m'.oneofs.map (fun o => o.members.map (·.name)) = [[some ("X" : Text)]] ∧ m'.Numbered) ∧
    ∃ e, OfClash (kindSchema (numberXY [] 1)).enums (kindMessage (numberXY [] 1)) e ∧
      (MessageType.withFields (kindSchema (numberXY [] 1)).enums
        { descriptor := kindMessage (numberXY [] 1), rootMessage := none }).outcome = .error e := by
  constructor
  · obtain ⟨m', hm', hnames⟩ := map_eq_ok.mp recoveredNames_distinct
    obtain ⟨hfields, honeofs⟩ := Prod.mk.inj hnames
    refine ⟨m', hm', hfields.symm, honeofs.symm, ?_⟩
    exact (distinct_numbers_of_gather (gather_kindSchema (numberXY [] 2))).1 (some "A") _ m' rfl hm'
  · exact ((distinct_numbers_of_gather (gather_kindSchema (numberXY [] 1))).2.2 (some "A") _ rfl
      (readable_kindMessage (by simp)) (namesGiven_kindMessage 1) _ _ declares_X declares_Y
      (by decide) rfl).1

/-- A constant without a name, which numbers no field, hides the clash of the others. -/
theorem nameless_constant_hides_clash :
    ∃ s m, Schema.gather (.ofTypes (some "") (some [])
        [kindMessage (numberXY [numberConstant none 5] 1)]) {} = .ok s ∧
      s.messages.find? (some "A") = some m ∧ Readable s.enums m.descriptor ∧
      Declares s.enums m.descriptor (some ("X" : Text), .int 1) ∧
      Declares s.enums m.descriptor (some ("Y" : Text), .int 1) ∧
      (m.withFields s.enums).outcome = .error .nullName := by
  refine ⟨_, _, gather_kindSchema _, rfl, readable_kindMessage ?_, declares_X, declares_Y, ?_⟩
  · simp [numberConstant]
  · obtain ⟨oneof, honeof⟩ :=
      oneofOf_eq_some_iff.mpr (tellsCase_kind (numberXY [numberConstant none 5] 1))
    rw [MessageType.outcome_withFields]
    unfold recoverFields
    simp only [kindMessage, present, ok_bind, List.foldlM_cons, List.foldlM_nil]
    unfold addOneof
    rw [oneofOf_X, oneofOf_Y, honeof]
    cbv

end Kind

end SchemaRecovery
