/-
  SchemaRecovery.Proofs.FieldNumbers

  The numbers of the fields of a message. A message declares a member of a oneof
  by a positive value of a case enum, and a field by a constant that is named for
  its number (`Declares`). Both loops that look for fields keep one table of the
  fields with a number so far: each adds to it what is declared and leaves out
  only what the table has under the same name (`Records`). So no two fields of a
  message have one number, and each number that a constant gives is that of the
  field it is named for (`numbered_of_withFields`).
-/
import SchemaRecovery.Proofs.Discovery
import SchemaRecovery.Proofs.Mapping

namespace SchemaRecovery

open TypeDescriptor

theorem Text.withoutEnding?_eq_some_iff {s ending x : Text} :
    Text.withoutEnding? s ending = some x ↔ s = x ++ ending := by
  unfold Text.withoutEnding?
  constructor
  · intro h
    split at h
    · rename_i hsuffix
      obtain ⟨y, rfl⟩ := hsuffix
      rw [Option.some.injEq, List.length_append, Nat.add_sub_cancel, List.take_left'] at h
      · rw [h]
      · rfl
    · cases h
  · rintro rfl
    rw [if_pos (List.suffix_append x ending), List.length_append, Nat.add_sub_cancel,
      List.take_left' rfl]

theorem eq_some_of_nameText {n : Label} {s : Text} (h : nameText n = .ok s) : n = some s := by
  cases n with
  | none => cases h
  | some x => rw [Except.ok.inj h]

namespace TypeDescriptor

/-! ## Declared fields -/

/-- The property tells the case of a oneof by the enum `e`. -/
structure TellsCase (enums : Registry Label EnumType) (p : PropertyDescriptor)
    (e : EnumType) : Prop where
  readable : p.isInstanceReadable = true
  named : ∃ oneof, p.name = some (oneof ++ caseEnding)
  typed : ∃ ref, TypeReference.ofLabel p.type = .ok ref ∧ ref.isGeneric = false ∧
    Text.hasEnding ref.simpleName caseEnumEnding = true ∧ enums.find? (some ref.name) = some e

/-- The value of a case enum is that of a member with this name and number. -/
def IsMember (v : FieldDescriptor) (x : Label × Constant) : Prop :=
  v.isStatic = some true ∧ v.name = x.1 ∧ v.constant = some x.2 ∧ 0 < x.2.value

/-- The property tells the case of a oneof with this member. -/
def TellsOfMember (enums : Registry Label EnumType) (p : PropertyDescriptor)
    (x : Label × Constant) : Prop :=
  ∃ e values, TellsCase enums p e ∧ e.descriptor.fields = some values ∧
    ∃ v ∈ values, IsMember v x

/-- The constant `<name>FieldNumber` is the number of the field `name`. -/
def IsNumber (c : FieldDescriptor) (x : Label × Constant) : Prop :=
  ∃ name n, c.name = some (name ++ numberEnding) ∧ name ≠ [] ∧ c.constant = some (.int n) ∧
    x = (some name, .int n)

/-- The type declares a member of a oneof with this name and number. -/
def DeclaresMember (enums : Registry Label EnumType) (t : TypeDescriptor)
    (x : Label × Constant) : Prop :=
  ∃ properties, t.properties = some properties ∧ ∃ p ∈ properties, TellsOfMember enums p x

/-- The type has a constant that numbers a field. -/
def DeclaresNumber (t : TypeDescriptor) (x : Label × Constant) : Prop :=
  ∃ constants, t.fields = some constants ∧ ∃ c ∈ constants, IsNumber c x

/-- The type declares a field with this name and number. -/
def Declares (enums : Registry Label EnumType) (t : TypeDescriptor) (x : Label × Constant) :
    Prop :=
  DeclaresMember enums t x ∨ DeclaresNumber t x

variable {t : TypeDescriptor} {enums : Registry Label EnumType}

/-- A oneof is found exactly for a property that tells its case. -/
theorem oneofOf_eq_some_iff {p : PropertyDescriptor} {e : EnumType} :
    (∃ oneof, oneofOf enums p = .ok (some (oneof, e))) ↔ TellsCase enums p e := by
  constructor
  · rintro ⟨oneof, h⟩
    unfold oneofOf at h
    split at h
    · cases h
    · rename_i hreadable
      obtain ⟨name, hname, h⟩ := bind_eq_ok.mp h
      split at h
      · cases h
      · rename_i x hx
        obtain ⟨ref, href, h⟩ := bind_eq_ok.mp h
        split at h
        · cases h
        · rename_i e' he'
          split at h
          · cases h
          · rename_i hfits
            cases h
            rw [Bool.or_eq_true, not_or, Bool.not_eq_true, Bool.not_eq_true,
              Bool.not_eq_false'] at hfits
            refine ⟨by simpa using hreadable, ⟨oneof, ?_⟩, ref, href, hfits.1, hfits.2, he'⟩
            rw [← Text.withoutEnding?_eq_some_iff.mp hx]
            exact eq_some_of_nameText hname
  · rintro ⟨hreadable, ⟨oneof, hname⟩, ref, href, hplain, hending, he⟩
    refine ⟨oneof, ?_⟩
    unfold oneofOf
    rw [hreadable, hname, href]
    simp only [nameText, ok_bind, Text.withoutEnding?_eq_some_iff.mpr rfl, he, hplain, hending]
    rfl

/-- A field is found exactly for a constant that numbers it. -/
theorem numberedOf_eq_some_iff {c : FieldDescriptor} {name : Text} {number : Constant} :
    numberedOf c = .ok (some (name, number)) ↔ IsNumber c (some name, number) := by
  constructor
  · intro h
    unfold numberedOf at h
    split at h
    · cases h
    · rename_i constant hconstant
      split at h
      · cases h
      · rename_i hbool
        obtain ⟨full, hfull, h⟩ := bind_eq_ok.mp h
        split at h
        · cases h
        · rename_i x hx
          split at h
          · cases h
          · rename_i hempty
            cases h
            cases number with
            | bool b => exact absurd rfl hbool
            | int n =>
                refine ⟨name, n, ?_, by simpa using hempty, hconstant, rfl⟩
                rw [← Text.withoutEnding?_eq_some_iff.mp hx]
                exact eq_some_of_nameText hfull
  · rintro ⟨name', n, hname, hne, hconstant, heq⟩
    cases heq
    unfold numberedOf
    rw [hconstant, hname]
    simp only [nameText, ok_bind, Text.withoutEnding?_eq_some_iff.mpr rfl, Constant.isBool]
    rw [if_neg (by simp), if_neg (by simpa using hne)]
    rfl

/-! ## The table of numbers -/

/-- The numbers of fields. -/
def numbers (fields : List Field) : List Int := fields.map (·.number.value)

/-- The second pair is the first with the fields of which `p` tells added to both
    lists, less those that the first list has already. -/
structure Records (p : Label × Constant → Prop) (before after : List Field × List Field) :
    Prop where
  added : ∃ new, after = (before.1 ++ new, before.2 ++ new) ∧ ∀ f ∈ new, p (f.name, f.number)
  complete : ∀ x, p x → ∃ f ∈ after.1, f.name = x.1 ∧ f.number.value = x.2.value
  distinct : (numbers before.1).Nodup → (numbers after.1).Nodup

namespace Records

variable {p q : Label × Constant → Prop} {found found' found'' : List Field × List Field}

theorem nothing (found : List Field × List Field) : Records (fun _ => False) found found where
  added := ⟨[], by simp, by simp⟩
  complete _ h := h.elim
  distinct h := h

theorem trans (h : Records p found found') (h' : Records q found' found'') :
    Records (fun x => p x ∨ q x) found found'' := by
  obtain ⟨new, rfl, hnew⟩ := h.added
  obtain ⟨new', rfl, hnew'⟩ := h'.added
  refine ⟨⟨new ++ new', by simp, fun f hf => ?_⟩, fun x hx => ?_, fun hd => ?_⟩
  · exact (List.mem_append.mp hf).imp (hnew f) (hnew' f)
  · rcases hx with hx | hx
    · obtain ⟨f, hf, hx⟩ := h.complete x hx
      exact ⟨f, List.mem_append_left new' hf, hx⟩
    · exact h'.complete x hx
  · exact h'.distinct (h.distinct hd)

theorem congr (h : Records p found found') (hpq : ∀ x, p x ↔ q x) : Records q found found' := by
  have heq : p = q := funext fun x => propext (hpq x)
  rw [← heq]
  exact h

/-- What is made may stand behind what was made before. -/
theorem behind {seen seen' made : List Field} (h : Records p (seen, []) (seen', made))
    (before : List Field) : Records p (seen, before) (seen', before ++ made) := by
  obtain ⟨new, heq, hnew⟩ := h.added
  cases heq
  exact ⟨⟨new, rfl, hnew⟩, h.complete, h.distinct⟩

/-- A field whose number is free is added. -/
theorem of_free {seen made : List Field} {f : Field} (h : holder? seen f.number = none) :
    Records (fun x => x = (f.name, f.number)) (seen, made) (seen ++ [f], made ++ [f]) := by
  refine ⟨⟨[f], rfl, by simp⟩, ?_, fun hd => ?_⟩
  · rintro x rfl
    exact ⟨f, by simp, rfl, rfl⟩
  · have hfree : f.number.value ∉ numbers seen := by
      unfold numbers
      rw [List.mem_map]
      rintro ⟨g, hg, heq⟩
      have hno := List.find?_eq_none.mp h g hg
      simp [heq] at hno
    show (numbers (seen ++ [f])).Nodup
    unfold numbers at hd hfree ⊢
    rw [List.map_append, List.map_singleton, ← List.concat_eq_append]
    exact hd.concat hfree

/-- A field that the table has is left out. -/
theorem of_known {seen made : List Field} {other : Field} {name : Label} {number : Constant}
    (h : holder? seen number = some other) (hname : other.name = name) :
    Records (fun x => x = (name, number)) (seen, made) (seen, made) := by
  refine ⟨⟨[], by simp, by simp⟩, ?_, fun hd => hd⟩
  rintro x rfl
  have hvalue : other.number.value = number.value := by simpa using List.find?_some h
  exact ⟨other, List.mem_of_find?_eq_some h, hname, hvalue⟩

end Records

theorem fieldOf_eq_ok {p : PropertyDescriptor} {name : Label} {number : Constant}
    {isMember : Bool} {f : Field} (h : t.fieldOf p name number isMember = .ok f) :
    f.name = name ∧ f.number = number := by
  unfold fieldOf at h
  obtain ⟨valueType, -, h⟩ := bind_eq_ok.mp h
  obtain ⟨presence, -, h⟩ := bind_eq_ok.mp h
  cases h
  exact ⟨rfl, rfl⟩

/-! ## What the steps add -/

section Steps

variable {oneof : Text} {v c : FieldDescriptor} {p : PropertyDescriptor} {x y : Label × Constant}
  {found found' : List Field × List Field}

theorem IsMember.unique (h : IsMember v x) (h' : IsMember v y) : x = y := by
  obtain ⟨-, hname, hconstant, -⟩ := h
  obtain ⟨-, hname', hconstant', -⟩ := h'
  rw [hconstant, Option.some.injEq] at hconstant'
  exact Prod.ext (hname.symm.trans hname') hconstant'

theorem addMember_of_not (h : ∀ x, ¬IsMember v x) : t.addMember oneof found v = .ok found := by
  unfold addMember
  dsimp only
  split
  · rfl
  · rename_i number hnumber
    -- A value that is not passed over would be a member.
    refine if_pos ?_
    by_contra hskip
    simp only [Bool.or_eq_true, Bool.not_eq_true', beq_eq_false_iff_ne, decide_eq_true_eq,
      not_or, not_not] at hskip
    exact h (v.name, number) ⟨hskip.1, rfl, hnumber, Int.lt_of_not_ge hskip.2⟩

theorem addMember_of_isMember (h : IsMember v x) :
    t.addMember oneof found v = do
      match ← t.property? x.1 with
      | none => .error (.oneofPropertyMissing oneof x.1 t.fullName)
      | some p =>
        let member ← t.fieldOf p x.1 x.2 true
        match holder? found.1 x.2 with
        | some other => .error (.numberClash x.2 other.name member.name t.fullName)
        | none => return (found.1 ++ [member], found.2 ++ [member]) := by
  obtain ⟨hstatic, hname, hconstant, hpos⟩ := h
  have htaken : ¬(!v.isStatic == some true || decide (x.2.value ≤ 0)) = true := by
    simp [hstatic, hpos]
  unfold addMember
  rw [hconstant, hname]
  exact if_neg htaken

theorem records_of_addMember (h : t.addMember oneof found v = .ok found') :
    Records (IsMember v) found found' := by
  by_cases hmember : ∃ x, IsMember v x
  · obtain ⟨x, hx⟩ := hmember
    rw [addMember_of_isMember hx] at h
    obtain ⟨property, -, h⟩ := bind_eq_ok.mp h
    split at h
    · cases h
    · obtain ⟨f, hf, h⟩ := bind_eq_ok.mp h
      obtain ⟨hname, hnumber⟩ := fieldOf_eq_ok hf
      split at h
      · cases h
      · rename_i hfree
        cases h
        rw [← hnumber] at hfree
        refine (Records.of_free hfree).congr fun y => ?_
        rw [hname, hnumber]
        exact ⟨fun hy => hy ▸ hx, fun hy => hy.unique hx⟩
  · rw [not_exists] at hmember
    rw [addMember_of_not hmember] at h
    cases h
    exact (Records.nothing found).congr fun x => (iff_false_intro (hmember x)).symm

/-- The values of the enum of a property that tells the case of a oneof are those of
    which it tells. -/
theorem TellsCase.tellsOfMember_iff {e : EnumType} (h : TellsCase enums p e)
    {values : List FieldDescriptor} (hvalues : e.descriptor.fields = some values) :
    TellsOfMember enums p x ↔ ∃ v ∈ values, IsMember v x := by
  constructor
  · rintro ⟨e', values', hcase, hvalues', hmember⟩
    obtain ⟨oneof, honeof⟩ := oneofOf_eq_some_iff.mpr h
    obtain ⟨oneof', honeof'⟩ := oneofOf_eq_some_iff.mpr hcase
    rw [honeof, Except.ok.injEq, Option.some.injEq, Prod.mk.injEq] at honeof'
    rw [← honeof'.2, hvalues, Option.some.injEq] at hvalues'
    rw [hvalues']
    exact hmember
  · intro hmember
    exact ⟨e, values, h, hvalues, hmember⟩

theorem records_of_addOneof {found found' : List Field × List Oneof}
    (h : addOneof enums t found p = .ok found') :
    Records (TellsOfMember enums p) (found.1, found.2.flatMap (·.members))
      (found'.1, found'.2.flatMap (·.members)) := by
  unfold addOneof at h
  obtain ⟨tells, htells, h⟩ := bind_eq_ok.mp h
  split at h
  · cases h
    refine (Records.nothing _).congr fun x => ⟨False.elim, ?_⟩
    rintro ⟨e, values, hcase, -⟩
    obtain ⟨oneof, honeof⟩ := oneofOf_eq_some_iff.mpr hcase
    rw [htells] at honeof
    cases honeof
  · rename_i oneof e
    have hcase := oneofOf_eq_some_iff.mp ⟨oneof, htells⟩
    dsimp only at h
    obtain ⟨values, hvalues, h⟩ := bind_eq_ok.mp h
    obtain ⟨⟨seen, members⟩, hfold, h⟩ := bind_eq_ok.mp h
    cases h
    have hmembers := (foldlM_adds Records Records.nothing Records.trans (fun _ => True) trivial
      hfold fun _ _ _ _ hstep => ⟨records_of_addMember hstep, trivial⟩).1
    rw [List.flatMap_append, List.flatMap_singleton]
    exact (hmembers.behind _).congr fun x =>
      (hcase.tellsOfMember_iff (present_eq_ok_iff.mp hvalues)).symm

theorem IsNumber.unique (h : IsNumber c x) (h' : IsNumber c y) : x = y := by
  obtain ⟨name, n, hname, -, hconstant, rfl⟩ := h
  obtain ⟨name', n', hname', -, hconstant', rfl⟩ := h'
  rw [hname, Option.some.injEq, List.append_left_inj] at hname'
  rw [hconstant, Option.some.injEq] at hconstant'
  rw [hname', hconstant']

theorem records_of_addField (h : t.addField found c = .ok found') :
    Records (IsNumber c) found found' := by
  obtain ⟨seen, fields⟩ := found
  unfold addField at h
  obtain ⟨numbered, hnumbered, h⟩ := bind_eq_ok.mp h
  split at h
  · cases h
    refine (Records.nothing _).congr fun x => ⟨False.elim, ?_⟩
    rintro ⟨name, n, hname, hne, hconstant, -⟩
    have hsome := numberedOf_eq_some_iff.mpr ⟨name, n, hname, hne, hconstant, rfl⟩
    rw [hnumbered] at hsome
    cases hsome
  · rename_i name number
    have hx := numberedOf_eq_some_iff.mp hnumbered
    dsimp only at h
    obtain ⟨property, -, h⟩ := bind_eq_ok.mp h
    split at h
    · cases h
    · obtain ⟨f, hf, h⟩ := bind_eq_ok.mp h
      obtain ⟨hname, hnumber⟩ := fieldOf_eq_ok hf
      have hthis : ∀ y, y = (some name, number) ↔ IsNumber c y :=
        fun y => ⟨fun hy => hy ▸ hx, fun hy => hy.unique hx⟩
      split at h
      · rename_i hfree
        cases h
        rw [← hnumber] at hfree
        have hnew : Records (fun x => x = (f.name, f.number)) (seen, fields)
            (seen ++ [f], fields ++ [f]) := Records.of_free hfree
        rw [hname, hnumber] at hnew
        exact hnew.congr hthis
      · rename_i other hother
        split at h
        · rename_i hsame
          cases h
          exact (Records.of_known hother (hsame.trans hname)).congr hthis
        · cases h

end Steps

/-! ## The fields of a message -/

/-- The first loop finds the members of all oneofs. -/
theorem records_of_oneofs {properties : List PropertyDescriptor} {seen : List Field}
    {oneofs : List Oneof} (hproperties : t.properties = some properties)
    (h : properties.foldlM (addOneof enums t) ([], []) = .ok (seen, oneofs)) :
    seen = oneofs.flatMap (·.members) ∧
      Records (DeclaresMember enums t) ([], []) (seen, seen) := by
  have hmembers := (foldlM_adds (fun p (b b' : List Field × List Oneof) =>
      Records p (b.1, b.2.flatMap (·.members)) (b'.1, b'.2.flatMap (·.members)))
    (fun _ => Records.nothing _) Records.trans (fun _ => True) trivial h
    fun _ _ _ _ hstep => ⟨records_of_addOneof hstep, trivial⟩).1
  obtain ⟨new, hnew, -⟩ := hmembers.added
  obtain ⟨hseen, hmade⟩ := Prod.mk.inj hnew
  have heq : seen = oneofs.flatMap (·.members) := hseen.trans hmade.symm
  refine ⟨heq, ?_⟩
  dsimp only at hmembers
  rw [← heq] at hmembers
  refine hmembers.congr fun x => ?_
  simp [DeclaresMember, hproperties]

/-- The second loop finds the numbered fields besides. -/
theorem records_of_constants {constants : List FieldDescriptor} {seen seen' fields : List Field}
    (hconstants : t.fields = some constants)
    (h : constants.foldlM (addField t) (seen, []) = .ok (seen', fields)) :
    seen' = seen ++ fields ∧ Records (DeclaresNumber t) (seen, []) (seen', fields) := by
  have hplain := (foldlM_adds Records Records.nothing Records.trans (fun _ => True) trivial
    h fun _ _ _ _ hstep => ⟨records_of_addField hstep, trivial⟩).1
  obtain ⟨new, hnew, -⟩ := hplain.added
  obtain ⟨hseen, hmade⟩ := Prod.mk.inj hnew
  refine ⟨?_, hplain.congr fun x => ?_⟩
  · rw [hseen, hmade]
    rfl
  · simp [DeclaresNumber, hconstants]

end TypeDescriptor

/-- One field of the list has the number. -/
theorem filter_number_eq_singleton {fields : List Field} {f : Field} {n : Int}
    (hd : (numbers fields).Nodup) (hf : f ∈ fields) (hn : f.number.value = n) :
    fields.filter (fun g => g.number.value = n) = [f] := by
  induction fields with
  | nil => cases hf
  | cons g rest ih =>
      obtain ⟨hg, hd⟩ := List.nodup_cons.mp hd
      rcases List.mem_cons.mp hf with rfl | hf
      · have hrest : rest.filter (fun g => g.number.value = n) = [] := by
          rw [List.filter_eq_nil_iff]
          intro x hx heq
          have hvalue : x.number.value = f.number.value := (of_decide_eq_true heq).trans hn.symm
          exact hg (List.mem_map.mpr ⟨x, hx, hvalue⟩)
        rw [List.filter_cons_of_pos (by simpa using hn), hrest]
      · have hne : ¬g.number.value = n := by
          intro heq
          exact hg (List.mem_map.mpr ⟨f, hf, hn.trans heq.symm⟩)
        rw [List.filter_cons_of_neg (by simpa using hne)]
        exact ih hd hf

/-- No two fields of the message have one number, and each number that a constant
    gives belongs to the field that the constant is named for. -/
structure MessageType.Numbered (m : MessageType) : Prop where
  distinct : (m.allFields.map (·.number.value)).Nodup
  constant : ∀ x, DeclaresNumber m.descriptor x →
    ∃ f, m.allFields.filter (fun g => g.number.value = x.2.value) = [f] ∧ f.name = x.1
  plain : ∀ f ∈ m.fields, DeclaresNumber m.descriptor (f.name, f.number) ∧
    ∀ o ∈ m.oneofs, ∀ g ∈ o.members, g.number.value ≠ f.number.value

namespace TypeDescriptor

variable {t : TypeDescriptor} {enums : Registry Label EnumType}

theorem recoverFields_eq_ok {oneofs : List Oneof} {fields : List Field}
    (h : recoverFields enums t = .ok (oneofs, fields)) :
    Records (DeclaresMember enums t) ([], [])
        (oneofs.flatMap (·.members), oneofs.flatMap (·.members)) ∧
      Records (DeclaresNumber t) (oneofs.flatMap (·.members), [])
        (oneofs.flatMap (·.members) ++ fields, fields) := by
  unfold recoverFields at h
  obtain ⟨properties, hproperties, h⟩ := bind_eq_ok.mp h
  obtain ⟨⟨seen, oneofs'⟩, honeofs, h⟩ := bind_eq_ok.mp h
  obtain ⟨constants, hconstants, h⟩ := bind_eq_ok.mp h
  obtain ⟨⟨seen', fields'⟩, hfields, h⟩ := bind_eq_ok.mp h
  cases h
  obtain ⟨hseen, hmembers⟩ := records_of_oneofs (present_eq_ok_iff.mp hproperties) honeofs
  obtain ⟨hseen', hplain⟩ := records_of_constants (present_eq_ok_iff.mp hconstants) hfields
  rw [hseen', hseen] at hplain
  rw [hseen] at hmembers
  exact ⟨hmembers, hplain⟩

/-- Every declared field is there once the fields are recovered, and no two have one
    number. -/
theorem found_of_recoverFields {made : List Oneof × List Field}
    (h : recoverFields enums t = .ok made) :
    (numbers (made.2 ++ made.1.flatMap (·.members))).Nodup ∧ ∀ x, Declares enums t x →
      ∃ f ∈ made.2 ++ made.1.flatMap (·.members), f.name = x.1 ∧ f.number.value = x.2.value := by
  obtain ⟨oneofs, fields⟩ := made
  obtain ⟨hmembers, hplain⟩ := recoverFields_eq_ok h
  -- The table has the members first, the message its plain fields.
  have hperm : (oneofs.flatMap (·.members) ++ fields).Perm
      (fields ++ oneofs.flatMap (·.members)) := List.perm_append_comm
  constructor
  · exact (hperm.map _).nodup_iff.mp (hplain.distinct (hmembers.distinct List.nodup_nil))
  · rintro x (hx | hx)
    · obtain ⟨f, hf, hfx⟩ := hmembers.complete x hx
      exact ⟨f, List.mem_append_right fields hf, hfx⟩
    · obtain ⟨f, hf, hfx⟩ := hplain.complete x hx
      exact ⟨f, hperm.mem_iff.mp hf, hfx⟩

end TypeDescriptor

namespace MessageType

variable {enums : Registry Label EnumType} {m m' : MessageType}

theorem outcome_withFields (enums : Registry Label EnumType) (m : MessageType) :
    (m.withFields enums).outcome = (fun made =>
      { m with oneofs := m.oneofs ++ made.1, fields := m.fields ++ made.2 }) <$>
        m.descriptor.recoverFields enums := by
  unfold MessageType.withFields
  rw [Logged.outcome_bind]
  show (m.descriptor.recoverFields enums >>= _) = _
  cases m.descriptor.recoverFields enums <;> rfl

theorem numbered_of_withFields (hfresh : m.fields = [] ∧ m.oneofs = [])
    (h : (m.withFields enums).outcome = .ok m') : m'.Numbered := by
  rw [outcome_withFields, map_eq_ok] at h
  obtain ⟨⟨oneofs, fields⟩, hrecovered, heq⟩ := h
  obtain ⟨hdistinct, hfound⟩ := found_of_recoverFields hrecovered
  have hdescriptor : m'.descriptor = m.descriptor := by rw [heq]
  have hfields : m'.fields = fields := by rw [heq, hfresh.1, List.nil_append]
  have hall : m'.allFields = fields ++ oneofs.flatMap (·.members) := by
    rw [allFields, hfields, heq, hfresh.2, List.nil_append]
  dsimp only at hdistinct hfound
  rw [← hall] at hdistinct hfound
  refine ⟨hdistinct, fun x hx => ?_, fun f hf => ⟨?_, fun o ho g hg hsame => ?_⟩⟩
  · rw [hdescriptor] at hx
    obtain ⟨f, hf, hname, hvalue⟩ := hfound x (Or.inr hx)
    exact ⟨f, filter_number_eq_singleton hdistinct hf hvalue, hname⟩
  · -- What the second loop made is what it added.
    obtain ⟨new, hnew, hdeclared⟩ := (recoverFields_eq_ok hrecovered).2.added
    obtain ⟨-, hmade⟩ := Prod.mk.inj hnew
    rw [hdescriptor]
    rw [hfields, hmade] at hf
    exact hdeclared f hf
  · -- A number of a member would stand in the list twice.
    have hmember : g ∈ m'.oneofs.flatMap (·.members) := List.mem_flatMap.mpr ⟨o, ho, hg⟩
    unfold numbers allFields at hdistinct
    rw [List.map_append] at hdistinct
    exact (List.nodup_append.mp hdistinct).2.2 _ (List.mem_map_of_mem hf) _
      (List.mem_map_of_mem hmember) hsame.symm

end MessageType

end SchemaRecovery
