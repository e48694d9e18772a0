/-
  SchemaRecovery.Proofs.RenderedNames

  The names of enum constants and of fields in the text of files. A constant is named
  for its enum and its value, both in upper case, so constants of one scope share a name
  exactly if both parts agree in upper case or the name of one enum goes on into the
  value of another (`Recovery.rebuild_constantNames_distinct_iff`). A field has the name
  of a property. If properties differ in lower case, two fields of a message share a name
  exactly if the name is declared with two numbers, by constants or by values of case
  enums (`Recovery.rebuild_fieldNames_distinct_iff`). Nothing checks either.
-/
import Mathlib.Data.Prod.Basic
import SchemaRecovery.Proofs.Oneofs
import SchemaRecovery.Proofs.QualifiedNames

namespace SchemaRecovery

open TypeDescriptor

namespace OutputFile

/-! ## Constants -/

/-- The constants of an enum in the order of their lines, each by the names of the enum
    and of the value. Where there is no name there is no line. -/
def constantsOf (e : EnumType) : List (Text × Text) :=
  match e.name with
  | none => []
  | some enum => ((orderedValues e).filterMap (·.1)).map fun value => (enum, value)

/-- The names of the constants of enums. -/
def constantNames (es : List EnumType) : List Text :=
  (es.flatMap constantsOf).map fun c => constantName c.1 c.2

/-- The line declares the constant. -/
def DeclaresConstant (c : Text × Text) (line : Text) : Prop :=
  ∃ number : Text, line = constantName c.1 c.2 ++ " = " ++ number ++ ";"

/-- In upper case, the name of the first enum goes on to that of the second with what the
    value of the first constant starts with. -/
def Continues (c d : Text × Text) : Prop :=
  ∃ w, Text.upperSnake d.1 = Text.upperSnake c.1 ++ ("_" ++ w) ∧
    Text.upperSnake c.2 = w ++ ("_" ++ Text.upperSnake d.2)

/-- The enums and the values of the constants agree in upper case. -/
def Agree (c d : Text × Text) : Prop :=
  Text.upperSnake c.1 = Text.upperSnake d.1 ∧ Text.upperSnake c.2 = Text.upperSnake d.2

variable {e : EnumType} {es : List EnumType} {c d : Text × Text}

theorem orderedValues_perm (e : EnumType) : (orderedValues e).Perm e.values := by
  have hzero : (e.values.filter fun v => v.2.value != 0) =
      e.values.filter fun v => !(v.2.value == 0) := rfl
  unfold orderedValues
  dsimp only
  rw [hzero]
  exact ((List.mergeSort_perm _ _).append_left _).trans (List.filter_append_perm _ _)

/-- Each line of an enum declares one of its constants, in order. -/
theorem declaresConstant_of_valueLines {lines : List Text} (h : valueLines e = .ok lines) :
    List.Forall₂ DeclaresConstant (constantsOf e) lines := by
  rw [valueLines, bind_eq_ok] at h
  obtain ⟨enum, henum, hlines⟩ := h
  rw [mapM_eq_ok_iff] at hlines
  unfold constantsOf
  rw [present_eq_ok_iff.mp henum]
  dsimp only
  generalize orderedValues e = values at hlines
  -- A value without a name would have no line.
  induction hlines with
  | nil => exact .nil
  | cons hline _ ih =>
      obtain ⟨value, hvalue, hline⟩ := bind_eq_ok.mp hline
      rw [List.filterMap_cons_some (present_eq_ok_iff.mp hvalue), List.map_cons]
      exact .cons ⟨_, (Except.ok.inj hline).symm⟩ ih

/-- Two parts around an underscore are those around another one, or one of the first parts
    goes on into the second part beside the other. -/
theorem append_underscore_eq_iff {a b a' b' : Text} :
    a ++ "_" ++ b = a' ++ "_" ++ b' ↔ (a = a' ∧ b = b') ∨
      (∃ w, a' = a ++ ("_" ++ w) ∧ b = w ++ ("_" ++ b')) ∨
      ∃ w, a = a' ++ ("_" ++ w) ∧ b' = w ++ ("_" ++ b) := by
  simp only [List.append_assoc]
  constructor
  · intro h
    -- One of the first parts starts the other. What is left of the longer one is nothing,
    -- or begins with the underscore beside the shorter one.
    rcases List.append_eq_append_iff.mp h with ⟨x, hx, hrest⟩ | ⟨x, hx, hrest⟩
    · cases x with
      | nil => exact Or.inl ⟨by rw [hx, List.append_nil], List.append_cancel_left hrest⟩
      | cons y w =>
          obtain ⟨rfl, hb⟩ := List.cons.inj hrest
          exact Or.inr (Or.inl ⟨w, hx, hb⟩)
    · cases x with
      | nil => exact Or.inl ⟨by rw [hx, List.append_nil], (List.append_cancel_left hrest).symm⟩
      | cons y w =>
          obtain ⟨rfl, hb⟩ := List.cons.inj hrest
          exact Or.inr (Or.inr ⟨w, hx, hb⟩)
  · rintro (⟨rfl, rfl⟩ | ⟨w, rfl, rfl⟩ | ⟨w, rfl, rfl⟩)
    · rfl
    · simp only [List.append_assoc]
    · simp only [List.append_assoc]

theorem constantName_eq_iff : constantName c.1 c.2 = constantName d.1 d.2 ↔
    Agree c d ∨ Continues c d ∨ Continues d c :=
  append_underscore_eq_iff

/-- Constants are different if enums are, and values of each enum are. -/
theorem nodup_constants (hnames : (es.map (·.name)).Nodup)
    (hvalues : ∀ e ∈ es, (e.values.map (·.1)).Nodup) : (es.flatMap constantsOf).Nodup := by
  have hfrom : ∀ e : EnumType, ∀ c ∈ constantsOf e, e.name = some c.1 := by
    intro e c hc
    unfold constantsOf at hc
    split at hc
    · cases hc
    · rename_i enum henum
      obtain ⟨value, -, rfl⟩ := List.mem_map.mp hc
      exact henum
  rw [List.nodup_flatMap]
  constructor
  · intro e he
    unfold constantsOf
    split
    · exact List.nodup_nil
    · have hnodup := ((orderedValues_perm e).map (·.1)).nodup_iff.mpr (hvalues e he)
      have hsome : (orderedValues e).filterMap (·.1) =
          ((orderedValues e).map (·.1)).filterMap id := by
        rw [List.filterMap_map]
        rfl
      rw [hsome]
      refine List.Nodup.map (Prod.mk_right_injective _) (hnodup.filterMap ?_)
      intro x y value hx hy
      exact (Option.mem_def.mp hx).trans (Option.mem_def.mp hy).symm
  · -- A constant tells the name of its enum.
    refine (List.pairwise_map.mp hnames).imp fun {e e'} hne c hc hc' => hne ?_
    rw [hfrom e c hc, hfrom e' c hc']

/-- Constants have different names exactly if no two of them agree and none continues
    another. -/
theorem nodup_constantNames_iff (h : (es.flatMap constantsOf).Nodup) :
    (constantNames es).Nodup ↔ ∀ c ∈ es.flatMap constantsOf, ∀ d ∈ es.flatMap constantsOf,
      c ≠ d → ¬Agree c d ∧ ¬Continues c d := by
  unfold constantNames
  rw [List.nodup_map_iff_inj_on h]
  constructor
  · intro hinj c hc d hd hne
    refine ⟨fun hagree => hne ?_, fun hcontinues => hne ?_⟩
    · exact hinj c hc d hd (constantName_eq_iff.mpr (Or.inl hagree))
    · exact hinj c hc d hd (constantName_eq_iff.mpr (Or.inr (Or.inl hcontinues)))
  · intro hapart c hc d hd heq
    by_contra hne
    rcases constantName_eq_iff.mp heq with hagree | hcontinues | hcontinues
    · exact (hapart c hc d hd hne).1 hagree
    · exact (hapart c hc d hd hne).2 hcontinues
    · exact (hapart d hd c hc (Ne.symm hne)).2 hcontinues

/-- What encloses the constants of the enums that are declared directly in it: a package
    over all files, or the block of a message. -/
inductive Scope where
  | package (name : Text)
  | block (m : MessageType)

namespace Scope

/-- The scope is in the files. -/
def In (s : Schema) (files : List OutputFile) : Scope → Prop
  | package name => ∃ f ∈ files, f.packageName = name
  | block m => ∃ f ∈ files, f.Emits s m

/-- The enums that are declared directly in the scope. -/
def enums (s : Schema) (files : List OutputFile) : Scope → Except Failure (List EnumType)
  | package name => .ok ((files.filter fun f => f.packageName = name).flatMap (·.enums))
  | block m => m.nestedEnums.mapM s.enum

theorem enums_ok {s : Schema} {files : List OutputFile} {scope : Scope} (hs : s.WellNested)
    (h : scope.In s files) : ∃ es, scope.enums s files = .ok es := by
  cases scope with
  | package name => exact ⟨_, rfl⟩
  | block m =>
      obtain ⟨f, -, hm, -⟩ := h
      refine exists_mapM_eq_ok fun n hn => ?_
      obtain ⟨e, he, -⟩ := hs.nested_enum hm hn
      exact ⟨e, Schema.enum_eq_ok_iff.mpr he⟩

end Scope

/-! ## Fields -/

/-- The names of the fields of a message, as they are rendered. -/
def fieldNames (m : MessageType) : List Text :=
  (m.allFields.filterMap (·.name)).map Text.lowerSnake

/-- The line declares a field of some type with the name and the number. -/
def DeclaresField (name : Text) (number : Constant) (line : Text) : Prop :=
  ∃ type rest : Text, line = type ++ " " ++ name ++ " = " ++ number.text ++ ";" ++ rest

theorem declaresField_of_fieldLine {s : Schema} {m : MessageType} {oneof : Option Oneof}
    {f : Field} {line : Text} (h : (fieldLine s m oneof f).outcome = .ok line) :
    ∃ name, f.name = some name ∧ DeclaresField (Text.lowerSnake name) f.number line := by
  unfold fieldLine at h
  obtain ⟨name, hname, h⟩ := Logged.outcome_bind_eq_ok.mp h
  obtain ⟨mapping, -, h⟩ := Logged.outcome_bind_eq_ok.mp h
  refine ⟨name, present_eq_ok_iff.mp hname, ?_⟩
  split at h
  · rename_i typeName
    obtain ⟨-, -, h⟩ := Logged.outcome_bind_eq_ok.mp h
    refine ⟨placeholderType, " // Unknown type: " ++ typeName, ?_⟩
    rw [← Except.ok.inj h]
    simp only [List.append_assoc]
    rfl
  · rename_i t
    refine ⟨labelOf f t.name ++ t.name, [], ?_⟩
    rw [← Except.ok.inj h, List.append_nil]

end OutputFile

namespace TypeDescriptor

/-- The type declares a field name with two numbers. -/
def TwiceNumbered (enums : Registry Label EnumType) (t : TypeDescriptor) : Prop :=
  ∃ (name : Text) (k k' : Constant), Declares enums t (some name, k) ∧
    Declares enums t (some name, k') ∧ k.value ≠ k'.value

/-- No two properties that have names are rendered with one name. -/
def PropertiesApart (t : TypeDescriptor) : Prop :=
  ∀ properties, t.properties = some properties →
    ((properties.filterMap (·.name)).map Text.lowerSnake).Nodup

variable {t : TypeDescriptor} {enums : Registry Label EnumType} {oneofs : List Oneof}
  {fields : List Field} {p : PropertyDescriptor}

theorem name_of_property? {name : Text} (h : t.property? (some name) = .ok (some p)) :
    ∃ properties, t.properties = some properties ∧ name ∈ properties.filterMap (·.name) := by
  unfold property? at h
  obtain ⟨properties, hproperties, h⟩ := bind_eq_ok.mp h
  have hfound := Except.ok.inj h
  have hp := List.find?_some hfound
  rw [Bool.and_eq_true, decide_eq_true_eq] at hp
  exact ⟨properties, present_eq_ok_iff.mp hproperties,
    List.mem_filterMap.mpr ⟨p, List.mem_of_find?_eq_some hfound, hp.1⟩⟩

/-- Each plain field has the name of a property. -/
theorem property?_of_addField {found found' : List Field × List Field} {c : FieldDescriptor}
    (h : t.addField found c = .ok found')
    (hfound : ∀ f ∈ found.2, ∃ p, t.property? f.name = .ok (some p)) :
    ∀ f ∈ found'.2, ∃ p, t.property? f.name = .ok (some p) := by
  obtain ⟨seen, fields⟩ := found
  unfold addField at h
  obtain ⟨numbered, -, h⟩ := bind_eq_ok.mp h
  split at h
  · cases h
    exact hfound
  · rename_i name number
    dsimp only at h
    obtain ⟨property, hproperty, h⟩ := bind_eq_ok.mp h
    split at h
    · cases h
    · rename_i p
      obtain ⟨f, hf, h⟩ := bind_eq_ok.mp h
      split at h
      · cases h
        refine List.forall_mem_append.mpr ⟨hfound, List.forall_mem_singleton.mpr ⟨p, ?_⟩⟩
        rw [(fieldOf_eq_ok hf).1, hproperty]
      · split at h
        · cases h
          exact hfound
        · cases h

/-- Each recovered field has the name of a property. -/
theorem property?_of_recoverFields (h : recoverFields enums t = .ok (oneofs, fields)) :
    ∀ f ∈ fields ++ oneofs.flatMap (·.members), ∃ p, t.property? f.name = .ok (some p) := by
  obtain ⟨properties, -, hselected⟩ := oneofsBy_of_recoverFields h
  unfold recoverFields at h
  obtain ⟨properties', -, h⟩ := bind_eq_ok.mp h
  obtain ⟨⟨seen, oneofs'⟩, -, h⟩ := bind_eq_ok.mp h
  obtain ⟨constants, -, h⟩ := bind_eq_ok.mp h
  obtain ⟨⟨seen', fields'⟩, hfold, h⟩ := bind_eq_ok.mp h
  cases h
  refine List.forall_mem_append.mpr ⟨?_, fun f hf => ?_⟩
  · exact foldlM_keeps
      (fun _ (x : List Field × List Field) => ∀ f ∈ x.2, ∃ p, t.property? f.name = .ok (some p))
      (fun _ _ _ _ hfound hstep => property?_of_addField hstep hfound) (by simp) hfold
  · obtain ⟨o, ho, hf⟩ := List.mem_flatMap.mp hf
    obtain ⟨property, -, -, e, -, hmembers⟩ := hselected.exists_of_mem ho
    obtain ⟨values, -, hvalues⟩ := hmembers.members
    obtain ⟨v, -, -, hmember⟩ := hvalues.exists_of_mem hf
    obtain ⟨p, hp, -⟩ := hmember.type
    obtain ⟨-, hname, -⟩ := hmember.value
    rw [hname] at hp
    exact ⟨p, hp⟩

end TypeDescriptor

/-- The fields of the message are those that are declared, one for each number that
    occurs, and have the names of properties. -/
structure MessageType.Recovered (enums : Registry Label EnumType) (m : MessageType) :
    Prop where
  declared : ∀ f ∈ m.allFields, Declares enums m.descriptor (f.name, f.number)
  found : ∀ x, Declares enums m.descriptor x →
    ∃ f ∈ m.allFields, f.name = x.1 ∧ f.number.value = x.2.value
  distinct : (numbers m.allFields).Nodup
  property : ∀ f ∈ m.allFields, ∃ p, m.descriptor.property? f.name = .ok (some p)

namespace MessageType

variable {enums : Registry Label EnumType} {m m' : MessageType}

theorem recovered_of_withFields (hfresh : m.fields = [] ∧ m.oneofs = [])
    (h : (m.withFields enums).outcome = .ok m') : m'.Recovered enums := by
  rw [outcome_withFields, map_eq_ok] at h
  obtain ⟨⟨oneofs, fields⟩, hrecovered, rfl⟩ := h
  obtain ⟨hdistinct, hfound⟩ := found_of_recoverFields hrecovered
  obtain ⟨hmembers, hplain⟩ := recoverFields_eq_ok hrecovered
  rw [hfresh.1, hfresh.2, List.nil_append, List.nil_append]
  refine ⟨?_, hfound, hdistinct, property?_of_recoverFields hrecovered⟩
  -- What each of the loops made is what it added.
  obtain ⟨new, hnew, hnumbers⟩ := hplain.added
  obtain ⟨new', hnew', hvalues⟩ := hmembers.added
  obtain rfl : fields = new := (Prod.mk.inj hnew).2
  refine List.forall_mem_append.mpr ⟨fun f hf => Or.inr (hnumbers f hf), fun f hf => Or.inl ?_⟩
  rw [(Prod.mk.inj hnew').1] at hf
  exact hvalues f hf

theorem Recovered.congr (h : m.Recovered enums) (hdescriptor : m'.descriptor = m.descriptor)
    (hfields : m'.allFields = m.allFields) : m'.Recovered enums := by
  obtain ⟨hdeclared, hfound, hdistinct, hproperty⟩ := h
  rw [← hdescriptor, ← hfields] at *
  exact ⟨hdeclared, hfound, hdistinct, hproperty⟩

/-- Where properties are rendered apart, two fields are rendered with one name only if
    they have one name. -/
theorem Recovered.name_eq (h : m.Recovered enums) (hapart : m.descriptor.PropertiesApart)
    {f g : Field} {x y : Text} (hf : f ∈ m.allFields) (hg : g ∈ m.allFields)
    (hx : f.name = some x) (hy : g.name = some y)
    (heq : Text.lowerSnake x = Text.lowerSnake y) : x = y := by
  obtain ⟨p, hp⟩ := h.property f hf
  obtain ⟨q, hq⟩ := h.property g hg
  rw [hx] at hp
  rw [hy] at hq
  obtain ⟨properties, hproperties, hxmem⟩ := name_of_property? hp
  obtain ⟨properties', hproperties', hymem⟩ := name_of_property? hq
  obtain rfl := Option.some.inj (hproperties.symm.trans hproperties')
  exact List.inj_on_of_nodup_map (hapart properties hproperties) hxmem hymem heq

/-- Where properties are rendered apart, so are fields exactly if no name is declared with
    two numbers. -/
theorem Recovered.nodup_fieldNames_iff (h : m.Recovered enums)
    (hapart : m.descriptor.PropertiesApart) :
    (OutputFile.fieldNames m).Nodup ↔ ¬m.descriptor.TwiceNumbered enums := by
  have hnumbers : m.allFields.Pairwise fun f g => f.number.value ≠ g.number.value :=
    List.pairwise_map.mp h.distinct
  unfold OutputFile.fieldNames List.Nodup
  rw [List.pairwise_map, List.pairwise_filterMap]
  constructor
  · -- Each of the two numbers has a field, and both fields have the name.
    rintro hnames ⟨name, k, k', hk, hk', hne⟩
    obtain ⟨f, hf, hfname, hfvalue⟩ := h.found _ hk
    obtain ⟨g, hg, hgname, hgvalue⟩ := h.found _ hk'
    have hfg : f ≠ g := by
      rintro rfl
      exact hne (hfvalue.symm.trans hgvalue)
    have hsymm : Std.Symm fun f g : Field => ∀ x, f.name = some x → ∀ y, g.name = some y →
        Text.lowerSnake x ≠ Text.lowerSnake y :=
      ⟨fun _ _ h x hx y hy => (h y hy x hx).symm⟩
    exact hnames.forall hf hg hfg name hfname name hgname rfl
  · intro honce
    refine hnumbers.imp_of_mem fun {f g} hf hg hne x hx y hy heq => honce ?_
    obtain rfl := h.name_eq hapart hf hg hx hy heq
    exact ⟨x, f.number, g.number, hx ▸ h.declared f hf, hy ▸ h.declared g hg, hne⟩

end MessageType

namespace Recovery

open OutputFile

/-- The constants of the enums in a scope. They have the names that the lines of the
    enums declare. Where enums have different names, and so have the values of each enum,
    the constants have different names exactly if no two agree in upper case, and none
    has an enum whose name goes on into the value of another. -/
theorem rebuild_constantNames_distinct_iff {text : Text} {a : Assembly} {r : Recovery}
    {files : List OutputFile} {scope : Scope} (hload : Assembly.load text = .ok a)
    (hok : (rebuild a).outcome = .ok (r, files)) (hscope : scope.In r.schema files) :
    ∃ es, scope.enums r.schema files = .ok es ∧
      (∀ e ∈ es, ∀ lines, valueLines e = .ok lines →
        List.Forall₂ DeclaresConstant (constantsOf e) lines) ∧
      ((es.map (·.name)).Nodup → (∀ e ∈ es, (e.values.map (·.1)).Nodup) →
        ((constantNames es).Nodup ↔ ∀ c ∈ es.flatMap constantsOf,
          ∀ d ∈ es.flatMap constantsOf, c ≠ d → ¬Agree c d ∧ ¬Continues c d)) := by
  obtain ⟨l, discovered, u, file, hprepared, hprune, -⟩ :=
    planned_of_rebuild (Assembly.named_of_load hload) hok
  have hs : r.schema.WellNested := hprune ▸ hprepared.resolved.toWellNested
  obtain ⟨es, hes⟩ := Scope.enums_ok hs hscope
  exact ⟨es, hes, fun _ _ _ hlines => declaresConstant_of_valueLines hlines,
    fun hnames hvalues => nodup_constantNames_iff (nodup_constants hnames hvalues)⟩

/-- The messages in the files have the fields that are recovered for them from the
    gathered types. -/
theorem recovered_of_rebuild {a : Assembly} {r : Recovery} {files : List OutputFile}
    (ha : a.Named) (hok : (rebuild a).outcome = .ok (r, files)) :
    ∃ gathered, Schema.gather a {} = .ok gathered ∧ ∀ n m,
      r.schema.messages.find? n = some m → m.Recovered gathered.enums := by
  obtain ⟨discovered, g₀, hdiscover, hrelate, -⟩ := rebuild_eq_ok hok
  obtain ⟨gathered, hgather, hfields⟩ := discover_eq_ok hdiscover
  obtain ⟨connected, u, hconnect, hneeds, hprune⟩ := relate_eq_ok hrelate
  obtain ⟨-, l, hprepared⟩ := prepared_of_steps ha hgather hfields hconnect hneeds
  refine ⟨gathered, hgather, fun n m hm => ?_⟩
  -- Dropping enums, recording needs and linking types leave the fields as they are.
  rw [hprune, Schema.find?_messages_prune] at hm
  obtain ⟨m₁, hm₁, rfl⟩ := Option.map_eq_some_iff.mp hm
  obtain ⟨m₂, hm₂, hbare⟩ := hprepared.same.symm.message hm₁
  obtain ⟨m₃, hm₃, rfl⟩ := discovered.find?_linkNested hm₂
  obtain ⟨m₀, hm₀, hfilled⟩ := Schema.find?_populateFields hfields hm₃
  have hrecovered := MessageType.recovered_of_withFields ((fresh_of_gather hgather).message hm₀)
    hfilled
  have hdescriptor : m₁.descriptor = (m₃.withNested discovered).descriptor :=
    MessageType.eq_of_bare_eq (·.descriptor) hbare.symm fun _ => rfl
  have hall : m₁.allFields = (m₃.withNested discovered).allFields :=
    MessageType.eq_of_bare_eq (·.allFields) hbare.symm fun _ => rfl
  exact hrecovered.congr hdescriptor hall

/-- The fields of the messages in the files. A line of a field declares it with its name
    in lower case. Where the properties of the message are rendered apart, so are its
    fields exactly if no field name is declared with two numbers. -/
theorem rebuild_fieldNames_distinct_iff {text : Text} {a : Assembly} {r : Recovery}
    {files : List OutputFile} (hload : Assembly.load text = .ok a)
    (hok : (rebuild a).outcome = .ok (r, files)) :
    ∃ gathered, Schema.gather a {} = .ok gathered ∧
      ∀ f ∈ files, ∀ m, f.Emits r.schema m →
        (∀ x ∈ m.allFields, ∀ oneof line,
          (fieldLine r.schema m oneof x).outcome = .ok line →
            ∃ name, x.name = some name ∧ DeclaresField (Text.lowerSnake name) x.number line) ∧
        (m.descriptor.PropertiesApart →
          ((fieldNames m).Nodup ↔ ¬m.descriptor.TwiceNumbered gathered.enums)) := by
  obtain ⟨gathered, hgather, hrecovered⟩ :=
    recovered_of_rebuild (Assembly.named_of_load hload) hok
  exact ⟨gathered, hgather, fun f _ m hm => ⟨fun _ _ _ _ => declaresField_of_fieldLine,
    (hrecovered _ m hm.1).nodup_fieldNames_iff⟩⟩

/-! ## A message with clashes -/

/-- A document with a message `A` of a oneof, which has the member `X` and a field `X`
    besides. In it are an enum `Fo` with the value `BaZ` and an enum `FoBa` with the value
    `Z`. -/
def clashingBlock : Text :=
  List.flatten
    ["\x7b\"name\":\"\",", "\"references\":[\x7b\"name\":", "\"Google.Protobuf\"\x7d],",
      "\"types\":[\x7b\"name\":\"A\",", "\"interfaces\":[", "\"Google.Protobuf.IMessage\"],",
      "\"fields\":[\x7b\"name\":", "\"XFieldNumber\",", "\"type\":\"\",\"constant\":2\x7d,",
      "\x7b\"name\":\"YFieldNumber\",", "\"type\":\"\",\"constant\":3\x7d],",
      "\"properties\":[\x7b\"name\":\"X\",", "\"type\":\"A/Fo\"\x7d,",
      "\x7b\"name\":\"Y\",\"type\":\"A/FoBa\"\x7d,", "\x7b\"name\":\"KCase\",",
      "\"type\":\"A/KOneofCase\"\x7d],", "\"nested_types\":[\x7b\"name\":\"Fo\",",
      "\"kind\":\"enum\",\"fields\":[\x7b", "\"name\":\"BaZ\",\"type\":\"\",",
      "\"constant\":0\x7d]\x7d,\x7b", "\"name\":\"FoBa\",\"kind\":\"enum\",",
      "\"fields\":[\x7b\"name\":\"Z\",", "\"type\":\"\",\"constant\":0\x7d]\x7d,",
      "\x7b\"name\":\"KOneofCase\",", "\"kind\":\"enum\",\"fields\":[\x7b",
      "\"name\":\"X\",\"type\":\"\",", "\"constant\":1,\"is_static\":true\x7d]\x7d]\x7d]\x7d"]

/-- An enum that a document declares with one value. -/
def membersOfNestedEnum (name : Text) (value : Decode.Members) : Decode.Members :=
  [("name", .str name), ("kind", .str "enum"), ("fields", .arr [.obj value])]

def membersOfFo : Decode.Members :=
  membersOfNestedEnum "Fo" [("name", .str "BaZ"), ("type", .str ""), ("constant", .int 0)]

def membersOfFoBa : Decode.Members :=
  membersOfNestedEnum "FoBa" [("name", .str "Z"), ("type", .str ""), ("constant", .int 0)]

def membersOfCases : Decode.Members :=
  membersOfNestedEnum "KOneofCase" [("name", .str "X"), ("type", .str ""), ("constant", .int 1),
    ("is_static", .bool true)]

def membersOfBlock : Decode.Members :=
  [("name", .str "A"), ("interfaces", .arr [.str "Google.Protobuf.IMessage"]),
    ("fields", .arr [.obj [("name", .str "XFieldNumber"), ("type", .str ""),
        ("constant", .int 2)],
      .obj [("name", .str "YFieldNumber"), ("type", .str ""), ("constant", .int 3)]]),
    ("properties", .arr [.obj [("name", .str "X"), ("type", .str "A/Fo")],
      .obj [("name", .str "Y"), ("type", .str "A/FoBa")],
      .obj [("name", .str "KCase"), ("type", .str "A/KOneofCase")]]),
    ("nested_types", .arr [.obj membersOfFo, .obj membersOfFoBa, .obj membersOfCases])]

set_option maxRecDepth 8000 in
theorem read_clashingBlock : Json.read clashingBlock = .ok (.obj [("name", .str ""),
    ("references", .arr [.obj [("name", .str "Google.Protobuf")]]),
    ("types", .arr [.obj membersOfBlock])]) := by
  cbv

/-- A constant of an enum or a message. -/
def plainConstant (name : Text) (value : Int) : FieldDescriptor :=
  ⟨some name, some "", some (.int value), some false⟩

/-- The enum `Fo` or `FoBa`, as it is in an assembly. -/
def nestedEnum (name fullName value : Text) : TypeDescriptor :=
  ⟨some name, some "", some .enumeration, some [], some [plainConstant value 0], some [],
    some fullName, some "A", []⟩

def foEnum : TypeDescriptor := nestedEnum "Fo" "A/Fo" "BaZ"

def foBaEnum : TypeDescriptor := nestedEnum "FoBa" "A/FoBa" "Z"

def casesEnum : TypeDescriptor :=
  ⟨some "KOneofCase", some "", some .enumeration, some [],
    some [⟨some "X", some "", some (.int 1), some true⟩], some [], some "A/KOneofCase",
    some "A", []⟩

/-- The properties of the message. -/
def blockProperties : List PropertyDescriptor :=
  [readable "X" "A/Fo", readable "Y" "A/FoBa", readable "KCase" "A/KOneofCase"]

/-- The message that the document declares. -/
def blockMessage : TypeDescriptor :=
  ⟨some "A", some "", some .plainClass, some ["Google.Protobuf.IMessage"],
    some [plainConstant "XFieldNumber" 2, plainConstant "YFieldNumber" 3],
    some blockProperties, some "A", none, [foEnum, foBaEnum, casesEnum]⟩

/-- The assembly that the document describes. -/
def clashingAssembly : Assembly :=
  .ofTypes (some "") (some [⟨some "Google.Protobuf", none⟩]) [blockMessage]

theorem load_clashingBlock : Assembly.load clashingBlock = .ok clashingAssembly := by
  have hFo : Decode.type (.obj membersOfFo) = .ok ⟨some "Fo", some "", some .enumeration, some [],
      some [plainConstant "BaZ" 0], some [], some []⟩ := by
    rw [Decode.type_obj]
    cbv
  have hFoBa : Decode.type (.obj membersOfFoBa) = .ok ⟨some "FoBa", some "", some .enumeration,
      some [], some [plainConstant "Z" 0], some [], some []⟩ := by
    rw [Decode.type_obj]
    cbv
  have hcases : Decode.type (.obj membersOfCases) = .ok ⟨some "KOneofCase", some "",
      some .enumeration, some [], some [⟨some "X", some "", some (.int 1), some true⟩], some [],
      some []⟩ := by
    rw [Decode.type_obj]
    cbv
  have hnested := mapM_eq_ok_iff.mpr (.cons hFo (.cons hFoBa (.cons hcases .nil)))
  have hblock : Decode.type (.obj membersOfBlock) = .ok ⟨some "A", some "", some .plainClass,
      some ["Google.Protobuf.IMessage"],
      some [plainConstant "XFieldNumber" 2, plainConstant "YFieldNumber" 3],
      some blockProperties, some
        [⟨some "Fo", some "", some .enumeration, some [], some [plainConstant "BaZ" 0], some [],
            some []⟩,
          ⟨some "FoBa", some "", some .enumeration, some [], some [plainConstant "Z" 0], some [],
            some []⟩,
          ⟨some "KOneofCase", some "", some .enumeration, some [],
            some [⟨some "X", some "", some (.int 1), some true⟩], some [], some []⟩]⟩ := by
    rw [Decode.type_obj, Decode.nestedOf_arr (by cbv) hnested]
    cbv
  have htypes := mapM_eq_ok_iff.mpr (.cons hblock .nil)
  unfold Assembly.load
  rw [read_clashingBlock]
  show Assembly.ofJson _ = _
  unfold Assembly.ofJson
  rw [Decode.assembly_of_types (by cbv) (by cbv) htypes]
  cbv

/-- The enums as they are gathered. -/
def foType : EnumType := ⟨foEnum, some "A", [(some "BaZ", .int 0)]⟩

def foBaType : EnumType := ⟨foBaEnum, some "A", [(some "Z", .int 0)]⟩

def casesType : EnumType := ⟨casesEnum, some "A", [(some "X", .int 1)]⟩

/-- The schema of the document with some fields and oneofs. -/
def blockSchema (fields : List Field) (oneofs : List Oneof) : Schema where
  messages :=
    ⟨[(some "A", { descriptor := blockMessage, rootMessage := none, fields, oneofs })],
      List.nodup_singleton _⟩
  enums := ⟨[(some "A/Fo", foType), (some "A/FoBa", foBaType), (some "A/KOneofCase", casesType)],
    by decide⟩

theorem gather_clashingAssembly :
    Schema.gather clashingAssembly {} = .ok (blockSchema [] []) := by
  cbv

theorem tellsOneof_K : TellsOneof (blockSchema [] []).enums (readable "KCase" "A/KOneofCase") "K"
    casesType :=
  ⟨⟨rfl, ⟨"K", rfl⟩, ⟨"A/KOneofCase", [], 0⟩, by cbv, rfl, by cbv, by cbv⟩, rfl⟩

theorem oneofOf_blockX : oneofOf (blockSchema [] []).enums (readable "X" "A/Fo") = .ok none := by
  cbv

theorem oneofOf_blockY : oneofOf (blockSchema [] []).enums (readable "Y" "A/FoBa") = .ok none := by
  cbv

/-- The fields of the message, besides its member. -/
def blockFields : List Field :=
  [⟨some "X", .int 2, ⟨"A/Fo", [], 0⟩, false, false⟩,
    ⟨some "Y", .int 3, ⟨"A/FoBa", [], 0⟩, false, false⟩]

def blockOneofs : List Oneof :=
  [⟨"K", some "A/KOneofCase", [⟨some "X", .int 1, ⟨"A/Fo", [], 0⟩, true, false⟩]⟩]

theorem recoverFields_blockMessage :
    recoverFields (blockSchema [] []).enums blockMessage = .ok (blockOneofs, blockFields) := by
  obtain ⟨oneof, honeof⟩ := oneofOf_eq_some_iff.mpr tellsOneof_K.toTellsCase
  obtain rfl := tellsOneof_K.name_unique (tellsOneof_of_oneofOf honeof)
  unfold recoverFields
  simp only [blockMessage, blockProperties, present, ok_bind, List.foldlM_cons, List.foldlM_nil]
  unfold addOneof
  rw [oneofOf_blockX, oneofOf_blockY, honeof]
  cbv

theorem populateFields_blockSchema :
    (blockSchema [] []).populateFields.outcome = .ok (blockSchema blockFields blockOneofs) := by
  have hentries : (blockSchema [] []).messages.entries =
      [((some "A" : Label), { descriptor := blockMessage, rootMessage := none })] := rfl
  unfold Schema.populateFields
  rw [Logged.outcome_foldlM, hentries, List.foldlM_cons, Logged.outcome_bind,
    MessageType.outcome_withFields, recoverFields_blockMessage]
  rfl

/-- The names in the block of a message: of its fields, of its properties and of the
    enums in it, with their constants and all their values. -/
structure BlockNames where
  fields : List Label
  properties : Option (List Label)
  enums : List Label
  values : List (List Label)
  constants : List (Text × Text)

def blockNames (s : Schema) (m : MessageType) : Except Failure BlockNames := do
  let es ← m.nestedEnums.mapM s.enum
  return ⟨m.allFields.map (·.name), m.descriptor.properties.map (·.map (·.name)),
    es.map (·.name), es.map fun e => e.values.map (·.1), es.flatMap constantsOf⟩

/-- The names in the blocks of root messages. -/
def rootBlocks (x : Except Failure (Recovery × List OutputFile)) :
    Option (List (Option BlockNames)) :=
  match x with
  | .ok (r, files) =>
    some ((files.flatMap (·.messages)).map fun m => (blockNames r.schema m).toOption)
  | .error _ => none

theorem rootBlocks_clashingAssembly : rootBlocks (rebuild clashingAssembly).outcome =
    some [some ⟨[some "X", some "Y", some "X"], some [some "X", some "Y", some "KCase"],
      [some "Fo", some "FoBa"], [[some "BaZ"], [some "Z"]], [("Fo", "BaZ"), ("FoBa", "Z")]⟩] := by
  rw [outcome_rebuild, outcome_analyze_steps, gather_clashingAssembly]
  simp only [ok_bind]
  rw [populateFields_blockSchema]
  cbv

/-- The message is in the files, with its two enums in it. -/
theorem exists_clashingBlock : ∃ r files, (rebuild clashingAssembly).outcome = .ok (r, files) ∧
    ∃ f ∈ files, ∃ m es, f.Emits r.schema m ∧ m.nestedEnums.mapM r.schema.enum = .ok es ∧
      (es.map (·.name)).Nodup ∧ (∀ e ∈ es, (e.values.map (·.1)).Nodup) ∧
      ¬(constantNames es).Nodup ∧ m.descriptor.PropertiesApart ∧ ¬(fieldNames m).Nodup := by
  have hnames := rootBlocks_clashingAssembly
  unfold rootBlocks at hnames
  split at hnames
  · rename_i r files hok
    obtain ⟨m, rest, hroots, hm, -⟩ := List.map_eq_cons_iff.mp (Option.some.inj hnames)
    obtain ⟨f, hf, hfm⟩ := List.mem_flatMap.mp (hroots ▸ List.mem_cons_self)
    obtain ⟨es, hes, hm⟩ := bind_eq_ok.mp (eq_ok_of_toOption hm)
    obtain ⟨hfields, hproperties, henums, hvalues, hconstants⟩ :=
      BlockNames.mk.inj (Except.ok.inj hm)
    obtain ⟨l, discovered, u, file, hprepared, hprune, hg, hplanned, -⟩ :=
      planned_of_rebuild (Assembly.named_of_load load_clashingBlock) hok
    have hs : r.schema.WellNested := hprune ▸ hprepared.resolved.toWellNested
    have hfound := ((hplanned.rooted hs hg hf).message m hfm).1
    refine ⟨r, files, hok, f, hf, m, es, ⟨hfound, m, hfm, .refl⟩, hes, ?_, ?_, ?_, ?_, ?_⟩
    · rw [henums]
      decide
    · have hall : ∀ values ∈ es.map (fun e => e.values.map (·.1)), values.Nodup := by
        rw [hvalues]
        decide
      exact List.forall_mem_map.mp hall
    · unfold constantNames
      rw [hconstants]
      decide
    · intro properties hsome
      rw [hsome, Option.map_some, Option.some.injEq] at hproperties
      have hapart : (((properties.map (·.name)).filterMap id).map Text.lowerSnake).Nodup := by
        rw [hproperties]
        decide
      rwa [List.filterMap_map] at hapart
    · have hclash : ¬(((m.allFields.map (·.name)).filterMap id).map Text.lowerSnake).Nodup := by
        rw [hfields]
        decide
      rwa [List.filterMap_map] at hclash
  · cases hnames

/-- The constant of the value `BaZ` of `Fo` has the name of that of the value `Z` of
    `FoBa`. -/
theorem constants_clash : Assembly.load clashingBlock = .ok clashingAssembly ∧
    ∃ r files, ∃ scope : Scope, ∃ es, (rebuild clashingAssembly).outcome = .ok (r, files) ∧
      scope.In r.schema files ∧ scope.enums r.schema files = .ok es ∧
      (es.map (·.name)).Nodup ∧ (∀ e ∈ es, (e.values.map (·.1)).Nodup) ∧
      ¬(constantNames es).Nodup := by
  obtain ⟨r, files, hok, f, hf, m, es, hm, hes, hnames, hvalues, hconstants, -, -⟩ :=
    exists_clashingBlock
  exact ⟨load_clashingBlock, r, files, .block m, es, hok, ⟨f, hf, hm⟩, hes, hnames, hvalues,
    hconstants⟩

/-- The name of one enum in the message goes on into the value of the other. -/
theorem rebuild_constantNames_distinct_iff_clashingBlock :
    Assembly.load clashingBlock = .ok clashingAssembly ∧
    ∃ r files, ∃ scope : Scope, ∃ es, (rebuild clashingAssembly).outcome = .ok (r, files) ∧
      scope.In r.schema files ∧ scope.enums r.schema files = .ok es ∧
      ¬∀ c ∈ es.flatMap constantsOf, ∀ d ∈ es.flatMap constantsOf,
        c ≠ d → ¬Agree c d ∧ ¬Continues c d := by
  obtain ⟨r, files, hok, f, hf, m, es, hm, hes, hnames, hvalues, hconstants, -, -⟩ :=
    exists_clashingBlock
  have hscope : Scope.In r.schema files (.block m) := ⟨f, hf, hm⟩
  obtain ⟨es', hes', -, hiff⟩ := rebuild_constantNames_distinct_iff load_clashingBlock hok hscope
  obtain rfl : es = es' := Except.ok.inj (hes.symm.trans hes')
  refine ⟨load_clashingBlock, r, files, .block m, es, hok, hscope, hes, ?_⟩
  rw [← hiff hnames hvalues]
  exact hconstants

/-- The properties of the message are rendered apart, its fields are not. -/
theorem fields_clash : Assembly.load clashingBlock = .ok clashingAssembly ∧
    ∃ r files, (rebuild clashingAssembly).outcome = .ok (r, files) ∧
      ∃ f ∈ files, ∃ m, f.Emits r.schema m ∧ m.descriptor.PropertiesApart ∧
        ¬(fieldNames m).Nodup := by
  obtain ⟨r, files, hok, f, hf, m, es, hm, -, -, -, -, hapart, hfields⟩ := exists_clashingBlock
  exact ⟨load_clashingBlock, r, files, hok, f, hf, m, hm, hapart, hfields⟩

/-- The message declares a field name with two numbers. -/
theorem rebuild_fieldNames_distinct_iff_clashingBlock :
    Assembly.load clashingBlock = .ok clashingAssembly ∧
    ∃ r files gathered, (rebuild clashingAssembly).outcome = .ok (r, files) ∧
      Schema.gather clashingAssembly {} = .ok gathered ∧
      ∃ f ∈ files, ∃ m, f.Emits r.schema m ∧ m.descriptor.PropertiesApart ∧
        m.descriptor.TwiceNumbered gathered.enums := by
  obtain ⟨r, files, hok, f, hf, m, es, hm, -, -, -, -, hapart, hfields⟩ := exists_clashingBlock
  obtain ⟨gathered, hgather, hall⟩ := rebuild_fieldNames_distinct_iff load_clashingBlock hok
  refine ⟨load_clashingBlock, r, files, gathered, hok, hgather, f, hf, m, hm, hapart, ?_⟩
  by_contra honce
  exact hfields (((hall f hf m hm).2 hapart).mpr honce)

end Recovery

end SchemaRecovery
