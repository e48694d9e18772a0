/-
  SchemaRecovery.Proofs.PresenceLabels

  Which fields are labelled `optional`. Whether a type is a repeated or a map field is
  asked of its schema name, which is put together from names in the document. A
  reference names a type in the characters of names only (`NameChars`), and its schema
  name has no others: the namespace, the root message and the types on the way are all
  spelled in the full name (`nameChars_typeName`). The words that are asked for have
  characters of their own, so the schema name of a message or an enum never begins with
  them, and the answer is about the type (`MapsTo.told`, `optional_iff`).
-/
import SchemaRecovery.OutputFile.Render
import SchemaRecovery.Proofs.Gathering
import SchemaRecovery.Proofs.MappingOutcomes

namespace SchemaRecovery

open TypeDescriptor

/-! ## Characters of names -/

namespace TypeReference

/-- All characters are such as may stand in names. -/
def NameChars (s : Text) : Prop := ∀ c ∈ s, c.holds isNameChar = true

instance : DecidablePred NameChars :=
  fun s => inferInstanceAs (Decidable (∀ c ∈ s, c.holds isNameChar = true))

theorem NameChars.mono {s t : Text} (h : NameChars t) (hst : s ⊆ t) : NameChars s :=
  fun c hc => h c (hst hc)

theorem NameChars.append {s t : Text} (hs : NameChars s) (ht : NameChars t) :
    NameChars (s ++ t) := by
  intro c hc
  rcases List.mem_append.mp hc with hc | hc
  · exact hs c hc
  · exact ht c hc

theorem NameChars.join {sep : Text} {parts : List Text} (hsep : NameChars sep)
    (hparts : ∀ part ∈ parts, NameChars part) : NameChars (Text.join sep parts) := by
  induction parts with
  | nil => exact fun c hc => absurd hc List.not_mem_nil
  | cons part rest ih =>
      obtain ⟨hpart, hrest⟩ := List.forall_mem_cons.mp hparts
      cases rest with
      | nil => simpa [Text.join] using hpart
      | cons next rest =>
          have hjoin : Text.join sep (part :: next :: rest) =
              part ++ (sep ++ Text.join sep (next :: rest)) := by
            simp [Text.join, List.intercalate]
          rw [hjoin]
          exact hpart.append (hsep.append (ih hrest))

theorem IsName.nameChars {s : Text} (h : IsName s) : NameChars s := by
  obtain ⟨c, rest, rfl, hc, hrest⟩ := h
  refine List.forall_mem_cons.mpr ⟨?_, hrest⟩
  cases c with
  | half n => cases hc
  | char c =>
      have hstart : isNameStart c = true := hc
      show isNameChar c = true
      unfold isNameStart at hstart
      unfold isNameChar Char.isAlphanum
      grind

theorem WellFormed.nameChars {t : TypeReference} (h : t.WellFormed) : NameChars t.name := by
  obtain ⟨isName, -⟩ := h
  exact isName.nameChars

/-- A text in the characters of names begins with no word that has another one. -/
theorem NameChars.not_hasStart {s word : Text} (h : NameChars s) {c : CodePoint}
    (hc : c ∈ word) (hother : c.holds isNameChar = false) : Text.hasStart s word = false := by
  rw [Bool.eq_false_iff]
  intro hstart
  have hmem := (List.isPrefixOf_iff_prefix.mp hstart).subset hc
  rw [h c hmem] at hother
  cases hother

theorem plain_of_isNameChar {c : Char} (h : isNameChar c = true) : c.toNat < 0x80 := by
  have hbelow : ∀ d : Char, d.toNat < 0x80 → c.val ≤ d.val → c.toNat < 0x80 :=
    fun d hd hle => Nat.lt_of_le_of_lt (UInt32.le_iff_toNat_le.mp hle) hd
  unfold isNameChar Char.isAlphanum Char.isAlpha Char.isUpper Char.isLower Char.isDigit at h
  simp only [Bool.or_eq_true, Bool.and_eq_true, decide_eq_true_eq] at h
  rcases h with (((((hupper | hlower) | hdigit) | rfl) | rfl) | rfl) | rfl
  · exact hbelow 'Z' (by decide) hupper.2
  · exact hbelow 'z' (by decide) hlower.2
  · exact hbelow '9' (by decide) hdigit.2
  all_goals decide

theorem isNameChar_toLower {c : Char} (h : isNameChar c = true) : isNameChar c.toLower = true := by
  -- The names of references are plain, so all their characters can be tried.
  have hplain : ∀ n ∈ List.range 0x80, isNameChar (Char.ofNat n) = true →
      isNameChar (Char.ofNat n).toLower = true := by decide +kernel
  have hc := hplain c.toNat (List.mem_range.mpr (plain_of_isNameChar h))
  rw [Char.ofNat_toNat] at hc
  exact hc h

theorem NameChars.lowerFrom {s : Text} (h : NameChars s) (before : Text) :
    NameChars (Text.LetterCase.lowerFrom before s) := by
  induction s generalizing before with
  | nil => exact h
  | cons c rest ih =>
      obtain ⟨hc, hrest⟩ := List.forall_mem_cons.mp h
      cases c with
      | half n => cases hc
      | char d =>
          -- Beyond the plain characters lowering would need the tables, and the text before.
          have hascii := plain_of_isNameChar hc
          have hsigma : CodePoint.char d ≠ .char 'Σ' := by
            intro heq
            rw [CodePoint.char.inj heq] at hascii
            revert hascii
            decide
          rw [Text.LetterCase.lowerFrom, if_neg hsigma, Text.LetterCase.lowerPoint, if_pos hascii]
          have hlower := isNameChar_toLower hc
          exact NameChars.append (List.forall_mem_singleton.mpr hlower) (ih hrest _)

theorem NameChars.markHumps {s : Text} (h : NameChars s) : NameChars (Text.markHumps s) := by
  fun_induction Text.markHumps s with
  | case1 => exact h
  | case2 => exact h
  | case3 c d rest hhump ih =>
      -- The underscore between the two may stand in names itself.
      obtain ⟨hc, hrest⟩ := List.forall_mem_cons.mp h
      exact List.forall_mem_cons.mpr ⟨hc, List.forall_mem_cons.mpr ⟨rfl, ih hrest⟩⟩
  | case4 c d rest hhump ih =>
      obtain ⟨hc, hrest⟩ := List.forall_mem_cons.mp h
      exact List.forall_mem_cons.mpr ⟨hc, ih hrest⟩

theorem NameChars.lowerSnake {s : Text} (h : NameChars s) : NameChars (Text.lowerSnake s) :=
  h.markHumps.lowerFrom []

end TypeReference

/-! ## What full names spell -/

theorem Text.subset_of_mem_pieces {sep : Char} {t piece : Text} (h : piece ∈ pieces sep t) :
    piece ⊆ t := by
  induction t generalizing piece with
  | nil =>
      rw [pieces, List.mem_singleton] at h
      rw [h]
      exact List.Subset.refl []
  | cons c rest ih =>
      rw [pieces] at h
      split at h
      · rcases List.mem_cons.mp h with rfl | h
        · exact List.nil_subset _
        · exact List.subset_cons_of_subset c (ih h)
      · split at h
        · rw [List.mem_singleton.mp h]
          exact List.cons_subset_cons c (List.nil_subset rest)
        · rename_i first others hpieces
          rw [hpieces] at ih
          rcases List.mem_cons.mp h with rfl | h
          · exact List.cons_subset_cons c (ih List.mem_cons_self)
          · exact List.subset_cons_of_subset c (ih (List.mem_cons_of_mem first h))

theorem Schema.subset_of_mem_pathBelow {root fullName part : Text}
    (h : part ∈ pathBelow root fullName) : part ⊆ fullName := by
  suffices hpiece : part ∈ Text.pieces '/' (fullName.drop (root.length + 1)) from
    List.Subset.trans (Text.subset_of_mem_pieces hpiece) (List.drop_subset _ _)
  -- What is left out on the way and what is kept at the end are pieces all the same.
  unfold pathBelow at h
  rcases List.mem_append.mp h with h | h
  · exact List.dropLast_subset _ (List.mem_filter.mp h).1
  · exact List.mem_of_getLast? (Option.mem_toList.mp h)

namespace Assembly

variable {a : Assembly} {t : TypeDescriptor}

/-- The name of a type is spelled in its full name. -/
theorem Named.name_subset (ha : a.Named) (ht : t ∈ a.allTypes) {name : Text}
    (hname : t.name = some name) : name ⊆ t.fullName.text := by
  rcases mem_or_nested_of_mem_families ht with htop | ⟨y, hy, hty⟩
  · have hfull : t.fullName = if t.ns.isVoid then t.name else
        some (t.ns.text ++ "." ++ t.name.text) := ha.top t htop
    rw [hfull, hname]
    split
    · exact List.Subset.refl name
    · exact List.subset_append_right _ _
  · rw [(ha.nested y hy t hty).2, hname]
    exact List.subset_append_right _ _

/-- The namespace of a type, if it has one, is spelled in its full name. -/
theorem Nests.ns_subset (ha : a.Named) {around : List TypeDescriptor} (h : a.Nests around t)
    (hns : t.ns.isVoid = false) : t.ns.text ⊆ t.fullName.text := by
  -- Nested types have the namespace of the one around, whose full name theirs goes on from.
  induction h with
  | @top t htop =>
      have hfull : t.fullName = if t.ns.isVoid then t.name else
          some (t.ns.text ++ "." ++ t.name.text) := ha.top t htop
      rw [hfull, hns, if_neg Bool.false_ne_true]
      exact List.Subset.trans (List.subset_append_left _ _) (List.subset_append_left _ _)
  | @inside around y t hy hty ih =>
      obtain ⟨hsame, hfull⟩ := ha.nested y hy.mem_allTypes t hty
      rw [hsame] at hns ⊢
      rw [hfull]
      have hstep := List.Subset.trans (ih hns) (List.subset_append_left _ ("/" : Text))
      exact List.Subset.trans hstep (List.subset_append_left _ _)

end Assembly

/-! ## Schema names -/

namespace Schema

open TypeReference

theorem nameChars_dotted {labels : List Label} {type : Text} (h : dotted labels = .ok type)
    (hlabels : ∀ part, some part ∈ labels → NameChars part) : NameChars type := by
  obtain ⟨parts, hparts, h⟩ := bind_eq_ok.mp h
  cases h
  refine NameChars.join (by decide) fun part hpart => ?_
  obtain ⟨label, hlabel, hpresent⟩ := exists_of_mem_mapM hparts hpart
  rw [present_eq_ok_iff.mp hpresent] at hlabel
  exact hlabels part hlabel

section Gathered

variable {a : Assembly} {l : List (TypeDescriptor × Label)} {s : Schema}

/-- What is put together from parts of a full name in the characters of names, and the
    namespace of the type before them, has no other characters. -/
theorem nameChars_qualified (ha : a.Named) {around : List TypeDescriptor} {t : TypeDescriptor}
    (hnests : a.Nests around t) {n : Text} (hfull : t.fullName = some n) (hn : NameChars n)
    {segments : List Label} (hsegments : ∀ part, some part ∈ segments → part ⊆ n) {type : Text}
    (htype : dotted
      (if t.ns.isVoid then segments else some (Text.lowerSnake t.ns.text) :: segments) =
        .ok type) : NameChars type := by
  refine nameChars_dotted htype fun part hpart => ?_
  split at hpart
  · exact hn.mono (hsegments part hpart)
  · rename_i hns
    rcases List.mem_cons.mp hpart with heq | hpart
    · -- The namespace is spelled in the full name as it is, and lowered here.
      have hspelled := hnests.ns_subset ha (Bool.eq_false_iff.mpr hns)
      rw [hfull] at hspelled
      rw [Option.some.inj heq]
      exact (hn.mono hspelled).lowerSnake
    · exact hn.mono (hsegments part hpart)

/-- The root message around a type, and the names of the types on the way, are spelled
    in the full name. -/
theorem Discovered.subset_of_mem_segments (ha : a.Named) (hl : Listing none a.types l)
    (h : s.Discovered l) {t : TypeDescriptor} {n r : Text} (ht : (t, some r) ∈ l)
    (hfull : t.fullName = some n) {root : MessageType} (hroot : s.message (some r) = .ok root)
    {part : Text}
    (hpart : some part ∈ root.name :: (pathBelow root.fullName.text n).map some) : part ⊆ n := by
  rcases List.mem_cons.mp hpart with hname | hpart
  · -- The name of the root message is in its full name, which the other one goes on from.
    have hdiscovered := h.message (message_eq_ok_iff.mp hroot)
    have hkeyed : root.descriptor.fullName = some r := hdiscovered.keyed
    have hinner := Assembly.Named.name_subset ha (hl.mem_allTypes hdiscovered.listed) hname.symm
    rw [hkeyed] at hinner
    obtain ⟨-, -, -, -, rest, hbelow⟩ := hl.outermost ha ht
    rw [hfull, Option.some.injEq] at hbelow
    rw [hbelow, List.append_assoc]
    exact List.Subset.trans hinner (List.subset_append_left _ _)
  · obtain ⟨piece, hpiece, heq⟩ := List.mem_map.mp hpart
    obtain rfl := Option.some.inj heq
    exact subset_of_mem_pathBelow hpiece

/-- The schema name of a type with a full name in the characters of names has no other
    characters either. -/
theorem Discovered.nameChars_typeName (ha : a.Named) (hl : Listing none a.types l)
    (h : s.Discovered l) {n type : Text} (hn : NameChars n)
    (htype : s.typeName (some n) = .ok type) : NameChars type := by
  unfold typeName at htype
  split at htype
  · cases htype
  · rename_i name ns rootMessage hentity
    obtain ⟨t, ht, hfull, rfl, rfl⟩ := h.listed_entity hentity
    have hmem := hl.mem_allTypes ht
    obtain ⟨around, hnests⟩ := Assembly.mem_allTypes_iff_nests.mp hmem
    dsimp only at htype
    cases rootMessage with
    | none =>
        refine nameChars_qualified ha hnests hfull hn (fun part hpart => ?_) htype
        have hname := Assembly.Named.name_subset ha hmem (List.mem_singleton.mp hpart).symm
        rwa [hfull] at hname
    | some r =>
        obtain ⟨root, hroot, htype⟩ := bind_eq_ok.mp htype
        exact nameChars_qualified ha hnests hfull hn
          (fun part => h.subset_of_mem_segments ha hl ht hfull hroot) htype

end Gathered

end Schema

/-! ## Labels -/

namespace TypeReference

/-- The reference is to a repeated field of some type. -/
def IsRepeated (t : TypeReference) : Prop := t.isGeneric = true ∧ t.name = repeatedType

/-- The reference is to a map field of some types. -/
def IsMapField (t : TypeReference) : Prop := t.isGeneric = true ∧ t.name = mapFieldType

/-- The words that are asked for tell what the reference is to. -/
structure Told (t : TypeReference) (type : Text) : Prop where
  repeated : Text.hasStart type "repeated " = true ↔ t.IsRepeated
  map : Text.hasStart type "map<" = true ↔ t.IsMapField

/-- A schema type in the characters of names begins with neither word. -/
theorem NameChars.told {t : TypeReference} {type : Text} (h : NameChars type)
    (hrepeated : ¬t.IsRepeated) (hmap : ¬t.IsMapField) : t.Told type where
  repeated := by
    have hblank : CodePoint.char ' ' ∈ ("repeated " : Text) := by decide
    rw [h.not_hasStart hblank rfl]
    exact iff_of_false Bool.false_ne_true hrepeated
  map := by
    have hless : CodePoint.char '<' ∈ ("map<" : Text) := by decide
    rw [h.not_hasStart hless rfl]
    exact iff_of_false Bool.false_ne_true hmap

theorem NameChars.told_plain {name type : Text} {rank : Nat} (h : NameChars type) :
    Told ⟨name, [], rank⟩ type :=
  h.told (fun hrepeated => Bool.false_ne_true hrepeated.1) fun hmap => Bool.false_ne_true hmap.1

end TypeReference

namespace Schema

open TypeReference

theorem nameChars_scalarTypes : ∀ x ∈ scalarTypes, NameChars x.2 := by decide +kernel

theorem nameChars_wellKnownTypes : ∀ x ∈ wellKnownTypes, NameChars x.2.1 := by decide +kernel

theorem nameChars_wrapperTypes : ∀ x ∈ wrapperTypes, NameChars x.2 := by decide +kernel

/-- What a schema type begins with tells what it is of, if the schema name of a message
    or an enum is in the characters of names. -/
theorem MapsTo.told {s : Schema} {t : TypeReference} {m : TypeMapping} (h : MapsTo s t m)
    (hname : ∀ type, s.typeName (some t.name) = .ok type → NameChars type) : t.Told m.name := by
  cases h with
  | scalar hscalar => exact (nameChars_scalarTypes _ (mem_of_lookup hscalar)).told_plain
  | wellKnown _ hknown => exact (nameChars_wellKnownTypes _ (mem_of_lookup hknown)).told_plain
  | internal _ _ _ htype => exact (hname _ htype).told_plain
  | nullable _ hwrapper =>
      refine (nameChars_wrapperTypes _ (mem_of_lookup hwrapper)).told ?_ ?_
      · exact fun hrepeated => repeatedType_ne_nullableType hrepeated.2.symm
      · exact fun hmap => mapFieldType_ne_nullableType hmap.2.symm
  | @repeated _ m _ =>
      constructor
      · exact iff_of_true (List.isPrefixOf_iff_prefix.mpr (List.prefix_append _ _)) ⟨rfl, rfl⟩
      · have hother : Text.hasStart ("repeated " ++ m.name) "map<" = false := rfl
        rw [hother]
        exact iff_of_false Bool.false_ne_true fun hmap => mapFieldType_ne_repeatedType hmap.2.symm
  | @map _ _ k v _ _ =>
      constructor
      · have hother : Text.hasStart ("map<" ++ k.name ++ ", " ++ v.name ++ ">") "repeated " =
            false := rfl
        rw [hother]
        exact iff_of_false Bool.false_ne_true fun hrepeated =>
          mapFieldType_ne_repeatedType hrepeated.2
      · refine iff_of_true (List.isPrefixOf_iff_prefix.mpr ?_) ⟨rfl, rfl⟩
        simp only [List.append_assoc]
        exact List.prefix_append _ _

end Schema

namespace OutputFile

open TypeReference

/-- The field has explicit presence, is in no oneof, and is neither a repeated nor a map
    field. -/
structure IsOptional (f : Field) : Prop where
  presence : f.hasPresence = true
  plain : f.isOneofMember = false
  single : ¬f.valueType.IsRepeated
  noMap : ¬f.valueType.IsMapField

/-- The declaration of a field of the schema type, without a label. -/
def unlabelled (f : Field) (type name : Text) : Text :=
  type ++ " " ++ Text.lowerSnake name ++ " = " ++ f.number.text ++ ";"

theorem labelOf_cases {f : Field} {type : Text} (h : f.valueType.Told type) :
    (IsOptional f ∧ labelOf f type = "optional ") ∨ (¬IsOptional f ∧ labelOf f type = []) := by
  by_cases hoptional : IsOptional f
  · refine Or.inl ⟨hoptional, ?_⟩
    have hrepeated := Bool.eq_false_iff.mpr (mt h.repeated.mp hoptional.single)
    have hmap := Bool.eq_false_iff.mpr (mt h.map.mp hoptional.noMap)
    simp [labelOf, hoptional.presence, hoptional.plain, hrepeated, hmap]
  · refine Or.inr ⟨hoptional, if_neg fun hlabel => hoptional ?_⟩
    simp only [Bool.and_eq_true, Bool.not_eq_true'] at hlabel
    obtain ⟨⟨⟨hpresence, hplain⟩, hrepeated⟩, hmap⟩ := hlabel
    exact ⟨hpresence, hplain, mt h.repeated.mpr (Bool.eq_false_iff.mp hrepeated),
      mt h.map.mpr (Bool.eq_false_iff.mp hmap)⟩

/-- The line of a field that has a schema type and a name. -/
theorem outcome_fieldLine_mapped {s : Schema} {f : Field} {x : TypeMapping} {name : Text}
    (hmapped : s.mapType f.valueType = .ok (.mapped x)) (hname : f.name = some name)
    (m : MessageType) (oneof : Option Oneof) :
    (fieldLine s m oneof f).outcome = .ok (labelOf f x.name ++ unlabelled f x.name name) := by
  unfold fieldLine unlabelled
  rw [hname, hmapped]
  simp only [List.append_assoc]
  rfl

/-- Where a reference that is read has a schema type, the words that are asked for tell
    whether it is to a repeated or a map field. So the line of a field of that type is
    labelled exactly if the field is optional. -/
theorem optional_iff {d : AssemblyDeclaration} {a : Assembly} {s : Schema} {text : Text}
    {t : TypeReference} {x : TypeMapping} (hassembly : Assembly.ofDeclaration d = .ok a)
    (hgather : Schema.gather a {} = .ok s) (hparse : TypeReference.parse? text = some t)
    (hmapped : s.mapType t = .ok (.mapped x)) :
    (Text.hasStart x.name "repeated " = true ↔ t.IsRepeated) ∧
    (Text.hasStart x.name "map<" = true ↔ t.IsMapField) ∧
    ∀ m oneof f name, f.valueType = t → f.name = some name →
      ((fieldLine s m oneof f).outcome = .ok ("optional " ++ unlabelled f x.name name) ↔
        IsOptional f) ∧
      ((fieldLine s m oneof f).outcome = .ok (unlabelled f x.name name) ↔ ¬IsOptional f) := by
  have ha := Assembly.named_of_ofDeclaration hassembly
  obtain ⟨-, l, hl, hdiscovered⟩ := discovered_of_gather ha hgather
  have hname := (parse?_eq_some_iff.mp hparse).1.nameChars
  have htold := (Schema.mapType_eq_mapped_iff.mp hmapped).told fun type htype =>
    hdiscovered.nameChars_typeName ha hl hname htype
  refine ⟨htold.repeated, htold.map, ?_⟩
  rintro m oneof f name rfl hname
  rw [outcome_fieldLine_mapped hmapped hname]
  -- The line with the label is another one than without it, so either tells the field.
  have hne : ("optional " : Text) ++ unlabelled f x.name name ≠ unlabelled f x.name name :=
    fun h => absurd (List.append_left_eq_self.mp h) (by decide)
  rcases labelOf_cases htold with ⟨hoptional, hlabel⟩ | ⟨hoptional, hlabel⟩
  · rw [hlabel]
    refine ⟨iff_of_true rfl hoptional, iff_of_false ?_ (not_not.mpr hoptional)⟩
    exact fun h => hne (Except.ok.inj h)
  · rw [hlabel, List.nil_append]
    exact ⟨iff_of_false (fun h => hne (Except.ok.inj h).symm) hoptional, iff_of_true rfl hoptional⟩

/-- The enum of the palette. -/
def colorType : TypeReference := ⟨"Acme.Paint/Color", [], 0⟩

/-- A repeated field of it. -/
def colorsType : TypeReference := ⟨repeatedType, [colorType], 0⟩

/-- A field that has presence, whatever its type. -/
def shadeField (type : TypeReference) : Field := ⟨some "TopShade", .int 4, type, false, true⟩

/-- The name of the schema type of a type, if it has one. -/
def schemaName (s : Schema) (t : TypeReference) : Option Text :=
  match s.mapType t with
  | .ok (.mapped m) => some m.name
  | _ => none

theorem schemaName_palette : ((Schema.gatheredIn Schema.paletteDeclaration).map fun x =>
    schemaName x.2 colorType) = some (some ("acme.Paint.Color" : Text)) := by
  cbv

/-- The field of the enum is labelled, the repeated one is not. -/
theorem optional_iff_palette : ∃ a s, Assembly.ofDeclaration Schema.paletteDeclaration = .ok a ∧
    Schema.gather a {} = .ok s ∧ TypeReference.parse? "Acme.Paint/Color" = some colorType ∧
    TypeReference.parse? "Google.Protobuf.Collections.RepeatedField`1<Acme.Paint/Color>" =
      some colorsType ∧
    ∃ x, s.mapType colorType = .ok (.mapped x) ∧ ∃ y, s.mapType colorsType = .ok (.mapped y) ∧
      ∀ m, (fieldLine s m none (shadeField colorType)).outcome =
          .ok ("optional acme.Paint.Color top_shade = 4;" : Text) ∧
        (fieldLine s m none (shadeField colorsType)).outcome =
          .ok ("repeated acme.Paint.Color top_shade = 4;" : Text) := by
  obtain ⟨⟨a, s⟩, has, hschemaName⟩ := Option.map_eq_some_iff.mp schemaName_palette
  obtain ⟨hassembly, -, hgather⟩ := Schema.exists_of_gatheredIn has
  unfold schemaName at hschemaName
  split at hschemaName
  · rename_i x hx
    have hxname := Option.some.inj hschemaName
    have hy := Schema.mapType_eq_mapped_iff.mpr (.repeated (Schema.mapType_eq_mapped_iff.mp hx))
    have hcolor : TypeReference.parse? "Acme.Paint/Color" = some colorType := by cbv
    have hcolors : TypeReference.parse?
        "Google.Protobuf.Collections.RepeatedField`1<Acme.Paint/Color>" = some colorsType := by
      cbv
    refine ⟨a, s, hassembly, hgather, hcolor, hcolors, x, hx, _, hy, fun m => ⟨?_, ?_⟩⟩
    · have hline := ((optional_iff hassembly hgather hcolor hx).2.2 m none (shadeField colorType)
        "TopShade" rfl rfl).1.mpr
          ⟨rfl, rfl, fun h => Bool.false_ne_true h.1, fun h => Bool.false_ne_true h.1⟩
      rw [hline, hxname]
      cbv
    · have hline := ((optional_iff hassembly hgather hcolors hy).2.2 m none (shadeField colorsType)
        "TopShade" rfl rfl).2.mpr fun h => h.single ⟨rfl, rfl⟩
      rw [hline]
      dsimp only
      rw [hxname]
      cbv
  · cases hschemaName

end OutputFile

end SchemaRecovery
