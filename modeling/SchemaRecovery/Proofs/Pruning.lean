/-
  SchemaRecovery.Proofs.Pruning

  What the dropping of enums leaves. Messages record what the schema types of
  their fields need, the enums that are kept are those that some field mentions,
  and nothing but the links to the others is lost (`analysis_exact`).

  A field has the same schema type before and after, unless the type is mapped
  through a nullable type of an enum that is dropped (`analyze_mapType_iff`). Such
  an enum has the name of a scalar, so that the nullable type is taken for that
  of the scalar and the enum is looked at but not mentioned
  (`wrapping_maps_apart`).
-/
import SchemaRecovery.Proofs.Decoding
import SchemaRecovery.Proofs.Needs

namespace SchemaRecovery

/-! ## What is kept -/

namespace Schema

variable {u : Schema}

@[simp] theorem contains_messages_prune (u : Schema) (n : Label) :
    u.prune.1.messages.contains n = u.messages.contains n := by
  rw [Bool.eq_iff_iff, Registry.contains_iff, Registry.contains_iff, find?_messages_prune]
  simp only [Option.map_eq_some_iff]
  constructor
  · rintro ⟨-, m, hm, -⟩
    exact ⟨m, hm⟩
  · rintro ⟨m, hm⟩
    exact ⟨_, m, hm, rfl⟩

/-- The schema `s` is `u` without the enums that no field of a message mentions,
    `count` of them. -/
structure Pruned (u s : Schema) (count : Nat) : Prop where
  enums : ∀ n e, s.enums.find? n = some e ↔ u.enums.find? n = some e ∧
    ∃ x, n = some x ∧ ∃ p m, u.messages.find? p = some m ∧ u.Needs m (.type x)
  messages : ∀ n, s.messages.find? n = (u.messages.find? n).map fun m =>
    { m with nestedEnums := m.nestedEnums.filter fun x =>
        !(u.enums.contains x && !s.enums.contains x) }
  count : count = (u.enums.keys.filter fun x => !s.enums.contains x).length

/-- An enum is needed if some message has recorded it. -/
theorem mem_referencedEnums_iff
    (hrecorded : ∀ {n m}, u.messages.find? n = some m → u.Recorded m) {x : Text}
    (hx : u.enums.contains (some x) = true) :
    x ∈ u.referencedEnums ↔ ∃ p m, u.messages.find? p = some m ∧ u.Needs m (.type x) := by
  unfold referencedEnums
  rw [List.mem_flatMap]
  constructor
  · rintro ⟨m, hm, hmem⟩
    obtain ⟨p, hp⟩ := Registry.mem_values.mp hm
    exact ⟨p, m, hp, (((hrecorded hp).enums x).mp hmem).1⟩
  · rintro ⟨p, m, hp, hneed⟩
    exact ⟨m, Registry.mem_values.mpr ⟨p, hp⟩, ((hrecorded hp).enums x).mpr ⟨hneed, hx⟩⟩

/-- As many enums are dropped as there are fewer after. -/
theorem count_prune (u : Schema) :
    u.prune.2 = (u.enums.keys.filter fun x => !u.prune.1.enums.contains x).length := by
  have hkeys : u.prune.1.enums.keys = u.enums.keys.filter u.prune.1.enums.contains := by
    have hfilter : u.prune.1.enums.keys = u.enums.keys.filter _ := Registry.keys_filterKeys _ _
    rw [hfilter]
    refine List.filter_congr fun x hx => ?_
    rw [Bool.eq_iff_iff, Registry.contains_iff, ← Registry.mem_keys, hfilter, List.mem_filter]
    simp only [hx, true_and]
  have hsize : u.prune.2 = u.enums.size - u.prune.1.enums.size := rfl
  have hsplit := List.length_eq_length_filter_add (l := u.enums.keys) u.prune.1.enums.contains
  rw [hsize, ← Registry.length_keys, ← Registry.length_keys, hkeys, hsplit]
  omega

theorem WellNested.pruned (hu : u.WellNested)
    (hrecorded : ∀ {n m}, u.messages.find? n = some m → u.Recorded m) :
    Pruned u u.prune.1 u.prune.2 where
  enums := by
    intro n e
    rw [find?_enums_prune]
    refine and_congr_right fun he => exists_congr fun x => and_congr_right fun hn => ?_
    exact mem_referencedEnums_iff hrecorded (Registry.contains_iff.mpr ⟨e, hn ▸ he⟩)
  messages := by
    intro n
    rw [find?_messages_prune]
    refine Option.map_congr fun m hm => ?_
    -- All enums that are linked to a message are there before.
    have hfilter : m.nestedEnums.filter u.prune.1.enums.contains =
        m.nestedEnums.filter fun x => !(u.enums.contains x && !u.prune.1.enums.contains x) := by
      refine List.filter_congr fun x hx => ?_
      obtain ⟨e, he, -⟩ := hu.nested_enum hm hx
      rw [Registry.contains_iff.mpr ⟨e, he⟩]
      simp
    rw [hfilter]
  count := count_prune u

/-- In `u`, which comes from the linked types of an assembly, all messages that
    were gathered have recorded what the schema types of their fields need, and
    nothing else has changed. -/
structure RecordsNeeds (gathered linked u : Schema) : Prop where
  registered : ∀ n, u.messages.contains n = gathered.messages.contains n
  enums : u.enums = gathered.enums
  same : SameTypes linked u
  recorded : ∀ n m, u.messages.find? n = some m → u.Recorded m

/-- The analysis of the types of an assembly records what every message needs,
    and drops the enums that no message needs. -/
theorem analysis_exact {d : AssemblyDeclaration} {a : Assembly}
    {gathered filled linked u : Schema} (hassembly : Assembly.ofDeclaration d = .ok a)
    (hgather : gather a {} = .ok gathered)
    (hfields : gathered.populateFields.outcome = .ok filled)
    (hconnect : filled.connect = .ok linked)
    (hneeds : linked.populateDependencies.outcome = .ok u) :
    RecordsNeeds gathered linked u ∧ Pruned u u.prune.1 u.prune.2 := by
  have ha := Assembly.named_of_ofDeclaration hassembly
  obtain ⟨rfl, l, h⟩ := prepared_of_steps ha hgather hfields hconnect hneeds
  refine ⟨⟨fun n => ?_, ?_, h.same, fun _ _ => h.recorded⟩, h.wellNested_needs.pruned h.recorded⟩
  · rw [Bool.eq_iff_iff, Registry.contains_iff, Registry.contains_iff, h.message_iff,
      ← Registry.mem_keys, ← Registry.mem_keys, keys_populateFields hfields]
  · rw [h.same.enums]
    show filled.enums = gathered.enums
    exact enums_populateFields hfields

end Schema

namespace Recovery

/-- The types of a document: a message with a field of a nullable type, and an enum
    with the name of a scalar that is the argument there. -/
def wrappingDeclaration : AssemblyDeclaration where
  name := some ""
  references := some [⟨some "Google.Protobuf", none⟩]
  types := some
    [⟨some "A", some "", some .plainClass, some ["Google.Protobuf.IMessage"],
        some [⟨some "XFieldNumber", some "", some (.int 1), some false⟩],
        some [⟨some "X", some "System.Nullable`1<int32>", some true, some false, some false⟩],
        some []⟩,
      ⟨some "int32", some "", some .enumeration, some [], some [], some [], some []⟩]

/-- The assembly with these types. -/
def wrappingTypes : Assembly :=
  .ofTypes (some "") (some [⟨some "Google.Protobuf", none⟩])
    [⟨some "A", some "", some .plainClass, some ["Google.Protobuf.IMessage"],
        some [⟨some "XFieldNumber", some "", some (.int 1), some false⟩],
        some [⟨some "X", some "System.Nullable`1<int32>", some true, some false, some false⟩],
        some "A", none, []⟩,
      ⟨some "int32", some "", some .enumeration, some [], some [], some [], some "int32", none,
        []⟩]

theorem ofDeclaration_wrapping :
    Assembly.ofDeclaration wrappingDeclaration = .ok wrappingTypes := by
  cbv

/-- The schema types of the first field of a message, when needs are recorded and
    when files are rendered. -/
def firstFieldTypes (a : Assembly) (n : Label) : Option (Mapping × Mapping) := do
  let filled ← (discover a).outcome.toOption
  let linked ← filled.connect.toOption
  let r ← (analyze a).outcome.toOption
  let m ← r.schema.messages.find? n
  let f ← m.allFields.head?
  let before ← (linked.mapType f.valueType).toOption
  let after ← (r.schema.mapType f.valueType).toOption
  return (before, after)

theorem exists_of_firstFieldTypes {a : Assembly} {n : Label} {before after : Mapping}
    (h : firstFieldTypes a n = some (before, after)) :
    ∃ filled linked r m f, (discover a).outcome = .ok filled ∧ filled.connect = .ok linked ∧
      (analyze a).outcome = .ok r ∧ r.schema.messages.find? n = some m ∧ f ∈ m.allFields ∧
      linked.mapType f.valueType = .ok before ∧ r.schema.mapType f.valueType = .ok after := by
  unfold firstFieldTypes at h
  obtain ⟨filled, hfilled, h⟩ := Option.bind_eq_some_iff.mp h
  obtain ⟨linked, hlinked, h⟩ := Option.bind_eq_some_iff.mp h
  obtain ⟨r, hr, h⟩ := Option.bind_eq_some_iff.mp h
  obtain ⟨m, hm, h⟩ := Option.bind_eq_some_iff.mp h
  obtain ⟨f, hf, h⟩ := Option.bind_eq_some_iff.mp h
  obtain ⟨x, hx, h⟩ := Option.bind_eq_some_iff.mp h
  obtain ⟨y, hy, h⟩ := Option.bind_eq_some_iff.mp h
  obtain ⟨rfl, rfl⟩ := Prod.mk.inj (Option.some.inj h)
  exact ⟨filled, linked, r, m, f, eq_ok_of_toOption hfilled, eq_ok_of_toOption hlinked,
    eq_ok_of_toOption hr, hm, List.mem_of_mem_head? hf, eq_ok_of_toOption hx,
    eq_ok_of_toOption hy⟩

theorem firstFieldTypes_wrapping : firstFieldTypes wrappingTypes (some "A") =
    some (.mapped { name := "google.protobuf.Int32Value"
                    externalImports := ["google/protobuf/wrappers.proto"] },
      .unmapped "System.Nullable`1<int32>") := by
  unfold firstFieldTypes
  rw [outcome_discover, outcome_analyze_steps]
  cbv

/-- The types of the document are analysed. -/
theorem analysis_exact_wrapping :
    Assembly.ofDeclaration wrappingDeclaration = .ok wrappingTypes ∧
      ∃ gathered linked u, Schema.gather wrappingTypes {} = .ok gathered ∧
        linked.populateDependencies.outcome = .ok u ∧
        Schema.RecordsNeeds gathered linked u ∧ Schema.Pruned u u.prune.1 u.prune.2 := by
  obtain ⟨-, -, r, -, -, -, -, hok, -⟩ := exists_of_firstFieldTypes firstFieldTypes_wrapping
  obtain ⟨filled, -, hdiscover, hrelate, -⟩ := analyze_eq_ok hok
  obtain ⟨gathered, hgather, hfields⟩ := discover_eq_ok hdiscover
  obtain ⟨linked, u, hconnect, hneeds, -⟩ := relate_eq_ok hrelate
  exact ⟨ofDeclaration_wrapping, gathered, linked, u, hgather, hneeds,
    Schema.analysis_exact ofDeclaration_wrapping hgather hfields hconnect hneeds⟩

end Recovery

/-! ## Schema types before and after -/

namespace TypeReference

open Relation

/-- The nullable type of a plain type. -/
def nullableOf (name : Text) : TypeReference := ⟨nullableType, [⟨name, [], 0⟩], 0⟩

/-- The second type stands in the first, at any depth. -/
def Contains : TypeReference → TypeReference → Prop := ReflTransGen fun t a => a ∈ t.arguments

/-- A nullable type of a name that satisfies `p` stands in the type. -/
def WrapsSome (p : Text → Prop) (t : TypeReference) : Prop :=
  ∃ name, p name ∧ t.Contains (nullableOf name)

variable {p : Text → Prop} {t : TypeReference}

theorem wrapsSome_iff : t.WrapsSome p ↔
    (∃ name, p name ∧ t = nullableOf name) ∨ ∃ a ∈ t.arguments, a.WrapsSome p := by
  unfold WrapsSome Contains
  constructor
  · rintro ⟨name, hname, h⟩
    rcases ReflTransGen.cases_head_iff.mp h with heq | ⟨a, ha, h⟩
    · exact Or.inl ⟨name, hname, heq⟩
    · exact Or.inr ⟨a, ha, name, hname, h⟩
  · rintro (⟨name, hname, rfl⟩ | ⟨a, ha, name, hname, h⟩)
    · exact ⟨name, hname, .refl⟩
    · exact ⟨name, hname, .head ha h⟩

theorem not_wrapsSome_plain (name : Text) : ¬ WrapsSome p ⟨name, [], 0⟩ := by
  rw [wrapsSome_iff]
  rintro (⟨x, -, h⟩ | ⟨a, ha, -⟩)
  · exact List.cons_ne_nil _ _ (congrArg arguments h).symm
  · cases ha

theorem wrapsSome_nullableOf {name : Text} : (nullableOf name).WrapsSome p ↔ p name := by
  rw [wrapsSome_iff]
  constructor
  · rintro (⟨x, hx, h⟩ | ⟨a, ha, h⟩)
    · have harguments := congrArg arguments h
      simp only [nullableOf, List.cons.injEq, TypeReference.mk.injEq] at harguments
      rw [harguments.1.1]
      exact hx
    · rw [List.mem_singleton.mp ha] at h
      exact absurd h (not_wrapsSome_plain name)
  · intro h
    exact Or.inl ⟨name, h, rfl⟩

/-- A type that is not nullable itself has a nullable type in it if one of its
    arguments has. -/
theorem wrapsSome_of_ne (hne : t.name ≠ nullableType) :
    t.WrapsSome p ↔ ∃ a ∈ t.arguments, a.WrapsSome p := by
  rw [wrapsSome_iff]
  refine or_iff_right ?_
  rintro ⟨x, -, h⟩
  exact hne (congrArg name h)

end TypeReference

namespace Schema

open TypeReference

variable {u s : Schema}

/-- The name is that of an enum of `u` which `s` lacks, and of nothing else that
    has a schema type. -/
structure Dropped (u s : Schema) (name : Text) : Prop where
  no_scalar : scalarTypes.lookup name = none
  no_wellKnown : wellKnownTypes.lookup name = none
  no_message : u.messages.contains (some name) = false
  enum : u.enums.contains (some name) = true
  gone : s.enums.contains (some name) = false

/-- Only scalars and types of the schema, by their names, can be taken for
    scalars that have wrappers. -/
theorem MapsTo.plain_of_wrapper {a : TypeReference} {m : TypeMapping} {wrapper : Text}
    (h : MapsTo s a m) (hwrapper : wrapperTypes.lookup m.name = some wrapper) :
    ∃ name, a = ⟨name, [], 0⟩ ∧ (scalarTypes.lookup name = some m.name ∨
      scalarTypes.lookup name = none ∧ wellKnownTypes.lookup name = none ∧
        (s.messages.contains (some name) || s.enums.contains (some name)) = true ∧
        s.typeName (some name) = .ok m.name) := by
  have hmem := mem_of_lookup hwrapper
  cases h with
  | scalar hscalar => exact ⟨_, rfl, Or.inl hscalar⟩
  | internal hscalar hknown hcontains htype =>
      exact ⟨_, rfl, Or.inr ⟨hscalar, hknown, hcontains, htype⟩⟩
  | wellKnown _ hknown =>
      have hno : ∀ p ∈ wrapperTypes, ∀ q ∈ wellKnownTypes, q.2.1 ≠ p.1 := by decide
      exact absurd rfl (hno _ hmem _ (mem_of_lookup hknown))
  | nullable _ hinner =>
      have hno : ∀ p ∈ wrapperTypes, ∀ q ∈ wrapperTypes, q.2 ≠ p.1 := by decide
      exact absurd rfl (hno _ hmem _ (mem_of_lookup hinner))
  | repeated _ =>
      have hno : ∀ p ∈ wrapperTypes, p.1.head? ≠ ("repeated " : Text).head? := by decide
      exact absurd rfl (hno _ hmem)
  | map _ _ =>
      have hno : ∀ p ∈ wrapperTypes, p.1.head? ≠ ("map<" : Text).head? := by decide
      exact absurd rfl (hno _ hmem)

/-- A type that is kept has the name that it had. -/
theorem typeName_prune {n : Label} {type : Text}
    (hkept : (u.prune.1.messages.contains n || u.prune.1.enums.contains n) = true)
    (h : u.typeName n = .ok type) : u.prune.1.typeName n = .ok type := by
  obtain ⟨⟨name, ns, rootMessage⟩, hentity⟩ := contains_iff_entity.mp hkept
  unfold typeName at h ⊢
  rw [(within_prune u).entity hentity] at h
  rw [hentity]
  dsimp only at h ⊢
  cases rootMessage with
  | none => exact h
  | some r =>
      -- Messages are never dropped, the root message is there with its name.
      obtain ⟨root, hroot, h⟩ := bind_eq_ok.mp h
      have hroot' : u.prune.1.messages.find? (some r) = some { root with
          nestedEnums := root.nestedEnums.filter u.prune.1.enums.contains } := by
        rw [find?_messages_prune, message_eq_ok_iff.mp hroot, Option.map_some]
      exact bind_eq_ok.mpr ⟨_, message_eq_ok_iff.mpr hroot', h⟩

theorem mapped_repeated_iff {a : TypeReference} :
    (∃ y, MapsTo s ⟨repeatedType, [a], 0⟩ y) ↔ ∃ m, MapsTo s a m := by
  constructor
  · rintro ⟨y, hy⟩
    rw [← mapType_eq_mapped_iff, mapType, if_neg (by simp), if_neg (by decide), if_pos rfl] at hy
    obtain ⟨inner, hinner, hy⟩ := bind_eq_ok.mp hy
    cases inner with
    | mapped m => exact ⟨m, mapType_eq_mapped_iff.mp hinner⟩
    | unmapped n => cases hy
  · rintro ⟨m, hm⟩
    exact ⟨_, .repeated hm⟩

theorem mapped_map_iff {a b : TypeReference} :
    (∃ y, MapsTo s ⟨mapFieldType, [a, b], 0⟩ y) ↔ (∃ k, MapsTo s a k) ∧ ∃ v, MapsTo s b v := by
  constructor
  · rintro ⟨y, hy⟩
    rw [← mapType_eq_mapped_iff, mapType, if_neg (by simp), if_pos rfl] at hy
    obtain ⟨key, hkey, hy⟩ := bind_eq_ok.mp hy
    obtain ⟨value, hvalue, hy⟩ := bind_eq_ok.mp hy
    cases key with
    | unmapped n => cases hy
    | mapped k =>
        cases value with
        | unmapped n => cases hy
        | mapped v =>
            exact ⟨⟨k, mapType_eq_mapped_iff.mp hkey⟩, v, mapType_eq_mapped_iff.mp hvalue⟩
  · rintro ⟨⟨k, hk⟩, v, hv⟩
    exact ⟨_, .map hk hv⟩

theorem mapped_of_nullable {a : TypeReference} {y : TypeMapping}
    (h : MapsTo s ⟨nullableType, [a], 0⟩ y) : ∃ m, MapsTo s a m := by
  rw [← mapType_eq_mapped_iff, mapType, if_neg (by simp), if_pos rfl] at h
  obtain ⟨inner, hinner, h⟩ := bind_eq_ok.mp h
  cases inner with
  | mapped m => exact ⟨m, mapType_eq_mapped_iff.mp hinner⟩
  | unmapped n => cases h

theorem contains_of_mapped {name : Text} {y : TypeMapping} (h : MapsTo s ⟨name, [], 0⟩ y)
    (hscalar : scalarTypes.lookup name = none) (hknown : wellKnownTypes.lookup name = none) :
    (s.messages.contains (some name) || s.enums.contains (some name)) = true := by
  have hplain : s.mapPlain name name = .ok (.mapped y) := mapPlain_eq_mapped_iff.mpr h
  unfold mapPlain at hplain
  rw [hscalar, hknown] at hplain
  dsimp only at hplain
  split at hplain
  · assumption
  · cases hplain

/-- A type whose mentions are kept still has a schema type, unless it has one
    through a nullable type of an enum that is dropped. -/
theorem MapsTo.mapped_prune_iff {t : TypeReference} {x : TypeMapping} (h : MapsTo u t x)
    (hkept : ∀ name ∈ x.internalTypes, (u.prune.1.messages.contains (some name) ||
      u.prune.1.enums.contains (some name)) = true) :
    (∃ y, MapsTo u.prune.1 t y) ↔ ¬ t.WrapsSome (Dropped u u.prune.1) := by
  induction h with
  | scalar hscalar => exact iff_of_true ⟨_, .scalar hscalar⟩ (not_wrapsSome_plain _)
  | wellKnown hscalar hknown =>
      exact iff_of_true ⟨_, .wellKnown hscalar hknown⟩ (not_wrapsSome_plain _)
  | internal hscalar hknown _ htype =>
      have hcontains := hkept _ List.mem_cons_self
      exact iff_of_true ⟨_, .internal hscalar hknown hcontains (typeName_prune hcontains htype)⟩
        (not_wrapsSome_plain _)
  | @nullable a m wrapper h hwrapper ih =>
      obtain ⟨name, rfl, hscalar | ⟨hscalar, hknown, hcontains, htype⟩⟩ :=
        h.plain_of_wrapper hwrapper
      · refine iff_of_true ⟨_, .nullable (.scalar hscalar) hwrapper⟩ fun hwraps => ?_
        rw [(wrapsSome_nullableOf.mp hwraps).no_scalar] at hscalar
        cases hscalar
      · show _ ↔ ¬ (nullableOf name).WrapsSome _
        rw [wrapsSome_nullableOf]
        -- A nullable type of a type of the schema: all depends on whether that is kept.
        cases hin : u.prune.1.messages.contains (some name) ||
            u.prune.1.enums.contains (some name) with
        | true =>
            have hmapped : MapsTo u.prune.1 ⟨name, [], 0⟩
                { name := m.name, internalTypes := [name] } :=
              .internal hscalar hknown hin (typeName_prune hin htype)
            refine iff_of_true ⟨_, .nullable hmapped hwrapper⟩ fun hdropped => ?_
            rw [contains_messages_prune, hdropped.no_message, hdropped.gone] at hin
            cases hin
        | false =>
            refine iff_of_false ?_ (not_not.mpr ?_)
            · rintro ⟨y, hy⟩
              obtain ⟨m', hm'⟩ := mapped_of_nullable hy
              rw [contains_of_mapped hm' hscalar hknown] at hin
              cases hin
            · rw [Bool.or_eq_false_iff, contains_messages_prune] at hin
              rw [hin.1, Bool.false_or] at hcontains
              exact ⟨hscalar, hknown, hin.1, hcontains, hin.2⟩
  | repeated _ ih =>
      rw [mapped_repeated_iff, wrapsSome_of_ne (show repeatedType ≠ nullableType by decide),
        ih hkept]
      simp
  | map _ _ ihk ihv =>
      rw [mapped_map_iff, wrapsSome_of_ne (show mapFieldType ≠ nullableType by decide),
        ihk fun n hn => hkept n (List.mem_append_left _ hn),
        ihv fun n hn => hkept n (List.mem_append_right _ hn)]
      simp

/-- A plain type has the schema type that it had, or none any more. -/
theorem mapPlain_prune_cases {name fullName : Text} {r : Mapping}
    (h : u.mapPlain name fullName = .ok r) :
    u.prune.1.mapPlain name fullName = .ok r ∨
      (∃ x, r = .mapped x) ∧ u.prune.1.mapPlain name fullName = .ok (.unmapped fullName) := by
  unfold mapPlain at h ⊢
  split at h
  · exact Or.inl h
  · split at h
    · exact Or.inl h
    · split
      · rename_i hkept
        -- What is kept was there before, under the same name.
        have hbefore := contains_iff_entity.mp hkept
        rw [if_pos (contains_iff_entity.mpr (hbefore.imp fun _ => (within_prune u).entity))] at h
        obtain ⟨type, htype, h⟩ := bind_eq_ok.mp h
        rw [typeName_prune hkept htype]
        exact Or.inl h
      · split at h
        · obtain ⟨type, -, h⟩ := bind_eq_ok.mp h
          exact Or.inr ⟨⟨_, (Except.ok.inj h).symm⟩, rfl⟩
        · exact Or.inl h

theorem wrap_mapped_cases (fullName : Text) (x : TypeMapping) :
    (∃ y, wrap fullName (.mapped x) = .mapped y) ∨
      wrap fullName (.mapped x) = .unmapped fullName := by
  unfold wrap
  dsimp only
  split
  · exact Or.inl ⟨_, rfl⟩
  · exact Or.inr rfl

/-- A type has the schema type that it had, or none any more. -/
theorem mapType_prune_cases (t : TypeReference) :
    ∀ r, u.mapType t = .ok r → u.prune.1.mapType t = .ok r ∨
      (∃ x, r = .mapped x) ∧ u.prune.1.mapType t = .ok (.unmapped t.fullName) := by
  -- Arrays and misfits do not depend on the schema; in the other cases an element
  -- without a schema type leaves the whole type without one.
  fun_induction mapType u t with
  | case1 name rank fullName hrank =>
      intro r h
      rw [mapType, if_pos hrank]
      exact Or.inl h
  | case2 name rank fullName hrank =>
      intro r h
      rw [mapType, if_neg hrank]
      exact mapPlain_prune_cases h
  | case3 name a rank t hrank =>
      intro r h
      rw [mapType, if_pos hrank]
      exact Or.inl h
  | case4 a rank hrank t ih =>
      intro r h
      obtain ⟨inner, hinner, h⟩ := bind_eq_ok.mp h
      obtain rfl : wrap t.fullName inner = r := Except.ok.inj h
      rw [mapType, if_neg hrank, if_pos rfl]
      rcases ih inner hinner with hsame | ⟨⟨x, rfl⟩, hlost⟩
      · rw [hsame]
        exact Or.inl rfl
      · rw [hlost]
        rcases wrap_mapped_cases t.fullName x with hwrap | hwrap
        · exact Or.inr ⟨hwrap, rfl⟩
        · rw [hwrap]
          exact Or.inl rfl
  | case5 a rank hrank t hne ih =>
      intro r h
      obtain ⟨inner, hinner, h⟩ := bind_eq_ok.mp h
      obtain rfl : repeated t.fullName inner = r := Except.ok.inj h
      rw [mapType, if_neg hrank, if_neg hne, if_pos rfl]
      rcases ih inner hinner with hsame | ⟨⟨x, rfl⟩, hlost⟩
      · rw [hsame]
        exact Or.inl rfl
      · rw [hlost]
        exact Or.inr ⟨⟨_, rfl⟩, rfl⟩
  | case6 name a rank t hrank hnullable hrepeated =>
      intro r h
      rw [mapType, if_neg hrank, if_neg hnullable, if_neg hrepeated]
      exact Or.inl h
  | case7 name a b rank t hrank =>
      intro r h
      rw [mapType, if_pos hrank]
      exact Or.inl h
  | case8 a b rank hrank t iha ihb =>
      intro r h
      obtain ⟨key, hkey, h⟩ := bind_eq_ok.mp h
      obtain ⟨value, hvalue, h⟩ := bind_eq_ok.mp h
      obtain rfl : mapOf t.fullName key value = r := Except.ok.inj h
      rw [mapType, if_neg hrank, if_pos rfl]
      rcases iha key hkey with hsameKey | ⟨⟨k, rfl⟩, hlostKey⟩
      · rw [hsameKey, ok_bind]
        rcases ihb value hvalue with hsame | ⟨⟨v, rfl⟩, hlost⟩
        · rw [hsame]
          exact Or.inl rfl
        · rw [hlost]
          cases key with
          | mapped k => exact Or.inr ⟨⟨_, rfl⟩, rfl⟩
          | unmapped n => exact Or.inl rfl
      · rw [hlostKey, ok_bind]
        rcases ihb value hvalue with hsame | ⟨⟨v, rfl⟩, hlost⟩
        · rw [hsame]
          cases value with
          | mapped v => exact Or.inr ⟨⟨_, rfl⟩, rfl⟩
          | unmapped n => exact Or.inl rfl
        · rw [hlost]
          exact Or.inr ⟨⟨_, rfl⟩, rfl⟩
  | case9 name a b rank t hrank hmap =>
      intro r h
      rw [mapType, if_neg hrank, if_neg hmap]
      exact Or.inl h
  | case10 name a b c rest rank t hrank =>
      intro r h
      rw [mapType, if_pos hrank]
      exact Or.inl h
  | case11 name a b c rest rank t hrank =>
      intro r h
      rw [mapType, if_neg hrank]
      exact Or.inl h

theorem SameNames.dropped (h : SameNames u s) (s' : Schema) : Dropped u s' = Dropped s s' := by
  funext name
  have hmessage := h.contains_message (some name)
  have henum := h.contains_enum (some name)
  refine propext ⟨fun hd => ?_, fun hd => ?_⟩
  · exact ⟨hd.no_scalar, hd.no_wellKnown, hmessage ▸ hd.no_message, henum ▸ hd.enum, hd.gone⟩
  · exact ⟨hd.no_scalar, hd.no_wellKnown, hmessage ▸ hd.no_message, henum ▸ hd.enum, hd.gone⟩

end Schema

section Prepared

variable {a : Assembly} {l : List (TypeDescriptor × Label)} {discovered u : Schema}

/-- What a field of a message mentions is kept. -/
theorem Prepared.kept (h : Prepared a l discovered u) {n : Label} {m : MessageType}
    (hm : u.messages.find? n = some m) {f : Field} (hf : f ∈ m.allFields) {x : TypeMapping}
    (hx : u.mapType f.valueType = .ok (.mapped x)) : ∀ name ∈ x.internalTypes,
    (u.prune.1.messages.contains (some name) || u.prune.1.enums.contains (some name)) = true := by
  intro name hname
  have hm' := u.find?_messages_prune n
  rw [hm, Option.map_some] at hm'
  rw [Bool.or_eq_true, Registry.contains_iff, Registry.contains_iff]
  obtain ⟨-, ⟨e, he, -⟩ | ⟨y, hy, -⟩⟩ := h.resolved.mentioned hm' ⟨f, hf, x, hx, hname⟩
  · exact Or.inr ⟨e, he⟩
  · exact Or.inl ⟨y, hy⟩

/-- A field has the schema type that it had, unless it had it through a nullable
    type of an enum that is dropped; then it has none. -/
theorem Prepared.mapType_prune_iff (h : Prepared a l discovered u) {n : Label}
    {m : MessageType} (hm : u.messages.find? n = some m) {f : Field} (hf : f ∈ m.allFields) :
    (u.prune.1.mapType f.valueType = u.mapType f.valueType ↔
      ¬ ((∃ x, u.mapType f.valueType = .ok (.mapped x)) ∧
        f.valueType.WrapsSome (Schema.Dropped u u.prune.1))) ∧
    (u.prune.1.mapType f.valueType = u.mapType f.valueType ∨
      u.prune.1.mapType f.valueType = .ok (.unmapped f.valueType.fullName)) := by
  obtain ⟨r, hr⟩ := (h.recorded hm).typed f hf
  have hcases := Schema.mapType_prune_cases f.valueType r hr
  rw [hr]
  refine ⟨?_, hcases.imp_right And.right⟩
  cases r with
  | unmapped name =>
      refine iff_of_true (hcases.resolve_right ?_) ?_
      · rintro ⟨⟨x, hx⟩, -⟩
        cases hx
      · rintro ⟨⟨x, hx⟩, -⟩
        cases hx
  | mapped x =>
      have hmaps := Schema.mapType_eq_mapped_iff.mp hr
      rw [and_iff_right ⟨x, rfl⟩, ← hmaps.mapped_prune_iff (h.kept hm hf hr)]
      constructor
      · intro hsame
        exact ⟨x, Schema.mapType_eq_mapped_iff.mp hsame⟩
      · rintro ⟨y, hy⟩
        refine hcases.resolve_right fun hlost => ?_
        rw [Schema.mapType_eq_mapped_iff.mpr hy] at hlost
        cases hlost.2

end Prepared

namespace Recovery

/-- The renderer finds for a field the schema type by which the analysis recorded
    what the field needs, unless that was found through a nullable type of an enum
    that is dropped; then it finds none. -/
theorem analyze_mapType_iff {text : Text} {a : Assembly} {r : Recovery}
    (hload : Assembly.load text = .ok a) (hok : (analyze a).outcome = .ok r) :
    ∃ filled linked, (discover a).outcome = .ok filled ∧ filled.connect = .ok linked ∧
      ∀ n m, r.schema.messages.find? n = some m → ∀ f ∈ m.allFields,
        (r.schema.mapType f.valueType = linked.mapType f.valueType ↔
          ¬ ((∃ x, linked.mapType f.valueType = .ok (.mapped x)) ∧
            f.valueType.WrapsSome (Schema.Dropped linked r.schema))) ∧
        (r.schema.mapType f.valueType = linked.mapType f.valueType ∨
          r.schema.mapType f.valueType = .ok (.unmapped f.valueType.fullName)) := by
  obtain ⟨filled, g, hdiscover, hrelate, -, -⟩ := analyze_eq_ok hok
  obtain ⟨linked, u, hconnect, hneeds, hprune⟩ := relate_eq_ok hrelate
  obtain ⟨gathered, hgather, hfields⟩ := discover_eq_ok hdiscover
  obtain ⟨rfl, l, h⟩ :=
    prepared_of_steps (Assembly.named_of_load hload) hgather hfields hconnect hneeds
  refine ⟨filled, _, hdiscover, hconnect, fun n m hm f hf => ?_⟩
  rw [hprune, Schema.find?_messages_prune] at hm
  obtain ⟨m', hm', rfl⟩ := Option.map_eq_some_iff.mp hm
  rw [hprune, ← h.same.sameNames.mapType, ← h.same.sameNames.dropped]
  exact h.mapType_prune_iff hm' hf

/-- The text of the document. -/
def wrapping : Text :=
  List.flatten
    ["\x7b\"name\":\"\",", "\"references\":[\x7b\"name\":", "\"Google.Protobuf\"\x7d],",
      "\"types\":[\x7b\"name\":\"A\",", "\"interfaces\":[", "\"Google.Protobuf.IMessage\"],",
      "\"fields\":[\x7b\"name\":", "\"XFieldNumber\",", "\"type\":\"\",\"constant\":1\x7d],",
      "\"properties\":[\x7b", "\"name\":\"X\",", "\"type\":",
      "\"System.Nullable`1<int32>\"\x7d]\x7d,", "\x7b\"name\":\"int32\",",
      "\"kind\":\"enum\"\x7d]\x7d"]

def membersOfWrapping : Decode.Members :=
  [("name", .str "A"), ("interfaces", .arr [.str "Google.Protobuf.IMessage"]),
    ("fields", .arr [.obj [("name", .str "XFieldNumber"), ("type", .str ""),
      ("constant", .int 1)]]),
    ("properties", .arr [.obj [("name", .str "X"), ("type", .str "System.Nullable`1<int32>")]])]

def membersOfWrapped : Decode.Members := [("name", .str "int32"), ("kind", .str "enum")]

set_option maxRecDepth 8000 in
theorem read_wrapping : Json.read wrapping = .ok (.obj [("name", .str ""),
    ("references", .arr [.obj [("name", .str "Google.Protobuf")]]),
    ("types", .arr [.obj membersOfWrapping, .obj membersOfWrapped])]) := by
  cbv

theorem load_wrapping : Assembly.load wrapping = .ok wrappingTypes := by
  have hmessage : Decode.type (.obj membersOfWrapping) = .ok ⟨some "A", some "",
      some .plainClass, some ["Google.Protobuf.IMessage"],
      some [⟨some "XFieldNumber", some "", some (.int 1), some false⟩],
      some [⟨some "X", some "System.Nullable`1<int32>", some true, some false, some false⟩],
      some []⟩ := by
    rw [Decode.type_obj]
    cbv
  have henum : Decode.type (.obj membersOfWrapped) = .ok ⟨some "int32", some "",
      some .enumeration, some [], some [], some [], some []⟩ := by
    rw [Decode.type_obj]
    cbv
  have htypes := mapM_eq_ok_iff.mpr (.cons hmessage (.cons henum .nil))
  unfold Assembly.load
  rw [read_wrapping]
  show Assembly.ofJson _ = _
  unfold Assembly.ofJson
  rw [Decode.assembly_of_types (by cbv) (by cbv) htypes]
  exact ofDeclaration_wrapping

/-- The field of the document is mapped through a nullable type of an enum that is
    dropped. -/
theorem analyze_mapType_iff_wrapping :
    Assembly.load wrapping = .ok wrappingTypes ∧
      ∃ r linked m f, (analyze wrappingTypes).outcome = .ok r ∧
        r.schema.messages.find? (some "A") = some m ∧ f ∈ m.allFields ∧
        f.valueType.WrapsSome (Schema.Dropped linked r.schema) := by
  obtain ⟨filled, linked, r, m, f, hdiscover, hconnect, hok, hm, hf, hbefore, hafter⟩ :=
    exists_of_firstFieldTypes firstFieldTypes_wrapping
  obtain ⟨filled', linked', hdiscover', hconnect', hall⟩ := analyze_mapType_iff load_wrapping hok
  obtain rfl := Except.ok.inj (hdiscover.symm.trans hdiscover')
  obtain rfl := Except.ok.inj (hconnect.symm.trans hconnect')
  refine ⟨load_wrapping, r, linked, m, f, hok, hm, hf, ?_⟩
  have hiff := (hall (some "A") m hm f hf).1
  rw [hbefore, hafter] at hiff
  by_contra hwraps
  exact absurd (hiff.mpr fun h => hwraps h.2) nofun

/-- The analysis takes the field of the document for an optional scalar and
    records the import of its wrapper, but the renderer finds no schema type for
    it. -/
theorem wrapping_maps_apart :
    Assembly.load wrapping = .ok wrappingTypes ∧
      ∃ filled linked r m f, (discover wrappingTypes).outcome = .ok filled ∧
        filled.connect = .ok linked ∧ (analyze wrappingTypes).outcome = .ok r ∧
        r.schema.messages.find? (some "A") = some m ∧ f ∈ m.allFields ∧
        linked.mapType f.valueType = .ok (.mapped
          { name := "google.protobuf.Int32Value"
            externalImports := ["google/protobuf/wrappers.proto"] }) ∧
        r.schema.mapType f.valueType = .ok (.unmapped "System.Nullable`1<int32>") :=
  ⟨load_wrapping, exists_of_firstFieldTypes firstFieldTypes_wrapping⟩

end Recovery

end SchemaRecovery
