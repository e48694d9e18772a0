/-
  SchemaRecovery.Proofs.Mapping

  The managed types that have schema types, as a relation (`MapsTo`). Whether a
  type has one, and which, depends on nothing but the names, namespaces and
  outermost messages of the messages and enums it mentions: a type keeps its
  schema type in every schema that has these (`mapType_of_within`), and schemas
  in which they are the same map all types alike (`SameNames.mapType`).
-/
import SchemaRecovery.Proofs.Outcome
import SchemaRecovery.Proofs.ReferenceNames
import SchemaRecovery.Proofs.Registry
import SchemaRecovery.Schema.TypeMapping

namespace SchemaRecovery

theorem TypeDescriptor.present_eq_ok_iff {α : Type} {x : Option α} {a : α} :
    present x = .ok a ↔ x = some a := by
  cases x with
  | none => simp [present]
  | some b => simp [present]

namespace Schema

open TypeReference

variable {s u : Schema}

theorem message_eq_ok_iff {n : Label} {m : MessageType} :
    s.message n = .ok m ↔ s.messages.find? n = some m := by
  unfold Schema.message
  cases s.messages.find? n with
  | none => simp
  | some x => simp

theorem enum_eq_ok_iff {n : Label} {e : EnumType} :
    s.enum n = .ok e ↔ s.enums.find? n = some e := by
  unfold Schema.enum
  cases s.enums.find? n with
  | none => simp
  | some x => simp

theorem mem_of_lookup {β : Type} {l : List (Text × β)} {k : Text} {x : β}
    (h : l.lookup k = some x) : (k, x) ∈ l := by
  obtain ⟨front, back, rfl, -⟩ := List.lookup_eq_some_iff.mp h
  exact List.mem_append_right front List.mem_cons_self

/-- The schema types of managed types. -/
inductive MapsTo (s : Schema) : TypeReference → TypeMapping → Prop
  | scalar {name type : Text} (hscalar : scalarTypes.lookup name = some type) :
      MapsTo s ⟨name, [], 0⟩ { name := type }
  | wellKnown {name type path : Text} (hscalar : scalarTypes.lookup name = none)
      (hknown : wellKnownTypes.lookup name = some (type, path)) :
      MapsTo s ⟨name, [], 0⟩ { name := type, externalImports := [path] }
  | internal {name type : Text} (hscalar : scalarTypes.lookup name = none)
      (hknown : wellKnownTypes.lookup name = none)
      (hcontains : (s.messages.contains (some name) || s.enums.contains (some name)) = true)
      (htype : s.typeName (some name) = .ok type) :
      MapsTo s ⟨name, [], 0⟩ { name := type, internalTypes := [name] }
  | nullable {a : TypeReference} {m : TypeMapping} {wrapper : Text} (h : MapsTo s a m)
      (hwrapper : wrapperTypes.lookup m.name = some wrapper) :
      MapsTo s ⟨nullableType, [a], 0⟩ { name := wrapper, externalImports := [wrappersImport] }
  | repeated {a : TypeReference} {m : TypeMapping} (h : MapsTo s a m) :
      MapsTo s ⟨repeatedType, [a], 0⟩ { m with name := "repeated " ++ m.name }
  | map {a b : TypeReference} {k v : TypeMapping} (hk : MapsTo s a k) (hv : MapsTo s b v) :
      MapsTo s ⟨mapFieldType, [a, b], 0⟩
        { name := "map<" ++ k.name ++ ", " ++ v.name ++ ">"
          externalImports := k.externalImports ++ v.externalImports
          internalTypes := k.internalTypes ++ v.internalTypes }

theorem mapPlain_eq_mapped_iff {name fullName : Text} {x : TypeMapping} :
    s.mapPlain name fullName = .ok (.mapped x) ↔ MapsTo s ⟨name, [], 0⟩ x := by
  constructor
  · intro h
    unfold mapPlain at h
    split at h
    · rename_i type hscalar
      cases h
      exact .scalar hscalar
    · rename_i hscalar
      split at h
      · rename_i type path hknown
        cases h
        exact .wellKnown hscalar hknown
      · rename_i hknown
        split at h
        · rename_i hcontains
          obtain ⟨type, htype, h⟩ := bind_eq_ok.mp h
          cases h
          exact .internal hscalar hknown hcontains htype
        · cases h
  · intro h
    unfold mapPlain
    cases h with
    | scalar hscalar => rw [hscalar]
    | wellKnown hscalar hknown => rw [hscalar, hknown]
    | internal hscalar hknown hcontains htype =>
        rw [hscalar, hknown]
        dsimp only
        rw [if_pos hcontains, htype]
        rfl

theorem mapMisfit_ne_mapped {t : TypeReference} {x : TypeMapping} :
    mapMisfit t ≠ .ok (.mapped x) := by
  unfold mapMisfit
  split <;> exact fun h => by cases h

theorem mapsTo_of_mapType (t : TypeReference) :
    ∀ x, s.mapType t = .ok (.mapped x) → MapsTo s t x := by
  -- One case for each shape of the reference; arrays never have a schema type.
  fun_induction mapType s t with
  | case1 name rank fullName hrank =>
      intro x h
      cases h
  | case2 name rank fullName hrank =>
      intro x h
      obtain rfl : rank = 0 := not_not.mp hrank
      exact mapPlain_eq_mapped_iff.mp h
  | case3 name a rank t hrank =>
      intro x h
      cases h
  | case4 a rank hrank t ih =>
      intro x h
      obtain rfl : rank = 0 := not_not.mp hrank
      obtain ⟨inner, hinner, h⟩ := bind_eq_ok.mp h
      have hwrap : wrap t.fullName inner = .mapped x := Except.ok.inj h
      unfold wrap at hwrap
      split at hwrap
      · split at hwrap
        · rename_i wrapper hwrapper
          cases hwrap
          exact .nullable (ih _ hinner) hwrapper
        · cases hwrap
      · cases hwrap
  | case5 a rank hrank t hne ih =>
      intro x h
      obtain rfl : rank = 0 := not_not.mp hrank
      obtain ⟨inner, hinner, h⟩ := bind_eq_ok.mp h
      have hrepeated : repeated t.fullName inner = .mapped x := Except.ok.inj h
      unfold repeated at hrepeated
      split at hrepeated
      · cases hrepeated
        exact .repeated (ih _ hinner)
      · cases hrepeated
  | case6 name a rank t hrank hnullable hrepeated => exact fun x h => absurd h mapMisfit_ne_mapped
  | case7 name a b rank t hrank =>
      intro x h
      cases h
  | case8 a b rank hrank t iha ihb =>
      intro x h
      obtain rfl : rank = 0 := not_not.mp hrank
      obtain ⟨key, hkey, h⟩ := bind_eq_ok.mp h
      obtain ⟨value, hvalue, h⟩ := bind_eq_ok.mp h
      have hmap : mapOf t.fullName key value = .mapped x := Except.ok.inj h
      unfold mapOf at hmap
      split at hmap
      · cases hmap
        exact .map (iha _ hkey) (ihb _ hvalue)
      · cases hmap
  | case9 name a b rank t hrank hmap => exact fun x h => absurd h mapMisfit_ne_mapped
  | case10 name a b c rest rank t hrank =>
      intro x h
      cases h
  | case11 name a b c rest rank t hrank => exact fun x h => absurd h mapMisfit_ne_mapped

/-- The mapping of a type, as a relation. -/
theorem mapType_eq_mapped_iff {t : TypeReference} {x : TypeMapping} :
    s.mapType t = .ok (.mapped x) ↔ MapsTo s t x := by
  refine ⟨mapsTo_of_mapType t x, fun h => ?_⟩
  -- The other way round, the mapping runs along the derivation.
  induction h with
  | scalar hscalar => exact mapPlain_eq_mapped_iff.mpr (.scalar hscalar)
  | wellKnown hscalar hknown => exact mapPlain_eq_mapped_iff.mpr (.wellKnown hscalar hknown)
  | internal hscalar hknown hcontains htype =>
      exact mapPlain_eq_mapped_iff.mpr (.internal hscalar hknown hcontains htype)
  | nullable _ hwrapper ih =>
      rw [mapType, if_neg (by simp), if_pos rfl, ih, ok_bind, wrap, hwrapper]
      rfl
  | repeated _ ih =>
      rw [mapType, if_neg (by simp), if_neg (by decide), if_pos rfl, ih, ok_bind]
      rfl
  | map _ _ ihk ihv =>
      rw [mapType, if_neg (by simp), if_pos rfl, ihk, ok_bind, ihv, ok_bind]
      rfl

/-! ## Schemas with the same types -/

/-- The messages and enums of `s` are in `u` too, with the same names, namespaces
    and outermost messages. -/
structure Within (s u : Schema) : Prop where
  entity : ∀ {n x}, s.entity? n = some x → u.entity? n = some x
  message : ∀ {n m}, s.messages.find? n = some m →
    ∃ m', u.messages.find? n = some m' ∧ m'.name = m.name ∧ m'.fullName = m.fullName

/-- A name is that of a message or an enum. -/
theorem contains_iff_entity {n : Label} :
    (s.messages.contains n || s.enums.contains n) = true ↔ ∃ x, s.entity? n = some x := by
  rw [Bool.or_eq_true, Registry.contains_iff, Registry.contains_iff]
  unfold entity?
  constructor
  · rintro (⟨m, hm⟩ | ⟨e, he⟩)
    · exact ⟨_, by rw [hm]⟩
    · cases hm : s.messages.find? n with
      | none => exact ⟨_, by rw [he]; rfl⟩
      | some m => exact ⟨_, rfl⟩
  · rintro ⟨x, hx⟩
    cases hm : s.messages.find? n with
    | none =>
        rw [hm] at hx
        obtain ⟨e, he, -⟩ := Option.map_eq_some_iff.mp hx
        exact Or.inr ⟨e, he⟩
    | some m => exact Or.inl ⟨m, rfl⟩

theorem typeName_of_within (h : Within s u) {n : Label} {type : Text}
    (htype : s.typeName n = .ok type) : u.typeName n = .ok type := by
  unfold typeName at htype ⊢
  cases hentity : s.entity? n with
  | none =>
      rw [hentity] at htype
      cases htype
  | some x =>
      obtain ⟨name, ns, rootMessage⟩ := x
      rw [hentity] at htype
      rw [h.entity hentity]
      dsimp only at htype ⊢
      cases rootMessage with
      | none => exact htype
      | some r =>
          -- The root message has the same name and full name in both.
          obtain ⟨root, hroot, htype⟩ := bind_eq_ok.mp htype
          obtain ⟨root', hroot', hname, hfull⟩ := h.message (message_eq_ok_iff.mp hroot)
          refine bind_eq_ok.mpr ⟨root', message_eq_ok_iff.mpr hroot', ?_⟩
          rw [hname, hfull]
          exact htype

theorem MapsTo.of_within (h : Within s u) {t : TypeReference} {x : TypeMapping}
    (hx : MapsTo s t x) : MapsTo u t x := by
  induction hx with
  | scalar hscalar => exact .scalar hscalar
  | wellKnown hscalar hknown => exact .wellKnown hscalar hknown
  | internal hscalar hknown hcontains htype =>
      obtain ⟨y, hy⟩ := contains_iff_entity.mp hcontains
      exact .internal hscalar hknown (contains_iff_entity.mpr ⟨y, h.entity hy⟩)
        (typeName_of_within h htype)
  | nullable _ hwrapper ih => exact .nullable ih hwrapper
  | repeated _ ih => exact .repeated ih
  | map _ _ ihk ihv => exact .map ihk ihv

/-- A type keeps its schema type in a schema with the same types. -/
theorem mapType_of_within (h : Within s u) {t : TypeReference} {x : TypeMapping}
    (hx : s.mapType t = .ok (.mapped x)) : u.mapType t = .ok (.mapped x) := by
  rw [mapType_eq_mapped_iff] at hx ⊢
  exact hx.of_within h

/-- The types that a schema type mentions are messages or enums of the schema. -/
theorem MapsTo.contains_internal {t : TypeReference} {x : TypeMapping} (hx : MapsTo s t x) :
    ∀ name ∈ x.internalTypes,
      (s.messages.contains (some name) || s.enums.contains (some name)) = true := by
  induction hx with
  | scalar => simp
  | wellKnown => simp
  | internal _ _ hcontains _ =>
      intro n hn
      rw [List.mem_singleton.mp hn]
      exact hcontains
  | nullable => simp
  | repeated _ ih => exact ih
  | map _ _ ihk ihv =>
      intro n hn
      rcases List.mem_append.mp hn with hn | hn
      · exact ihk n hn
      · exact ihv n hn

/-- The names of the types that a schema type mentions begin like names do, if those
    of the managed type do. -/
theorem MapsTo.startsName_internal {t : TypeReference} {x : TypeMapping} (hx : MapsTo s t x)
    (ht : t.WellNamed) : ∀ name ∈ x.internalTypes, StartsName name := by
  induction hx with
  | scalar => simp
  | wellKnown => simp
  | internal =>
      intro n hn
      rw [List.mem_singleton.mp hn]
      exact ht.start
  | nullable => simp
  | repeated _ ih => exact ih (ht.inner _ List.mem_cons_self)
  | map _ _ ihk ihv =>
      intro n hn
      rcases List.mem_append.mp hn with hn | hn
      · exact ihk (ht.inner _ List.mem_cons_self) n hn
      · exact ihv (ht.inner _ (List.mem_cons_of_mem _ List.mem_cons_self)) n hn

/-- The schemas have the same messages and enums, as far as the schema types of
    managed types depend on them. -/
structure SameNames (s s' : Schema) : Prop where
  messages : ∀ n, (s.messages.find? n).map (fun m => (m.name, m.ns, m.fullName, m.rootMessage)) =
    (s'.messages.find? n).map fun m => (m.name, m.ns, m.fullName, m.rootMessage)
  enums : ∀ n, (s.enums.find? n).map (fun e => (e.name, e.ns, e.rootMessage)) =
    (s'.enums.find? n).map fun e => (e.name, e.ns, e.rootMessage)

namespace SameNames

variable {s' : Schema} (h : SameNames s s')

include h

theorem contains_message (n : Label) : s.messages.contains n = s'.messages.contains n :=
  Registry.contains_congr (h.messages n)

theorem contains_enum (n : Label) : s.enums.contains n = s'.enums.contains n :=
  Registry.contains_congr (h.enums n)

theorem message? (n : Label) :
    (s.messages.find? n = none ∧ s'.messages.find? n = none) ∨
      ∃ m m', s.messages.find? n = some m ∧ s'.messages.find? n = some m' ∧ m.name = m'.name ∧
        m.ns = m'.ns ∧ m.fullName = m'.fullName ∧ m.rootMessage = m'.rootMessage := by
  have hn := h.messages n
  cases hm : s.messages.find? n with
  | none =>
      rw [hm, Option.map_none, eq_comm, Option.map_eq_none_iff] at hn
      exact Or.inl ⟨rfl, hn⟩
  | some m =>
      rw [hm, Option.map_some, eq_comm, Option.map_eq_some_iff] at hn
      obtain ⟨m', hm', hdata⟩ := hn
      simp only [Prod.mk.injEq] at hdata
      obtain ⟨hname, hns, hfull, hroot⟩ := hdata
      exact Or.inr ⟨m, m', rfl, hm', hname.symm, hns.symm, hfull.symm, hroot.symm⟩

theorem entity? (n : Label) : s.entity? n = s'.entity? n := by
  unfold Schema.entity?
  rcases h.message? n with ⟨hm, hm'⟩ | ⟨m, m', hm, hm', hname, hns, -, hroot⟩
  · rw [hm, hm']
    exact h.enums n
  · rw [hm, hm']
    dsimp only
    rw [hname, hns, hroot]

theorem typeName (n : Label) : s.typeName n = s'.typeName n := by
  unfold Schema.typeName
  rw [h.entity?]
  cases s'.entity? n with
  | none => rfl
  | some x =>
      obtain ⟨name, ns, rootMessage⟩ := x
      cases rootMessage with
      | none => rfl
      | some r =>
          -- The root message has the same name and full name in both.
          unfold Schema.message
          dsimp only
          rcases h.message? (some r) with ⟨hm, hm'⟩ | ⟨m, m', hm, hm', hname, -, hfull, -⟩
          · rw [hm, hm']
          · rw [hm, hm']
            dsimp only
            rw [ok_bind, ok_bind, hname, hfull]
            rfl

theorem mapPlain (name fullName : Text) : s.mapPlain name fullName = s'.mapPlain name fullName := by
  unfold Schema.mapPlain
  rw [h.contains_message, h.contains_enum, h.typeName]

/-- The schema type of a managed type is the same in both. -/
theorem mapType (t : TypeReference) : s.mapType t = s'.mapType t := by
  fun_induction Schema.mapType s t with
  | case1 name rank fullName hrank => rw [Schema.mapType, if_pos hrank]
  | case2 name rank fullName hrank => rw [Schema.mapType, if_neg hrank, h.mapPlain]
  | case3 name a rank t hrank => rw [Schema.mapType, if_pos hrank]
  | case4 a rank hrank t ih => rw [Schema.mapType, if_neg hrank, if_pos rfl, ih]
  | case5 a rank hrank t hne ih =>
      rw [Schema.mapType, if_neg hrank, if_neg hne, if_pos rfl, ih]
  | case6 name a rank t hrank hnullable hrepeated =>
      rw [Schema.mapType, if_neg hrank, if_neg hnullable, if_neg hrepeated]
  | case7 name a b rank t hrank => rw [Schema.mapType, if_pos hrank]
  | case8 a b rank hrank t iha ihb =>
      rw [Schema.mapType, if_neg hrank, if_pos rfl, iha, ihb]
  | case9 name a b rank t hrank hmap => rw [Schema.mapType, if_neg hrank, if_neg hmap]
  | case10 name a b c rest rank t hrank => rw [Schema.mapType, if_pos hrank]
  | case11 name a b c rest rank t hrank => rw [Schema.mapType, if_neg hrank]

end SameNames

end Schema

end SchemaRecovery
