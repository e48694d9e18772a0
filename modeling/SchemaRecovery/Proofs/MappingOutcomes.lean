/-
  SchemaRecovery.Proofs.MappingOutcomes

  What looking for the schema type of a managed type comes to. In a schema that was
  gathered from types that all have names, it fails exactly if a generic type that
  has schema types is met with the wrong number of arguments, whatever messages and
  enums there are. A type without schema type is reported in full, and the messages
  and enums that a schema type mentions are leaves of the managed type, in its order
  (`mapType_outcome`).
-/
import SchemaRecovery.Proofs.Mapping
import SchemaRecovery.Proofs.Nesting

namespace SchemaRecovery

/-! ## The parts of a reference -/

namespace TypeReference

/-- The reference is to a generic type that has schema types, which are for `expected`
    arguments, and not for as many as it has. -/
def Misfits (t : TypeReference) (expected : Nat) : Prop :=
  t.arrayRank = 0 ∧ t.arguments ≠ [] ∧ Schema.arity? t.name = some expected ∧
    t.arguments.length ≠ expected

/-- A reference, and the arguments that are looked at on the way to its schema type:
    those of generic types that have schema types and the right number of arguments. -/
inductive Reaches : TypeReference → TypeReference → Prop
  | here (t : TypeReference) : Reaches t t
  | inside {t a x : TypeReference} (rank : t.arrayRank = 0)
      (fits : Schema.arity? t.name = some t.arguments.length) (ha : a ∈ t.arguments)
      (h : Reaches a x) : Reaches t x

mutual

/-- The names of the references without arguments in a reference that are to no
    arrays, from left to right. -/
def leaves : TypeReference → List Text
  | ⟨name, [], rank⟩ => if rank = 0 then [name] else []
  | ⟨_, a :: rest, _⟩ => leaves a ++ leavesAll rest

/-- The leaves of several references. -/
def leavesAll : List TypeReference → List Text
  | [] => []
  | t :: rest => leaves t ++ leavesAll rest

end

end TypeReference

namespace Schema

open TypeReference

variable {s : Schema}

/-! ## Failures -/

theorem mapMisfit_of_misfits {t : TypeReference} {expected : Nat} (h : t.Misfits expected) :
    mapMisfit t = .error (.argumentCount t.name expected t.arguments.length t.fullName) := by
  unfold mapMisfit
  rw [h.2.2.1]

theorem repeatedType_ne_nullableType : repeatedType ≠ nullableType :=
  of_decide_eq_false (by cbv)

theorem mapFieldType_ne_nullableType : mapFieldType ≠ nullableType :=
  of_decide_eq_false (by cbv)

theorem mapFieldType_ne_repeatedType : mapFieldType ≠ repeatedType :=
  of_decide_eq_false (by cbv)

theorem arity?_nullableType : arity? nullableType = some 1 := if_pos (Or.inl rfl)

theorem arity?_repeatedType : arity? repeatedType = some 1 := if_pos (Or.inr rfl)

theorem arity?_mapFieldType : arity? mapFieldType = some 2 := by
  rw [arity?, if_neg (not_or.mpr ⟨mapFieldType_ne_nullableType, mapFieldType_ne_repeatedType⟩),
    if_pos rfl]

theorem arity?_eq_some {name : Text} {n : Nat} (h : arity? name = some n) :
    ((name = nullableType ∨ name = repeatedType) ∧ n = 1) ∨ (name = mapFieldType ∧ n = 2) := by
  unfold arity? at h
  split at h
  · rename_i hname
    exact Or.inl ⟨hname, (Option.some.inj h).symm⟩
  · split at h
    · rename_i hname
      exact Or.inr ⟨hname, (Option.some.inj h).symm⟩
    · cases h

/-- The wrong number of arguments is reported where it is met. -/
theorem mapType_of_misfits {t : TypeReference} {expected : Nat} (h : t.Misfits expected) :
    s.mapType t = .error (.argumentCount t.name expected t.arguments.length t.fullName) := by
  obtain ⟨name, arguments, rank⟩ := t
  obtain ⟨rfl, hne, harity, hlength⟩ := id h
  dsimp only at hne harity hlength
  rw [← mapMisfit_of_misfits h]
  -- One case for each number of arguments; the types for that number are excluded.
  match arguments, hne, hlength with
  | [a], _, hlength =>
      rcases arity?_eq_some harity with ⟨-, rfl⟩ | ⟨rfl, -⟩
      · exact absurd rfl hlength
      · rw [mapType, if_neg (by simp), if_neg mapFieldType_ne_nullableType,
          if_neg mapFieldType_ne_repeatedType]
  | [a, b], _, hlength =>
      rcases arity?_eq_some harity with ⟨hname, -⟩ | ⟨-, rfl⟩
      · rw [mapType, if_neg (by simp), if_neg]
        rcases hname with rfl | rfl
        · exact mapFieldType_ne_nullableType.symm
        · exact mapFieldType_ne_repeatedType.symm
      · exact absurd rfl hlength
  | a :: b :: c :: rest, _, _ => rw [mapType, if_neg (by simp)]

/-- A failure at an argument that is looked at is one of the whole. -/
theorem mapType_error_of_reaches {t x : TypeReference} (h : t.Reaches x)
    (hx : ∃ e, s.mapType x = .error e) : ∃ e, s.mapType t = .error e := by
  induction h with
  | here t => exact hx
  | @inside t a x rank fits ha h ih =>
      obtain ⟨e, he⟩ := ih hx
      obtain ⟨name, arguments, rank'⟩ := t
      obtain rfl : rank' = 0 := rank
      dsimp only at fits ha
      rcases arity?_eq_some fits with ⟨hname, hlength⟩ | ⟨rfl, hlength⟩
      · obtain ⟨b, rfl⟩ := List.length_eq_one_iff.mp hlength
        obtain rfl := List.mem_singleton.mp ha
        rcases hname with rfl | rfl
        · exact ⟨e, by rw [mapType, if_neg (by simp), if_pos rfl, he]; rfl⟩
        · exact ⟨e, by
            rw [mapType, if_neg (by simp), if_neg repeatedType_ne_nullableType, if_pos rfl, he]
            rfl⟩
      · obtain ⟨b, c, rfl⟩ := List.length_eq_two.mp hlength
        rw [mapType, if_neg (by simp), if_pos rfl]
        cases hb : s.mapType b with
        | error e' => exact ⟨e', rfl⟩
        | ok key =>
            -- The key has an outcome, so the failure is that of the value.
            have hac : a = c := by
              rcases List.mem_pair.mp ha with rfl | hac
              · rw [he] at hb
                cases hb
              · exact hac
            exact ⟨e, by rw [ok_bind, ← hac, he]; rfl⟩

/-- Every message and enum that has a full name has a qualified name. -/
def Nameable (s : Schema) : Prop :=
  ∀ n : Text, (s.messages.contains (some n) || s.enums.contains (some n)) = true →
    ∃ type, s.typeName (some n) = .ok type

theorem Nameable.mapPlain_ok (hs : s.Nameable) (name fullName : Text) :
    ∃ x, s.mapPlain name fullName = .ok x := by
  unfold mapPlain
  split
  · exact ⟨_, rfl⟩
  · split
    · exact ⟨_, rfl⟩
    · split
      · rename_i hcontains
        obtain ⟨type, htype⟩ := hs name hcontains
        exact ⟨_, by rw [htype]; rfl⟩
      · exact ⟨_, rfl⟩

/-- The cause is the wrong number of arguments of a type that was looked at. -/
def MisfitIn (t : TypeReference) (e : Failure) : Prop :=
  ∃ x expected, t.Reaches x ∧ x.Misfits expected ∧
    e = .argumentCount x.name expected x.arguments.length x.fullName

theorem MisfitIn.inside {t a : TypeReference} {e : Failure} (rank : t.arrayRank = 0)
    (fits : arity? t.name = some t.arguments.length) (ha : a ∈ t.arguments)
    (h : MisfitIn a e) : MisfitIn t e := by
  obtain ⟨x, expected, hx, hmisfit, he⟩ := h
  exact ⟨x, expected, .inside rank fits ha hx, hmisfit, he⟩

theorem failsOnly_mapMisfit_misfitIn {t : TypeReference} (rank : t.arrayRank = 0)
    (hne : t.arguments ≠ []) (hmisfit : arity? t.name ≠ some t.arguments.length) :
    FailsOnly (MisfitIn t) (mapMisfit t) := by
  unfold mapMisfit
  split
  · rename_i expected harity
    exact .error ⟨t, expected, .here t, ⟨rank, hne, harity, fun h => hmisfit (h ▸ harity)⟩, rfl⟩
  · exact .ok _

/-- There is no other cause of failure. -/
theorem Nameable.failsOnly_mapType (hs : s.Nameable) (t : TypeReference) :
    FailsOnly (MisfitIn t) (s.mapType t) := by
  fun_induction mapType s t with
  | case1 name rank fullName hrank => exact .ok _
  | case2 name rank fullName hrank =>
      obtain ⟨x, hx⟩ := hs.mapPlain_ok name fullName
      exact .of_ok hx
  | case3 name a rank t hrank => exact .ok _
  | case4 a rank hrank t ih =>
      have harity : arity? t.name = some t.arguments.length := arity?_nullableType
      exact (ih.mono fun e he => .inside (not_not.mp hrank) harity List.mem_cons_self he).bind
        fun _ _ => .ok _
  | case5 a rank hrank t hne ih =>
      have harity : arity? t.name = some t.arguments.length := arity?_repeatedType
      exact (ih.mono fun e he => .inside (not_not.mp hrank) harity List.mem_cons_self he).bind
        fun _ _ => .ok _
  | case6 name a rank t hrank hnullable hrepeated =>
      refine failsOnly_mapMisfit_misfitIn (not_not.mp hrank) (List.cons_ne_nil _ _) fun h => ?_
      rcases arity?_eq_some h with ⟨hname, -⟩ | ⟨-, hlength⟩
      · exact hname.elim hnullable hrepeated
      · cases hlength
  | case7 name a b rank t hrank => exact .ok _
  | case8 a b rank hrank t iha ihb =>
      have harity : arity? t.name = some t.arguments.length := arity?_mapFieldType
      have hkey := iha.mono fun e he =>
        MisfitIn.inside (not_not.mp hrank) harity List.mem_cons_self he
      have hvalue := ihb.mono fun e he => MisfitIn.inside (not_not.mp hrank) harity
        (List.mem_cons_of_mem a List.mem_cons_self) he
      exact hkey.bind fun _ _ => hvalue.bind fun _ _ => .ok _
  | case9 name a b rank t hrank hmap =>
      refine failsOnly_mapMisfit_misfitIn (not_not.mp hrank) (List.cons_ne_nil _ _) fun h => ?_
      rcases arity?_eq_some h with ⟨-, hlength⟩ | ⟨hname, -⟩
      · cases hlength
      · exact hmap hname
  | case10 name a b c rest rank t hrank => exact .ok _
  | case11 name a b c rest rank t hrank =>
      refine failsOnly_mapMisfit_misfitIn (not_not.mp hrank) (List.cons_ne_nil _ _) fun h => ?_
      rcases arity?_eq_some h with ⟨-, hlength⟩ | ⟨-, hlength⟩
      · cases hlength
      · cases hlength

/-! ## Results -/

theorem mapPlain_eq_unmapped {name fullName n : Text}
    (h : s.mapPlain name fullName = .ok (.unmapped n)) : n = fullName := by
  unfold mapPlain at h
  split at h
  · cases h
  · split at h
    · cases h
    · split at h
      · obtain ⟨type, -, h⟩ := bind_eq_ok.mp h
        cases h
      · cases h
        rfl

theorem mapMisfit_eq_unmapped {t : TypeReference} {n : Text}
    (h : mapMisfit t = .ok (.unmapped n)) : n = t.fullName := by
  unfold mapMisfit at h
  split at h
  · cases h
  · cases h
    rfl

theorem wrap_eq_unmapped {fullName n : Text} {x : Mapping}
    (h : wrap fullName x = .unmapped n) : n = fullName := by
  unfold wrap at h
  split at h
  · split at h
    · cases h
    · exact (Mapping.unmapped.inj h).symm
  · exact (Mapping.unmapped.inj h).symm

theorem repeated_eq_unmapped {fullName n : Text} {x : Mapping}
    (h : repeated fullName x = .unmapped n) : n = fullName := by
  unfold repeated at h
  split at h
  · cases h
  · exact (Mapping.unmapped.inj h).symm

theorem mapOf_eq_unmapped {fullName n : Text} {x y : Mapping}
    (h : mapOf fullName x y = .unmapped n) : n = fullName := by
  unfold mapOf at h
  split at h
  · cases h
  · exact (Mapping.unmapped.inj h).symm

/-- A type without schema type is reported as a whole, also where it is an argument
    that has none. -/
theorem mapType_eq_unmapped {t : TypeReference} {n : Text}
    (h : s.mapType t = .ok (.unmapped n)) : n = t.fullName := by
  fun_cases mapType s t with
  | case1 name rank fullName hrank =>
      rw [mapType, if_pos hrank] at h
      exact (Mapping.unmapped.inj (Except.ok.inj h)).symm
  | case2 name rank fullName hrank =>
      rw [mapType, if_neg hrank] at h
      exact mapPlain_eq_unmapped h
  | case3 name a rank t hrank =>
      rw [mapType, if_pos hrank] at h
      exact (Mapping.unmapped.inj (Except.ok.inj h)).symm
  | case4 a rank hrank t =>
      rw [mapType, if_neg hrank, if_pos rfl] at h
      obtain ⟨inner, -, h⟩ := bind_eq_ok.mp h
      exact wrap_eq_unmapped (Except.ok.inj h)
  | case5 a rank hrank t hne =>
      rw [mapType, if_neg hrank, if_neg hne, if_pos rfl] at h
      obtain ⟨inner, -, h⟩ := bind_eq_ok.mp h
      exact repeated_eq_unmapped (Except.ok.inj h)
  | case6 name a rank t hrank hnullable hrepeated =>
      rw [mapType, if_neg hrank, if_neg hnullable, if_neg hrepeated] at h
      exact mapMisfit_eq_unmapped h
  | case7 name a b rank t hrank =>
      rw [mapType, if_pos hrank] at h
      exact (Mapping.unmapped.inj (Except.ok.inj h)).symm
  | case8 a b rank hrank t =>
      rw [mapType, if_neg hrank, if_pos rfl] at h
      obtain ⟨key, -, h⟩ := bind_eq_ok.mp h
      obtain ⟨value, -, h⟩ := bind_eq_ok.mp h
      exact mapOf_eq_unmapped (Except.ok.inj h)
  | case9 name a b rank t hrank hmap =>
      rw [mapType, if_neg hrank, if_neg hmap] at h
      exact mapMisfit_eq_unmapped h
  | case10 name a b c rest rank t hrank =>
      rw [mapType, if_pos hrank] at h
      exact (Mapping.unmapped.inj (Except.ok.inj h)).symm
  | case11 name a b c rest rank t hrank =>
      rw [mapType, if_neg hrank] at h
      exact mapMisfit_eq_unmapped h

/-- What a schema type mentions are leaves of the managed type, in its order. -/
theorem MapsTo.sublist_leaves {t : TypeReference} {m : TypeMapping} (h : MapsTo s t m) :
    m.internalTypes.Sublist t.leaves := by
  induction h with
  | scalar => exact List.nil_sublist _
  | wellKnown => exact List.nil_sublist _
  | internal =>
      rw [leaves, if_pos rfl]
  | nullable => exact List.nil_sublist _
  | repeated _ ih =>
      rw [leaves, leavesAll, List.append_nil]
      exact ih
  | map _ _ ihk ihv =>
      rw [leaves, leavesAll, leavesAll, List.append_nil]
      exact ihk.append ihv

/-! ## Gathered schemas -/

theorem dotted_ok {segments : List Label} (h : none ∉ segments) :
    ∃ t, dotted segments = .ok t := by
  have hpresent : ∀ segment ∈ segments, ∃ t, TypeDescriptor.present segment = .ok t := by
    intro segment hmem
    cases segment with
    | none => exact absurd hmem h
    | some t => exact ⟨t, rfl⟩
  obtain ⟨texts, htexts⟩ := exists_mapM_eq_ok hpresent
  exact ⟨_, by rw [dotted, htexts]; rfl⟩

section Gathered

variable {a : Assembly} {l : List (TypeDescriptor × Label)}

theorem Discovered.listed_entity (h : s.Discovered l) {n name ns r : Label}
    (hentity : s.entity? n = some (name, ns, r)) :
    ∃ t, (t, r) ∈ l ∧ t.fullName = n ∧ t.name = name ∧ t.ns = ns := by
  unfold entity? at hentity
  cases hm : s.messages.find? n with
  | some m =>
      rw [hm, Option.some.injEq] at hentity
      cases hentity
      exact ⟨m.descriptor, (h.message hm).listed, (h.message hm).keyed, rfl, rfl⟩
  | none =>
      rw [hm] at hentity
      obtain ⟨e, he, hdata⟩ := Option.map_eq_some_iff.mp hentity
      cases hdata
      exact ⟨e.descriptor, (h.enum he).listed, (h.enum he).keyed, rfl, rfl⟩

/-- A discovered type has a qualified name if no type is without a name. -/
theorem Discovered.nameable (ha : a.Named) (hl : Listing none a.types l) (h : s.Discovered l)
    (hcomplete : s.Complete a) (hnamed : ∀ t ∈ a.allTypes, t.name ≠ none) : s.Nameable := by
  intro n hn
  obtain ⟨⟨name, ns, rootMessage⟩, hentity⟩ := contains_iff_entity.mp hn
  obtain ⟨t, ht, -, rfl, -⟩ := h.listed_entity hentity
  have htname := hnamed t (hl.mem_allTypes ht)
  unfold typeName
  rw [hentity]
  cases rootMessage with
  | none =>
      dsimp only
      rw [ok_bind]
      refine dotted_ok ?_
      split
      · simpa using htname.symm
      · simpa using htname.symm
  | some r =>
      obtain ⟨⟨root, hroot, -⟩, -⟩ := h.rootAround ha hl hcomplete ht
      have hrootname : root.name ≠ none := hnamed _ (hl.mem_allTypes (h.message hroot).listed)
      dsimp only
      rw [message_eq_ok_iff.mpr hroot, ok_bind, ok_bind]
      refine dotted_ok ?_
      split
      · simpa using hrootname.symm
      · simpa using hrootname.symm

end Gathered

/-- Looking for the schema type of a type, in a schema that was gathered from an
    assembly in which no type is without a name. -/
theorem mapType_outcome {d : AssemblyDeclaration} {a : Assembly} {s : Schema}
    (hassembly : Assembly.ofDeclaration d = .ok a) (hnamed : ∀ t ∈ a.allTypes, t.name ≠ none)
    (hgather : Schema.gather a {} = .ok s) (t : TypeReference) :
    ((∃ e, s.mapType t = .error e ∧ e.kind = .metadata) ↔
      ∃ x expected, t.Reaches x ∧ x.Misfits expected) ∧
    (∀ e, s.mapType t = .error e → MisfitIn t e) ∧
    (∀ n, s.mapType t = .ok (.unmapped n) → n = t.fullName) ∧
    ∀ m, s.mapType t = .ok (.mapped m) → m.internalTypes.Sublist t.leaves ∧
      ∀ n ∈ m.internalTypes,
        (s.messages.contains (some n) || s.enums.contains (some n)) = true := by
  have ha := Assembly.named_of_ofDeclaration hassembly
  obtain ⟨-, l, hl, hdiscovered⟩ := discovered_of_gather ha hgather
  have hs := hdiscovered.nameable ha hl (complete_of_gather ha hgather) hnamed
  refine ⟨⟨?_, ?_⟩, hs.failsOnly_mapType t, fun n => mapType_eq_unmapped, fun m hm => ?_⟩
  · rintro ⟨e, he, -⟩
    obtain ⟨x, expected, hx, hmisfit, -⟩ := hs.failsOnly_mapType t e he
    exact ⟨x, expected, hx, hmisfit⟩
  · rintro ⟨x, expected, hx, hmisfit⟩
    obtain ⟨e, he⟩ := mapType_error_of_reaches (s := s) hx ⟨_, mapType_of_misfits hmisfit⟩
    obtain ⟨x', expected', -, -, rfl⟩ := hs.failsOnly_mapType t e he
    exact ⟨_, he, rfl⟩
  · have hmaps := mapType_eq_mapped_iff.mp hm
    exact ⟨hmaps.sublist_leaves, hmaps.contains_internal⟩

/-- An assembly with one message and one enum in it. -/
def paletteDeclaration : AssemblyDeclaration where
  name := some "Palette"
  references := some []
  types := some [⟨some "Paint", some "Acme", some .plainClass, some [messageInterface], some [],
    some [], some [⟨some "Color", some "", some .enumeration, some [], some [], some [],
      some []⟩]⟩]

/-- A map field with one argument in a repeated field. -/
def shortMap : TypeReference := ⟨repeatedType, [⟨mapFieldType, [⟨"Acme.Paint", [], 0⟩], 0⟩], 0⟩

/-- A map field from the enum to the message. -/
def colorMap : TypeReference :=
  ⟨mapFieldType, [⟨"Acme.Paint/Color", [], 0⟩, ⟨"Acme.Paint", [], 0⟩], 0⟩

/-- The types that are declared, if all of them have names, and what is gathered from
    them. -/
def gatheredIn (d : AssemblyDeclaration) : Option (Assembly × Schema) := do
  let a ← (Assembly.ofDeclaration d).toOption
  let s ← (Schema.gather a {}).toOption
  if ∀ t ∈ a.allTypes, t.name ≠ none then some (a, s) else none

theorem exists_of_gatheredIn {d : AssemblyDeclaration} {a : Assembly} {s : Schema}
    (h : gatheredIn d = some (a, s)) : Assembly.ofDeclaration d = .ok a ∧
      (∀ t ∈ a.allTypes, t.name ≠ none) ∧ Schema.gather a {} = .ok s := by
  unfold gatheredIn at h
  obtain ⟨a', ha', h⟩ := Option.bind_eq_some_iff.mp h
  obtain ⟨s', hs', h⟩ := Option.bind_eq_some_iff.mp h
  split at h
  · rename_i hnamed
    obtain ⟨rfl, rfl⟩ := Prod.mk.inj (Option.some.inj h)
    exact ⟨eq_ok_of_toOption ha', hnamed, eq_ok_of_toOption hs'⟩
  · cases h

/-- The messages and enums that the schema type of a type mentions, if it has one. -/
def mentioned (s : Schema) (t : TypeReference) : Option (List Text) :=
  match s.mapType t with
  | .ok (.mapped m) => some m.internalTypes
  | _ => none

theorem mentioned_palette : ((gatheredIn paletteDeclaration).map fun x =>
    x.2.mentioned colorMap) =
    some (some [("Acme.Paint/Color" : Text), ("Acme.Paint" : Text)]) := by
  cbv

/-- The schema type of the one cannot be told, that of the other mentions both
    types. -/
theorem mapType_outcome_palette : ∃ a s, Assembly.ofDeclaration paletteDeclaration = .ok a ∧
    (∀ t ∈ a.allTypes, t.name ≠ none) ∧ Schema.gather a {} = .ok s ∧
    (∃ e, s.mapType shortMap = .error e ∧ e.kind = .metadata) ∧
    ∃ m, s.mapType colorMap = .ok (.mapped m) ∧
      m.internalTypes = ["Acme.Paint/Color", "Acme.Paint"] ∧
      m.internalTypes.Sublist colorMap.leaves := by
  obtain ⟨⟨a, s⟩, has, hmentioned⟩ := Option.map_eq_some_iff.mp mentioned_palette
  obtain ⟨hassembly, hnamed, hgather⟩ := exists_of_gatheredIn has
  have hall := mapType_outcome hassembly hnamed hgather
  have herror := (hall shortMap).1.mpr ⟨⟨mapFieldType, [⟨"Acme.Paint", [], 0⟩], 0⟩, 2,
    .inside rfl arity?_repeatedType List.mem_cons_self (.here _),
    rfl, List.cons_ne_nil _ _, arity?_mapFieldType, by decide⟩
  unfold mentioned at hmentioned
  split at hmentioned
  · rename_i m hm
    have hsublist := ((hall colorMap).2.2.2 m hm).1
    exact ⟨a, s, hassembly, hnamed, hgather, herror, m, hm, Option.some.inj hmentioned, hsublist⟩
  · cases hmentioned

end Schema

end SchemaRecovery
