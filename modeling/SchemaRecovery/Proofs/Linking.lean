/-
  SchemaRecovery.Proofs.Linking

  Which documents can be linked. Full names come into the index outer before
  inner, in declared order, and linking stops at the first one that is there
  already (`TypeDeclaration.link_names`). So a document whose lists are all there is
  refused for a repeated name exactly if two of its declarations get the same one,
  and the index of an assembly that was loaded has each type under its full name
  and nothing else (`Assembly.load_full_names`).
-/
import SchemaRecovery.Proofs.Decoding
import SchemaRecovery.Proofs.TypeNames

namespace SchemaRecovery

open TypeDescriptor

/-! ## Names given one after another -/

/-- A name is taken, unless it was before. -/
def takeName (taken : List Label) (n : Label) : Except Failure (List Label) :=
  if n ∈ taken then .error (.duplicateType n) else .ok (taken ++ [n])

/-- The name is the first of a list that stands there for the second time. -/
def FirstRepeated (n : Label) (names : List Label) : Prop :=
  ∃ before after, names = before ++ n :: after ∧ before.Nodup ∧ n ∈ before

theorem FirstRepeated.not_nodup {n : Label} {names : List Label} (h : FirstRepeated n names) :
    ¬ names.Nodup := by
  obtain ⟨before, after, rfl, -, hn⟩ := h
  intro hnodup
  exact List.disjoint_of_nodup_append hnodup hn List.mem_cons_self

theorem exists_firstRepeated {names : List Label} (h : ¬ names.Nodup) :
    ∃ n, FirstRepeated n names := by
  -- Induction from the end: the last name repeats, or one before it does.
  induction names using List.reverseRec with
  | nil => exact absurd List.nodup_nil h
  | append_singleton names last ih =>
      by_cases hnames : names.Nodup
      · refine ⟨last, names, [], rfl, hnames, ?_⟩
        by_contra hlast
        exact h (List.nodup_append_comm.mp (List.nodup_cons.mpr ⟨hlast, hnames⟩))
      · obtain ⟨n, before, after, rfl, hbefore, hn⟩ := ih hnames
        exact ⟨n, before, after ++ [last], by simp, hbefore, hn⟩

theorem takeNames_ok {names taken : List Label} (h : (taken ++ names).Nodup) :
    names.foldlM takeName taken = .ok (taken ++ names) := by
  induction names generalizing taken with
  | nil => rw [List.append_nil]; rfl
  | cons n rest ih =>
      have hfree : n ∉ taken := by
        intro hmem
        exact List.disjoint_of_nodup_append h hmem List.mem_cons_self
      rw [List.append_cons] at h ⊢
      rw [List.foldlM_cons, takeName, if_neg hfree, ok_bind, ih h]

theorem takeNames_repeated {n : Label} {names : List Label} (h : FirstRepeated n names) :
    names.foldlM takeName [] = .error (.duplicateType n) := by
  obtain ⟨before, after, rfl, hbefore, hn⟩ := h
  have hok : before.foldlM takeName [] = .ok before := takeNames_ok hbefore
  rw [List.foldlM_append, hok, ok_bind, List.foldlM_cons, takeName, if_pos hn]
  rfl

/-! ## Names that declarations get -/

namespace TypeDeclaration

mutual

/-- The full names of a declaration at its place and of those in it, outer before
    inner, in declared order. -/
def names (place : Surroundings) : TypeDeclaration → List Label
  | ⟨name, ns, _, _, _, _, nested⟩ =>
    place.fullNameFor ns name ::
      namesPresent (.inside (place.nsFor ns) (place.fullNameFor ns name)) nested

/-- The full names of the declarations of a list, if there is one. -/
def namesPresent (place : Surroundings) : Option (List TypeDeclaration) → List Label
  | none => []
  | some ds => namesAll place ds

/-- The full names of the declarations of a list. -/
def namesAll (place : Surroundings) : List TypeDeclaration → List Label
  | [] => []
  | d :: rest => names place d ++ namesAll place rest

end

mutual

/-- The declarations nested in a declaration are in a list, and so on inside. -/
def Listed : TypeDeclaration → Prop
  | ⟨_, _, _, _, _, _, nested⟩ => ListedPresent nested

/-- There is a list, and its declarations have theirs in lists. -/
def ListedPresent : Option (List TypeDeclaration) → Prop
  | none => False
  | some ds => ListedAll ds

/-- The declarations of a list have theirs in lists. -/
def ListedAll : List TypeDeclaration → Prop
  | [] => True
  | d :: rest => Listed d ∧ ListedAll rest

end

theorem listedAll_of_forall {ds : List TypeDeclaration} (h : ∀ d ∈ ds, d.Listed) :
    ListedAll ds := by
  induction ds with
  | nil => exact trivial
  | cons d rest ih =>
      obtain ⟨hd, hrest⟩ := List.forall_mem_cons.mp h
      exact ⟨hd, ih hrest⟩

mutual

/-- Linking a declaration puts its names into the index one after another. -/
theorem link_names : ∀ (d : TypeDeclaration) (place : Surroundings) (index : TypeIndex),
    d.Listed → (·.2.keys) <$> link place index d = (d.names place).foldlM takeName index.keys
  | ⟨name, ns, kind, interfaces, fields, properties, nested⟩, place, index, h => by
      rw [link, names, List.foldlM_cons, takeName]
      dsimp only
      by_cases hmem : place.fullNameFor ns name ∈ index.keys
      · rw [if_pos hmem, if_pos (Registry.contains_iff_mem_keys.mpr hmem)]
        rfl
      · rw [if_neg hmem, if_neg (mt Registry.contains_iff_mem_keys.mp hmem), ok_bind,
          ← Registry.keys_insert_of_not_mem hmem, ← link_namesPresent nested _ _ h]
        cases hnested : linkPresent (.inside (place.nsFor ns) (place.fullNameFor ns name))
            (index.insert (place.fullNameFor ns name) _) nested with
        | error e => rfl
        | ok found =>
            -- The name is in the index, so the finished type brings no other one.
            obtain ⟨ts, index₁⟩ := found
            have hthere : place.fullNameFor ns name ∈ index₁.keys := by
              rw [(linked_of_linkPresent nested hnested).keys,
                Registry.keys_insert_of_not_mem hmem]
              simp
            exact congrArg Except.ok (Registry.keys_insert_of_mem hthere)

theorem link_namesPresent : ∀ (ds : Option (List TypeDeclaration)) (place : Surroundings)
    (index : TypeIndex), ListedPresent ds →
    (·.2.keys) <$> linkPresent place index ds = (namesPresent place ds).foldlM takeName index.keys
  | none, place, index, h => h.elim
  | some ds, place, index, h => by
      rw [linkPresent, namesPresent]
      exact link_namesAll ds place index h

theorem link_namesAll : ∀ (ds : List TypeDeclaration) (place : Surroundings)
    (index : TypeIndex), ListedAll ds →
    (·.2.keys) <$> linkAll place index ds = (namesAll place ds).foldlM takeName index.keys
  | [], place, index, h => by
      rw [linkAll, namesAll]
      rfl
  | d :: rest, place, index, h => by
      rw [linkAll, namesAll, List.foldlM_append, ← link_names d place index h.1]
      cases link place index d with
      | error e => rfl
      | ok found =>
          obtain ⟨t, index₁⟩ := found
          show (·.2.keys) <$> (do
            let (ts, index₂) ← linkAll place index₁ rest
            return (t :: ts, index₂)) = (namesAll place rest).foldlM takeName index₁.keys
          rw [← link_namesAll rest place index₁ h.2]
          cases linkAll place index₁ rest <;> rfl

end

end TypeDeclaration

/-! ## Types that linking makes -/

/-- The types `ts` are the ones declared at a place. They have the names that
    declarations get there, and each refers to the type around it. -/
structure Declared (place : Surroundings) (names : List Label) (ts : List TypeDescriptor) :
    Prop where
  names_eq : (families ts).map (·.fullName) = names
  declaring : ∀ t ∈ ts, t.declaringType = place.declaringType
  nested : ∀ x ∈ families ts, ∀ y ∈ x.nested, y.declaringType = x.fullName

theorem Declared.nil (place : Surroundings) : Declared place [] [] := by
  refine ⟨?_, by simp, ?_⟩
  · rw [families, List.map_nil]
  · rw [families]
    simp

theorem Declared.append {place : Surroundings} {names names' : List Label} {t : TypeDescriptor}
    {ts : List TypeDescriptor} (h : Declared place names [t]) (hs : Declared place names' ts) :
    Declared place (names ++ names') (t :: ts) := by
  have hnames := h.names_eq
  rw [families_singleton] at hnames
  refine ⟨?_, List.forall_mem_cons.mpr ⟨h.declaring t List.mem_cons_self, hs.declaring⟩, ?_⟩
  · rw [families, List.map_append, hnames, hs.names_eq]
  · intro x hx y hy
    rw [families, List.mem_append] at hx
    rcases hx with hx | hx
    · exact h.nested x (by rwa [families_singleton]) y hy
    · exact hs.nested x hx y hy

theorem Declared.node {place : Surroundings} {names : List Label} {t : TypeDescriptor}
    (hplace : t.declaringType = place.declaringType)
    (h : Declared (.inside t.ns t.fullName) names t.nested) :
    Declared place (t.fullName :: names) [t] := by
  refine ⟨?_, ?_, ?_⟩
  · rw [families_singleton, family_eq, List.map_cons, h.names_eq]
  · intro x hx
    rw [List.mem_singleton.mp hx]
    exact hplace
  · intro x hx y hy
    rw [families_singleton, family_eq, List.mem_cons] at hx
    rcases hx with rfl | hx
    · exact h.declaring y hy
    · exact h.nested x hx y hy

namespace TypeDeclaration

mutual

theorem declared_of_link : ∀ (d : TypeDeclaration) {place : Surroundings} {index : TypeIndex}
    {t : TypeDescriptor} {index' : TypeIndex}, link place index d = .ok (t, index') →
    Declared place (d.names place) [t]
  | ⟨name, ns, kind, interfaces, fields, properties, nested⟩, place, index, t, index', h => by
      rw [link] at h
      dsimp only at h
      split at h
      · cases h
      · rw [bind_eq_ok] at h
        obtain ⟨⟨ts, index₁⟩, hnested, h⟩ := h
        cases h
        rw [names]
        have hinside := declared_of_linkPresent nested hnested
        exact Declared.node (t := ⟨name, place.nsFor ns, kind, interfaces, fields, properties,
          place.fullNameFor ns name, place.declaringType, ts⟩) rfl hinside

theorem declared_of_linkPresent : ∀ (ds : Option (List TypeDeclaration)) {place : Surroundings}
    {index : TypeIndex} {ts : List TypeDescriptor} {index' : TypeIndex},
    linkPresent place index ds = .ok (ts, index') → Declared place (namesPresent place ds) ts
  | none, place, index, ts, index', h => by
      rw [linkPresent] at h
      cases h
  | some ds, place, index, ts, index', h => by
      rw [linkPresent] at h
      rw [namesPresent]
      exact declared_of_linkAll ds h

theorem declared_of_linkAll : ∀ (ds : List TypeDeclaration) {place : Surroundings}
    {index : TypeIndex} {ts : List TypeDescriptor} {index' : TypeIndex},
    linkAll place index ds = .ok (ts, index') → Declared place (namesAll place ds) ts
  | [], place, index, ts, index', h => by
      rw [linkAll] at h
      cases h
      rw [namesAll]
      exact .nil place
  | d :: rest, place, index, ts, index', h => by
      rw [linkAll, bind_eq_ok] at h
      obtain ⟨⟨t, index₁⟩, hd, h⟩ := h
      obtain ⟨⟨ts', index₂⟩, hrest, h⟩ := bind_eq_ok.mp h
      cases h
      rw [namesAll]
      exact (declared_of_link d hd).append (declared_of_linkAll rest hrest)

end

end TypeDeclaration

/-! ## Declarations of a document -/

namespace Decode

/-- The types nested in a descriptor, where it has any, are given as a list, and so
    on inside. -/
inductive NestsLists : Json → Prop where
  | obj {ms : Members} (isList : ∀ w, lookup ms "nested_types" = some w → ∃ vs, w = .arr vs)
      (inside : ∀ vs, lookup ms "nested_types" = some (.arr vs) → ∀ v ∈ vs, NestsLists v) :
      NestsLists (.obj ms)

/-- The types of a document, where it has any, are given as a list, and so on
    inside. -/
def ListsTypes (v : Json) : Prop :=
  ∀ ms, v = .obj ms → ∀ w, lookup ms "types" = some w →
    ∃ vs, w = .arr vs ∧ ∀ v ∈ vs, NestsLists v

theorem NestsLists.of_none {ms : Members} (h : lookup ms "nested_types" = none) :
    NestsLists (.obj ms) := by
  constructor
  · intro w hw
    rw [h] at hw
    cases hw
  · intro vs hvs
    rw [h] at hvs
    cases hvs

theorem NestsLists.of_arr {ms : Members} {vs : List Json}
    (h : lookup ms "nested_types" = some (.arr vs)) (hvs : ∀ v ∈ vs, NestsLists v) :
    NestsLists (.obj ms) := by
  constructor
  · intro w hw
    rw [h] at hw
    cases hw
    exact ⟨vs, rfl⟩
  · intro vs' hvs'
    rw [h] at hvs'
    cases hvs'
    exact hvs

theorem ListsTypes.of_arr {ms : Members} {vs : List Json}
    (h : lookup ms "types" = some (.arr vs)) (hvs : ∀ v ∈ vs, NestsLists v) :
    ListsTypes (.obj ms) := by
  intro ms' hms w hw
  cases hms
  rw [h] at hw
  cases hw
  exact ⟨vs, rfl, hvs⟩

theorem listed_of_type {v : Json} (hlists : NestsLists v) :
    ∀ {d : TypeDeclaration}, type v = .ok d → d.Listed := by
  induction hlists with
  | @obj ms isList inside ih =>
      intro d h
      rw [type_obj] at h
      obtain ⟨name, -, h⟩ := bind_eq_ok.mp h
      obtain ⟨kind, -, h⟩ := bind_eq_ok.mp h
      obtain ⟨interfaces, -, h⟩ := bind_eq_ok.mp h
      obtain ⟨fields, -, h⟩ := bind_eq_ok.mp h
      obtain ⟨properties, -, h⟩ := bind_eq_ok.mp h
      obtain ⟨nested, hnested, h⟩ := bind_eq_ok.mp h
      cases h
      unfold nestedOf at hnested
      split at hnested
      · cases hnested
        exact trivial
      · rename_i w hw
        obtain ⟨vs, rfl⟩ := isList w hw
        obtain ⟨ds, hds, rfl⟩ := map_eq_ok.mp hnested
        refine TypeDeclaration.listedAll_of_forall fun d hd => ?_
        obtain ⟨v, hv, hvd⟩ := exists_of_mem_mapM hds hd
        exact ih vs hw v hv hvd

theorem listed_of_assembly {v : Json} (hlists : ListsTypes v) {d : AssemblyDeclaration}
    (h : assembly v = .ok d) : TypeDeclaration.ListedPresent d.types := by
  unfold assembly at h
  split at h
  · rename_i ms
    split at h
    · cases h
    · obtain ⟨references, -, h⟩ := bind_eq_ok.mp h
      obtain ⟨types, htypes, h⟩ := bind_eq_ok.mp h
      cases h
      unfold listOf at htypes
      split at htypes
      · cases htypes
        exact trivial
      · rename_i w hw
        obtain ⟨vs, rfl, hvs⟩ := hlists ms rfl w hw
        obtain ⟨_, hitems, htypes⟩ := bind_eq_ok.mp htypes
        cases hitems
        obtain ⟨ds, hds, htypes⟩ := bind_eq_ok.mp htypes
        cases htypes
        refine TypeDeclaration.listedAll_of_forall fun d hd => ?_
        obtain ⟨v, hv, hvd⟩ := exists_of_mem_mapM hds hd
        exact listed_of_type (hvs v hv) hvd
  · cases h

end Decode

/-- The full names that the types of a document get. -/
def AssemblyDeclaration.names (d : AssemblyDeclaration) : List Label :=
  TypeDeclaration.namesPresent .top d.types

/-! ## Loaded assemblies -/

namespace Assembly

/-- Full names tell the types of an assembly apart and say where each one is. The
    index has the types in declared order, outer before inner, and finds each one
    under its name. -/
structure Indexed (a : Assembly) : Prop where
  entries : a.index.entries = byFullName a.allTypes
  nodup : (a.allTypes.map (·.fullName)).Nodup
  find : ∀ n t, a.find? n = some t ↔ t ∈ a.allTypes ∧ t.fullName = n
  top : ∀ t ∈ a.types, t.declaringType = none
  ns : ∀ t ∈ a.types, ∀ x ∈ t.family, x.ns = t.ns
  nested : ∀ x ∈ a.allTypes, ∀ y ∈ x.nested,
    y.declaringType = x.fullName ∧ y.fullName = some (x.fullName.text ++ "/" ++ y.name.text)

theorem Named.find?_eq_some_iff {a : Assembly} (h : a.Named) {n : Label} {t : TypeDescriptor} :
    a.find? n = some t ↔ t ∈ a.allTypes ∧ t.fullName = n := by
  unfold find?
  rw [Registry.find?_eq_some_iff, h.entries]
  unfold byFullName
  rw [List.mem_map]
  constructor
  · rintro ⟨x, hx, heq⟩
    cases heq
    exact ⟨hx, rfl⟩
  · rintro ⟨ht, rfl⟩
    exact ⟨t, ht, rfl⟩

theorem indexed_of_ofDeclaration {d : AssemblyDeclaration} {a : Assembly}
    (h : ofDeclaration d = .ok a) : a.Indexed ∧ a.allTypes.map (·.fullName) = d.names := by
  have hnamed := named_of_ofDeclaration h
  unfold ofDeclaration at h
  obtain ⟨⟨ts, index⟩, hlink, hts⟩ := bind_eq_ok.mp h
  cases hts
  have hdeclared := TypeDeclaration.declared_of_linkPresent d.types hlink
  refine ⟨⟨hnamed.entries, hnamed.nodup, fun n t => hnamed.find?_eq_some_iff,
    hdeclared.declaring, ?_, ?_⟩, hdeclared.names_eq⟩
  · intro t ht x hx
    exact hnamed.ns_eq ((TypeDescriptor.sublist_families ts).subset ht) hx
  · intro x hx y hy
    exact ⟨hdeclared.nested x hx y hy, (hnamed.nested x hx y hy).2⟩

theorem ofDeclaration_ok {d : AssemblyDeclaration}
    (hlisted : TypeDeclaration.ListedPresent d.types) (hnames : d.names.Nodup) :
    ∃ a, ofDeclaration d = .ok a := by
  have hlink := TypeDeclaration.link_namesPresent d.types .top ∅ hlisted
  rw [← AssemblyDeclaration.names, Registry.keys_empty, takeNames_ok hnames] at hlink
  obtain ⟨⟨ts, index⟩, hts, -⟩ := map_eq_ok.mp hlink
  refine ⟨{ name := d.name, references := d.references, types := ts, index }, ?_⟩
  unfold ofDeclaration
  rw [hts]
  rfl

theorem ofDeclaration_repeated {d : AssemblyDeclaration} {n : Label}
    (hlisted : TypeDeclaration.ListedPresent d.types) (h : FirstRepeated n d.names) :
    ofDeclaration d = .error (.duplicateType n) := by
  have hlink := TypeDeclaration.link_namesPresent d.types .top ∅ hlisted
  rw [← AssemblyDeclaration.names, Registry.keys_empty, takeNames_repeated h] at hlink
  unfold ofDeclaration
  cases hts : TypeDeclaration.linkPresent .top ∅ d.types with
  | ok found =>
      rw [hts] at hlink
      cases hlink
  | error e =>
      rw [hts] at hlink
      cases hlink
      rfl

theorem ofDeclaration_eq_duplicate_iff {d : AssemblyDeclaration}
    (hlisted : TypeDeclaration.ListedPresent d.types) (n : Label) :
    ofDeclaration d = .error (.duplicateType n) ↔ FirstRepeated n d.names := by
  refine ⟨fun h => ?_, ofDeclaration_repeated hlisted⟩
  by_cases hnames : d.names.Nodup
  · obtain ⟨a, ha⟩ := ofDeclaration_ok hlisted hnames
    rw [ha] at h
    cases h
  · obtain ⟨n', hn'⟩ := exists_firstRepeated hnames
    rw [ofDeclaration_repeated hlisted hn'] at h
    cases h
    exact hn'

theorem load_eq_ofDeclaration {text : Text} {v : Json} {d : AssemblyDeclaration}
    (hread : Json.read text = .ok v) (hd : Decode.assembly v = .ok d) :
    load text = ofDeclaration d := by
  unfold load
  rw [hread]
  dsimp only
  unfold ofJson
  rw [hd, ok_bind]

theorem exists_of_load {text : Text} {a : Assembly} (h : load text = .ok a) :
    ∃ v d, Json.read text = .ok v ∧ Decode.assembly v = .ok d := by
  unfold load at h
  split at h
  · cases h
  · cases h
  · cases h
  · rename_i v hread
    obtain ⟨d, hd, -⟩ := bind_eq_ok.mp h
    exact ⟨v, d, hread, hd⟩

/-- The full names of a document. In an assembly that was loaded each one is that of
    one type only, which the index has under it; they are those that the declarations get,
    in declared order, and nested types have theirs from the types around them. Where
    the types of a document are given in lists, it is refused for a repeated name
    exactly if there is one, and the first one is reported. -/
theorem load_full_names (text : Text) :
    (∀ a, load text = .ok a → a.Indexed) ∧
    ∀ v d, Json.read text = .ok v → Decode.assembly v = .ok d →
      (∀ a, load text = .ok a → a.allTypes.map (·.fullName) = d.names) ∧
      (Decode.ListsTypes v →
        ((∃ n, load text = .error (.duplicateType n)) ↔ ¬ d.names.Nodup) ∧
        ∀ n, load text = .error (.duplicateType n) ↔ FirstRepeated n d.names) := by
  refine ⟨fun a ha => ?_, fun v d hread hd => ?_⟩
  · obtain ⟨v, d, hread, hd⟩ := exists_of_load ha
    rw [load_eq_ofDeclaration hread hd] at ha
    exact (indexed_of_ofDeclaration ha).1
  · rw [load_eq_ofDeclaration hread hd]
    refine ⟨fun a ha => (indexed_of_ofDeclaration ha).2, fun hlists => ?_⟩
    have hlisted := Decode.listed_of_assembly hlists hd
    refine ⟨⟨?_, ?_⟩, ofDeclaration_eq_duplicate_iff hlisted⟩
    · rintro ⟨n, hn⟩
      exact ((ofDeclaration_eq_duplicate_iff hlisted n).mp hn).not_nodup
    · intro hrepeats
      obtain ⟨n, hn⟩ := exists_firstRepeated hrepeats
      exact ⟨n, ofDeclaration_repeated hlisted hn⟩

/-- A type nested in another one, and a type at the top whose name is what the full
    name of that one comes to. -/
def slashedName : Text :=
  "\x7b\"name\":\"\",\"types\":[" ++
  "\x7b\"name\":\"A\",\"nested_types\":[\x7b\"name\":\"B\"\x7d]\x7d," ++
  "\x7b\"name\":\"A/B\"\x7d]\x7d"

/-- A type nested in another one, where the document gives names and namespaces of
    its own choice. -/
def overwrittenNames : Text :=
  "\x7b\"name\":\"\",\"types\":[\x7b\"name\":\"A\",\"namespace\":\"N\",\"full_name\":\"X\"," ++
  "\"nested_types\":[\x7b\"name\":\"B\",\"namespace\":\"M\",\"declaring_type\":\"Y\"\x7d]\x7d]\x7d"

def membersOfSlashed : Decode.Members :=
  [("name", .str "A"), ("nested_types", .arr [.obj [("name", .str "B")]])]

def membersOfOverwritten : Decode.Members :=
  [("name", .str "A"), ("namespace", .str "N"), ("full_name", .str "X"),
    ("nested_types", .arr [.obj [("name", .str "B"), ("namespace", .str "M"),
      ("declaring_type", .str "Y")]])]

/-- A class that a document declares with nothing but a name and a namespace. -/
def classDeclaration (name ns : Text) (nested : List TypeDeclaration) : TypeDeclaration where
  name := some name
  ns := some ns
  kind := some .plainClass
  interfaces := some []
  fields := some []
  properties := some []
  nested := some nested

theorem type_name (name : Text) :
    Decode.type (.obj [("name", .str name)]) = .ok (classDeclaration name "" []) := by
  rw [Decode.type_obj]
  rfl

theorem type_membersOfSlashed : Decode.type (.obj membersOfSlashed) =
    .ok (classDeclaration "A" "" [classDeclaration "B" "" []]) := by
  rw [Decode.type_obj, Decode.nestedOf_arr rfl (mapM_eq_ok_iff.mpr (.cons (type_name "B") .nil))]
  rfl

theorem decode_slashedName :
    Decode.assembly (.obj [("name", .str ""),
      ("types", .arr [.obj membersOfSlashed, .obj [("name", .str "A/B")]])]) =
    .ok ⟨some "", some [], some [classDeclaration "A" "" [classDeclaration "B" "" []],
      classDeclaration "A/B" "" []]⟩ := by
  have htypes := mapM_eq_ok_iff.mpr
    (.cons type_membersOfSlashed (.cons (type_name "A/B") .nil))
  rw [Decode.assembly_of_types rfl rfl htypes]
  rfl

theorem decode_overwrittenNames :
    Decode.assembly (.obj [("name", .str ""), ("types", .arr [.obj membersOfOverwritten])]) =
    .ok ⟨some "", some [], some [classDeclaration "A" "N" [classDeclaration "B" "M" []]]⟩ := by
  have hB : Decode.type (.obj [("name", .str "B"), ("namespace", .str "M"),
      ("declaring_type", .str "Y")]) = .ok (classDeclaration "B" "M" []) := by
    rw [Decode.type_obj]
    rfl
  have hA : Decode.type (.obj membersOfOverwritten) =
      .ok (classDeclaration "A" "N" [classDeclaration "B" "M" []]) := by
    rw [Decode.type_obj, Decode.nestedOf_arr rfl (mapM_eq_ok_iff.mpr (.cons hB .nil))]
    rfl
  rw [Decode.assembly_of_types rfl rfl (mapM_eq_ok_iff.mpr (.cons hA .nil))]
  rfl

set_option maxRecDepth 8000 in
theorem read_slashedName : Json.read slashedName = .ok (.obj [("name", .str ""),
    ("types", .arr [.obj membersOfSlashed, .obj [("name", .str "A/B")]])]) := by
  cbv

set_option maxRecDepth 8000 in
theorem read_overwrittenNames : Json.read overwrittenNames = .ok (.obj [("name", .str ""),
    ("types", .arr [.obj membersOfOverwritten])]) := by
  cbv

/-- The first document is refused for the name that the type at the top shares with
    the nested one. In the second one, what the document says about names has no
    effect. -/
theorem load_full_names_slashed :
    (∃ v d, Json.read slashedName = .ok v ∧ Decode.assembly v = .ok d ∧ Decode.ListsTypes v ∧
      ¬ d.names.Nodup ∧ load slashedName = .error (.duplicateType (some "A/B"))) ∧
    ∃ v d a, Json.read overwrittenNames = .ok v ∧ Decode.assembly v = .ok d ∧
      Decode.ListsTypes v ∧ load overwrittenNames = .ok a ∧ a.Indexed ∧
      a.allTypes.map (·.fullName) = [some ("N.A" : Text), some ("N.A/B" : Text)] := by
  constructor
  · have hlists : Decode.ListsTypes (.obj [("name", .str ""),
        ("types", .arr [.obj membersOfSlashed, .obj [("name", .str "A/B")]])]) := by
      have hB : ∀ v ∈ [Json.obj [("name", .str "B")]], Decode.NestsLists v :=
        List.forall_mem_singleton.mpr (.of_none rfl)
      exact .of_arr rfl (List.forall_mem_cons.mpr
        ⟨.of_arr rfl hB, List.forall_mem_singleton.mpr (.of_none rfl)⟩)
    have hnames :=
      ((load_full_names slashedName).2 _ _ read_slashedName decode_slashedName).2 hlists
    have hfirst : load slashedName = .error (.duplicateType (some "A/B")) :=
      (hnames.2 _).mpr ⟨[some "A", some "A/B"], [], by cbv, by decide, by decide⟩
    exact ⟨_, _, read_slashedName, decode_slashedName, hlists, hnames.1.mp ⟨_, hfirst⟩, hfirst⟩
  · have hlists : Decode.ListsTypes (.obj [("name", .str ""),
        ("types", .arr [.obj membersOfOverwritten])]) := by
      refine .of_arr rfl (List.forall_mem_singleton.mpr (.of_arr rfl ?_))
      exact List.forall_mem_singleton.mpr (.of_none rfl)
    obtain ⟨a, ha⟩ := ofDeclaration_ok (Decode.listed_of_assembly hlists decode_overwrittenNames)
      (by decide)
    rw [← load_eq_ofDeclaration read_overwrittenNames decode_overwrittenNames] at ha
    have hall := load_full_names overwrittenNames
    refine ⟨_, _, a, read_overwrittenNames, decode_overwrittenNames, hlists, ha, hall.1 a ha, ?_⟩
    exact (hall.2 _ _ read_overwrittenNames decode_overwrittenNames).1 a ha

end Assembly

end SchemaRecovery
