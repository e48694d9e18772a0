/-
  SchemaRecovery.Proofs.TypeNames

  The full names of the types of a loaded assembly. Linking puts each type into
  the index under its own (`TypeDeclaration.linked_of_link`), so no two types have
  the same one. A nested type has the namespace of the type around it and a full
  name that goes on from the other's after a slash (`named_of_load`).
-/
import Mathlib.Data.List.Permutation
import SchemaRecovery.Assembly.Link
import SchemaRecovery.Proofs.Outcome
import SchemaRecovery.Proofs.Registry

namespace SchemaRecovery

/-! ## Types inside types -/

namespace TypeDescriptor

theorem family_eq (t : TypeDescriptor) : family t = t :: families t.nested := by
  obtain ⟨name, ns, kind, interfaces, fields, properties, fullName, declaringType, nested⟩ := t
  rw [family]

theorem families_singleton (t : TypeDescriptor) : families [t] = family t := by
  rw [families, families, List.append_nil]

theorem mem_families {ts : List TypeDescriptor} {x : TypeDescriptor} :
    x ∈ families ts ↔ ∃ t ∈ ts, x ∈ family t := by
  induction ts with
  | nil => simp [families]
  | cons t rest ih =>
      rw [families, List.mem_append, ih]
      simp

theorem sublist_families (ts : List TypeDescriptor) : ts.Sublist (families ts) := by
  induction ts with
  | nil => exact List.nil_sublist _
  | cons t rest ih =>
      rw [families, family_eq, List.cons_append]
      exact (ih.trans (List.sublist_append_right _ _)).cons_cons t

mutual

/-- The types nested in one that is inside `t` are inside `t`. -/
theorem nested_mem_family : ∀ (t : TypeDescriptor) {x y : TypeDescriptor},
    x ∈ family t → y ∈ x.nested → y ∈ family t
  | ⟨name, ns, kind, interfaces, fields, properties, fullName, declaringType, nested⟩, x, y,
    hx, hy => by
      rw [family, List.mem_cons] at hx
      rw [family]
      rcases hx with rfl | hx
      · exact List.mem_cons_of_mem _ ((sublist_families nested).subset hy)
      · exact List.mem_cons_of_mem _ (nested_mem_families nested hx hy)

theorem nested_mem_families : ∀ (ts : List TypeDescriptor) {x y : TypeDescriptor},
    x ∈ families ts → y ∈ x.nested → y ∈ families ts
  | [], x, y, hx, hy => by
      rw [families] at hx
      cases hx
  | t :: rest, x, y, hx, hy => by
      rw [families, List.mem_append] at hx ⊢
      rcases hx with hx | hx
      · exact Or.inl (nested_mem_family t hx hy)
      · exact Or.inr (nested_mem_families rest hx hy)

end

/-- A type inside those of a list is one of them or nested in a type inside
    them. -/
theorem mem_or_nested_of_mem_families {ts : List TypeDescriptor} {x : TypeDescriptor}
    (h : x ∈ families ts) : x ∈ ts ∨ ∃ y ∈ families ts, x ∈ y.nested := by
  induction hn : sizeOf ts using Nat.strongRecOn generalizing ts with
  | _ n ih =>
      -- Induction on the size of the list: a type deeper down is inside a nested list.
      obtain ⟨t, ht, hx⟩ := mem_families.mp h
      rw [family_eq, List.mem_cons] at hx
      rcases hx with rfl | hx
      · exact Or.inl ht
      · have hlt : sizeOf t.nested < n := by
          have hmem := List.sizeOf_lt_of_mem ht
          obtain ⟨name, ns, kind, interfaces, fields, properties, fullName, declaringType,
            nested⟩ := t
          rw [TypeDescriptor.mk.sizeOf_spec] at hmem
          dsimp only
          omega
        have hsub : ∀ z ∈ families t.nested, z ∈ families ts := by
          intro z hz
          refine mem_families.mpr ⟨t, ht, ?_⟩
          rw [family_eq]
          exact List.mem_cons_of_mem t hz
        rcases ih _ hlt hx rfl with hx | ⟨y, hy, hxy⟩
        · have hself : t ∈ family t := by rw [family_eq]; exact List.mem_cons_self
          exact Or.inr ⟨t, mem_families.mpr ⟨t, ht, hself⟩, hx⟩
        · exact Or.inr ⟨y, hsub y hy, hxy⟩

end TypeDescriptor

open TypeDescriptor

/-! ## Names given from the outside in -/

/-- What a type is given by the place where it is declared. -/
def Surroundings.Places : Surroundings → TypeDescriptor → Prop
  | top, t => t.fullName = top.fullNameFor t.ns t.name
  | inside ns fullName, t => t.ns = ns ∧ t.fullName = some (fullName.text ++ "/" ++ t.name.text)

/-- The type `y`, which is nested in `x`, has its namespace and name from it. -/
def NestedIn (x y : TypeDescriptor) : Prop := (Surroundings.inside x.ns x.fullName).Places y

/-- Each type with its full name, in the order of the list. -/
def byFullName (ts : List TypeDescriptor) : List (Label × TypeDescriptor) :=
  ts.map fun t => (t.fullName, t)

theorem map_fst_byFullName (ts : List TypeDescriptor) :
    (byFullName ts).map (·.1) = ts.map (·.fullName) := by
  unfold byFullName
  rw [List.map_map]
  rfl

/-- What linking gives: the types and those inside them come into the index behind
    the ones that are there, and nested types have their names from the types around
    them. -/
structure Linked (place : Surroundings) (index : TypeIndex) (ts : List TypeDescriptor)
    (index' : TypeIndex) : Prop where
  entries : index'.entries = index.entries ++ byFullName (families ts)
  placed : ∀ t ∈ ts, place.Places t
  nested : ∀ x ∈ families ts, ∀ y ∈ x.nested, NestedIn x y

theorem Linked.keys {place : Surroundings} {index index' : TypeIndex} {ts : List TypeDescriptor}
    (h : Linked place index ts index') :
    index'.keys = index.keys ++ (families ts).map (·.fullName) := by
  unfold Registry.keys
  rw [h.entries, List.map_append, map_fst_byFullName]

theorem Linked.nil (place : Surroundings) (index : TypeIndex) : Linked place index [] index := by
  refine ⟨?_, by simp, ?_⟩
  · rw [families]
    exact (List.append_nil _).symm
  · rw [families]
    simp

theorem Linked.append {place : Surroundings} {index index₁ index₂ : TypeIndex}
    {t : TypeDescriptor} {ts : List TypeDescriptor} (h : Linked place index [t] index₁)
    (hs : Linked place index₁ ts index₂) : Linked place index (t :: ts) index₂ := by
  have hfamily := h.entries
  rw [families_singleton] at hfamily
  refine ⟨?_, ?_, ?_⟩
  · rw [hs.entries, hfamily, List.append_assoc, families]
    unfold byFullName
    rw [List.map_append]
  · exact List.forall_mem_cons.mpr ⟨h.placed t List.mem_cons_self, hs.placed⟩
  · intro x hx y hy
    rw [families, List.mem_append] at hx
    rcases hx with hx | hx
    · exact h.nested x (by rw [families_singleton]; exact hx) y hy
    · exact hs.nested x hx y hy

/-- A type that comes into the index under a free name, and once more when the types
    nested in it are linked. -/
theorem Linked.node {place : Surroundings} {index index' : TypeIndex} {t started : TypeDescriptor}
    (hplace : place.Places t) (hfree : t.fullName ∉ index.keys)
    (h : Linked (.inside t.ns t.fullName) (index.insert t.fullName started) t.nested index') :
    Linked place index [t] (index'.insert t.fullName t) := by
  refine ⟨?_, ?_, ?_⟩
  -- The second time the type takes the place it was given the first time.
  · have hentries := h.entries
    rw [Registry.entries_insert_of_not_mem hfree, List.append_assoc, List.singleton_append]
      at hentries
    rw [Registry.entries_insert_of_eq hentries, families_singleton, family_eq]
    rfl
  · intro x hx
    rw [List.mem_singleton.mp hx]
    exact hplace
  · intro x hx y hy
    rw [families_singleton, family_eq, List.mem_cons] at hx
    rcases hx with rfl | hx
    · exact h.placed y hy
    · exact h.nested x hx y hy

theorem Surroundings.places_fullNameFor (place : Surroundings) {t : TypeDescriptor}
    {ns : Label} (hns : t.ns = place.nsFor ns) (hname : t.fullName = place.fullNameFor ns t.name) :
    place.Places t := by
  cases place with
  | top =>
      obtain rfl : t.ns = ns := hns
      exact hname
  | inside outer fullName => exact ⟨hns, hname⟩

namespace TypeDeclaration

mutual

theorem linked_of_link : ∀ (d : TypeDeclaration) {place : Surroundings} {index : TypeIndex}
    {t : TypeDescriptor} {index' : TypeIndex}, link place index d = .ok (t, index') →
    Linked place index [t] index'
  | ⟨name, ns, kind, interfaces, fields, properties, nested⟩, place, index, t, index', h => by
      rw [link] at h
      dsimp only at h
      split at h
      · cases h
      · rename_i hfree
        rw [bind_eq_ok] at h
        obtain ⟨⟨ts, index₁⟩, hnested, h⟩ := h
        cases h
        have hinside := linked_of_linkPresent nested hnested
        rw [Registry.contains_iff_mem_keys] at hfree
        exact Linked.node (t := ⟨name, place.nsFor ns, kind, interfaces, fields, properties,
          place.fullNameFor ns name, place.declaringType, ts⟩)
          (place.places_fullNameFor rfl rfl) hfree hinside

theorem linked_of_linkPresent : ∀ (ds : Option (List TypeDeclaration)) {place : Surroundings}
    {index : TypeIndex} {ts : List TypeDescriptor} {index' : TypeIndex},
    linkPresent place index ds = .ok (ts, index') → Linked place index ts index'
  | none, place, index, ts, index', h => by
      rw [linkPresent] at h
      cases h
  | some ds, place, index, ts, index', h => by
      rw [linkPresent] at h
      exact linked_of_linkAll ds h

theorem linked_of_linkAll : ∀ (ds : List TypeDeclaration) {place : Surroundings}
    {index : TypeIndex} {ts : List TypeDescriptor} {index' : TypeIndex},
    linkAll place index ds = .ok (ts, index') → Linked place index ts index'
  | [], place, index, ts, index', h => by
      rw [linkAll] at h
      cases h
      exact .nil place index
  | d :: rest, place, index, ts, index', h => by
      rw [linkAll, bind_eq_ok] at h
      obtain ⟨⟨t, index₁⟩, hd, h⟩ := h
      obtain ⟨⟨ts', index₂⟩, hrest, h⟩ := bind_eq_ok.mp h
      cases h
      exact (linked_of_link d hd).append (linked_of_linkAll rest hrest)

end

end TypeDeclaration

/-! ## Loaded assemblies -/

/-- The index of types, each under its full name. -/
def TypeIndex.of (ts : List TypeDescriptor) : TypeIndex :=
  ts.foldl (fun index t => index.insert t.fullName t) ∅

theorem TypeIndex.entries_of {ts : List TypeDescriptor} (h : (ts.map (·.fullName)).Nodup) :
    (TypeIndex.of ts).entries = byFullName ts := by
  -- Induction from the end: the last type comes behind the others.
  induction ts using List.reverseRec with
  | nil => rfl
  | append_singleton ts t ih =>
      rw [List.map_append, List.map_singleton] at h
      have hts := ih h.of_append_left
      have hfree : t.fullName ∉ (TypeIndex.of ts).keys := by
        unfold Registry.keys
        rw [hts, map_fst_byFullName]
        intro hmem
        exact List.disjoint_of_nodup_append h hmem (List.mem_singleton_self _)
      unfold TypeIndex.of at hts hfree ⊢
      rw [List.foldl_append, List.foldl_cons, List.foldl_nil,
        Registry.entries_insert_of_not_mem hfree, hts]
      unfold byFullName
      rw [List.map_append, List.map_singleton]

/-- A message without fields in the global namespace, as it stands in an
    assembly. -/
def messageNode (name fullName around : Label) (nested : List TypeDescriptor) : TypeDescriptor :=
  ⟨name, some "", some .plainClass, some ["Google.Protobuf.IMessage"], some [], some [], fullName,
    around, nested⟩

namespace Assembly

/-- The assembly of linked types, with all of them in the index. -/
def ofTypes (name : Label) (references : Option (List AssemblyReference))
    (types : List TypeDescriptor) : Assembly :=
  ⟨name, references, types, .of (families types)⟩

/-- The index has each type under its full name, outer before inner, and nothing
    else. Types at the top have their names from their namespaces, and nested types
    from the types around them. -/
structure Named (a : Assembly) : Prop where
  entries : a.index.entries = byFullName a.allTypes
  top : ∀ t ∈ a.types, Surroundings.top.Places t
  nested : ∀ x ∈ a.allTypes, ∀ y ∈ x.nested, NestedIn x y

/-- No two types have the same full name. -/
theorem Named.nodup {a : Assembly} (h : a.Named) : (a.allTypes.map (·.fullName)).Nodup := by
  rw [← map_fst_byFullName, ← h.entries]
  exact a.index.keys_nodup

theorem Named.eq_ofTypes {a : Assembly} (h : a.Named) :
    a = ofTypes a.name a.references a.types := by
  obtain ⟨name, references, types, index⟩ := a
  have hindex : index = .of (families types) := by
    apply Registry.ext_entries
    exact h.entries.trans (TypeIndex.entries_of h.nodup).symm
  rw [hindex]
  rfl

/-- A complete assembly has its names given so. -/
theorem named_of_ofDeclaration {d : AssemblyDeclaration} {a : Assembly}
    (h : ofDeclaration d = .ok a) : a.Named := by
  unfold ofDeclaration at h
  obtain ⟨⟨ts, index⟩, hlink, h⟩ := bind_eq_ok.mp h
  cases h
  have hlinked := TypeDeclaration.linked_of_linkPresent d.types hlink
  exact ⟨hlinked.entries, hlinked.placed, hlinked.nested⟩

/-- The assembly of a document is complete. -/
theorem named_of_load {text : Text} {a : Assembly} (h : load text = .ok a) : a.Named := by
  unfold load at h
  split at h
  · cases h
  · cases h
  · cases h
  · unfold ofJson at h
    obtain ⟨d, -, h⟩ := bind_eq_ok.mp h
    exact named_of_ofDeclaration h

variable {a : Assembly}

theorem Named.eq_of_fullName_eq (h : a.Named) {x y : TypeDescriptor} (hx : x ∈ a.allTypes)
    (hy : y ∈ a.allTypes) (hname : x.fullName = y.fullName) : x = y :=
  List.inj_on_of_nodup_map h.nodup hx hy hname

/-- The types inside a type have its namespace. -/
theorem Named.ns_eq (h : a.Named) {t x : TypeDescriptor} (ht : t ∈ a.allTypes)
    (hx : x ∈ family t) : x.ns = t.ns := by
  -- Induction on the tree: a nested type has the namespace of the one around.
  induction hn : sizeOf t using Nat.strongRecOn generalizing t with
  | _ n ih =>
      rw [family_eq, List.mem_cons, mem_families] at hx
      rcases hx with rfl | ⟨y, hy, hxy⟩
      · rfl
      · have hlt : sizeOf y < n := by
          have hmem := List.sizeOf_lt_of_mem hy
          obtain ⟨name, ns, kind, interfaces, fields, properties, fullName, declaringType,
            nested⟩ := t
          rw [TypeDescriptor.mk.sizeOf_spec] at hn
          dsimp only at hmem
          omega
        rw [ih _ hlt (nested_mem_families a.types ht hy) hxy rfl]
        exact (h.nested t ht y hy).1

end Assembly

end SchemaRecovery
