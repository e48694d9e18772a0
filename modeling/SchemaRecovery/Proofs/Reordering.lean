/-
  SchemaRecovery.Proofs.Reordering

  Documents whose types stand in another order. Reading a document gives the
  same declarations in the other order (`follows_assembly`), and so does giving
  full names: which names are given does not depend on the order, and neither
  does whether one is given twice (`follows_ofDeclaration`).
-/
import SchemaRecovery.Proofs.Decoding
import SchemaRecovery.Proofs.Simulation
import SchemaRecovery.Proofs.TypeNames

namespace SchemaRecovery

open TypeDescriptor

/-! ## What is reordered -/

/-- Members with a list under a key among them. -/
def Decode.membersWith (before after : Members) (key : Text) (vs : List Json) : Members :=
  before ++ (key, .arr vs) :: after

/-- An object with a list under a key, among other members. -/
def Json.withList (before after : List (Text × Json)) (key : Text) (vs : List Json) : Json :=
  .obj (Decode.membersWith before after key vs)

/-- The descriptor of a type with the types nested in it in another order, at any
    depth. -/
inductive Json.Reordered : Json → Json → Prop
  | same (v : Json) : Reordered v v
  | nested {before after : List (Text × Json)} {vs vs' : List Json}
      (h : Shuffled Reordered vs vs') :
      Reordered (withList before after "nested_types" vs)
        (withList before after "nested_types" vs')

/-- The documents are the same but for their lists of types, which are related by
    `R`. -/
def Json.WithTypes (R : List Json → List Json → Prop) (v v' : Json) : Prop :=
  ∃ before after vs vs', v = withList before after "types" vs ∧
    v' = withList before after "types" vs' ∧ R vs vs'

/-- The declaration of a type with the declarations in it in another order. -/
inductive TypeDeclaration.Reordered : TypeDeclaration → TypeDeclaration → Prop
  | same (d : TypeDeclaration) : Reordered d d
  | nested {d : TypeDeclaration} {ds ds' : List TypeDeclaration} (h : Shuffled Reordered ds ds') :
      Reordered { d with nested := some ds } { d with nested := some ds' }

/-- A type with the types in it in another order. -/
inductive TypeDescriptor.Reordered : TypeDescriptor → TypeDescriptor → Prop
  | same (t : TypeDescriptor) : Reordered t t
  | nested {t : TypeDescriptor} {ts ts' : List TypeDescriptor} (h : Shuffled Reordered ts ts') :
      Reordered { t with nested := ts } { t with nested := ts' }

/-- A list that may be missing is the same, or in another order with its entries
    related by `R`. -/
inductive Rearranged {α : Type} (R : α → α → Prop) : Option (List α) → Option (List α) → Prop
  | same (l : Option (List α)) : Rearranged R l l
  | shuffled {l l' : List α} (h : Shuffled R l l') : Rearranged R (some l) (some l')

/-- The content of a document with the declarations in another order. -/
structure AssemblyDeclaration.Reordered (T : TypeDeclaration → TypeDeclaration → Prop)
    (d d' : AssemblyDeclaration) : Prop where
  name : d.name = d'.name
  references : d.references = d'.references
  types : Rearranged T d.types d'.types

/-- An assembly with the types in another order. -/
structure Assembly.Reordered (U : TypeDescriptor → TypeDescriptor → Prop) (a a' : Assembly) :
    Prop where
  name : a.name = a'.name
  references : a.references = a'.references
  types : Shuffled U a.types a'.types

/-! ## Reading -/

namespace Decode

theorem lookup_append (before : Members) (k : Text) (x : Json) (after : Members) (key : Text) :
    lookup (before ++ (k, x) :: after) key =
      (lookup before key).or (if k = key then some x else lookup after key) := by
  induction before with
  | nil => rfl
  | cons m rest ih =>
      rw [List.cons_append, lookup, lookup, ih]
      split
      · rfl
      · rfl

/-- Members with another list under a key: what is under the other keys is the
    same, and under that key too or the two lists. -/
theorem lookup_membersWith (before after : Members) (key : Text) (vs vs' : List Json) :
    (∀ k ≠ key, lookup (membersWith before after key vs) k =
        lookup (membersWith before after key vs') k) ∧
      (lookup (membersWith before after key vs) key =
          lookup (membersWith before after key vs') key ∨
        (lookup (membersWith before after key vs) key = some (.arr vs) ∧
          lookup (membersWith before after key vs') key = some (.arr vs'))) := by
  unfold membersWith
  simp only [lookup_append, if_pos]
  constructor
  · intro k hk
    rw [if_neg (Ne.symm hk), if_neg (Ne.symm hk)]
  · cases lookup before key with
    | none => exact Or.inr ⟨rfl, rfl⟩
    | some v => exact Or.inl rfl

theorem requiredLabel_congr {ms ms' : Members} {key : Text}
    (h : lookup ms key = lookup ms' key) : requiredLabel ms key = requiredLabel ms' key := by
  unfold requiredLabel required
  rw [h]

theorem listOf_congr {α : Type} {item : Json → Except Failure α} {ms ms' : Members} {key : Text}
    (h : lookup ms key = lookup ms' key) : listOf item ms key = listOf item ms' key := by
  unfold listOf
  rw [h]

theorem sizeOf_lt_withList (before after : Members) (key : Text) {vs : List Json} {v : Json}
    (hv : v ∈ vs) : sizeOf v < sizeOf (Json.withList before after key vs) := by
  have hmem : (key, Json.arr vs) ∈ membersWith before after key vs := by
    unfold membersWith
    simp
  have hlt := List.sizeOf_lt_of_mem hmem
  have hlt' := List.sizeOf_lt_of_mem hv
  unfold Json.withList
  simp only [Json.obj.sizeOf_spec, Prod.mk.sizeOf_spec, Json.arr.sizeOf_spec] at hlt ⊢
  omega

/-- Lists in another order, if their items are read so. -/
theorem follows_list {α : Type} {T : α → α → Prop} {x x' : Except Failure (Option (List α))}
    {vs vs' : List Json} {item : Json → Except Failure α}
    (hread : x = x' ∨ (x = some <$> vs.mapM item ∧ x' = some <$> vs'.mapM item))
    (hitems : Follows (Shuffled T) (vs.mapM item) (vs'.mapM item)) :
    Follows (Rearranged T) x x' := by
  rcases hread with rfl | ⟨rfl, rfl⟩
  · exact .refl .same x
  · intro read hread
    obtain ⟨ds, hds, rfl⟩ := map_eq_ok.mp hread
    obtain ⟨ds', hds', hs⟩ := hitems ds hds
    exact ⟨some ds', map_eq_ok.mpr ⟨ds', hds', rfl⟩, .shuffled hs⟩

/-- A type with the types nested in it in another order is read as such. -/
theorem follows_type (v v' : Json) (h : v.Reordered v') :
    Follows TypeDeclaration.Reordered (type v) (type v') := by
  cases h with
  | same => exact .refl .same _
  | @nested before after vs vs' hs =>
      obtain ⟨hother, hlist⟩ := lookup_membersWith before after "nested_types" vs vs'
      have htypes := hs.with_mem.mapM fun x x' hx =>
        have := sizeOf_lt_withList before after "nested_types" hx.1
        follows_type x x' hx.2
      have hnested : Follows (Rearranged TypeDeclaration.Reordered)
          (nestedOf (membersWith before after "nested_types" vs))
          (nestedOf (membersWith before after "nested_types" vs')) := by
        refine follows_list (hlist.imp ?_ ?_) htypes
        · intro heq
          unfold nestedOf
          rw [heq]
        · rintro ⟨hvs, hvs'⟩
          unfold nestedOf
          rw [hvs, hvs']
          exact ⟨rfl, rfl⟩
      unfold Json.withList
      rw [type_obj, type_obj, requiredLabel_congr (hother "name" (by decide)),
        hother "namespace" (by decide), hother "kind" (by decide),
        listOf_congr (hother "interfaces" (by decide)), listOf_congr (hother "fields" (by decide)),
        listOf_congr (hother "properties" (by decide))]
      refine .bind_same fun name => .bind_same fun kind => .bind_same fun interfaces =>
        .bind_same fun fields => .bind_same fun properties => ?_
      refine hnested.bind fun nested nested' hnested => .ok ?_
      cases hnested with
      | same => exact .same _
      | shuffled h => exact .nested (d := ⟨name, _, kind, interfaces, fields, properties, none⟩) h
termination_by sizeOf v

/-- A document with its types in another order is read as such. -/
theorem follows_assembly {R : List Json → List Json → Prop}
    {T : TypeDeclaration → TypeDeclaration → Prop} {v v' : Json} (h : v.WithTypes R v')
    (htypes : ∀ {vs vs'}, R vs vs' → Follows (Shuffled T) (vs.mapM type) (vs'.mapM type)) :
    Follows (AssemblyDeclaration.Reordered T) (assembly v) (assembly v') := by
  obtain ⟨before, after, vs, vs', rfl, rfl, hR⟩ := h
  obtain ⟨hother, hlist⟩ := lookup_membersWith before after "types" vs vs'
  have hall : Follows (Rearranged T) (listOf type (membersWith before after "types" vs) "types")
      (listOf type (membersWith before after "types" vs') "types") := by
    refine follows_list (hlist.imp listOf_congr ?_) (htypes hR)
    rintro ⟨hvs, hvs'⟩
    unfold listOf
    rw [hvs, hvs']
    exact ⟨rfl, rfl⟩
  unfold Json.withList assembly
  dsimp only
  rw [hother "name" (by decide), listOf_congr (hother "references" (by decide))]
  split
  · exact .error _
  · refine .bind_same fun references => hall.bind fun ts ts' hts => .ok ?_
    exact ⟨rfl, rfl, hts⟩

end Decode

/-! ## Full names -/

namespace TypeDeclaration

mutual

/-- The type that a declaration gives at a place, whatever is in the index. -/
def settle (place : Surroundings) : TypeDeclaration → Except Failure TypeDescriptor
  | ⟨name, ns, kind, interfaces, fields, properties, nested⟩ => do
    let fullName := place.fullNameFor ns name
    let ns := place.nsFor ns
    let nested ← settlePresent (.inside ns fullName) nested
    return { name, ns, kind, interfaces, fields, properties, fullName,
             declaringType := place.declaringType, nested }

/-- The types of a list that must be there. -/
def settlePresent (place : Surroundings) :
    Option (List TypeDeclaration) → Except Failure (List TypeDescriptor)
  | none => .error .malformed
  | some ds => settleAll place ds

/-- The types of a list. -/
def settleAll (place : Surroundings) :
    List TypeDeclaration → Except Failure (List TypeDescriptor)
  | [] => .ok []
  | d :: rest => do
    let t ← settle place d
    let ts ← settleAll place rest
    return t :: ts

end

theorem settleAll_eq_mapM (place : Surroundings) (ds : List TypeDeclaration) :
    settleAll place ds = ds.mapM (settle place) := by
  induction ds with
  | nil => rw [settleAll, List.mapM_nil]; rfl
  | cons d rest ih => rw [settleAll, ih, List.mapM_cons]

mutual

theorem settle_of_link : ∀ (d : TypeDeclaration) {place : Surroundings} {index : TypeIndex}
    {t : TypeDescriptor} {index' : TypeIndex}, link place index d = .ok (t, index') →
    settle place d = .ok t
  | ⟨name, ns, kind, interfaces, fields, properties, nested⟩, place, index, t, index', h => by
      rw [link] at h
      dsimp only at h
      split at h
      · cases h
      · obtain ⟨⟨ts, index₁⟩, hnested, h⟩ := bind_eq_ok.mp h
        cases h
        rw [settle, settle_of_linkPresent nested hnested]
        rfl

theorem settle_of_linkPresent : ∀ (ds : Option (List TypeDeclaration)) {place : Surroundings}
    {index : TypeIndex} {ts : List TypeDescriptor} {index' : TypeIndex},
    linkPresent place index ds = .ok (ts, index') → settlePresent place ds = .ok ts
  | none, place, index, ts, index', h => by
      rw [linkPresent] at h
      cases h
  | some ds, place, index, ts, index', h => by
      rw [linkPresent] at h
      rw [settlePresent]
      exact settle_of_linkAll ds h

theorem settle_of_linkAll : ∀ (ds : List TypeDeclaration) {place : Surroundings}
    {index : TypeIndex} {ts : List TypeDescriptor} {index' : TypeIndex},
    linkAll place index ds = .ok (ts, index') → settleAll place ds = .ok ts
  | [], place, index, ts, index', h => by
      rw [linkAll] at h
      cases h
      rw [settleAll]
  | d :: rest, place, index, ts, index', h => by
      rw [linkAll] at h
      obtain ⟨⟨t, index₁⟩, hd, h⟩ := bind_eq_ok.mp h
      obtain ⟨⟨ts', index₂⟩, hrest, h⟩ := bind_eq_ok.mp h
      cases h
      rw [settleAll, settle_of_link d hd, ok_bind, settle_of_linkAll rest hrest]
      rfl

end

mutual

/-- Names that are all different and not in the index can be given. -/
theorem link_of_settle : ∀ (d : TypeDeclaration) {place : Surroundings} {index : TypeIndex}
    {t : TypeDescriptor}, settle place d = .ok t →
    (index.keys ++ (family t).map (·.fullName)).Nodup →
    ∃ index', link place index d = .ok (t, index')
  | ⟨name, ns, kind, interfaces, fields, properties, nested⟩, place, index, t, h, hnodup => by
      rw [settle] at h
      obtain ⟨ts, hts, h⟩ := bind_eq_ok.mp h
      cases h
      rw [family, List.map_cons] at hnodup
      have hfree : place.fullNameFor ns name ∉ index.keys := by
        intro hmem
        exact List.disjoint_of_nodup_append hnodup hmem List.mem_cons_self
      -- The types inside are linked with this one in the index, its own list still empty.
      rw [List.append_cons, ← Registry.keys_insert_of_not_mem (x := ⟨name, place.nsFor ns, kind,
        interfaces, fields, properties, place.fullNameFor ns name, place.declaringType, []⟩)
        hfree] at hnodup
      obtain ⟨index', hlink⟩ := link_of_settlePresent nested hts hnodup
      rw [link]
      dsimp only
      rw [if_neg (mt Registry.contains_iff_mem_keys.mp hfree), hlink]
      exact ⟨_, rfl⟩

theorem link_of_settlePresent : ∀ (ds : Option (List TypeDeclaration)) {place : Surroundings}
    {index : TypeIndex} {ts : List TypeDescriptor}, settlePresent place ds = .ok ts →
    (index.keys ++ (families ts).map (·.fullName)).Nodup →
    ∃ index', linkPresent place index ds = .ok (ts, index')
  | none, place, index, ts, h, hnodup => by
      rw [settlePresent] at h
      cases h
  | some ds, place, index, ts, h, hnodup => by
      rw [settlePresent] at h
      rw [linkPresent]
      exact link_of_settleAll ds h hnodup

theorem link_of_settleAll : ∀ (ds : List TypeDeclaration) {place : Surroundings}
    {index : TypeIndex} {ts : List TypeDescriptor}, settleAll place ds = .ok ts →
    (index.keys ++ (families ts).map (·.fullName)).Nodup →
    ∃ index', linkAll place index ds = .ok (ts, index')
  | [], place, index, ts, h, hnodup => by
      rw [settleAll] at h
      cases h
      exact ⟨index, by rw [linkAll]⟩
  | d :: rest, place, index, ts, h, hnodup => by
      rw [settleAll] at h
      obtain ⟨t, ht, h⟩ := bind_eq_ok.mp h
      obtain ⟨ts', hts', h⟩ := bind_eq_ok.mp h
      cases h
      rw [families, List.map_append, ← List.append_assoc] at hnodup
      -- The first type takes its names, which the others do not have.
      obtain ⟨index₁, hlink⟩ := link_of_settle d ht hnodup.of_append_left
      have hkeys := (linked_of_link d hlink).keys
      rw [families_singleton] at hkeys
      rw [← hkeys] at hnodup
      obtain ⟨index₂, hrest⟩ := link_of_settleAll rest hts' hnodup
      refine ⟨index₂, ?_⟩
      rw [linkAll, hlink, ok_bind]
      dsimp only
      rw [hrest]
      rfl

end

/-- A declaration in another order gives a type in another order. -/
theorem follows_settle (d d' : TypeDeclaration) (h : d.Reordered d') (place : Surroundings) :
    Follows TypeDescriptor.Reordered (settle place d) (settle place d') := by
  cases h with
  | same => exact .refl .same _
  | @nested d ds ds' hs =>
      obtain ⟨name, ns, kind, interfaces, fields, properties, nested⟩ := d
      dsimp only
      rw [settle, settle, settlePresent, settlePresent, settleAll_eq_mapM, settleAll_eq_mapM]
      have htypes := fun inside : Surroundings => hs.with_mem.mapM fun x x' hx =>
        have : sizeOf x < sizeOf (some ds) := by
          have hlt := List.sizeOf_lt_of_mem hx.1
          rw [Option.some.sizeOf_spec]
          omega
        follows_settle x x' hx.2 inside
      refine (htypes _).bind fun ts ts' hts => .ok ?_
      exact .nested (t := ⟨name, _, kind, interfaces, fields, properties, _, _, []⟩) hts
termination_by sizeOf d
decreasing_by
  rw [TypeDeclaration.mk.sizeOf_spec]
  omega

/-- Declarations in another order give types in another order. -/
theorem follows_settlePresent {T : TypeDeclaration → TypeDeclaration → Prop}
    {U : TypeDescriptor → TypeDescriptor → Prop} (hU : ∀ t, U t t)
    (hsettle : ∀ d d', T d d' → ∀ place, Follows U (settle place d) (settle place d'))
    {ds ds' : Option (List TypeDeclaration)} (h : Rearranged T ds ds') (place : Surroundings) :
    Follows (Shuffled U) (settlePresent place ds) (settlePresent place ds') := by
  cases h with
  | same =>
      refine .refl (fun ts => ?_) _
      exact .of_forall₂ (List.forall₂_same.mpr fun t _ => hU t)
  | shuffled hs =>
      rw [settlePresent, settlePresent, settleAll_eq_mapM, settleAll_eq_mapM]
      exact hs.mapM fun d d' hd => hsettle d d' hd place

end TypeDeclaration

namespace TypeDescriptor

theorem families_eq_flatMap (ts : List TypeDescriptor) : families ts = ts.flatMap family := by
  induction ts with
  | nil => rw [families]; rfl
  | cons t rest ih => rw [families, ih, List.flatMap_cons]

/-- The full names of the types inside a type, the type itself included. -/
def names (t : TypeDescriptor) : List Label := (family t).map (·.fullName)

theorem map_fullName_families (ts : List TypeDescriptor) :
    (families ts).map (·.fullName) = ts.flatMap names := by
  rw [families_eq_flatMap, List.map_flatMap]
  rfl

/-- Types in another order have the same names in them. -/
theorem Reordered.names_perm (t t' : TypeDescriptor) (h : t.Reordered t') :
    t.names.Perm t'.names := by
  cases h with
  | same => exact .refl _
  | @nested t ts ts' hs =>
      unfold names
      rw [family_eq, family_eq, List.map_cons, List.map_cons, map_fullName_families,
        map_fullName_families]
      refine List.Perm.cons _ (hs.with_mem.flatMap_perm fun x x' hx => ?_)
      have : sizeOf x < sizeOf ts := List.sizeOf_lt_of_mem hx.1
      exact names_perm x x' hx.2
termination_by sizeOf t
decreasing_by
  rw [TypeDescriptor.mk.sizeOf_spec]
  omega

end TypeDescriptor

namespace Assembly

theorem ofDeclaration_eq_ok_iff {d : AssemblyDeclaration} {a : Assembly} :
    ofDeclaration d = .ok a ↔ ∃ ts, TypeDeclaration.settlePresent .top d.types = .ok ts ∧
      (ts.flatMap names).Nodup ∧ a = ofTypes d.name d.references ts := by
  constructor
  · intro h
    have hnamed := named_of_ofDeclaration h
    unfold ofDeclaration at h
    obtain ⟨⟨ts, index⟩, hlink, ha⟩ := bind_eq_ok.mp h
    cases ha
    refine ⟨ts, TypeDeclaration.settle_of_linkPresent d.types hlink, ?_, hnamed.eq_ofTypes⟩
    rw [← map_fullName_families]
    exact hnamed.nodup
  · rintro ⟨ts, hts, hnodup, rfl⟩
    rw [← map_fullName_families, ← List.nil_append (List.map _ _),
      ← Registry.keys_empty (ν := TypeDescriptor)] at hnodup
    obtain ⟨index, hlink⟩ := TypeDeclaration.link_of_settlePresent d.types hts hnodup
    have hok : ofDeclaration d = .ok ⟨d.name, d.references, ts, index⟩ := by
      unfold ofDeclaration
      rw [hlink]
      rfl
    rw [hok, (named_of_ofDeclaration hok).eq_ofTypes]

/-- An assembly of declarations in another order has its types in another
    order. -/
theorem follows_ofDeclaration {T : TypeDeclaration → TypeDeclaration → Prop}
    {U : TypeDescriptor → TypeDescriptor → Prop} (hU : ∀ t, U t t)
    (hsettle : ∀ d d', T d d' → ∀ place,
      Follows U (TypeDeclaration.settle place d) (TypeDeclaration.settle place d'))
    (hnames : ∀ t t', U t t' → t.names.Perm t'.names) {d d' : AssemblyDeclaration}
    (h : d.Reordered T d') :
    Follows (Assembly.Reordered U) (ofDeclaration d) (ofDeclaration d') := by
  intro a ha
  obtain ⟨ts, hts, hnodup, rfl⟩ := ofDeclaration_eq_ok_iff.mp ha
  obtain ⟨ts', hts', hs⟩ :=
    TypeDeclaration.follows_settlePresent hU hsettle h.types .top ts hts
  have hnodup' := (hs.flatMap_perm hnames).nodup_iff.mp hnodup
  exact ⟨_, ofDeclaration_eq_ok_iff.mpr ⟨ts', hts', hnodup', rfl⟩, h.name, h.references, hs⟩

/-- A document with its types in another order. -/
theorem follows_ofJson_perm {v v' : Json} (h : v.WithTypes List.Perm v') :
    Follows (Assembly.Reordered Eq) (ofJson v) (ofJson v') := by
  refine (Decode.follows_assembly (T := Eq) h fun hp => ?_).bind fun d d' hd => ?_
  · exact (Shuffled.of_perm hp).mapM fun x x' hx => .of_eq (congrArg Decode.type hx)
  · refine follows_ofDeclaration (fun _ => rfl) ?_ ?_ hd
    · exact fun d d' hd place => .of_eq (congrArg _ hd)
    · rintro t _ rfl
      exact .refl _

/-- A document with types, and types in these, in another order. -/
theorem follows_ofJson_reordered {v v' : Json} (h : v.WithTypes (Shuffled Json.Reordered) v') :
    Follows (Assembly.Reordered TypeDescriptor.Reordered) (ofJson v) (ofJson v') := by
  refine (Decode.follows_assembly h fun hs => hs.mapM Decode.follows_type).bind fun d d' hd => ?_
  exact follows_ofDeclaration .same TypeDeclaration.follows_settle Reordered.names_perm hd

theorem load_of_read {text : Text} {v : Json} (h : Json.read text = .ok v) :
    load text = ofJson v := by
  unfold load
  rw [h]

end Assembly

end SchemaRecovery
