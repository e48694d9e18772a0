/-
  SchemaRecovery.Proofs.ReorderedSchema

  The schema of an assembly whose types stand in another order. Types are listed
  by full name, so the order of the types at the top does not matter at all
  (`follows_gather_perm`), and that of nested types only for the order in which
  a message declares the types in it (`Schema.Alike`). Fields and nested types
  are found alike too (`follows_populateFields`, `follows_connect`).
-/
import SchemaRecovery.Proofs.Forest
import SchemaRecovery.Proofs.Reordering
import SchemaRecovery.Proofs.Sorting

namespace SchemaRecovery

open TypeDescriptor

/-! ## Types that are alike -/

namespace TypeDescriptor

/-- The type without the types nested in it. -/
def flat (t : TypeDescriptor) : TypeDescriptor := { t with nested := [] }

variable {t t' : TypeDescriptor}

/-- What does not depend on the nested types is the same in types that differ in
    the order of these. -/
theorem Reordered.eq {α : Type} (h : t.Reordered t') (f : TypeDescriptor → α)
    (hf : ∀ t, f t.flat = f t) : f t = f t' := by
  have hflat : t.flat = t'.flat := by
    cases h with
    | same => rfl
    | nested => rfl
  rw [← hf t, hflat, hf]

theorem Reordered.nested_shuffled (h : t.Reordered t') :
    Shuffled Reordered t.nested t'.nested := by
  cases h with
  | same => exact .of_forall₂ (List.forall₂_same.mpr fun x _ => .same x)
  | nested hs => exact hs

theorem sizeOf_lt_of_nested {x : TypeDescriptor} (hx : x ∈ t.nested) : sizeOf x < sizeOf t := by
  have hlt := List.sizeOf_lt_of_mem hx
  obtain ⟨name, ns, kind, interfaces, fields, properties, fullName, declaringType, nested⟩ := t
  rw [TypeDescriptor.mk.sizeOf_spec]
  dsimp only at hlt
  omega

theorem Reordered.fullName_eq (h : t.Reordered t') : t.fullName = t'.fullName :=
  h.eq (·.fullName) fun _ => rfl

end TypeDescriptor

/-- Messages that differ only in the order in which they declare the types in
    them. -/
structure MessageType.Alike (m m' : MessageType) : Prop where
  descriptor : m.descriptor.Reordered m'.descriptor
  rootMessage : m.rootMessage = m'.rootMessage
  fields : m.fields = m'.fields
  oneofs : m.oneofs = m'.oneofs
  nestedMessages : m.nestedMessages.Perm m'.nestedMessages
  nestedEnums : m.nestedEnums.Perm m'.nestedEnums
  imports : m.imports = m'.imports
  dependsOnMessages : m.dependsOnMessages = m'.dependsOnMessages
  dependsOnEnums : m.dependsOnEnums = m'.dependsOnEnums

/-- Enums that differ only in the order of the types in them. -/
structure EnumType.Alike (e e' : EnumType) : Prop where
  descriptor : e.descriptor.Reordered e'.descriptor
  rootMessage : e.rootMessage = e'.rootMessage
  values : e.values = e'.values

/-- Schemas with the same types in the same order, up to the order in which
    messages declare the types in them. -/
structure Schema.Alike (s s' : Schema) : Prop where
  messages : s.messages.Matches MessageType.Alike s'.messages
  enums : s.enums.Matches EnumType.Alike s'.enums

namespace MessageType.Alike

variable {m m' : MessageType} (h : m.Alike m')

include h

theorem name : m.name = m'.name := h.descriptor.eq (·.name) fun _ => rfl

theorem ns : m.ns = m'.ns := h.descriptor.eq (·.ns) fun _ => rfl

theorem fullName : m.fullName = m'.fullName := h.descriptor.fullName_eq

theorem isRoot : m.isRoot = m'.isRoot := by
  unfold MessageType.isRoot
  rw [h.rootMessage]

theorem root : m.root = m'.root := by
  unfold MessageType.root
  rw [h.rootMessage, h.fullName]

theorem allFields : m.allFields = m'.allFields := by
  unfold MessageType.allFields
  rw [h.fields, h.oneofs]

end MessageType.Alike

namespace EnumType.Alike

variable {e e' : EnumType} (h : e.Alike e')

include h

theorem name : e.name = e'.name := h.descriptor.eq (·.name) fun _ => rfl

theorem ns : e.ns = e'.ns := h.descriptor.eq (·.ns) fun _ => rfl

theorem fullName : e.fullName = e'.fullName := h.descriptor.fullName_eq

theorem isRoot : e.isRoot = e'.isRoot := by
  unfold EnumType.isRoot
  rw [h.rootMessage]

end EnumType.Alike

namespace Schema

variable {s s' : Schema}

theorem Alike.message (h : s.Alike s') (n : Label) :
    Follows MessageType.Alike (s.message n) (s'.message n) := by
  unfold Schema.message
  rcases h.messages.find? n with ⟨hm, -⟩ | ⟨m, m', hm, hm', halike⟩
  · rw [hm]
    exact .error _
  · rw [hm, hm']
    exact .ok halike

theorem Alike.enum (h : s.Alike s') (n : Label) :
    Follows EnumType.Alike (s.enum n) (s'.enum n) := by
  unfold Schema.enum
  rcases h.enums.find? n with ⟨he, -⟩ | ⟨e, e', he, he', halike⟩
  · rw [he]
    exact .error _
  · rw [he, he']
    exact .ok halike

/-- Messages are looked up in any order. -/
theorem Alike.mapM_message (h : s.Alike s') {l l' : List Label} (hp : l.Perm l') :
    Follows (Shuffled MessageType.Alike) (l.mapM s.message) (l'.mapM s'.message) := by
  refine (Shuffled.of_perm hp).mapM fun n n' hn => ?_
  rw [← hn]
  exact h.message n

theorem Alike.mapM_enum (h : s.Alike s') {l l' : List Label} (hp : l.Perm l') :
    Follows (Shuffled EnumType.Alike) (l.mapM s.enum) (l'.mapM s'.enum) := by
  refine (Shuffled.of_perm hp).mapM fun n n' hn => ?_
  rw [← hn]
  exact h.enum n

theorem Alike.rootMessages (h : s.Alike s') :
    List.Forall₂ MessageType.Alike s.rootMessages s'.rootMessages :=
  forall₂_filter h.messages.values fun _ _ hm => hm.isRoot

theorem Alike.rootEnums (h : s.Alike s') :
    List.Forall₂ EnumType.Alike s.rootEnums s'.rootEnums :=
  forall₂_filter h.enums.values fun _ _ he => he.isRoot

/-! ## Listing and entering -/

/-- The listings of several types one after another, by full name. -/
def listed (root : Label) (ts : List TypeDescriptor) :
    Except Failure (List (TypeDescriptor × Label)) := do
  let listings ← Label.sortOn (·.1) (← enlistAll root ts)
  return listings.flatMap (·.2)

theorem enlistAll_eq_mapM (root : Label) (ts : List TypeDescriptor) :
    enlistAll root ts = ts.mapM fun t => do return (t.fullName, ← enlist root t) := by
  induction ts with
  | nil => rw [enlistAll, List.mapM_nil]; rfl
  | cons t rest ih =>
      rw [enlistAll, ih, List.mapM_cons, bind_assoc]
      rfl

theorem enlist_eq (root : Label) (t : TypeDescriptor) :
    enlist root t = (do
      let isMessage ← t.implements messageInterface
      let below ← listed (innerRoot t root isMessage) t.nested
      return (t, root) :: below) := by
  obtain ⟨name, ns, kind, interfaces, fields, properties, fullName, declaringType, nested⟩ := t
  rw [enlist]
  unfold listed
  simp only [bind_assoc]
  rfl

theorem gather_eq (a : Assembly) (s : Schema) :
    gather a s = listed none a.types >>= fun l => l.foldlM register s := by
  unfold gather listed
  rw [bind_assoc]
  simp only [bind_assoc]
  rfl

/-- Types in another order give one listing, if the listings of each are
    related. -/
theorem follows_listed {T : TypeDescriptor → TypeDescriptor → Prop}
    {E : TypeDescriptor × Label → TypeDescriptor × Label → Prop} {root : Label}
    {ts ts' : List TypeDescriptor} (hs : Shuffled T ts ts')
    (hname : ∀ t t', T t t' → t.fullName = t'.fullName) (hnodup : (ts.map (·.fullName)).Nodup)
    (hstep : ∀ t t', T t t' → Follows (List.Forall₂ E) (enlist root t) (enlist root t')) :
    Follows (List.Forall₂ E) (listed root ts) (listed root ts') := by
  have hall : Follows (Shuffled fun x x' => x.1 = x'.1 ∧ List.Forall₂ E x.2 x'.2)
      (enlistAll root ts) (enlistAll root ts') := by
    rw [enlistAll_eq_mapM, enlistAll_eq_mapM]
    refine hs.mapM fun t t' ht => (hstep t t' ht).bind fun l l' hl => .ok ?_
    exact ⟨hname t t' ht, hl⟩
  intro l hl
  obtain ⟨ls, hls, hl⟩ := bind_eq_ok.mp hl
  obtain ⟨ls', hls', hshuffled⟩ := hall ls hls
  -- The listings stand under the names of their types, which are different.
  have hkeys : (ls.map (·.1)).Nodup := by
    rw [(listing_of_enlistAll ts hls).2]
    exact hnodup
  have hsorted := (Label.follows_sortOn hshuffled (fun _ _ h => h.1) hkeys).bind
    (S := List.Forall₂ E) (f := fun r => .ok (r.flatMap (·.2)))
    (g := fun r => .ok (r.flatMap (·.2))) fun r r' hr => .ok (List.rel_flatMap hr fun _ _ h => h.2)
  obtain ⟨l', hl', hrel⟩ := hsorted l hl
  refine ⟨l', ?_, hrel⟩
  unfold listed
  rw [hls', ok_bind]
  exact hl'

/-- Entries of two listings whose types differ in the order of the types in
    them. -/
def EntryReordered (e e' : TypeDescriptor × Label) : Prop := e.1.Reordered e'.1 ∧ e.2 = e'.2

theorem nodup_nested_of_names {t : TypeDescriptor} (h : t.names.Nodup) :
    (t.nested.map (·.fullName)).Nodup := by
  unfold names at h
  rw [family_eq, List.map_cons, List.nodup_cons] at h
  exact h.2.sublist ((sublist_families t.nested).map _)

theorem nodup_names_of_mem {ts : List TypeDescriptor} (h : (ts.flatMap names).Nodup)
    {t : TypeDescriptor} (ht : t ∈ ts) : t.names.Nodup :=
  (List.nodup_flatMap.mp h).1 t ht

theorem follows_enlist (t t' : TypeDescriptor) (h : t.Reordered t') (hnodup : t.names.Nodup)
    (root : Label) :
    Follows (List.Forall₂ EntryReordered) (enlist root t) (enlist root t') := by
  have hinner : (t.nested.flatMap names).Nodup := by
    unfold names at hnodup
    rw [family_eq, List.map_cons, List.nodup_cons, map_fullName_families] at hnodup
    exact hnodup.2
  have hbelow := fun inner : Label => follows_listed h.nested_shuffled.with_mem
    (fun _ _ hx => hx.2.fullName_eq) (nodup_nested_of_names hnodup) fun x x' hx =>
      have := sizeOf_lt_of_nested hx.1
      follows_enlist x x' hx.2 (nodup_names_of_mem hinner hx.1) inner
  rw [enlist_eq, enlist_eq, h.eq (·.implements messageInterface) fun _ => rfl]
  refine .bind_same fun isMessage => ?_
  rw [h.eq (fun t => innerRoot t root isMessage) fun _ => rfl]
  exact (hbelow _).bind fun l l' hl => .ok (.cons ⟨h, rfl⟩ hl)
termination_by sizeOf t

/-- Types at the top in another order are entered alike. -/
theorem follows_gather_perm {a a' : Assembly} (ha : a.Named) (h : a.Reordered Eq a') (s : Schema) :
    Follows Eq (gather a s) (gather a' s) := by
  have htop := ha.nodup.sublist ((sublist_families a.types).map _)
  have hlisted : Follows (List.Forall₂ Eq) (listed none a.types) (listed none a'.types) := by
    refine follows_listed h.types (fun _ _ ht => congrArg _ ht) htop fun t t' ht => ?_
    rw [List.forall₂_eq_eq_eq]
    exact .of_eq (congrArg _ ht)
  rw [gather_eq, gather_eq]
  refine hlisted.bind fun l l' hl => ?_
  rw [List.forall₂_eq_eq_eq] at hl
  exact .of_eq (congrArg _ hl)

theorem follows_register {e e' : TypeDescriptor × Label} (h : s.Alike s')
    (he : EntryReordered e e') : Follows Alike (s.register e) (s'.register e') := by
  obtain ⟨t, r⟩ := e
  obtain ⟨t', r'⟩ := e'
  obtain ⟨ht, rfl⟩ := he
  dsimp only at ht
  unfold register
  dsimp only
  rw [ht.eq (·.implements messageInterface) fun _ => rfl, ht.fullName_eq,
    ht.eq TypeDescriptor.isEnum fun _ => rfl, ht.eq enumValues fun _ => rfl]
  refine .bind_same fun isMessage => ?_
  -- First the message, if the type is one; then the enum.
  have hmessage : Alike
      (if isMessage = true then
        { s with
          messages := s.messages.insert t'.fullName { descriptor := t, rootMessage := r } }
      else s)
      (if isMessage = true then
        { s' with
          messages := s'.messages.insert t'.fullName { descriptor := t', rootMessage := r } }
      else s') := by
    split
    · exact ⟨h.messages.insert _ ⟨ht, rfl, rfl, rfl, .refl _, .refl _, rfl, rfl, rfl⟩, h.enums⟩
    · exact h
  split
  · refine .bind_same fun values => .ok ?_
    exact ⟨hmessage.messages, hmessage.enums.insert _ ⟨ht, rfl, rfl⟩⟩
  · exact .ok hmessage

/-- Types in another order, at any depth, are entered alike. -/
theorem follows_gather {a a' : Assembly} (ha : a.Named)
    (h : a.Reordered TypeDescriptor.Reordered a') :
    Follows Alike (gather a {}) (gather a' {}) := by
  have htop := ha.nodup.sublist ((sublist_families a.types).map _)
  have hnames : (a.types.flatMap names).Nodup := by
    rw [← map_fullName_families]
    exact ha.nodup
  have hlisted := follows_listed h.types.with_mem (fun _ _ ht => ht.2.fullName_eq) htop
    fun t t' ht => follows_enlist t t' ht.2 (nodup_names_of_mem hnames ht.1) none
  rw [gather_eq, gather_eq]
  refine hlisted.bind fun l l' hl => ?_
  exact .foldlM hl (fun _ _ _ _ hs he => follows_register hs he) ⟨.empty, .empty⟩

/-! ## Fields -/

theorem follows_oneofOf {enums enums' : Registry Label EnumType}
    (h : enums.Matches EnumType.Alike enums') (p : PropertyDescriptor) :
    Follows (fun x x' => (x = none ∧ x' = none) ∨ ∃ n e e', x = some (n, e) ∧ x' = some (n, e') ∧
      EnumType.Alike e e') (oneofOf enums p) (oneofOf enums' p) := by
  unfold oneofOf
  split
  · exact .ok (Or.inl ⟨rfl, rfl⟩)
  · refine .bind_same fun name => ?_
    split
    · exact .ok (Or.inl ⟨rfl, rfl⟩)
    · refine .bind_same fun ref => ?_
      rcases h.find? (some ref.name) with ⟨he, he'⟩ | ⟨e, e', he, he', halike⟩
      · rw [he, he']
        exact .ok (Or.inl ⟨rfl, rfl⟩)
      · rw [he, he']
        dsimp only
        split
        · exact .ok (Or.inl ⟨rfl, rfl⟩)
        · exact .ok (Or.inr ⟨_, e, e', rfl, rfl, halike⟩)

theorem follows_recoverFields {enums enums' : Registry Label EnumType}
    (h : enums.Matches EnumType.Alike enums') {t t' : TypeDescriptor} (ht : t.Reordered t') :
    Follows Eq (recoverFields enums t) (recoverFields enums' t') := by
  rw [ht.eq (recoverFields enums) fun _ => rfl]
  unfold recoverFields
  refine .bind_same fun properties => ?_
  have honeofs : Follows Eq (properties.foldlM (addOneof enums t') ([], []))
      (properties.foldlM (addOneof enums' t') ([], [])) := by
    refine .foldlM_same properties ?_ rfl
    rintro found _ p rfl
    unfold addOneof
    refine (follows_oneofOf h p).bind fun x x' hx => ?_
    rcases hx with ⟨rfl, rfl⟩ | ⟨n, e, e', rfl, rfl, he⟩
    · exact .of_eq rfl
    · dsimp only
      rw [he.descriptor.eq (·.fields) fun _ => rfl, he.fullName]
      exact .of_eq rfl
  refine honeofs.bind fun found found' hfound => ?_
  rw [hfound]
  exact .of_eq rfl

theorem follows_populateFields (h : s.Alike s') :
    Follows Alike s.populateFields.outcome s'.populateFields.outcome := by
  unfold populateFields
  rw [Logged.outcome_foldlM, Logged.outcome_foldlM]
  refine .foldlM h.messages (fun u u' e e' hu he => ?_) h
  rw [Logged.outcome_bind, Logged.outcome_bind]
  refine Follows.bind (R := MessageType.Alike) ?_ fun m m' hm => .ok ?_
  · unfold MessageType.withFields
    rw [Logged.outcome_bind, Logged.outcome_bind]
    refine (follows_recoverFields hu.enums he.2.descriptor).bind fun found found' hfound => ?_
    rw [hfound]
    refine .ok ?_
    have hm := he.2
    refine ⟨hm.descriptor, hm.rootMessage, ?_, ?_, hm.nestedMessages, hm.nestedEnums, hm.imports,
      hm.dependsOnMessages, hm.dependsOnEnums⟩
    · dsimp only
      rw [hm.fields]
    · dsimp only
      rw [hm.oneofs]
  · rw [he.1]
    exact ⟨hu.messages.insert _ hm, hu.enums⟩

/-! ## Nested types -/

/-- Messages that are alike declare the same types, if no two types in a message
    have one name. -/
theorem perm_nestedTypes {m m' : MessageType} (h : m.Alike m')
    (hone : (m.descriptor.nested.map (·.name)).Nodup) :
    (m.nestedTypes.map (·.fullName)).Perm (m'.nestedTypes.map (·.fullName)) := by
  have hs := h.descriptor.nested_shuffled
  have hname : ∀ t t', Reordered t t' → t.name = t'.name :=
    fun t t' ht => ht.eq (·.name) fun _ => rfl
  have hone' := (hs.map_perm hname).nodup_iff.mp hone
  have hdirect := hs.map_perm fun t t' ht => ht.fullName_eq
  -- There is one container class at most.
  have hcontainer := hs.find? (p := fun t => t.kind == some .staticClass &&
      t.name == some typesContainer) (q := fun t => t.kind == some .staticClass &&
      t.name == some typesContainer) ?_ ?_
  · unfold MessageType.nestedTypes
    rcases hcontainer with ⟨hc, hc'⟩ | ⟨c, c', hc, hc', halike⟩
    · rw [hc, hc']
      simpa using hdirect
    · rw [hc, hc']
      simp only [Option.map_some, Option.getD_some, List.map_append]
      exact hdirect.append (halike.nested_shuffled.map_perm fun t t' ht => ht.fullName_eq)
  · intro t t' ht
    rw [ht.eq (·.kind) fun _ => rfl, hname t t' ht]
  · intro b hb c hc hqb hqc
    rw [Bool.and_eq_true, beq_iff_eq, beq_iff_eq] at hqb hqc
    exact List.inj_on_of_nodup_map hone' hb hc (hqb.2.trans hqc.2.symm)

theorem Alike.linkNested (h : s.Alike s') (hone : ∀ {n m}, s.messages.find? n = some m →
    (m.descriptor.nested.map (·.name)).Nodup) : s.linkNested.Alike s'.linkNested := by
  have hmessages : s.messages.contains = s'.messages.contains := funext h.messages.contains
  have henums : s.enums.contains = s'.enums.contains := funext h.enums.contains
  refine ⟨h.messages.mapValues fun n m m' hm halike => ?_, h.enums⟩
  have hnames := perm_nestedTypes halike (hone (Registry.find?_eq_some_iff.mpr hm))
  unfold MessageType.withNested
  rw [hmessages, henums]
  exact ⟨halike.descriptor, halike.rootMessage, halike.fields, halike.oneofs,
    halike.nestedMessages.append (hnames.filter _), halike.nestedEnums.append (hnames.filter _),
    halike.imports, halike.dependsOnMessages, halike.dependsOnEnums⟩

/-- Walks below messages that are alike meet messages that are alike, in some
    order. -/
theorem follows_descend (h : s.Alike s') {arrange : List Label → List Label}
    (harrange : ∀ l, (arrange l).Perm l) (depth : Nat) {m m' : MessageType} (hm : m.Alike m') :
    Follows (Shuffled MessageType.Alike) (s.descend arrange depth m)
      (s'.descend arrange depth m') := by
  induction depth generalizing m m' with
  | zero => exact .ok .nil
  | succ depth ih =>
      rw [descend, descend]
      have hnames := ((harrange m.nestedMessages).trans hm.nestedMessages).trans
        (harrange m'.nestedMessages).symm
      refine (h.mapM_message hnames).bind fun nested nested' hs => ?_
      refine (hs.mapM fun x x' hx => ih hx).bind fun below below' hbelow => .ok ?_
      exact .cons hm hbelow.flatten

theorem follows_subtree (h : s.Alike s') {m m' : MessageType} (hm : m.Alike m') :
    Follows (Shuffled MessageType.Alike) (s.subtree m) (s'.subtree m') := by
  unfold subtree
  rw [h.messages.size]
  exact follows_descend h (fun l => .refl l) _ hm

theorem follows_family (h : s.Alike s') {m m' : MessageType} (hm : m.Alike m') :
    Follows (Shuffled MessageType.Alike) (s.family m) (s'.family m') := by
  unfold family
  rw [h.messages.size, hm.isRoot]
  split
  · exact follows_descend h List.reverse_perm _ hm
  · exact .error _

/-- Names in another order are looked for with the same result. -/
theorem contains_perm {l l' : List Label} (h : l.Perm l') (n : Label) :
    l.contains n = l'.contains n := by
  rw [Bool.eq_iff_iff, List.contains_iff_mem, List.contains_iff_mem, h.mem_iff]

theorem follows_checkNesting (h : s.Alike s') : Follows Eq s.checkNesting s'.checkNesting := by
  unfold checkNesting
  refine (Follows.mapM h.rootMessages fun m m' hm => follows_family h hm).bind
    fun families families' hfamilies => ?_
  have hfound := (Shuffled.of_forall₂ hfamilies).flatten.map_perm fun m m' hm => hm.fullName
  have hlinked := (Shuffled.of_forall₂ h.messages.values).flatMap_perm fun m m' hm => hm.nestedEnums
  have hunlinked : ((s.enums.values.filter fun e => !e.isRoot &&
        !(s.messages.values.flatMap (·.nestedEnums)).contains e.fullName).map (·.fullName)) =
      (s'.enums.values.filter fun e => !e.isRoot &&
        !(s'.messages.values.flatMap (·.nestedEnums)).contains e.fullName).map (·.fullName) := by
    refine map_eq_of_forall₂ (forall₂_filter h.enums.values fun e e' he => ?_) fun e e' he =>
      he.fullName
    rw [he.isRoot, he.fullName, contains_perm hlinked]
  dsimp only
  simp only [h.messages.keys, contains_perm hfound, hunlinked]
  exact .of_eq rfl

theorem follows_connect (h : s.Alike s') (hone : ∀ {n m}, s.messages.find? n = some m →
    (m.descriptor.nested.map (·.name)).Nodup) : Follows Alike s.connect s'.connect := by
  have hlinked := h.linkNested hone
  unfold connect
  exact (follows_checkNesting hlinked).bind fun _ _ _ => .ok hlinked

/-- No two types that are nested in one type have the same name. -/
theorem nodup_nested_name {a : Assembly} (ha : a.Named) {x : TypeDescriptor}
    (hx : x ∈ a.allTypes) : (x.nested.map (·.name)).Nodup := by
  have hnames := ha.nodup_nested hx
  have heq : x.nested.map (·.fullName) = (x.nested.map (·.name)).map fun name : Label =>
      (some (x.fullName.text ++ "/" ++ name.text) : Label) := by
    rw [List.map_map]
    exact List.map_congr_left fun y hy => (ha.nested x hx y hy).2
  rw [heq] at hnames
  exact hnames.of_map _

end Schema

end SchemaRecovery
