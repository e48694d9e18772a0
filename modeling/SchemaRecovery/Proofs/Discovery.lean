/-
  SchemaRecovery.Proofs.Discovery

  The messages and enums that are discovered in an assembly. The listing of an
  assembly has every type once, with the full name of the outermost message
  around it; the types nested in a listed one are listed too, and what is around
  them follows from what is around the other (`Listing`). Every message and enum
  that is discovered comes from its entry in the listing, and the types of the
  fields of messages are well named (`discovered_of_discover`).
-/
import SchemaRecovery.Proofs.LabelOrder
import SchemaRecovery.Proofs.ReferenceNames
import SchemaRecovery.Proofs.Registry
import SchemaRecovery.Proofs.Stages
import SchemaRecovery.Proofs.TypeNames

namespace SchemaRecovery

open TypeDescriptor

/-! ## The listing of an assembly -/

/-- The full name of the outermost message around the types nested in `t`,
    given that of the one around `t`. -/
def innerRoot (t : TypeDescriptor) (root : Label) (isMessage : Bool) : Label :=
  if root.isNone && isMessage then t.fullName else root

/-- All types inside those of `ts` once each, with the outermost messages
    around them, `root` being around those of `ts`. -/
structure Listing (root : Label) (ts : List TypeDescriptor)
    (l : List (TypeDescriptor × Label)) : Prop where
  perm : (l.map (·.1)).Perm (families ts)
  roots : ∀ t ∈ ts, (t, root) ∈ l
  below : ∀ {t r}, (t, r) ∈ l → ∃ isMessage, t.implements messageInterface = .ok isMessage ∧
    ∀ y ∈ t.nested, (y, innerRoot t r isMessage) ∈ l

variable {root : Label} {ts : List TypeDescriptor} {l l' : List (TypeDescriptor × Label)}

theorem Listing.of_perm (h : Listing root ts l) (hp : l'.Perm l) : Listing root ts l' where
  perm := (hp.map _).trans h.perm
  roots t ht := hp.mem_iff.mpr (h.roots t ht)
  below hmem := by
    obtain ⟨isMessage, himp, hall⟩ := h.below (hp.mem_iff.mp hmem)
    exact ⟨isMessage, himp, fun y hy => hp.mem_iff.mpr (hall y hy)⟩

theorem Listing.nil (root : Label) : Listing root [] [] where
  perm := by
    rw [families]
    exact .refl []
  roots := by simp
  below hmem := by cases hmem

theorem Listing.append {t : TypeDescriptor} (h : Listing root [t] l) (hs : Listing root ts l') :
    Listing root (t :: ts) (l ++ l') where
  perm := by
    rw [List.map_append, families, ← families_singleton]
    exact h.perm.append hs.perm
  roots := by
    refine List.forall_mem_cons.mpr ⟨?_, fun x hx => ?_⟩
    · exact List.mem_append_left l' (h.roots t List.mem_cons_self)
    · exact List.mem_append_right l (hs.roots x hx)
  below hmem := by
    rcases List.mem_append.mp hmem with hmem | hmem
    · obtain ⟨isMessage, himp, hall⟩ := h.below hmem
      exact ⟨isMessage, himp, fun y hy => List.mem_append_left l' (hall y hy)⟩
    · obtain ⟨isMessage, himp, hall⟩ := hs.below hmem
      exact ⟨isMessage, himp, fun y hy => List.mem_append_right l (hall y hy)⟩

theorem Listing.node {t : TypeDescriptor} {isMessage : Bool}
    (himp : t.implements messageInterface = .ok isMessage)
    (h : Listing (innerRoot t root isMessage) t.nested l) :
    Listing root [t] ((t, root) :: l) where
  perm := by
    rw [families_singleton, family_eq]
    exact h.perm.cons t
  roots := by simp
  below hmem := by
    rcases List.mem_cons.mp hmem with heq | hmem
    · obtain ⟨rfl, rfl⟩ := Prod.mk.inj heq
      exact ⟨isMessage, himp, fun y hy => List.mem_cons_of_mem _ (h.roots y hy)⟩
    · obtain ⟨isMessage', himp', hall⟩ := h.below hmem
      exact ⟨isMessage', himp', fun y hy => List.mem_cons_of_mem _ (hall y hy)⟩

mutual

theorem listing_of_enlist : ∀ (t : TypeDescriptor) {root : Label}
    {l : List (TypeDescriptor × Label)}, Schema.enlist root t = .ok l → Listing root [t] l
  | ⟨name, ns, kind, interfaces, fields, properties, fullName, declaringType, nested⟩, root, l,
    h => by
      rw [Schema.enlist] at h
      obtain ⟨isMessage, himp, h⟩ := bind_eq_ok.mp h
      dsimp only at h
      obtain ⟨below, hbelow, h⟩ := bind_eq_ok.mp h
      obtain ⟨sorted, hsorted, h⟩ := bind_eq_ok.mp h
      cases h
      have hnested := (listing_of_enlistAll nested hbelow).1
      refine Listing.node himp (hnested.of_perm ?_)
      exact (Label.perm_of_sortOn hsorted).flatMap_right _

theorem listing_of_enlistAll : ∀ (ts : List TypeDescriptor) {root : Label}
    {ls : List (Label × List (TypeDescriptor × Label))}, Schema.enlistAll root ts = .ok ls →
    Listing root ts (ls.flatMap (·.2)) ∧ ls.map (·.1) = ts.map (·.fullName)
  | [], root, ls, h => by
      rw [Schema.enlistAll] at h
      cases h
      exact ⟨.nil root, rfl⟩
  | t :: rest, root, ls, h => by
      rw [Schema.enlistAll] at h
      obtain ⟨types, htypes, h⟩ := bind_eq_ok.mp h
      obtain ⟨others, hothers, h⟩ := bind_eq_ok.mp h
      cases h
      obtain ⟨hrest, hnames⟩ := listing_of_enlistAll rest hothers
      refine ⟨?_, by rw [List.map_cons, List.map_cons, hnames]⟩
      exact (listing_of_enlist t htypes).append hrest

end

/-! ## Entering messages and enums -/

/-- A message under its full name that comes from the listing and is not
    analysed yet. -/
structure MessageType.Discovered (l : List (TypeDescriptor × Label)) (name : Label)
    (m : MessageType) : Prop where
  keyed : m.fullName = name
  listed : (m.descriptor, m.rootMessage) ∈ l
  message : m.descriptor.implements messageInterface = .ok true
  named : ∀ f ∈ m.allFields, f.valueType.WellNamed
  unlinked : m.nestedMessages = [] ∧ m.nestedEnums = []
  unneeding : m.imports = ∅ ∧ m.dependsOnMessages = ∅ ∧ m.dependsOnEnums = ∅

/-- An enum under its full name that comes from the listing. -/
structure EnumType.Discovered (l : List (TypeDescriptor × Label)) (name : Label)
    (e : EnumType) : Prop where
  keyed : e.fullName = name
  listed : (e.descriptor, e.rootMessage) ∈ l
  enum : e.descriptor.isEnum = true

/-- All messages and enums come from the listing. -/
structure Schema.Discovered (l : List (TypeDescriptor × Label)) (s : Schema) : Prop where
  message : ∀ {name m}, s.messages.find? name = some m → m.Discovered l name
  enum : ∀ {name e}, s.enums.find? name = some e → e.Discovered l name

theorem Schema.Discovered.insert_message {s : Schema} (h : s.Discovered l) {name : Label}
    {m : MessageType} (hm : m.Discovered l name) :
    ({ s with messages := s.messages.insert name m } : Schema).Discovered l where
  message := by
    intro n x hx
    rw [Registry.find?_insert] at hx
    split at hx
    · rename_i hn
      cases hx
      rw [hn]
      exact hm
    · exact h.message hx
  enum := h.enum

/-- What a type adds when it is entered: a message if it lists the interface, and an
    enum if it is one. -/
theorem Schema.register_eq_ok {s s' : Schema} {t : TypeDescriptor} {r : Label}
    (h : s.register (t, r) = .ok s') : ∃ isMessage,
      t.implements messageInterface = .ok isMessage ∧
      s'.messages = (if isMessage = true then
        s.messages.insert t.fullName { descriptor := t, rootMessage := r } else s.messages) ∧
      (t.isEnum = false ∧ s'.enums = s.enums ∨
        t.isEnum = true ∧ ∃ values, enumValues t = .ok values ∧
          s'.enums = s.enums.insert t.fullName { descriptor := t, rootMessage := r, values }) := by
  unfold Schema.register at h
  dsimp only at h
  obtain ⟨isMessage, himp, h⟩ := bind_eq_ok.mp h
  refine ⟨isMessage, himp, ?_⟩
  split at h
  · rename_i henum
    obtain ⟨values, hvalues, h⟩ := bind_eq_ok.mp h
    cases h
    cases isMessage with
    | true => exact ⟨rfl, Or.inr ⟨henum, values, hvalues, rfl⟩⟩
    | false => exact ⟨rfl, Or.inr ⟨henum, values, hvalues, rfl⟩⟩
  · rename_i hother
    rw [Bool.not_eq_true] at hother
    cases h
    cases isMessage with
    | true => exact ⟨rfl, Or.inl ⟨hother, rfl⟩⟩
    | false => exact ⟨rfl, Or.inl ⟨hother, rfl⟩⟩

/-- A message is there already, or it is that of the type. -/
theorem Schema.message_of_register {s s' : Schema} {t : TypeDescriptor} {r n : Label}
    {m : MessageType} (h : s.register (t, r) = .ok s') (hm : s'.messages.find? n = some m) :
    s.messages.find? n = some m ∨ (t.implements messageInterface = .ok true ∧ n = t.fullName ∧
      m = { descriptor := t, rootMessage := r }) := by
  obtain ⟨isMessage, himp, hmessages, -⟩ := register_eq_ok h
  cases isMessage with
  | false =>
      rw [hmessages] at hm
      exact Or.inl hm
  | true =>
      rw [hmessages, if_pos rfl, Registry.find?_insert] at hm
      split at hm
      · rename_i hn
        exact Or.inr ⟨himp, hn, (Option.some.inj hm).symm⟩
      · exact Or.inl hm

/-- An enum is there already, or it is that of the type. -/
theorem Schema.enum_of_register {s s' : Schema} {t : TypeDescriptor} {r n : Label} {e : EnumType}
    (h : s.register (t, r) = .ok s') (he : s'.enums.find? n = some e) :
    s.enums.find? n = some e ∨ (t.isEnum = true ∧ n = t.fullName ∧
      ∃ values, enumValues t = .ok values ∧ e = { descriptor := t, rootMessage := r, values }) := by
  obtain ⟨-, -, -, ⟨-, henums⟩ | ⟨hisEnum, values, hvalues, henums⟩⟩ := register_eq_ok h
  · rw [henums] at he
    exact Or.inl he
  · rw [henums, Registry.find?_insert] at he
    split at he
    · rename_i hn
      exact Or.inr ⟨hisEnum, hn, values, hvalues, (Option.some.inj he).symm⟩
    · exact Or.inl he

theorem Schema.Discovered.register {s s' : Schema} {entry : TypeDescriptor × Label}
    (h : s.Discovered l) (hentry : entry ∈ l) (hs' : s.register entry = .ok s') :
    s'.Discovered l := by
  obtain ⟨t, r⟩ := entry
  constructor
  · intro n m hm
    rcases message_of_register hs' hm with hm | ⟨himp, rfl, rfl⟩
    · exact h.message hm
    · exact ⟨rfl, hentry, himp, by simp [MessageType.allFields], ⟨rfl, rfl⟩, rfl, rfl, rfl⟩
  · intro n e he
    rcases enum_of_register hs' he with he | ⟨henum, rfl, values, -, rfl⟩
    · exact h.enum he
    · exact ⟨rfl, hentry, henum⟩

/-- The types of an assembly are entered from its listing, which can only be
    put in order if no type without a name stands beside others. -/
theorem gather_eq_ok {a : Assembly} {s : Schema} (ha : a.Named)
    (h : Schema.gather a {} = .ok s) :
    Label.NullAlone (· ∈ a.types.map (·.fullName)) ∧
      ∃ l, Listing none a.types l ∧ l.foldlM Schema.register {} = .ok s := by
  unfold Schema.gather at h
  obtain ⟨ls, hls, h⟩ := bind_eq_ok.mp h
  obtain ⟨sorted, hsorted, h⟩ := bind_eq_ok.mp h
  obtain ⟨hlisting, hnames⟩ := listing_of_enlistAll a.types hls
  -- Types at the top have different names, so only a null can keep them from being sorted.
  have hnodup : (ls.map (·.1)).Nodup := by
    rw [hnames]
    exact ha.nodup.sublist ((sublist_families a.types).map _)
  constructor
  · rcases Label.sortOn_decides hnodup with ⟨-, -, -, halone⟩ | ⟨herr, -⟩
    · rw [hnames] at halone
      exact halone
    · rw [herr] at hsorted
      cases hsorted
  · exact ⟨_, hlisting.of_perm ((Label.perm_of_sortOn hsorted).flatMap_right (·.2)), h⟩

theorem discovered_of_gather {a : Assembly} {s : Schema} (ha : a.Named)
    (h : Schema.gather a {} = .ok s) :
    Label.NullAlone (· ∈ a.types.map (·.fullName)) ∧
      ∃ l, Listing none a.types l ∧ s.Discovered l := by
  obtain ⟨halone, l, hl, hfold⟩ := gather_eq_ok ha h
  refine ⟨halone, l, hl, ?_⟩
  have hempty : ({} : Schema).Discovered l := ⟨fun h => (by cases h), fun h => (by cases h)⟩
  -- Each entry that is registered comes from the listing.
  refine (foldlM_keeps (fun rest (s : Schema) => s.Discovered l ∧ rest ⊆ l) ?_
    ⟨hempty, fun _ hx => hx⟩ hfold).1
  rintro entry rest s s' ⟨hs, hsub⟩ hs'
  exact ⟨hs.register (hsub List.mem_cons_self) hs',
    fun x hx => hsub (List.mem_cons_of_mem entry hx)⟩

/-- Every type that lists the message interface is a message of the schema. -/
def Schema.Complete (a : Assembly) (s : Schema) : Prop :=
  ∀ t ∈ a.allTypes, t.implements messageInterface = .ok true →
    ∃ m, s.messages.find? t.fullName = some m

/-- The messages after a type is entered: those before, and the type if it is a
    message. -/
theorem Schema.found_of_register {s s' : Schema} {t : TypeDescriptor} {r n : Label}
    (h : s.register (t, r) = .ok s')
    (hn : (∃ m, s.messages.find? n = some m) ∨
      (t.implements messageInterface = .ok true ∧ n = t.fullName)) :
    ∃ m, s'.messages.find? n = some m := by
  obtain ⟨isMessage, himp, hmessages, -⟩ := register_eq_ok h
  cases isMessage with
  | false =>
      rw [hmessages]
      refine hn.resolve_right fun hnew => ?_
      rw [hnew.1] at himp
      cases himp
  | true =>
      rw [hmessages, if_pos rfl, Registry.find?_insert]
      split
      · exact ⟨_, rfl⟩
      · rename_i hne
        exact hn.resolve_right fun hnew => hne hnew.2

theorem complete_of_gather {a : Assembly} {s : Schema} (ha : a.Named)
    (h : Schema.gather a {} = .ok s) : s.Complete a := by
  obtain ⟨-, l, hl, hfold⟩ := gather_eq_ok ha h
  intro t ht himp
  obtain ⟨⟨t', r⟩, hmem, rfl⟩ := List.mem_map.mp (hl.perm.mem_iff.mpr ht)
  -- The entry of the type is still to come or has been registered.
  refine (foldlM_keeps (fun rest (s : Schema) => (t', r) ∈ rest ∨
    ∃ m, s.messages.find? t'.fullName = some m) ?_ (Or.inl hmem) hfold).resolve_left
      List.not_mem_nil
  rintro ⟨x, rx⟩ rest s s' hinv hs'
  rcases hinv with hmem | hfound
  · rcases List.mem_cons.mp hmem with heq | hmem
    · obtain ⟨rfl, rfl⟩ := Prod.mk.inj heq
      exact Or.inr (Schema.found_of_register hs' (Or.inr ⟨himp, rfl⟩))
    · exact Or.inl hmem
  · exact Or.inr (Schema.found_of_register hs' (Or.inl hfound))

/-! ## Fields -/

/-- The types of the fields are well named. -/
def WellTyped (fields : List Field) : Prop := ∀ f ∈ fields, f.valueType.WellNamed

theorem WellTyped.concat {fields : List Field} {f : Field} (h : WellTyped fields)
    (hf : f.valueType.WellNamed) : WellTyped (fields ++ [f]) := by
  intro x hx
  rcases List.mem_append.mp hx with hx | hx
  · exact h x hx
  · rw [List.mem_singleton.mp hx]
    exact hf

namespace TypeDescriptor

variable {t : TypeDescriptor}

theorem wellNamed_of_fieldOf {p : PropertyDescriptor} {name : Label} {number : Constant}
    {isMember : Bool} {f : Field} (h : t.fieldOf p name number isMember = .ok f) :
    f.valueType.WellNamed := by
  unfold fieldOf at h
  obtain ⟨valueType, htype, h⟩ := bind_eq_ok.mp h
  obtain ⟨presence, -, h⟩ := bind_eq_ok.mp h
  cases h
  unfold TypeReference.ofLabel at htype
  split at htype
  · cases htype
  · split at htype
    · rename_i ref hparse
      cases htype
      exact TypeReference.wellNamed_of_parse hparse
    · cases htype

theorem wellTyped_of_addMember {oneof : Text} {found found' : List Field × List Field}
    {value : FieldDescriptor} (h : WellTyped found.2)
    (hadd : t.addMember oneof found value = .ok found') : WellTyped found'.2 := by
  unfold addMember at hadd
  dsimp only at hadd
  split at hadd
  · cases hadd
    exact h
  · split at hadd
    · cases hadd
      exact h
    · obtain ⟨property, -, hadd⟩ := bind_eq_ok.mp hadd
      split at hadd
      · cases hadd
      · obtain ⟨member, hmember, hadd⟩ := bind_eq_ok.mp hadd
        split at hadd
        · cases hadd
        · cases hadd
          exact h.concat (wellNamed_of_fieldOf hmember)

theorem wellTyped_of_addOneof {enums : Registry Label EnumType}
    {found found' : List Field × List Oneof} {p : PropertyDescriptor}
    (h : ∀ o ∈ found.2, WellTyped o.members)
    (hadd : addOneof enums t found p = .ok found') : ∀ o ∈ found'.2, WellTyped o.members := by
  unfold addOneof at hadd
  obtain ⟨tells, -, hadd⟩ := bind_eq_ok.mp hadd
  split at hadd
  · cases hadd
    exact h
  · dsimp only at hadd
    obtain ⟨values, -, hadd⟩ := bind_eq_ok.mp hadd
    obtain ⟨⟨seen, members⟩, hfold, hadd⟩ := bind_eq_ok.mp hadd
    cases hadd
    have hmembers : WellTyped members := by
      refine foldlM_keeps (fun _ (x : List Field × List Field) => WellTyped x.2) ?_ ?_ hfold
      · exact fun _ _ _ _ hx hadd => wellTyped_of_addMember hx hadd
      · exact fun f hf => by cases hf
    intro o ho
    rcases List.mem_append.mp ho with ho | ho
    · exact h o ho
    · rw [List.mem_singleton.mp ho]
      exact hmembers

theorem wellTyped_of_addField {found found' : List Field × List Field} {c : FieldDescriptor}
    (h : WellTyped found.2) (hadd : t.addField found c = .ok found') : WellTyped found'.2 := by
  unfold addField at hadd
  obtain ⟨numbered, -, hadd⟩ := bind_eq_ok.mp hadd
  split at hadd
  · cases hadd
    exact h
  · dsimp only at hadd
    obtain ⟨property, -, hadd⟩ := bind_eq_ok.mp hadd
    split at hadd
    · cases hadd
    · obtain ⟨field, hfield, hadd⟩ := bind_eq_ok.mp hadd
      split at hadd
      · cases hadd
        exact h.concat (wellNamed_of_fieldOf hfield)
      · split at hadd
        · cases hadd
          exact h
        · cases hadd

theorem wellTyped_of_recoverFields {enums : Registry Label EnumType}
    {oneofs : List Oneof} {fields : List Field}
    (h : recoverFields enums t = .ok (oneofs, fields)) :
    (∀ o ∈ oneofs, WellTyped o.members) ∧ WellTyped fields := by
  unfold recoverFields at h
  obtain ⟨properties, -, h⟩ := bind_eq_ok.mp h
  obtain ⟨⟨seen, oneofs'⟩, honeofs, h⟩ := bind_eq_ok.mp h
  obtain ⟨constants, -, h⟩ := bind_eq_ok.mp h
  obtain ⟨⟨seen', fields'⟩, hfields, h⟩ := bind_eq_ok.mp h
  cases h
  constructor
  · refine foldlM_keeps (fun _ (x : List Field × List Oneof) => ∀ o ∈ x.2, WellTyped o.members)
      ?_ ?_ honeofs
    · exact fun _ _ _ _ hx hadd => wellTyped_of_addOneof hx hadd
    · exact fun o ho => by cases ho
  · refine foldlM_keeps (fun _ (x : List Field × List Field) => WellTyped x.2) ?_ ?_ hfields
    · exact fun _ _ _ _ hx hadd => wellTyped_of_addField hx hadd
    · exact fun f hf => by cases hf

end TypeDescriptor

theorem MessageType.Discovered.withFields {name : Label} {m m' : MessageType}
    {enums : Registry Label EnumType} (h : m.Discovered l name)
    (hm' : (m.withFields enums).outcome = .ok m') : m'.Discovered l name := by
  unfold MessageType.withFields at hm'
  obtain ⟨⟨oneofs, fields⟩, hfields, hm'⟩ := Logged.outcome_bind_eq_ok.mp hm'
  obtain ⟨honeofs, hplain⟩ := wellTyped_of_recoverFields hfields
  obtain ⟨-, -, hm'⟩ := Logged.outcome_bind_eq_ok.mp hm'
  cases hm'
  refine ⟨h.keyed, h.listed, h.message, fun f hf => ?_, h.unlinked, h.unneeding⟩
  -- Fields that were there before, plain or in a oneof.
  have hbefore : ∀ x, x ∈ m.fields ∨ (∃ o ∈ m.oneofs, x ∈ o.members) → x.valueType.WellNamed := by
    intro x hx
    refine h.named x ?_
    unfold MessageType.allFields
    rw [List.mem_append, List.mem_flatMap]
    exact hx
  unfold MessageType.allFields at hf
  rw [List.mem_append, List.mem_flatMap, List.mem_append] at hf
  rcases hf with (hf | hf) | ⟨o, ho, hf⟩
  · exact hbefore f (Or.inl hf)
  · exact hplain f hf
  · rcases List.mem_append.mp ho with ho | ho
    · exact hbefore f (Or.inr ⟨o, ho, hf⟩)
    · exact honeofs o ho f hf

theorem Schema.Discovered.populateFields {s s' : Schema} (h : s.Discovered l)
    (hs' : s.populateFields.outcome = .ok s') : s'.Discovered l := by
  unfold Schema.populateFields at hs'
  rw [Logged.outcome_foldlM] at hs'
  refine (foldlM_keeps (fun rest (x : Schema) => x.Discovered l ∧ rest ⊆ s.messages.entries) ?_
    ⟨h, fun _ hx => hx⟩ hs').1
  rintro e rest x x' ⟨hx, hsub⟩ hx'
  obtain ⟨m, hm, hx'⟩ := Logged.outcome_bind_eq_ok.mp hx'
  cases hx'
  have he := h.message (Registry.find?_eq_some_iff.mpr (hsub List.mem_cons_self))
  exact ⟨hx.insert_message (he.withFields hm), fun y hy => hsub (List.mem_cons_of_mem e hy)⟩

/-- Recovering the fields of messages makes and drops no message. -/
theorem Schema.keys_populateFields {s s' : Schema} (h : s.populateFields.outcome = .ok s') :
    s'.messages.keys = s.messages.keys := by
  unfold Schema.populateFields at h
  rw [Logged.outcome_foldlM] at h
  refine (foldlM_keeps (fun rest (x : Schema) => x.messages.keys = s.messages.keys ∧
    rest ⊆ s.messages.entries) ?_ ⟨rfl, fun _ hx => hx⟩ h).1
  rintro e rest x x' ⟨hkeys, hsub⟩ hx'
  obtain ⟨m, -, hx'⟩ := Logged.outcome_bind_eq_ok.mp hx'
  cases hx'
  refine ⟨?_, fun y hy => hsub (List.mem_cons_of_mem e hy)⟩
  have hmem : e.1 ∈ x.messages.keys := by
    rw [hkeys]
    exact List.mem_map_of_mem (hsub List.mem_cons_self)
  exact (Registry.keys_insert_of_mem hmem).trans hkeys

theorem Schema.enums_populateFields {s s' : Schema} (h : s.populateFields.outcome = .ok s') :
    s'.enums = s.enums := by
  unfold Schema.populateFields at h
  rw [Logged.outcome_foldlM] at h
  refine foldlM_keeps (fun _ (x : Schema) => x.enums = s.enums) ?_ rfl h
  rintro e rest x x' hx hx'
  obtain ⟨m, -, hx'⟩ := Logged.outcome_bind_eq_ok.mp hx'
  cases hx'
  exact hx

theorem Schema.Complete.populateFields {a : Assembly} {s s' : Schema} (h : s.Complete a)
    (hs' : s.populateFields.outcome = .ok s') : s'.Complete a := by
  intro t ht himp
  rw [← Registry.mem_keys, Schema.keys_populateFields hs', Registry.mem_keys]
  exact h t ht himp

/-- What is discovered in an assembly. -/
theorem discovered_of_discover {a : Assembly} {s : Schema} (ha : a.Named)
    (h : (Recovery.discover a).outcome = .ok s) :
    Label.NullAlone (· ∈ a.types.map (·.fullName)) ∧
      ∃ l, Listing none a.types l ∧ s.Discovered l := by
  obtain ⟨gathered, hgather, hfilled⟩ := Recovery.discover_eq_ok h
  obtain ⟨halone, l, hl, hgathered⟩ := discovered_of_gather ha hgather
  exact ⟨halone, l, hl, hgathered.populateFields hfilled⟩

end SchemaRecovery
