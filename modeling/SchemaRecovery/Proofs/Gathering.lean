/-
  SchemaRecovery.Proofs.Gathering

  What is gathered from an assembly, under which owner and in which order. The
  listing of the types is a depth-first pre-order with siblings in the order of their
  full names (`preOrder_of_enlist`), and it has for each type the outermost message
  around it that has a full name (`Listing.mem_of_nests`). A type that is entered comes
  behind those before it, so the registries are the messages and the enums of the
  listing (`Registers.register`, `registers_of_gather`). Together these say what is
  registered for each type, and that the order in which the types are declared does
  not matter (`gather_registers`).
-/
import SchemaRecovery.Proofs.Connection
import SchemaRecovery.Proofs.ReorderedSchema

namespace SchemaRecovery

open TypeDescriptor

/-! ## Types in their places -/

namespace TypeDescriptor

/-- The type lists the message interface. -/
def isMessage (t : TypeDescriptor) : Bool := (t.interfaces.getD []).contains messageInterface

theorem isMessage_of_implements {t : TypeDescriptor} {isMessage : Bool}
    (h : t.implements messageInterface = .ok isMessage) : t.isMessage = isMessage := by
  obtain ⟨interfaces, hinterfaces, h⟩ := bind_eq_ok.mp h
  cases h
  rw [TypeDescriptor.isMessage, present_eq_ok_iff.mp hinterfaces]
  rfl

/-- The full name of the outermost message among types that are inside each other,
    outermost first. A message without a full name does not count. -/
def outermostMessage (around : List TypeDescriptor) : Label :=
  around.findSome? fun t => if t.isMessage then t.fullName else none

/-- One more type inside the others. -/
theorem outermostMessage_concat (around : List TypeDescriptor) (t : TypeDescriptor) :
    outermostMessage (around ++ [t]) = innerRoot t (outermostMessage around) t.isMessage := by
  unfold outermostMessage
  rw [List.findSome?_append]
  cases around.findSome? fun t => if t.isMessage then t.fullName else none with
  | some r => rfl
  | none =>
      cases hmessage : t.isMessage with
      | true => simp [innerRoot, hmessage]
      | false => simp [innerRoot, hmessage]

end TypeDescriptor

namespace Assembly

/-- The type is in the assembly, and `around` are the types that it is properly inside
    of, outermost first. -/
inductive Nests (a : Assembly) : List TypeDescriptor → TypeDescriptor → Prop
  | top {t : TypeDescriptor} (h : t ∈ a.types) : Nests a [] t
  | inside {around : List TypeDescriptor} {y t : TypeDescriptor} (h : Nests a around y)
      (ht : t ∈ y.nested) : Nests a (around ++ [y]) t

variable {a : Assembly} {around : List TypeDescriptor} {t : TypeDescriptor}

theorem Nests.mem_allTypes (h : a.Nests around t) : t ∈ a.allTypes := by
  induction h with
  | top h => exact (sublist_families a.types).subset h
  | inside _ ht ih => exact nested_mem_families a.types ih ht

mutual

theorem exists_nests_of_family : ∀ (t : TypeDescriptor) {around : List TypeDescriptor}
    {x : TypeDescriptor}, a.Nests around t → x ∈ family t → ∃ around, a.Nests around x
  | ⟨name, ns, kind, interfaces, fields, properties, fullName, declaringType, nested⟩, around, x,
    h, hx => by
      rw [family, List.mem_cons] at hx
      rcases hx with rfl | hx
      · exact ⟨around, h⟩
      · exact exists_nests_of_families nested (fun y hy => ⟨_, h.inside hy⟩) hx

theorem exists_nests_of_families : ∀ (ts : List TypeDescriptor) {x : TypeDescriptor},
    (∀ t ∈ ts, ∃ around, a.Nests around t) → x ∈ families ts → ∃ around, a.Nests around x
  | [], x, _, hx => by
      rw [families] at hx
      cases hx
  | t :: rest, x, h, hx => by
      obtain ⟨⟨around, ht⟩, hrest⟩ := List.forall_mem_cons.mp h
      rw [families, List.mem_append] at hx
      rcases hx with hx | hx
      · exact exists_nests_of_family t ht hx
      · exact exists_nests_of_families rest hrest hx

end

/-- Every type of an assembly, at any depth, has its place there. -/
theorem mem_allTypes_iff_nests : t ∈ a.allTypes ↔ ∃ around, a.Nests around t := by
  constructor
  · exact exists_nests_of_families a.types fun t ht => ⟨[], .top ht⟩
  · rintro ⟨around, h⟩
    exact h.mem_allTypes

end Assembly

/-- The listing has for each type the outermost message around it. -/
theorem Listing.mem_of_nests {a : Assembly} {l : List (TypeDescriptor × Label)}
    (hl : Listing none a.types l) {around : List TypeDescriptor} {t : TypeDescriptor}
    (h : a.Nests around t) : (t, outermostMessage around) ∈ l := by
  -- Induction along the way down: one more type around is what the listing asks of it.
  induction h with
  | top h => exact hl.roots _ h
  | inside _ ht ih =>
      obtain ⟨isMessage, himp, hall⟩ := hl.below ih
      rw [outermostMessage_concat, isMessage_of_implements himp]
      exact hall _ ht

/-! ## Pre-order -/

namespace TypeDescriptor

/-- The types stand in the order of their full names. -/
def InOrder (ts : List TypeDescriptor) : Prop :=
  ts.Pairwise fun t u => Label.le t.fullName u.fullName = true

/-- The depth-first pre-order of several trees: each type comes before those inside it,
    and these before the next tree; the types nested in one come in the order of their
    full names. -/
inductive PreOrder : List TypeDescriptor → List TypeDescriptor → Prop
  | nil : PreOrder [] []
  | cons {t : TypeDescriptor} {siblings rest below others : List TypeDescriptor}
      (perm : siblings.Perm t.nested) (ordered : InOrder siblings)
      (inner : PreOrder siblings below) (outer : PreOrder rest others) :
      PreOrder (t :: rest) (t :: (below ++ others))

theorem PreOrder.append {t : TypeDescriptor} {ts l l' : List TypeDescriptor}
    (h : PreOrder [t] l) (hs : PreOrder ts l') : PreOrder (t :: ts) (l ++ l') := by
  cases h with
  | cons perm ordered inner outer =>
      cases outer
      rw [List.append_nil, List.cons_append]
      exact .cons perm ordered inner hs

/-- The pre-orders of several trees one after another. -/
theorem PreOrder.flatten {ts : List TypeDescriptor} {ls : List (List TypeDescriptor)}
    (h : List.Forall₂ (fun t l => PreOrder [t] l) ts ls) : PreOrder ts ls.flatten := by
  induction h with
  | nil => exact .nil
  | cons ht _ ih =>
      rw [List.flatten_cons]
      exact ht.append ih

end TypeDescriptor

/-- The depth-first pre-order of the assembly, with all siblings in the order of their
    full names. -/
def Assembly.PreOrdered (a : Assembly) (l : List TypeDescriptor) : Prop :=
  ∃ top, top.Perm a.types ∧ InOrder top ∧ PreOrder top l

namespace Schema

/-- The listing of types is a pre-order of them, if that of each is. -/
theorem preOrder_of_listed {root : Label} {ts : List TypeDescriptor}
    {l : List (TypeDescriptor × Label)} (h : listed root ts = .ok l)
    (htree : ∀ t ∈ ts, ∀ l, enlist root t = .ok l → PreOrder [t] (l.map (·.1))) :
    ∃ siblings, siblings.Perm ts ∧ InOrder siblings ∧ PreOrder siblings (l.map (·.1)) := by
  obtain ⟨ls, hls, h⟩ := bind_eq_ok.mp h
  obtain ⟨sorted, hsorted, h⟩ := bind_eq_ok.mp h
  cases h
  rw [enlistAll_eq_mapM, mapM_eq_ok_iff] at hls
  have hlistings : List.Forall₂ (fun x t => x.1 = t.fullName ∧ PreOrder [t] (x.2.map (·.1)))
      ls ts := by
    refine ((List.forall₂_and_left _ _).mpr ⟨htree, hls⟩).flip.imp ?_
    rintro x t ⟨ht, hx⟩
    obtain ⟨types, htypes, hx⟩ := bind_eq_ok.mp hx
    cases hx
    exact ⟨rfl, ht types htypes⟩
  -- The types in the order of their sorted listings.
  obtain ⟨siblings, hmatch, hperm⟩ :=
    List.perm_comp_forall₂ (Label.perm_of_sortOn hsorted) hlistings
  refine ⟨siblings, hperm, ?_, ?_⟩
  · have hordered := Label.pairwise_of_sortOn hsorted
    rw [map_eq_of_forall₂ hmatch fun _ _ hx => hx.1, List.pairwise_map] at hordered
    exact hordered
  · rw [List.flatMap_def, List.map_flatten, List.map_map]
    refine PreOrder.flatten ?_
    rw [List.forall₂_map_right_iff]
    exact hmatch.flip.imp fun _ _ hx => hx.2

theorem preOrder_of_enlist (t : TypeDescriptor) {root : Label}
    {l : List (TypeDescriptor × Label)} (h : enlist root t = .ok l) :
    PreOrder [t] (l.map (·.1)) := by
  rw [enlist_eq] at h
  obtain ⟨isMessage, -, h⟩ := bind_eq_ok.mp h
  obtain ⟨below, hbelow, h⟩ := bind_eq_ok.mp h
  cases h
  obtain ⟨siblings, hperm, hordered, hinner⟩ := preOrder_of_listed hbelow fun x hx l hl =>
    have := sizeOf_lt_of_nested hx
    preOrder_of_enlist x hl
  rw [List.map_cons, ← List.append_nil (List.map _ _)]
  exact .cons hperm hordered hinner .nil
termination_by sizeOf t

/-! ## Entering the listing -/

/-- The registries are the messages and the enums of a listing, in its order. -/
structure Registers (l : List (TypeDescriptor × Label)) (s : Schema) : Prop where
  messages : s.messages.entries = (l.filter (·.1.isMessage)).map fun x =>
    (x.1.fullName, { descriptor := x.1, rootMessage := x.2 })
  enums : List.Forall₂ (fun x (e : Label × EnumType) => e.1 = x.1.fullName ∧
    e.2.descriptor = x.1 ∧ e.2.rootMessage = x.2 ∧ enumValues x.1 = .ok e.2.values)
    (l.filter (·.1.isEnum)) s.enums.entries

variable {l : List (TypeDescriptor × Label)} {s s' : Schema}

theorem Registers.keys_messages (h : Registers l s) :
    s.messages.keys = ((l.map (·.1)).filter (·.isMessage)).map (·.fullName) := by
  unfold Registry.keys
  rw [h.messages, List.map_map, List.filter_map, List.map_map]
  rfl

theorem Registers.keys_enums (h : Registers l s) :
    s.enums.keys = ((l.map (·.1)).filter (·.isEnum)).map (·.fullName) := by
  unfold Registry.keys
  rw [← map_eq_of_forall₂ h.enums fun _ _ he => he.1.symm, List.filter_map, List.map_map]
  rfl

/-- A type of another full name than those before is registered behind them. -/
theorem Registers.register {t : TypeDescriptor} {r : Label} (h : Registers l s)
    (hs' : s.register (t, r) = .ok s') (hnew : t.fullName ∉ l.map (·.1.fullName)) :
    Registers (l ++ [(t, r)]) s' := by
  obtain ⟨isMessage, himp, hmessages, henums⟩ := register_eq_ok hs'
  have hfree : ∀ p : TypeDescriptor → Bool,
      t.fullName ∉ ((l.map (·.1)).filter p).map (·.fullName) := by
    intro p hmem
    have hlisted := (List.filter_sublist.map _).subset hmem
    rw [List.map_map] at hlisted
    exact hnew hlisted
  constructor
  · rw [hmessages, List.filter_append, List.map_append, ← h.messages]
    cases isMessage with
    | false => simp [isMessage_of_implements himp]
    | true =>
        rw [if_pos rfl, Registry.entries_insert_of_not_mem (h.keys_messages ▸ hfree _)]
        simp [isMessage_of_implements himp]
  · rw [List.filter_append]
    rcases henums with ⟨henum, heq⟩ | ⟨henum, values, hvalues, heq⟩
    · rw [heq]
      simpa [henum] using h.enums
    · rw [heq, Registry.entries_insert_of_not_mem (h.keys_enums ▸ hfree _)]
      refine List.rel_append h.enums ?_
      simpa [henum] using hvalues

theorem listing_of_listed {root : Label} {ts : List TypeDescriptor} (h : listed root ts = .ok l) :
    Listing root ts l := by
  obtain ⟨ls, hls, h⟩ := bind_eq_ok.mp h
  obtain ⟨sorted, hsorted, h⟩ := bind_eq_ok.mp h
  cases h
  exact (listing_of_enlistAll ts hls).1.of_perm ((Label.perm_of_sortOn hsorted).flatMap_right _)

/-- What is gathered from an assembly, by the listing of its types. -/
theorem registers_of_gather {a : Assembly} (ha : a.Named) (h : gather a {} = .ok s) :
    ∃ l, Listing none a.types l ∧ a.PreOrdered (l.map (·.1)) ∧ Registers l s := by
  rw [gather_eq] at h
  obtain ⟨l, hl, hfold⟩ := bind_eq_ok.mp h
  have hlisting := listing_of_listed hl
  refine ⟨l, hlisting, preOrder_of_listed hl fun t _ _ ht => preOrder_of_enlist t ht, ?_⟩
  have hnodup := hlisting.nodup ha
  -- The entries that are done and those still to come make up the listing.
  have hstep : ∀ e rest (s s' : Schema), (∃ done, l = done ++ e :: rest ∧ Registers done s) →
      s.register e = .ok s' → ∃ done, l = done ++ rest ∧ Registers done s' := by
    rintro ⟨t, r⟩ rest s s' ⟨done, hdone, hs⟩ hs'
    refine ⟨done ++ [(t, r)], by rw [hdone, List.append_assoc, List.singleton_append], ?_⟩
    refine hs.register hs' fun hmem => ?_
    rw [hdone, List.map_append, List.map_cons] at hnodup
    exact List.disjoint_of_nodup_append hnodup hmem List.mem_cons_self
  obtain ⟨done, hdone, hs⟩ := foldlM_keeps
    (fun rest (s : Schema) => ∃ done, l = done ++ rest ∧ Registers done s) hstep
    ⟨[], rfl, rfl, .nil⟩ hfold
  rw [List.append_nil] at hdone
  rw [hdone]
  exact hs

/-! ## What is registered for a type -/

/-- What is registered for a type: a message exactly if it lists the message interface,
    and an enum exactly if it is of that kind, both with `root` as their root message. -/
structure RegistersAs (s : Schema) (t : TypeDescriptor) (root : Label) : Prop where
  message : s.messages.contains t.fullName = true ↔ t.isMessage = true
  enum : s.enums.contains t.fullName = true ↔ t.kind = some .enumeration
  messageEntry : ∀ m, s.messages.find? t.fullName = some m →
    m = { descriptor := t, rootMessage := root }
  enumEntry : ∀ e, s.enums.find? t.fullName = some e →
    e.descriptor = t ∧ e.rootMessage = root ∧ enumValues t = .ok e.values

section Listed

variable {a : Assembly} (ha : a.Named) (hl : Listing none a.types l) (h : Registers l s)
  {t : TypeDescriptor} {r : Label} (ht : (t, r) ∈ l)

include ha hl h ht

theorem Registers.find?_messages_iff {m : MessageType} : s.messages.find? t.fullName = some m ↔
    t.isMessage = true ∧ m = { descriptor := t, rootMessage := r } := by
  rw [Registry.find?_eq_some_iff, h.messages, List.mem_map]
  constructor
  · rintro ⟨⟨t', r'⟩, hmem, heq⟩
    obtain ⟨hname, rfl⟩ := Prod.mk.inj heq
    obtain ⟨hmem, hisMessage⟩ := List.mem_filter.mp hmem
    obtain ⟨rfl, rfl⟩ := hl.unique ha hmem ht hname
    exact ⟨hisMessage, rfl⟩
  · rintro ⟨hisMessage, rfl⟩
    exact ⟨(t, r), List.mem_filter.mpr ⟨ht, hisMessage⟩, rfl⟩

theorem Registers.of_find?_enums {e : EnumType} (he : s.enums.find? t.fullName = some e) :
    t.isEnum = true ∧ e.descriptor = t ∧ e.rootMessage = r ∧ enumValues t = .ok e.values := by
  obtain ⟨⟨t', r'⟩, hmem, hname, hentry⟩ :=
    exists_left_of_forall₂ h.enums (Registry.find?_eq_some_iff.mp he)
  obtain ⟨hmem, hisEnum⟩ := List.mem_filter.mp hmem
  obtain ⟨rfl, rfl⟩ := hl.unique ha ht hmem hname
  exact ⟨hisEnum, hentry⟩

omit ha hl in
theorem Registers.exists_find?_enums (hisEnum : t.isEnum = true) :
    ∃ e, s.enums.find? t.fullName = some e := by
  obtain ⟨⟨n, e⟩, he, rfl, -⟩ :=
    exists_right_of_forall₂ h.enums (List.mem_filter.mpr ⟨ht, hisEnum⟩)
  exact ⟨e, Registry.find?_eq_some_iff.mpr he⟩

/-- The listing tells what is registered for each of its types. -/
theorem Registers.registersAs : s.RegistersAs t r where
  message := by
    rw [Registry.contains_iff]
    refine ⟨?_, fun hisMessage => ⟨_, (h.find?_messages_iff ha hl ht).mpr ⟨hisMessage, rfl⟩⟩⟩
    rintro ⟨m, hm⟩
    exact ((h.find?_messages_iff ha hl ht).mp hm).1
  enum := by
    rw [Registry.contains_iff, ← beq_iff_eq]
    refine ⟨?_, h.exists_find?_enums ht⟩
    rintro ⟨e, he⟩
    exact (h.of_find?_enums ha hl ht he).1
  messageEntry _ hm := ((h.find?_messages_iff ha hl ht).mp hm).2
  enumEntry _ he := (h.of_find?_enums ha hl ht he).2

end Listed

/-- What is gathered from an assembly. For each type, at any depth, it is a message if it
    lists the message interface and an enum if it is one, with the outermost message
    around it that has a full name. Both registries are in depth-first pre-order with
    siblings in the order of their full names, in whatever order types are declared. -/
theorem gather_registers {d : AssemblyDeclaration} {a : Assembly} {s : Schema}
    (hassembly : Assembly.ofDeclaration d = .ok a) (hgather : gather a {} = .ok s) :
    (∀ t ∈ a.allTypes, (∃ around, a.Nests around t) ∧
      ∀ around, a.Nests around t → s.RegistersAs t (outermostMessage around)) ∧
    (∃ l, l.Perm a.allTypes ∧ a.PreOrdered l ∧
      s.messages.keys = (l.filter (·.isMessage)).map (·.fullName) ∧
      s.enums.keys = (l.filter (·.isEnum)).map (·.fullName)) ∧
    ∀ d', d.Reordered TypeDeclaration.Reordered d' → ∃ a' s',
      Assembly.ofDeclaration d' = .ok a' ∧ gather a' {} = .ok s' ∧
        s'.messages.keys = s.messages.keys ∧ s'.enums.keys = s.enums.keys := by
  have ha := Assembly.named_of_ofDeclaration hassembly
  obtain ⟨l, hl, hordered, h⟩ := registers_of_gather ha hgather
  refine ⟨fun t ht => ⟨Assembly.mem_allTypes_iff_nests.mp ht, fun around hnests => ?_⟩,
    ⟨l.map (·.1), hl.perm, hordered, h.keys_messages, h.keys_enums⟩, fun d' hd => ?_⟩
  · exact h.registersAs ha hl (hl.mem_of_nests hnests)
  · obtain ⟨a', hassembly', hreordered⟩ := Assembly.follows_ofDeclaration .same
      TypeDeclaration.follows_settle Reordered.names_perm hd a hassembly
    obtain ⟨s', hgather', halike⟩ := follows_gather ha hreordered s hgather
    exact ⟨a', s', hassembly', hgather', halike.messages.keys.symm, halike.enums.keys.symm⟩

/-- A class without members. -/
def plainNode (name : Text) (kind : TypeKind) (fullName : Text) (around : Label)
    (nested : List TypeDescriptor) : TypeDescriptor :=
  ⟨some name, some "", some kind, some [], some [], some [], some fullName, around, nested⟩

/-- A declaration of a class without members. -/
def declarePlain (name : Text) (kind : TypeKind) (nested : List TypeDeclaration) :
    TypeDeclaration :=
  ⟨some name, some "", some kind, some [], some [], some [], some nested⟩

/-- The message `B` with an enum `E` and a message `D` in its container class. -/
def declareHolding : TypeDeclaration :=
  declareMessage (some "B") [declarePlain "Types" .staticClass
    [declarePlain "E" .enumeration [], declareMessage (some "D") []]]

/-- The class `A`, which is no message, around a message `C`. -/
def declareAround : TypeDeclaration :=
  declarePlain "A" .plainClass [declareMessage (some "C") []]

/-- The types in the order in which they are given. -/
def declareAll (types : List TypeDeclaration) : AssemblyDeclaration :=
  ⟨some "", some [], some types⟩

/-- The enum `E`. -/
def casesNode : TypeDescriptor := plainNode "E" .enumeration "B/Types/E" (some "B/Types") []

/-- The class around `E` and `D`. -/
def holderNode : TypeDescriptor :=
  plainNode "Types" .staticClass "B/Types" (some "B")
    [casesNode, messageNode (some "D") (some "B/Types/D") (some "B/Types") []]

/-- The message `B`. -/
def holdingNode : TypeDescriptor := messageNode (some "B") (some "B") none [holderNode]

/-- The types that are declared. -/
def holdingTypes : Assembly :=
  .ofTypes (some "") (some []) [holdingNode, plainNode "A" .plainClass "A" none
    [messageNode (some "C") (some "A/C") (some "A") []]]

/-- The messages and the enum that are gathered. -/
def holdingSchema : Schema where
  messages :=
    ⟨[(some "A/C", { descriptor := messageNode (some "C") (some "A/C") (some "A") []
                     rootMessage := none }),
      (some "B", { descriptor := holdingNode, rootMessage := none }),
      (some "B/Types/D", { descriptor := messageNode (some "D") (some "B/Types/D")
                             (some "B/Types") []
                           rootMessage := some "B" })], by decide⟩
  enums :=
    ⟨[(some "B/Types/E", { descriptor := casesNode, rootMessage := some "B", values := [] })],
      by decide⟩

/-- The class `A` goes before `B`, and `D` before `E`, although they are declared the other way
    round; the enum is in `B`. -/
theorem gather_registers_holding :
    Assembly.ofDeclaration (declareAll [declareHolding, declareAround]) = .ok holdingTypes ∧
      gather holdingTypes {} = .ok holdingSchema ∧
      holdingSchema.RegistersAs casesNode (some "B") ∧
      ∃ a s, Assembly.ofDeclaration (declareAll [declareAround, declareHolding]) = .ok a ∧
        gather a {} = .ok s ∧
        s.messages.keys = [some ("A/C" : Text), some ("B" : Text), some ("B/Types/D" : Text)] ∧
        s.enums.keys = [some ("B/Types/E" : Text)] := by
  have hassembly : Assembly.ofDeclaration (declareAll [declareHolding, declareAround]) =
      .ok holdingTypes := by cbv
  have hgather : gather holdingTypes {} = .ok holdingSchema := by cbv
  obtain ⟨htypes, -, hreordered⟩ := gather_registers hassembly hgather
  have hnests : holdingTypes.Nests [holdingNode, holderNode] casesNode :=
    .inside (.inside (.top List.mem_cons_self) List.mem_cons_self) List.mem_cons_self
  have hsame : Shuffled TypeDeclaration.Reordered [declareHolding, declareAround]
      [declareHolding, declareAround] :=
    .of_forall₂ (List.forall₂_same.mpr fun d _ => .same d)
  refine ⟨hassembly, hgather, (htypes _ hnests.mem_allTypes).2 _ hnests, ?_⟩
  exact hreordered (declareAll [declareAround, declareHolding])
    ⟨rfl, rfl, .shuffled (.perm hsame (List.Perm.swap _ _ []))⟩

/-- The outermost message around `C` has no full name, and `C` records the next one. -/
theorem nameless_message_passed_over :
    Assembly.ofDeclaration namelessDeclaration = .ok namelessAround ∧
      gather namelessAround {} = .ok namelessSchema ∧ ∃ around t m,
        namelessAround.Nests around t ∧ namelessSchema.messages.find? t.fullName = some m ∧
        (around.find? (·.isMessage)).map (·.fullName) = some none ∧
        m.rootMessage = some ("None/B" : Text) := by
  refine ⟨by cbv, by cbv, _, _, _, .inside (.inside (.top List.mem_cons_self) List.mem_cons_self)
    List.mem_cons_self, rfl, rfl, rfl⟩

end Schema

end SchemaRecovery
