/-
  SchemaRecovery.Proofs.Forest

  The messages of a schema form a forest. A type is declared in one message at
  most, be it that its type is nested in that of the message or in the container
  class there: the full name of a nested type tells the type around it
  (`Assembly.Named.parent_unique`), and a container class is no message. So
  walks below different messages of one level meet no message twice
  (`nodup_descend`).
-/
import SchemaRecovery.Proofs.Needs

namespace SchemaRecovery

open Relation TypeDescriptor

/-! ## Types around types -/

namespace TypeDescriptor

mutual

/-- The types inside a type stand together. -/
theorem family_sublist_family : ∀ (t : TypeDescriptor) {x : TypeDescriptor}, x ∈ family t →
    (family x).Sublist (family t)
  | ⟨name, ns, kind, interfaces, fields, properties, fullName, declaringType, nested⟩, x, hx => by
      rw [family, List.mem_cons] at hx
      rcases hx with rfl | hx
      · exact List.Sublist.refl _
      · rw [family_eq ⟨name, ns, kind, interfaces, fields, properties, fullName, declaringType,
          nested⟩]
        exact (family_sublist_families nested hx).cons _

theorem family_sublist_families : ∀ (ts : List TypeDescriptor) {x : TypeDescriptor},
    x ∈ families ts → (family x).Sublist (families ts)
  | [], x, hx => by
      rw [families] at hx
      cases hx
  | t :: rest, x, hx => by
      rw [families, List.mem_append] at hx
      rw [families]
      rcases hx with hx | hx
      · exact (family_sublist_family t hx).trans (List.sublist_append_left _ _)
      · exact (family_sublist_families rest hx).trans (List.sublist_append_right _ _)

end

end TypeDescriptor

namespace Assembly

variable {a : Assembly} {x y z : TypeDescriptor}

/-- A type without a name is at the top: nested ones have names. -/
theorem Named.mem_types_of_null (ha : a.Named) (hx : x ∈ a.allTypes)
    (hnull : x.fullName = none) : x ∈ a.types := by
  refine (mem_or_nested_of_mem_families hx).resolve_right ?_
  rintro ⟨z, hz, hxz⟩
  have hname := (ha.nested z hz x hxz).2
  rw [hnull] at hname
  cases hname

theorem Named.name_of_null (ha : a.Named) (hx : x ∈ a.allTypes) (hnull : x.fullName = none) :
    x.name = none := by
  have htop : x.fullName = if x.ns.isVoid then x.name else some (x.ns.text ++ "." ++ x.name.text) :=
    ha.top x (ha.mem_types_of_null hx hnull)
  rw [hnull] at htop
  split at htop
  · exact htop.symm
  · cases htop

/-- A type is known by its full name as it stands inside larger texts, also one
    without a name, which is alone at the top. -/
theorem Named.eq_of_text_eq (ha : a.Named)
    (halone : Label.NullAlone (· ∈ a.types.map (·.fullName))) (hx : x ∈ a.allTypes)
    (hy : y ∈ a.allTypes) (h : x.fullName.text = y.fullName.text) : x = y := by
  -- Only a null and the text that it is shown as have one text.
  have hnull : ∀ {x y : TypeDescriptor} {t : Text}, x ∈ a.allTypes → y ∈ a.allTypes →
      x.fullName = none → y.fullName = some t → t ≠ Label.text none := by
    intro x y t hx hy hxn hyn ht
    rcases mem_or_nested_of_mem_families hy with htop | ⟨z, hz, hyz⟩
    · have hxtop := List.mem_map_of_mem (f := (·.fullName)) (ha.mem_types_of_null hx hxn)
      rw [hxn] at hxtop
      have hynull := halone hxtop y.fullName (List.mem_map_of_mem htop)
      rw [hyn] at hynull
      cases hynull
    · have hname := (ha.nested z hz y hyz).2
      rw [hyn, Option.some.injEq, ht] at hname
      have hslash : ∀ c ∈ (("/" : String) : Text), c ∈ Label.text none := by
        intro c hc
        rw [hname, List.mem_append, List.mem_append]
        exact Or.inl (Or.inr hc)
      revert hslash
      decide
  cases hxn : x.fullName with
  | none =>
      cases hyn : y.fullName with
      | none => exact ha.eq_of_fullName_eq hx hy (hxn.trans hyn.symm)
      | some t =>
          rw [hxn, hyn] at h
          exact absurd h.symm (hnull hx hy hxn hyn)
  | some s =>
      cases hyn : y.fullName with
      | none =>
          rw [hxn, hyn] at h
          exact absurd h (hnull hy hx hyn hxn)
      | some t =>
          rw [hxn, hyn] at h
          exact ha.eq_of_fullName_eq hx hy (by rw [hxn, hyn]; exact congrArg some h)

/-- A type is nested in one type at most. -/
theorem Named.parent_unique (ha : a.Named)
    (halone : Label.NullAlone (· ∈ a.types.map (·.fullName))) (hx : x ∈ a.allTypes)
    (hy : y ∈ a.allTypes) (hzx : z ∈ x.nested) (hzy : z ∈ y.nested) : x = y := by
  have hname := (ha.nested x hx z hzx).2
  rw [(ha.nested y hy z hzy).2, Option.some.injEq] at hname
  refine (ha.eq_of_text_eq halone hy hx ?_).symm
  exact List.append_cancel_right (List.append_cancel_right hname)

theorem Named.nodup_nested (ha : a.Named) (hx : x ∈ a.allTypes) :
    (x.nested.map (·.fullName)).Nodup := by
  refine ha.nodup.sublist (List.Sublist.map _ ?_)
  refine (sublist_families x.nested).trans (List.Sublist.trans ?_
    (family_sublist_families a.types hx))
  rw [family_eq]
  exact List.sublist_cons_self x _

end Assembly

/-! ## Where messages and enums come from -/

theorem MessageType.mem_nestedTypes {m : MessageType} {y : TypeDescriptor} (h : y ∈ m.nestedTypes) :
    y ∈ m.descriptor.nested ∨ ∃ c ∈ m.descriptor.nested, c.kind = some .staticClass ∧
      c.name = some typesContainer ∧ y ∈ c.nested := by
  unfold MessageType.nestedTypes at h
  refine (List.mem_append.mp h).imp_right fun h => ?_
  cases hcontainer : m.descriptor.nested.find? fun t =>
      t.kind == some .staticClass && t.name == some typesContainer with
  | none =>
      rw [hcontainer] at h
      cases h
  | some c =>
      rw [hcontainer] at h
      have hc := List.find?_some hcontainer
      rw [Bool.and_eq_true, beq_iff_eq, beq_iff_eq] at hc
      exact ⟨c, List.mem_of_find?_eq_some hcontainer, hc.1, hc.2, h⟩

/-- A message under its full name that comes from the listing; what it declares
    are types nested in it. -/
structure MessageType.Placed (l : List (TypeDescriptor × Label)) (name : Label)
    (m : MessageType) : Prop where
  keyed : m.fullName = name
  listed : (m.descriptor, m.rootMessage) ∈ l
  message : m.descriptor.implements messageInterface = .ok true
  messages : m.nestedMessages.Sublist (m.nestedTypes.map (·.fullName))
  enums : m.nestedEnums.Sublist (m.nestedTypes.map (·.fullName))

/-- All messages and enums come from the listing, and no type is both. -/
structure Schema.Placed (l : List (TypeDescriptor × Label)) (s : Schema) : Prop where
  apart : ∀ {n m e}, s.messages.find? n = some m → s.enums.find? n = some e → False
  message : ∀ {name m}, s.messages.find? name = some m → m.Placed l name
  enum : ∀ {name e}, s.enums.find? name = some e → e.Discovered l name

section Prepared

variable {a : Assembly} {l : List (TypeDescriptor × Label)} {discovered u s : Schema}

/-- Recording needs and dropping enums leave a message where it is. -/
theorem Prepared.placed_message (h : Prepared a l discovered u) {n : Label} {m : MessageType}
    (hm : u.prune.1.messages.find? n = some m) : m.Placed l n := by
  rw [Schema.find?_messages_prune] at hm
  obtain ⟨m', hm', rfl⟩ := Option.map_eq_some_iff.mp hm
  obtain ⟨x, hx, hbare⟩ := h.same.symm.message hm'
  have hsame := fun {α : Type} (f : MessageType → α) => MessageType.eq_of_bare_eq f hbare.symm
  obtain ⟨y, hy, rfl⟩ := discovered.find?_linkNested hx
  have hentered := h.entered.message hy
  have hdescriptor := hsame (·.descriptor) fun _ => rfl
  have hnested : m'.nestedTypes = y.nestedTypes := by
    unfold MessageType.nestedTypes
    rw [hdescriptor]
    rfl
  refine ⟨?_, ?_, ?_, ?_, ?_⟩
  · exact (congrArg TypeDescriptor.fullName hdescriptor).trans hentered.keyed
  · show (m'.descriptor, m'.rootMessage) ∈ l
    rw [hdescriptor, hsame (·.rootMessage) fun _ => rfl]
    exact hentered.listed
  · show m'.descriptor.implements messageInterface = _
    rw [hdescriptor]
    exact hentered.message
  · show m'.nestedMessages.Sublist (m'.nestedTypes.map _)
    rw [hnested, hsame (·.nestedMessages) fun _ => rfl]
    show (y.nestedMessages ++ _).Sublist _
    rw [hentered.unlinked.1, List.nil_append]
    exact List.filter_sublist
  · show (m'.nestedEnums.filter _).Sublist (m'.nestedTypes.map _)
    rw [hnested, hsame (·.nestedEnums) fun _ => rfl]
    refine List.filter_sublist.trans ?_
    show (y.nestedEnums ++ _).Sublist _
    rw [hentered.unlinked.2, List.nil_append]
    exact List.filter_sublist

theorem Prepared.discovered_enum (h : Prepared a l discovered u) {n : Label} {e : EnumType}
    (he : u.prune.1.enums.find? n = some e) : e.Discovered l n := by
  have hkept := (Schema.find?_enums_prune.mp he).1
  rw [h.same.enums] at hkept
  exact h.entered.enum hkept

theorem Related.placed (h : Related a l discovered u s) : s.Placed l := by
  refine ⟨h.analysed.apart, ?_, ?_⟩
  · intro n m hm
    rw [h.pruned] at hm
    exact h.placed_message hm
  · intro n e he
    rw [h.pruned] at he
    exact h.discovered_enum he

end Prepared

/-! ## One parent each -/

section Placed

variable {a : Assembly} {l : List (TypeDescriptor × Label)} {n n' : Label} {m m' : MessageType}
  {y : TypeDescriptor} (ha : a.Named) (hl : Listing none a.types l)

include ha

theorem MessageType.Placed.ns_nested (hl : Listing none a.types l) (h : m.Placed l n)
    (hy : y ∈ m.nestedTypes) : y.ns = m.ns := by
  have hm := hl.mem_allTypes h.listed
  rcases MessageType.mem_nestedTypes hy with hy | ⟨c, hc, -, -, hy⟩
  · exact (ha.nested _ hm y hy).1
  · exact (ha.nested c (nested_mem_families a.types hm hc) y hy).1.trans (ha.nested _ hm c hc).1

variable (hstatic : ∀ t ∈ a.allTypes, t.kind = some .staticClass →
  t.implements messageInterface ≠ .ok true)

include hl hstatic

omit ha in
/-- What a message declares has the owner of the message around it. -/
theorem MessageType.Placed.listed_nested (h : m.Placed l n) (hy : y ∈ m.nestedTypes) :
    (y, m.owner) ∈ l := by
  obtain ⟨isMessage, himp, hall⟩ := hl.below h.listed
  obtain rfl : true = isMessage := by
    rw [h.message] at himp
    exact Except.ok.inj himp
  rw [innerRoot_of_message] at hall
  rcases MessageType.mem_nestedTypes hy with hy | ⟨c, hc, hkind, -, hy⟩
  · exact hall y hy
  · -- The container class is no message, so the owner stays.
    obtain ⟨isMessage', himp', hinner⟩ := hl.below (hall c hc)
    cases isMessage' with
    | true => exact absurd himp' (hstatic c (hl.mem_allTypes (hall c hc)) hkind)
    | false =>
        have howner : innerRoot c (m.rootMessage.or m.descriptor.fullName) false = m.owner := by
          unfold innerRoot
          rw [Bool.and_false]
          rfl
        rw [howner] at hinner
        exact hinner y hy

variable (halone : Label.NullAlone (· ∈ a.types.map (·.fullName)))

include halone

/-- No two messages declare one type. -/
theorem MessageType.Placed.parent_unique (h : m.Placed l n) (h' : m'.Placed l n')
    (hy : y ∈ m.nestedTypes) (hy' : y ∈ m'.nestedTypes) : n = n' := by
  have hm := hl.mem_allTypes h.listed
  have hm' := hl.mem_allTypes h'.listed
  have hin : ∀ {x c : TypeDescriptor}, x ∈ a.allTypes → c ∈ x.nested → c ∈ a.allTypes :=
    fun hx hc => nested_mem_families a.types hx hc
  suffices hsame : m.descriptor = m'.descriptor by
    rw [← h.keyed, ← h'.keyed]
    exact congrArg TypeDescriptor.fullName hsame
  -- Directly or in the container class; the two ways cannot meet in one type.
  rcases MessageType.mem_nestedTypes hy with hy | ⟨c, hc, hkind, -, hy⟩
  · rcases MessageType.mem_nestedTypes hy' with hy' | ⟨c', hc', hkind', -, hy'⟩
    · exact ha.parent_unique halone hm hm' hy hy'
    · have heq := ha.parent_unique halone hm (hin hm' hc') hy hy'
      exact absurd h.message (hstatic _ hm (heq ▸ hkind'))
  · rcases MessageType.mem_nestedTypes hy' with hy' | ⟨c', hc', hkind', -, hy'⟩
    · have heq := ha.parent_unique halone hm' (hin hm hc) hy' hy
      exact absurd h'.message (hstatic _ hm' (heq ▸ hkind))
    · have heq := ha.parent_unique halone (hin hm hc) (hin hm' hc') hy hy'
      exact ha.parent_unique halone hm hm' hc (heq ▸ hc')

omit hstatic in
/-- A message declares no type twice. -/
theorem MessageType.Placed.nodup_nestedTypes (h : m.Placed l n) :
    (m.nestedTypes.map (·.fullName)).Nodup := by
  have hm := hl.mem_allTypes h.listed
  unfold MessageType.nestedTypes
  cases hcontainer : m.descriptor.nested.find? fun t =>
      t.kind == some .staticClass && t.name == some typesContainer with
  | none =>
      dsimp only
      rw [Option.map_none, Option.getD_none, List.append_nil]
      exact ha.nodup_nested hm
  | some c =>
      have hc := List.mem_of_find?_eq_some hcontainer
      have hcAll := nested_mem_families a.types hm hc
      dsimp only
      rw [Option.map_some, Option.getD_some, List.map_append]
      refine (ha.nodup_nested hm).append (ha.nodup_nested hcAll) ?_
      -- A type in both lists would be nested in the message and in its container.
      intro name hname hname'
      obtain ⟨x, hx, rfl⟩ := List.mem_map.mp hname
      obtain ⟨x', hx', heq⟩ := List.mem_map.mp hname'
      obtain rfl := ha.eq_of_fullName_eq (nested_mem_families a.types hcAll hx')
        (nested_mem_families a.types hm hx) heq
      have hsame := ha.parent_unique halone hm hcAll hx hx'
      have hbelow : m.descriptor.fullName.Below c.fullName :=
        ⟨c.name.text, (ha.nested _ hm c hc).2⟩
      exact hbelow.ne (congrArg TypeDescriptor.fullName hsame)

end Placed

/-! ## The forest of a schema -/

namespace Schema

variable {s : Schema}

/-- No name is that of two types. Every type is declared in one message at most and
    once there, and has the owner and the namespace of that message. -/
structure Forest (s : Schema) : Prop where
  apart : ∀ {n m e}, s.messages.find? n = some m → s.enums.find? n = some e → False
  message_parent : ∀ {p q x}, s.Nested p x → s.Nested q x → p = q
  enum_parent : ∀ {p q m m' x}, s.messages.find? p = some m → s.messages.find? q = some m' →
    x ∈ m.nestedEnums → x ∈ m'.nestedEnums → p = q
  nodup_messages : ∀ {n m}, s.messages.find? n = some m → m.nestedMessages.Nodup
  nodup_enums : ∀ {n m}, s.messages.find? n = some m → m.nestedEnums.Nodup
  message_place : ∀ {p m x m'}, s.messages.find? p = some m → x ∈ m.nestedMessages →
    s.messages.find? x = some m' → m'.rootMessage = m.owner ∧ m'.ns = m.ns
  enum_place : ∀ {p m x e}, s.messages.find? p = some m → x ∈ m.nestedEnums →
    s.enums.find? x = some e → e.rootMessage = m.owner ∧ e.ns = m.ns
  nameless : ∀ {m}, s.messages.find? none = some m → m.isRoot = true

theorem Placed.forest {a : Assembly} {l : List (TypeDescriptor × Label)} (h : s.Placed l)
    (ha : a.Named) (hl : Listing none a.types l)
    (hstatic : ∀ t ∈ a.allTypes, t.kind = some .staticClass →
      t.implements messageInterface ≠ .ok true)
    (halone : Label.NullAlone (· ∈ a.types.map (·.fullName))) : s.Forest := by
  -- Equal names are names of one type.
  have hparent : ∀ {p q : Label} {m m' : MessageType} {x : Label}, m.Placed l p →
      m'.Placed l q → x ∈ m.nestedTypes.map (·.fullName) →
      x ∈ m'.nestedTypes.map (·.fullName) → p = q := by
    intro p q m m' x hp hq hx hx'
    obtain ⟨y, hy, rfl⟩ := List.mem_map.mp hx
    obtain ⟨y', hy', heq⟩ := List.mem_map.mp hx'
    have hall := hl.mem_allTypes (hp.listed_nested hl hstatic hy)
    have hall' := hl.mem_allTypes (hq.listed_nested hl hstatic hy')
    obtain rfl := ha.eq_of_fullName_eq hall' hall heq
    exact hp.parent_unique ha hl hstatic halone hq hy hy'
  have hplace : ∀ {p : Label} {m : MessageType} {x : Label} {t : TypeDescriptor} {r : Label},
      m.Placed l p → x ∈ m.nestedTypes.map (·.fullName) → (t, r) ∈ l → t.fullName = x →
      r = m.owner ∧ t.ns = m.ns := by
    intro p m x t r hp hx ht hname
    obtain ⟨y, hy, rfl⟩ := List.mem_map.mp hx
    obtain ⟨rfl, rfl⟩ := hl.unique ha ht (hp.listed_nested hl hstatic hy) hname
    exact ⟨rfl, hp.ns_nested ha hl hy⟩
  constructor
  case apart => exact h.apart
  case message_parent =>
    rintro p q x ⟨m, hm, hx⟩ ⟨m', hm', hx'⟩
    exact hparent (h.message hm) (h.message hm') ((h.message hm).messages.subset hx)
      ((h.message hm').messages.subset hx')
  case enum_parent =>
    intro p q m m' x hm hm' hx hx'
    exact hparent (h.message hm) (h.message hm') ((h.message hm).enums.subset hx)
      ((h.message hm').enums.subset hx')
  case nodup_messages =>
    intro n m hm
    exact ((h.message hm).nodup_nestedTypes ha hl halone).sublist (h.message hm).messages
  case nodup_enums =>
    intro n m hm
    exact ((h.message hm).nodup_nestedTypes ha hl halone).sublist (h.message hm).enums
  case message_place =>
    intro p m x m' hm hx hm'
    exact hplace (h.message hm) ((h.message hm).messages.subset hx) (h.message hm').listed
      (h.message hm').keyed
  case enum_place =>
    intro p m x e hm hx he
    exact hplace (h.message hm) ((h.message hm).enums.subset hx) (h.enum he).listed
      (h.enum he).keyed
  case nameless =>
    intro m hm
    have hplaced := h.message hm
    have htop := ha.mem_types_of_null (hl.mem_allTypes hplaced.listed) hplaced.keyed
    have hroot := (hl.unique ha hplaced.listed (hl.roots _ htop) rfl).2
    unfold MessageType.isRoot
    rw [hroot]
    rfl

/-! ## Walks in the forest -/

theorem WellNested.not_nested_self (hs : s.WellNested) {x : Label} : ¬ TransGen s.Nested x x :=
  fun h => (hs.below_of_transGen h).ne rfl

/-- Two messages with a common one below them are below each other. -/
theorem Forest.total (h : s.Forest) {a b x : Label} (ha : ReflTransGen s.Nested a x)
    (hb : ReflTransGen s.Nested b x) :
    ReflTransGen s.Nested a b ∨ ReflTransGen s.Nested b a := by
  have hunique : Relator.RightUnique (Function.swap s.Nested) :=
    fun _ _ _ hp hq => h.message_parent hp hq
  have htotal := ReflTransGen.total_of_right_unique hunique (reflTransGen_swap.mpr ha)
    (reflTransGen_swap.mpr hb)
  exact htotal.symm.imp reflTransGen_swap.mp reflTransGen_swap.mp

/-- Nothing is below two different messages that one message declares. -/
theorem Forest.disjoint_siblings (h : s.Forest) (hs : s.WellNested) {p a b x : Label}
    (hpa : s.Nested p a) (hpb : s.Nested p b) (hab : a ≠ b) (ha : ReflTransGen s.Nested a x) :
    ¬ ReflTransGen s.Nested b x := by
  intro hb
  -- One of the two would be below the other, hence below itself.
  have hno : ∀ {a b}, s.Nested p a → s.Nested p b → a ≠ b → ¬ ReflTransGen s.Nested a b := by
    intro a b hpa hpb hab hreach
    rcases hreach.cases_tail with heq | ⟨q, hq, hqb⟩
    · exact hab heq.symm
    · rw [h.message_parent hqb hpb] at hq
      exact hs.not_nested_self (TransGen.tail' hq hpa)
  rcases h.total ha hb with hreach | hreach
  · exact hno hpa hpb hab hreach
  · exact hno hpb hpa hab.symm hreach

/-- Walks below messages that have nothing below them in common meet no message
    twice, if none of them does. -/
theorem nodup_walks {arrange : List Label → List Label}
    (hkeyed : ∀ {n m}, s.messages.find? n = some m → m.fullName = n)
    (harrange : ∀ l x, x ∈ arrange l ↔ x ∈ l) {depth : Nat} {starts : List MessageType}
    {walks : List (List MessageType)} (hwalks : starts.mapM (s.descend arrange depth) = .ok walks)
    (hfound : ∀ m ∈ starts, s.messages.find? m.fullName = some m)
    (hapart : starts.Pairwise fun m m' => ∀ x, ReflTransGen s.Nested m.fullName x →
      ¬ ReflTransGen s.Nested m'.fullName x)
    (hone : ∀ m ∈ starts, ∀ l, s.descend arrange depth m = .ok l → (l.map (·.fullName)).Nodup) :
    (walks.flatten.map (·.fullName)).Nodup := by
  rw [mapM_eq_ok_iff] at hwalks
  induction hwalks with
  | nil => exact List.nodup_nil
  | @cons m walk starts walks hwalk hrest ih =>
      obtain ⟨hm, hfound⟩ := List.forall_mem_cons.mp hfound
      obtain ⟨hhead, hapart⟩ := List.pairwise_cons.mp hapart
      obtain ⟨hmone, hone⟩ := List.forall_mem_cons.mp hone
      rw [List.flatten_cons, List.map_append]
      refine (hmone walk hwalk).append (ih hfound hapart hone) ?_
      intro name hname hname'
      obtain ⟨x, hx, rfl⟩ := List.mem_map.mp hname
      obtain ⟨y, hy, heq⟩ := List.mem_map.mp hname'
      obtain ⟨walk', hwalk', hy⟩ := List.mem_flatten.mp hy
      obtain ⟨m', hm', hdescend⟩ := exists_left_of_forall₂ hrest hwalk'
      have hreach := (reaches_of_mem_descend hkeyed harrange hm hwalk hx).2
      have hreach' := (reaches_of_mem_descend hkeyed harrange (hfound m' hm') hdescend hy).2
      exact hhead m' hm' _ hreach (heq ▸ hreach')

/-- A walk below a message meets no message twice. -/
theorem nodup_descend (h : s.Forest) (hs : s.WellNested) {depth : Nat} {m : MessageType}
    {l : List MessageType} (hm : s.messages.find? m.fullName = some m)
    (hl : s.descend id depth m = .ok l) : (l.map (·.fullName)).Nodup := by
  induction depth generalizing m l with
  | zero =>
      rw [descend] at hl
      cases hl
      exact List.nodup_nil
  | succ depth ih =>
      rw [descend] at hl
      obtain ⟨nested, hnested, hl⟩ := bind_eq_ok.mp hl
      obtain ⟨below, hbelow, hl⟩ := bind_eq_ok.mp hl
      obtain rfl := Except.ok.inj hl
      -- The nested messages stand under their names, which are different.
      have hlookup := mapM_eq_ok_iff.mp hnested
      have hnames : nested.map (·.fullName) = m.nestedMessages := by
        rw [← List.forall₂_eq_eq_eq, List.forall₂_map_left_iff]
        exact hlookup.flip.imp fun _ _ hx => hs.keyed_message (message_eq_ok_iff.mp hx)
      have hfound : ∀ x ∈ nested, s.messages.find? x.fullName = some x := by
        intro x hx
        obtain ⟨n, -, hn⟩ := exists_of_mem_mapM hnested hx
        rw [message_eq_ok_iff] at hn
        rw [hs.keyed_message hn]
        exact hn
      have hchild : ∀ x ∈ nested, s.Nested m.fullName x.fullName := by
        intro x hx
        refine ⟨m, hm, ?_⟩
        rw [← hnames]
        exact List.mem_map_of_mem hx
      have hapart : nested.Pairwise fun x y => ∀ z, ReflTransGen s.Nested x.fullName z →
          ¬ ReflTransGen s.Nested y.fullName z := by
        have hnodup := h.nodup_messages hm
        rw [← hnames, List.Nodup, List.pairwise_map] at hnodup
        refine hnodup.imp_of_mem fun hx hy hxy z hz => ?_
        exact h.disjoint_siblings hs (hchild _ hx) (hchild _ hy) hxy hz
      rw [List.map_cons, List.nodup_cons]
      refine ⟨?_, nodup_walks hs.keyed_message (fun _ _ => Iff.rfl) hbelow hfound hapart
        fun x hx l' hl' => ih (hfound x hx) hl'⟩
      -- The message itself is not below a message that it declares.
      intro hmem
      obtain ⟨y, hy, heq⟩ := List.mem_map.mp hmem
      obtain ⟨walk, hwalk, hy⟩ := List.mem_flatten.mp hy
      obtain ⟨x, hx, hdescend⟩ := exists_of_mem_mapM hbelow hwalk
      have hreach := (reaches_of_mem_descend hs.keyed_message (fun _ _ => Iff.rfl) (hfound x hx)
        hdescend hy).2
      rw [heq] at hreach
      exact hs.not_nested_self (TransGen.head' (hchild x hx) hreach)

end Schema

end SchemaRecovery
