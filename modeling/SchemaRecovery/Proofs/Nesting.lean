/-
  SchemaRecovery.Proofs.Nesting

  How the messages and enums of a schema are nested in each other. A nested type
  has a longer full name than the message it is in (`Label.Below`), so chains of
  nested messages are no longer than there are messages and the walks below a
  message meet all that are there (`mem_descend_iff`). What a nested type records
  as its outermost message is the one its parent is in (`WellNested`).
-/
import Mathlib.Data.List.Chain
import Mathlib.Data.List.Perm.Subperm
import SchemaRecovery.Proofs.Discovery
import SchemaRecovery.Proofs.Mapping

namespace SchemaRecovery

open Relation TypeDescriptor

/-! ## Names below names -/

/-- The second label goes on from the first after a slash. -/
def Label.Below (outer inner : Label) : Prop :=
  ∃ rest : Text, inner = some (outer.text ++ "/" ++ rest)

theorem Label.Below.trans {a b c : Label} (hab : a.Below b) (hbc : b.Below c) : a.Below c := by
  obtain ⟨rest, rfl⟩ := hab
  obtain ⟨rest', rfl⟩ := hbc
  refine ⟨rest ++ "/" ++ rest', ?_⟩
  simp only [Label.text, List.append_assoc]

theorem Label.Below.length_lt {a b : Label} (h : a.Below b) : a.text.length < b.text.length := by
  obtain ⟨rest, rfl⟩ := h
  have hslash : (("/" : String) : Text).length = 1 := rfl
  simp only [Label.text, List.length_append, hslash]
  omega

theorem Label.Below.ne {a b : Label} (h : a.Below b) : a ≠ b := by
  rintro rfl
  exact Nat.lt_irrefl _ h.length_lt

instance : Trans Label.Below Label.Below Label.Below := ⟨Label.Below.trans⟩

/-! ## Nested messages -/

/-- The full name of the outermost message around the types nested in the
    message. -/
def MessageType.owner (m : MessageType) : Label := m.rootMessage.or m.fullName

theorem MessageType.owner_of_isRoot {m : MessageType} (h : m.isRoot = true) :
    m.owner = m.fullName := by
  unfold MessageType.isRoot at h
  rw [Option.isNone_iff_eq_none] at h
  unfold MessageType.owner
  rw [h]
  rfl

theorem MessageType.owner_of_rootMessage {m : MessageType} {r : Label} (h : m.rootMessage = r)
    (hr : r ≠ none) : m.owner = r := by
  obtain ⟨t, rfl⟩ := Option.ne_none_iff_exists'.mp hr
  unfold MessageType.owner
  rw [h]
  rfl

namespace Schema

/-- The message under the first name declares the message under the second. -/
def Nested (s : Schema) (outer inner : Label) : Prop :=
  ∃ m, s.messages.find? outer = some m ∧ inner ∈ m.nestedMessages

/-- The first name is that of a root message, and the second goes on from it. -/
def RootAround (s : Schema) (r : Text) (n : Label) : Prop :=
  (∃ root, s.messages.find? (some r) = some root ∧ root.isRoot = true) ∧ Label.Below (some r) n

/-- The types of a schema are in order. A type that is nested in a message has
    the same outermost message, unless that is a message without a name, in which
    case all types have one namespace. The outermost message that a type records
    is a root message. Every message is below a root message, and every enum that
    is in a message is linked to one. -/
structure WellNested (s : Schema) : Prop where
  keyed_message : ∀ {n m}, s.messages.find? n = some m → m.fullName = n
  keyed_enum : ∀ {n e}, s.enums.find? n = some e → e.fullName = n
  nested_message : ∀ {n m n'}, s.messages.find? n = some m → n' ∈ m.nestedMessages →
    ∃ m', s.messages.find? n' = some m' ∧ n.Below n' ∧
      (m.owner ≠ none → m'.rootMessage = m.owner)
  nested_enum : ∀ {n m n'}, s.messages.find? n = some m → n' ∈ m.nestedEnums →
    ∃ e, s.enums.find? n' = some e ∧ (m.owner ≠ none → e.rootMessage = m.owner)
  owned_message : ∀ {n m r}, s.messages.find? n = some m → m.rootMessage = some r →
    s.RootAround r n
  owned_enum : ∀ {n e r}, s.enums.find? n = some e → e.rootMessage = some r → s.RootAround r n
  reached : ∀ {n m}, s.messages.find? n = some m →
    ∃ r root, s.messages.find? r = some root ∧ root.isRoot = true ∧ ReflTransGen s.Nested r n
  linked : ∀ {n e}, s.enums.find? n = some e → e.isRoot = false →
    ∃ p m, s.messages.find? p = some m ∧ n ∈ m.nestedEnums
  lone : ∀ {m}, s.messages.find? none = some m →
    ∃ ns, (∀ {n m}, s.messages.find? n = some m → m.ns = ns) ∧
      ∀ {n e}, s.enums.find? n = some e → e.ns = ns

variable {s : Schema}

theorem mem_rootMessages_iff
    (hkeyed : ∀ {n m}, s.messages.find? n = some m → m.fullName = n) {m : MessageType} :
    m ∈ s.rootMessages ↔ s.messages.find? m.fullName = some m ∧ m.isRoot = true := by
  unfold rootMessages
  rw [List.mem_filter, Registry.mem_values]
  refine and_congr_left fun _ => ⟨?_, fun h => ⟨_, h⟩⟩
  rintro ⟨n, hn⟩
  rw [hkeyed hn]
  exact hn

theorem mem_rootEnums_iff
    (hkeyed : ∀ {n e}, s.enums.find? n = some e → e.fullName = n) {e : EnumType} :
    e ∈ s.rootEnums ↔ s.enums.find? e.fullName = some e ∧ e.isRoot = true := by
  unfold rootEnums
  rw [List.mem_filter, Registry.mem_values]
  refine and_congr_left fun _ => ⟨?_, fun h => ⟨_, h⟩⟩
  rintro ⟨n, hn⟩
  rw [hkeyed hn]
  exact hn

/-- Messages stand under their names, so no two root messages have one. -/
theorem WellNested.nodup_rootMessages (hs : s.WellNested) :
    (s.rootMessages.map (·.fullName)).Nodup :=
  (Registry.nodup_map_values hs.keyed_message).sublist (List.filter_sublist.map _)

/-! ## Walks below a message -/

/-- What a walk below a message meets is nested in it. -/
theorem reaches_of_mem_descend {arrange : List Label → List Label}
    (hkeyed : ∀ {n m}, s.messages.find? n = some m → m.fullName = n)
    (harrange : ∀ l x, x ∈ arrange l ↔ x ∈ l) {depth : Nat} {m x : MessageType}
    {l : List MessageType} (hm : s.messages.find? m.fullName = some m)
    (h : s.descend arrange depth m = .ok l) (hx : x ∈ l) :
    s.messages.find? x.fullName = some x ∧ ReflTransGen s.Nested m.fullName x.fullName := by
  induction depth generalizing m l with
  | zero =>
      rw [descend] at h
      cases h
      cases hx
  | succ depth ih =>
      rw [descend] at h
      obtain ⟨nested, hnested, h⟩ := bind_eq_ok.mp h
      obtain ⟨below, hbelow, h⟩ := bind_eq_ok.mp h
      cases h
      rcases List.mem_cons.mp hx with rfl | hx
      · exact ⟨hm, .refl⟩
      · obtain ⟨part, hpart, hx⟩ := List.mem_flatten.mp hx
        obtain ⟨y, hy, hdescend⟩ := exists_of_mem_mapM hbelow hpart
        obtain ⟨n, hn, hmessage⟩ := exists_of_mem_mapM hnested hy
        rw [message_eq_ok_iff] at hmessage
        obtain rfl := hkeyed hmessage
        obtain ⟨hfound, hreach⟩ := ih hmessage hdescend hx
        refine ⟨hfound, .head ⟨m, hm, ?_⟩ hreach⟩
        exact (harrange _ _).mp hn

/-- A walk meets the last message of every chain that is no longer than the
    walk may go deep. -/
theorem mem_descend_of_chain {arrange : List Label → List Label}
    (harrange : ∀ l x, x ∈ arrange l ↔ x ∈ l) {depth : Nat} {m x : MessageType}
    {l : List MessageType} {rest : List Label} (hm : s.messages.find? m.fullName = some m)
    (hchain : (m.fullName :: rest).IsChain s.Nested) (hlen : rest.length < depth)
    (hkeyed : ∀ {n m}, s.messages.find? n = some m → m.fullName = n)
    (hlast : s.messages.find? ((m.fullName :: rest).getLast (List.cons_ne_nil _ _)) = some x)
    (h : s.descend arrange depth m = .ok l) : x ∈ l := by
  induction depth generalizing m rest l with
  | zero => omega
  | succ depth ih =>
      rw [descend] at h
      obtain ⟨nested, hnested, h⟩ := bind_eq_ok.mp h
      obtain ⟨below, hbelow, h⟩ := bind_eq_ok.mp h
      cases h
      -- The chain ends here or goes on with a nested message.
      cases rest with
      | nil =>
          rw [List.getLast_singleton, hm, Option.some.injEq] at hlast
          rw [hlast]
          exact List.mem_cons_self
      | cons n rest =>
          obtain ⟨⟨m', hm', hn⟩, hchain⟩ := List.isChain_cons_cons.mp hchain
          rw [hm, Option.some.injEq] at hm'
          rw [← hm', ← harrange] at hn
          obtain ⟨y, hy, hmessage⟩ := exists_mem_of_mapM hnested hn
          rw [message_eq_ok_iff] at hmessage
          obtain rfl := hkeyed hmessage
          obtain ⟨part, hpart, hdescend⟩ := exists_mem_of_mapM hbelow hy
          rw [List.getLast_cons (List.cons_ne_nil _ _)] at hlast
          have hdepth : rest.length < depth := by
            rw [List.length_cons] at hlen
            omega
          have hx := ih hmessage hchain hdepth hlast hdescend
          exact List.mem_cons_of_mem m (List.mem_flatten.mpr ⟨part, hpart, hx⟩)

/-- A walk below a message finds the messages that it looks up, if nested messages
    are there. -/
theorem descend_ok (hkeyed : ∀ {n m}, s.messages.find? n = some m → m.fullName = n)
    (hnested : ∀ {n m n'}, s.messages.find? n = some m → n' ∈ m.nestedMessages →
      ∃ m', s.messages.find? n' = some m')
    {arrange : List Label → List Label} (harrange : ∀ l x, x ∈ arrange l ↔ x ∈ l) (depth : Nat)
    {m : MessageType} (hm : s.messages.find? m.fullName = some m) :
    ∃ l, s.descend arrange depth m = .ok l := by
  induction depth generalizing m with
  | zero => exact ⟨[], by rw [descend]⟩
  | succ depth ih =>
      have hlookup : ∀ n ∈ arrange m.nestedMessages, ∃ x, s.message n = .ok x := by
        intro n hn
        obtain ⟨x, hx⟩ := hnested hm ((harrange _ n).mp hn)
        exact ⟨x, message_eq_ok_iff.mpr hx⟩
      obtain ⟨nested, hfound⟩ := exists_mapM_eq_ok hlookup
      have hwalk : ∀ x ∈ nested, ∃ l, s.descend arrange depth x = .ok l := by
        intro x hx
        obtain ⟨n, -, hn⟩ := exists_of_mem_mapM hfound hx
        rw [message_eq_ok_iff] at hn
        exact ih (hkeyed hn ▸ hn)
      obtain ⟨below, hbelow⟩ := exists_mapM_eq_ok hwalk
      refine ⟨m :: below.flatten, ?_⟩
      rw [descend, hfound, ok_bind, hbelow]
      rfl

/-- The family of a root message can be listed, if nested messages are there. -/
theorem family_ok (hkeyed : ∀ {n m}, s.messages.find? n = some m → m.fullName = n)
    (hnested : ∀ {n m n'}, s.messages.find? n = some m → n' ∈ m.nestedMessages →
      ∃ m', s.messages.find? n' = some m')
    {root : MessageType} (hroot : s.messages.find? root.fullName = some root)
    (hisRoot : root.isRoot = true) : ∃ l, s.family root = .ok l := by
  unfold family
  rw [if_pos hisRoot]
  exact descend_ok hkeyed hnested (fun _ _ => List.mem_reverse) _ hroot

theorem WellNested.nested_found (hs : s.WellNested) {n n' : Label} {m : MessageType}
    (hm : s.messages.find? n = some m) (hn' : n' ∈ m.nestedMessages) :
    ∃ m', s.messages.find? n' = some m' := by
  obtain ⟨m', hm', -⟩ := hs.nested_message hm hn'
  exact ⟨m', hm'⟩

theorem WellNested.subtree_ok (hs : s.WellNested) {m : MessageType}
    (hm : s.messages.find? m.fullName = some m) : ∃ l, s.subtree m = .ok l :=
  descend_ok hs.keyed_message hs.nested_found (fun _ _ => Iff.rfl) _ hm

theorem WellNested.family_ok (hs : s.WellNested) {root : MessageType}
    (hroot : s.messages.find? root.fullName = some root) (hisRoot : root.isRoot = true) :
    ∃ l, s.family root = .ok l :=
  Schema.family_ok hs.keyed_message hs.nested_found hroot hisRoot

theorem WellNested.below_of_nested (hs : s.WellNested) {a b : Label} (h : s.Nested a b) :
    a.Below b := by
  obtain ⟨m, hm, hb⟩ := h
  obtain ⟨-, -, hbelow, -⟩ := hs.nested_message hm hb
  exact hbelow

theorem WellNested.below_of_transGen (hs : s.WellNested) {a b : Label}
    (h : TransGen s.Nested a b) : a.Below b := by
  induction h with
  | single hab => exact hs.below_of_nested hab
  | tail _ hbc ih => exact ih.trans (hs.below_of_nested hbc)

theorem WellNested.found_of_nested (hs : s.WellNested) {a b : Label} (h : s.Nested a b) :
    ∃ m, s.messages.find? b = some m := by
  obtain ⟨m, hm, hb⟩ := h
  exact hs.nested_found hm hb

/-- No chain of nested messages is longer than there are messages. -/
theorem WellNested.length_le_of_chain (hs : s.WellNested) {a : Label} {rest : List Label}
    {m : MessageType} (ha : s.messages.find? a = some m)
    (hchain : (a :: rest).IsChain s.Nested) : (a :: rest).length ≤ s.messages.size := by
  have hstart : a ∈ s.messages.keys := Registry.mem_keys.mpr ⟨m, ha⟩
  -- Every name on the chain is that of a message.
  have hfound : ∀ x ∈ a :: rest, x ∈ s.messages.keys := by
    refine List.forall_mem_cons.mpr ⟨hstart, ?_⟩
    refine hchain.cons_induction (· ∈ s.messages.keys) rest (fun x y hxy _ => ?_) hstart
    exact Registry.mem_keys.mpr (hs.found_of_nested hxy)
  -- The names on a chain get longer, so they are different.
  have hpair : (a :: rest).Pairwise Label.Below :=
    (hchain.imp fun _ _ h => hs.below_of_nested h).pairwise
  have hnodup : (a :: rest).Nodup := hpair.imp Label.Below.ne
  have hle := (hnodup.subperm hfound).length_le
  rw [Registry.length_keys] at hle
  exact hle

/-- A walk that may go as deep as there are messages meets exactly the messages
    below its start. -/
theorem mem_descend_iff (hs : s.WellNested) {arrange : List Label → List Label}
    (harrange : ∀ l x, x ∈ arrange l ↔ x ∈ l) {m : MessageType} {l : List MessageType}
    (hm : s.messages.find? m.fullName = some m)
    (h : s.descend arrange s.messages.size m = .ok l) {x : MessageType} :
    x ∈ l ↔ s.messages.find? x.fullName = some x ∧
      ReflTransGen s.Nested m.fullName x.fullName := by
  constructor
  · exact reaches_of_mem_descend hs.keyed_message harrange hm h
  · rintro ⟨hx, hreach⟩
    -- Whatever is below is the end of a chain, which is not too long.
    obtain ⟨rest, hchain, hlast⟩ := List.exists_isChain_cons_of_relationReflTransGen hreach
    have hlen := hs.length_le_of_chain hm hchain
    rw [List.length_cons] at hlen
    exact mem_descend_of_chain harrange hm hchain hlen hs.keyed_message (hlast ▸ hx) h

theorem mem_subtree_iff (hs : s.WellNested) {m x : MessageType} {l : List MessageType}
    (hm : s.messages.find? m.fullName = some m) (h : s.subtree m = .ok l) :
    x ∈ l ↔ s.messages.find? x.fullName = some x ∧
      ReflTransGen s.Nested m.fullName x.fullName :=
  mem_descend_iff hs (fun _ _ => Iff.rfl) hm h

theorem mem_family_iff (hs : s.WellNested) {root x : MessageType} {l : List MessageType}
    (hroot : s.messages.find? root.fullName = some root) (h : s.family root = .ok l) :
    x ∈ l ↔ s.messages.find? x.fullName = some x ∧
      ReflTransGen s.Nested root.fullName x.fullName := by
  unfold family at h
  split at h
  · exact mem_descend_iff hs (fun _ _ => List.mem_reverse) hroot h
  · cases h

/-- The messages below a root message that has a name have that one as their
    outermost message. -/
theorem WellNested.owner_of_reaches (hs : s.WellNested) {r n : Label} {root m : MessageType}
    (hroot : s.messages.find? r = some root) (hisRoot : root.isRoot = true) (hr : r ≠ none)
    (hreach : ReflTransGen s.Nested r n) (hm : s.messages.find? n = some m) :
    m.owner = r ∧ (n ≠ r → m.rootMessage = r) := by
  induction hreach generalizing m with
  | refl =>
      rw [hroot, Option.some.injEq] at hm
      rw [← hm, MessageType.owner_of_isRoot hisRoot]
      exact ⟨hs.keyed_message hroot, fun h => absurd rfl h⟩
  | tail _ hstep ih =>
      obtain ⟨p, hp, hn⟩ := hstep
      -- Induction along the way down: the parent has the root as its owner.
      obtain ⟨howner, -⟩ := ih hp
      obtain ⟨m', hm', -, hnested⟩ := hs.nested_message hp hn
      rw [hm, Option.some.injEq] at hm'
      rw [howner, ← hm'] at hnested
      exact ⟨MessageType.owner_of_rootMessage (hnested hr) hr, fun _ => hnested hr⟩

/-- A message whose name begins like names do has the root message around it as
    its root, which is not the empty name: what is below that one begins with a
    slash. -/
theorem WellNested.root_eq_owner (hs : s.WellNested) {n : Text} {m : MessageType}
    (hm : s.messages.find? (some n) = some m) (hstart : TypeReference.StartsName n) :
    m.root = m.owner := by
  unfold MessageType.root MessageType.owner
  cases hroot : m.rootMessage with
  | none => rfl
  | some r =>
      show (if r.isEmpty then m.fullName else some r) = some r
      rw [if_neg]
      intro hempty
      obtain rfl := List.isEmpty_iff.mp hempty
      obtain ⟨rest, hrest⟩ := (hs.owned_message hm hroot).2
      rw [Option.some.injEq] at hrest
      exact TypeReference.not_startsName_slash rest (hrest ▸ hstart)

end Schema

/-! ## Linking nested types -/

section Link

variable {a : Assembly} {l : List (TypeDescriptor × Label)}

theorem Listing.mem_allTypes (hl : Listing none a.types l) {t : TypeDescriptor} {r : Label}
    (h : (t, r) ∈ l) : t ∈ a.allTypes :=
  hl.perm.mem_iff.mp (List.mem_map_of_mem (f := (·.1)) h)

theorem Listing.nodup (ha : a.Named) (hl : Listing none a.types l) :
    (l.map (·.1.fullName)).Nodup := by
  have hperm := hl.perm.map (·.fullName)
  rw [List.map_map] at hperm
  exact hperm.nodup_iff.mpr ha.nodup

/-- A full name has one entry in the listing. -/
theorem Listing.unique (ha : a.Named) (hl : Listing none a.types l) {t t' : TypeDescriptor}
    {r r' : Label} (h : (t, r) ∈ l) (h' : (t', r') ∈ l) (hname : t.fullName = t'.fullName) :
    t = t' ∧ r = r' :=
  Prod.mk.inj (List.inj_on_of_nodup_map (hl.nodup ha) h h' hname)

/-- The outermost message that the listing has for a type is listed as a root and
    the full name of the type goes on from its own. -/
theorem Listing.outermost (ha : a.Named) (hl : Listing none a.types l) {t : TypeDescriptor}
    {r : Text} (h : (t, some r) ∈ l) :
    ∃ x, (x, none) ∈ l ∧ x.implements messageInterface = .ok true ∧ x.fullName = some r ∧
      Label.Below (some r) t.fullName := by
  -- Induction on the length of the full name: the type around has a shorter one.
  induction hn : t.fullName.text.length using Nat.strongRecOn generalizing t with
  | _ n ih =>
      rcases mem_or_nested_of_mem_families (hl.mem_allTypes h) with htop | ⟨y, hy, hty⟩
      · have hroot := (hl.unique ha h (hl.roots t htop) rfl).2
        cases hroot
      · obtain ⟨⟨y', ry⟩, hmem, rfl⟩ := List.mem_map.mp (hl.perm.mem_iff.mpr hy)
        obtain ⟨isMessage, himp, hall⟩ := hl.below hmem
        have hbelow : y'.fullName.Below t.fullName := ⟨t.name.text, (ha.nested y' hy t hty).2⟩
        have hinner := (hl.unique ha h (hall t hty) rfl).2
        cases ry with
        | none =>
            cases isMessage with
            | false => cases hinner
            | true => exact ⟨y', hmem, himp, hinner.symm, hinner ▸ hbelow⟩
        | some r' =>
            obtain rfl : r = r' := Option.some.inj hinner
            obtain ⟨x, hx, hximp, hxname, hxbelow⟩ := ih _ (hn ▸ hbelow.length_lt) hmem rfl
            exact ⟨x, hx, hximp, hxname, hxbelow.trans hbelow⟩

theorem innerRoot_of_message (t : TypeDescriptor) (r : Label) :
    innerRoot t r true = r.or t.fullName := by
  cases r with
  | none => rfl
  | some x => rfl

theorem innerRoot_of_ne_none {t : TypeDescriptor} {r : Label} (isMessage : Bool) (h : r ≠ none) :
    innerRoot t r isMessage = r := by
  cases r with
  | none => exact absurd rfl h
  | some x => rfl

/-- The types that a message declares are listed below it. -/
theorem MessageType.Discovered.listed_nestedTypes (ha : a.Named) (hl : Listing none a.types l)
    {n : Label} {m : MessageType} (h : m.Discovered l n) {y : TypeDescriptor}
    (hy : y ∈ m.nestedTypes) :
    ∃ r, (y, r) ∈ l ∧ n.Below y.fullName ∧ (m.owner ≠ none → r = m.owner) := by
  have hkeyed : m.descriptor.fullName = n := h.keyed
  have hplace : ∀ {x y : TypeDescriptor} {r : Label}, (x, r) ∈ l → y ∈ x.nested →
      x.fullName.Below y.fullName := by
    intro x y r hx hy
    exact ⟨y.name.text, (ha.nested x (hl.mem_allTypes hx) y hy).2⟩
  -- The type is a message, so it is around what is nested in it.
  obtain ⟨isMessage, himp, hall⟩ := hl.below h.listed
  obtain rfl : true = isMessage := by
    rw [h.message] at himp
    exact Except.ok.inj himp
  rw [innerRoot_of_message] at hall
  unfold MessageType.nestedTypes at hy
  rcases List.mem_append.mp hy with hy | hy
  · exact ⟨m.owner, hall y hy, hkeyed ▸ hplace h.listed hy, fun _ => rfl⟩
  · -- The type is in the container class, which is nested in the message.
    cases hcontainer : m.descriptor.nested.find? fun t =>
        t.kind == some .staticClass && t.name == some typesContainer with
    | none =>
        rw [hcontainer] at hy
        cases hy
    | some c =>
        rw [hcontainer] at hy
        have hc := List.mem_of_find?_eq_some hcontainer
        obtain ⟨isMessage', -, hinner⟩ := hl.below (hall c hc)
        refine ⟨_, hinner y hy, ?_, fun howner => innerRoot_of_ne_none isMessage' howner⟩
        exact (hkeyed ▸ hplace h.listed hc).trans (hplace (hall c hc) hy)

/-- A type without a name stands alone at the top, so all types have its
    namespace. -/
theorem Listing.ns_of_null (ha : a.Named) (hl : Listing none a.types l)
    (halone : Label.NullAlone (· ∈ a.types.map (·.fullName))) {t : TypeDescriptor} {r : Label}
    (ht : (t, r) ∈ l) (hnull : t.fullName = none) {x : TypeDescriptor} {r' : Label}
    (hx : (x, r') ∈ l) : x.ns = t.ns := by
  have htop : ∀ y ∈ a.types, y = t := by
    intro y hy
    have hyAll : y ∈ a.allTypes := (sublist_families a.types).subset hy
    refine ha.eq_of_fullName_eq hyAll (hl.mem_allTypes ht) ?_
    rw [hnull]
    refine halone ?_ y.fullName (List.mem_map_of_mem hy)
    -- The type without a name is itself at the top: nested ones have names.
    rcases mem_or_nested_of_mem_families (hl.mem_allTypes ht) with htop | ⟨z, hz, hzt⟩
    · exact hnull ▸ List.mem_map_of_mem htop
    · have hname := (ha.nested z hz t hzt).2
      rw [hnull] at hname
      cases hname
  obtain ⟨y, hy, hxy⟩ := mem_families.mp (hl.mem_allTypes hx)
  rw [htop y hy] at hxy
  exact ha.ns_eq (hl.mem_allTypes ht) hxy

theorem Schema.find?_linkNested {s : Schema} {n : Label} {m : MessageType}
    (h : s.linkNested.messages.find? n = some m) :
    ∃ m', s.messages.find? n = some m' ∧ m = m'.withNested s := by
  unfold Schema.linkNested at h
  rw [Registry.find?_mapValues] at h
  obtain ⟨m', hm', rfl⟩ := Option.map_eq_some_iff.mp h
  exact ⟨m', hm', rfl⟩

theorem Schema.find?_linkNested_of_find? {s : Schema} {n : Label} {m : MessageType}
    (h : s.messages.find? n = some m) :
    s.linkNested.messages.find? n = some (m.withNested s) := by
  unfold Schema.linkNested
  rw [Registry.find?_mapValues, h]
  rfl

/-- What the check of a linked schema tells. -/
theorem Schema.checkNesting_eq_ok {s : Schema}
    (hkeyed : ∀ {n m}, s.messages.find? n = some m → m.fullName = n)
    (hkeyed' : ∀ {n e}, s.enums.find? n = some e → e.fullName = n)
    (h : s.checkNesting = .ok ()) :
    (∀ {n m}, s.messages.find? n = some m → ∃ r root, s.messages.find? r = some root ∧
      root.isRoot = true ∧ ReflTransGen s.Nested r n) ∧
    ∀ {n e}, s.enums.find? n = some e → e.isRoot = false →
      ∃ p m, s.messages.find? p = some m ∧ n ∈ m.nestedEnums := by
  unfold Schema.checkNesting at h
  obtain ⟨families, hfamilies, h⟩ := bind_eq_ok.mp h
  dsimp only at h
  split at h
  · cases h
  · rename_i horphans
    split at h
    · cases h
    · rename_i hunlinked
      simp only [Bool.not_eq_true, Bool.not_eq_false', List.isEmpty_iff] at horphans hunlinked
      constructor
      · intro n m hm
        have hmem : n ∈ families.flatten.map (·.fullName) := by
          by_contra hnot
          -- A message that no family holds would be an orphan.
          have horphan : n ∈ s.messages.keys.filter fun name =>
              !(families.flatten.map (·.fullName)).contains name := by
            rw [List.mem_filter, Registry.mem_keys]
            exact ⟨⟨m, hm⟩, by simpa using hnot⟩
          rw [horphans] at horphan
          cases horphan
        obtain ⟨x, hx, rfl⟩ := List.mem_map.mp hmem
        obtain ⟨family, hfamily, hx⟩ := List.mem_flatten.mp hx
        obtain ⟨root, hroot, hfam⟩ := exists_of_mem_mapM hfamilies hfamily
        obtain ⟨hr, hisRoot⟩ := (mem_rootMessages_iff hkeyed).mp hroot
        refine ⟨root.fullName, root, hr, hisRoot, ?_⟩
        unfold Schema.family at hfam
        rw [if_pos hisRoot] at hfam
        exact (reaches_of_mem_descend hkeyed (fun _ _ => List.mem_reverse) hr hfam hx).2
      · intro n e he hnotRoot
        by_contra hnot
        -- An enum that no message links would be an orphan.
        have hmem : e.fullName ∈ (s.enums.values.filter fun e => !e.isRoot &&
            !(s.messages.values.flatMap (·.nestedEnums)).contains e.fullName).map
              (·.fullName) := by
          refine List.mem_map_of_mem ?_
          rw [List.mem_filter, Registry.mem_values, hnotRoot, hkeyed' he]
          refine ⟨⟨n, he⟩, ?_⟩
          rw [Bool.not_false, Bool.true_and, Bool.not_eq_true', List.contains_eq_mem,
            decide_eq_false_iff_not, List.mem_flatMap]
          rintro ⟨m, hm, hn⟩
          obtain ⟨p, hp⟩ := Registry.mem_values.mp hm
          exact hnot ⟨p, m, hp, hn⟩
        rw [hunlinked] at hmem
        cases hmem

/-- A type cannot be both a message and an enum of the schema, if no enum is
    listed as a message. -/
theorem Schema.Discovered.apart {s : Schema} (ha : a.Named)
    (hkinds : ∀ t ∈ a.allTypes, t.isEnum = true → t.implements messageInterface ≠ .ok true)
    (hl : Listing none a.types l) (h : s.Discovered l) {n : Label} {m : MessageType}
    {e : EnumType} (hm : s.messages.find? n = some m) (he : s.enums.find? n = some e) : False := by
  have hmessage := h.message hm
  have henum := h.enum he
  -- One listed type would be both.
  have hsame := (hl.unique ha hmessage.listed henum.listed
    (hmessage.keyed.trans henum.keyed.symm)).1
  refine hkinds e.descriptor (hl.mem_allTypes henum.listed) henum.enum ?_
  rw [← hsame]
  exact hmessage.message

/-- The outermost message that the listing has for a type is a root message of a
    schema that has all messages. -/
theorem Schema.Discovered.rootAround {s : Schema} (ha : a.Named) (hl : Listing none a.types l)
    (h : s.Discovered l) (hcomplete : s.Complete a) {t : TypeDescriptor} {r : Text}
    (ht : (t, some r) ∈ l) : s.RootAround r t.fullName := by
  obtain ⟨x, hx, himp, hname, hbelow⟩ := hl.outermost ha ht
  obtain ⟨root, hroot⟩ := hcomplete x (hl.mem_allTypes hx) himp
  have hlisted := h.message hroot
  have hnone := (hl.unique ha hlisted.listed hx hlisted.keyed).2
  refine ⟨⟨root, hname ▸ hroot, ?_⟩, hbelow⟩
  unfold MessageType.isRoot
  rw [hnone]
  rfl

/-- The messages that are linked to a discovered message are those it declares. -/
theorem MessageType.Discovered.mem_nestedMessages_iff {s : Schema} {n n' : Label}
    {m : MessageType} (h : m.Discovered l n) :
    n' ∈ (m.withNested s).nestedMessages ↔
      ∃ y ∈ m.nestedTypes, y.fullName = n' ∧ s.messages.contains n' = true := by
  rw [MessageType.withNested, h.unlinked.1, List.nil_append, List.mem_filter, List.mem_map]
  constructor
  · rintro ⟨⟨y, hy, hname⟩, hcontains⟩
    exact ⟨y, hy, hname, hcontains⟩
  · rintro ⟨y, hy, hname, hcontains⟩
    exact ⟨⟨y, hy, hname⟩, hcontains⟩

/-- The enums that are linked to a discovered message are those it declares. -/
theorem MessageType.Discovered.mem_nestedEnums_iff {s : Schema} {n n' : Label}
    {m : MessageType} (h : m.Discovered l n) :
    n' ∈ (m.withNested s).nestedEnums ↔
      ∃ y ∈ m.nestedTypes, y.fullName = n' ∧ s.enums.contains n' = true := by
  rw [MessageType.withNested, h.unlinked.2, List.nil_append, List.mem_filter, List.mem_map]
  constructor
  · rintro ⟨⟨y, hy, hname⟩, hcontains⟩
    exact ⟨y, hy, hname, hcontains⟩
  · rintro ⟨y, hy, hname, hcontains⟩
    exact ⟨⟨y, hy, hname⟩, hcontains⟩

theorem Schema.Discovered.keyed_linkNested {s : Schema} (h : s.Discovered l) {n : Label}
    {m : MessageType} (hm : s.linkNested.messages.find? n = some m) : m.fullName = n := by
  obtain ⟨m', hm', rfl⟩ := s.find?_linkNested hm
  exact (h.message hm').keyed

/-- The links of discovered types are in order if they reach every message and every
    enum that is in a message. -/
theorem Schema.Discovered.wellNested_linkNested {s : Schema} (ha : a.Named)
    (halone : Label.NullAlone (· ∈ a.types.map (·.fullName))) (hl : Listing none a.types l)
    (h : s.Discovered l) (hcomplete : s.Complete a)
    (hreached : ∀ {n m}, s.linkNested.messages.find? n = some m →
      ∃ r root, s.linkNested.messages.find? r = some root ∧ root.isRoot = true ∧
        ReflTransGen s.linkNested.Nested r n)
    (hlinked : ∀ {n e}, s.linkNested.enums.find? n = some e → e.isRoot = false →
      ∃ p m, s.linkNested.messages.find? p = some m ∧ n ∈ m.nestedEnums) :
    s.linkNested.WellNested := by
  -- The root messages before are those after.
  have hroots : ∀ {r : Text} {t : TypeDescriptor}, (t, some r) ∈ l →
      s.linkNested.RootAround r t.fullName := by
    intro r t ht
    obtain ⟨⟨root, hroot, hisRoot⟩, hbelow⟩ := h.rootAround ha hl hcomplete ht
    exact ⟨⟨root.withNested s, s.find?_linkNested_of_find? hroot, hisRoot⟩, hbelow⟩
  refine ⟨h.keyed_linkNested, fun he => (h.enum he).keyed, ?_, ?_, ?_, ?_, hreached, hlinked, ?_⟩
  · intro n m n' hm hn'
    obtain ⟨m', hm', rfl⟩ := s.find?_linkNested hm
    have hdiscovered := h.message hm'
    obtain ⟨y, hy, rfl, hcontains⟩ := hdiscovered.mem_nestedMessages_iff.mp hn'
    obtain ⟨x, hx⟩ := Registry.contains_iff.mp hcontains
    obtain ⟨r, hr, hbelow, howner⟩ := hdiscovered.listed_nestedTypes ha hl hy
    -- The nested message is listed once, below the owner of its parent.
    have hxd := h.message hx
    refine ⟨x.withNested s, s.find?_linkNested_of_find? hx, hbelow, fun hne => ?_⟩
    exact (hl.unique ha hxd.listed hr hxd.keyed).2.trans (howner hne)
  · intro n m n' hm hn'
    obtain ⟨m', hm', rfl⟩ := s.find?_linkNested hm
    have hdiscovered := h.message hm'
    obtain ⟨y, hy, rfl, hcontains⟩ := hdiscovered.mem_nestedEnums_iff.mp hn'
    obtain ⟨e, he⟩ := Registry.contains_iff.mp hcontains
    obtain ⟨r, hr, -, howner⟩ := hdiscovered.listed_nestedTypes ha hl hy
    have hed := h.enum he
    refine ⟨e, he, fun hne => ?_⟩
    exact (hl.unique ha hed.listed hr hed.keyed).2.trans (howner hne)
  · intro n m r hm hr
    obtain ⟨m', hm', rfl⟩ := s.find?_linkNested hm
    have hroot : m'.rootMessage = some r := hr
    have hlisted := (h.message hm').listed
    rw [hroot] at hlisted
    exact (h.message hm').keyed ▸ hroots hlisted
  · intro n e r he hr
    have hlisted := (h.enum he).listed
    rw [hr] at hlisted
    exact (h.enum he).keyed ▸ hroots hlisted
  · intro m hm
    obtain ⟨m', hm', rfl⟩ := s.find?_linkNested hm
    have hnull := h.message hm'
    refine ⟨m'.ns, fun {n x} hx => ?_, fun {n e} he => ?_⟩
    · obtain ⟨x', hx', rfl⟩ := s.find?_linkNested hx
      exact hl.ns_of_null ha halone hnull.listed hnull.keyed (h.message hx').listed
    · exact hl.ns_of_null ha halone hnull.listed hnull.keyed (h.enum he).listed

/-- Linking the discovered types gives a schema whose types are in order. -/
theorem Schema.Discovered.wellNested_of_connect {s s' : Schema} (ha : a.Named)
    (halone : Label.NullAlone (· ∈ a.types.map (·.fullName))) (hl : Listing none a.types l)
    (h : s.Discovered l) (hcomplete : s.Complete a) (hs' : s.connect = .ok s') :
    s' = s.linkNested ∧ s'.WellNested := by
  unfold Schema.connect at hs'
  obtain ⟨⟨⟩, hcheck, hs'⟩ := bind_eq_ok.mp hs'
  obtain rfl : s.linkNested = s' := Except.ok.inj hs'
  obtain ⟨hreached, hlinked⟩ := s.linkNested.checkNesting_eq_ok h.keyed_linkNested
    (fun he => (h.enum he).keyed) hcheck
  exact ⟨rfl, h.wellNested_linkNested ha halone hl hcomplete hreached hlinked⟩

end Link

end SchemaRecovery
