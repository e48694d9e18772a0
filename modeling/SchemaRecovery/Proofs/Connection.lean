/-
  SchemaRecovery.Proofs.Connection

  When the links between nested types are complete. Whether every message is
  reached from a root message is asked of the links as a whole; it comes down to
  the types around each type. A type that is in a message is linked exactly if the
  type it is declared in is a message or the container class of one, and from
  there the links lead up to the outermost message, by induction on the length of
  full names. So linking fails exactly for strays (`HasStray`), and otherwise the
  messages below a root message are those that record it as their outermost one
  (`connect_fails_iff_hasStray`).
-/
import SchemaRecovery.Proofs.AnalysisFailures
import SchemaRecovery.Proofs.Forest

namespace SchemaRecovery

open Relation TypeDescriptor

namespace Schema

/-! ## Strays -/

/-- The type is a message, or the container class of a message. -/
def Encloses (a : Assembly) (s : Schema) (p : TypeDescriptor) : Prop :=
  s.messages.contains p.fullName = true ∨
    p.kind = some .staticClass ∧ p.name = some typesContainer ∧
      ∃ q ∈ a.allTypes, p ∈ q.nested ∧ s.messages.contains q.fullName = true

/-- The type is declared in one that is neither a message nor the container class of
    a message. -/
def Stray (a : Assembly) (s : Schema) (t : TypeDescriptor) : Prop :=
  ∃ p ∈ a.allTypes, t ∈ p.nested ∧ ¬s.Encloses a p

/-- A message or an enum that is in a message is stray. -/
def HasStray (a : Assembly) (s : Schema) : Prop :=
  (∃ n m, s.messages.find? n = some m ∧ m.rootMessage ≠ none ∧ s.Stray a m.descriptor) ∨
    ∃ n e, s.enums.find? n = some e ∧ e.rootMessage ≠ none ∧ s.Stray a e.descriptor

end Schema

/-- No two types of one parent have one name, so a message declares what is in any of
    its container classes. -/
theorem MessageType.mem_nestedTypes_of_container {a : Assembly} (ha : a.Named) {m : MessageType}
    {c y : TypeDescriptor} (hm : m.descriptor ∈ a.allTypes) (hc : c ∈ m.descriptor.nested)
    (hkind : c.kind = some .staticClass) (hname : c.name = some typesContainer)
    (hy : y ∈ c.nested) : y ∈ m.nestedTypes := by
  unfold MessageType.nestedTypes
  refine List.mem_append_right _ ?_
  cases hcontainer : m.descriptor.nested.find? fun t =>
      t.kind == some .staticClass && t.name == some typesContainer with
  | none =>
      have hno := List.find?_eq_none.mp hcontainer c hc
      simp [hkind, hname] at hno
  | some c' =>
      have hc' := List.mem_of_find?_eq_some hcontainer
      have hfound := List.find?_some hcontainer
      rw [Bool.and_eq_true, beq_iff_eq, beq_iff_eq] at hfound
      have hsame : c'.fullName = c.fullName := by
        rw [(ha.nested _ hm c' hc').2, (ha.nested _ hm c hc).2, hfound.2, hname]
      have heq : c' = c := ha.eq_of_fullName_eq (nested_mem_families a.types hm hc')
        (nested_mem_families a.types hm hc) hsame
      rw [heq]
      exact hy

namespace Schema

@[simp] theorem isRoot_withNested (s : Schema) (m : MessageType) :
    (m.withNested s).isRoot = m.isRoot := rfl

section Links

variable {a : Assembly} {l : List (TypeDescriptor × Label)} {s : Schema}

/-- A message under the name of a listed type is that type, and has around what it
    declares what the listing has around the types nested in it. -/
theorem Discovered.listed_message (ha : a.Named) (hl : Listing none a.types l)
    (h : s.Discovered l) {t : TypeDescriptor} {r : Label} (ht : (t, r) ∈ l) {m : MessageType}
    (hm : s.messages.find? t.fullName = some m) :
    m.descriptor = t ∧ t.implements messageInterface = .ok true ∧
      ∀ y ∈ t.nested, (y, m.owner) ∈ l := by
  have hmd := h.message hm
  obtain ⟨rfl, rfl⟩ := hl.unique ha hmd.listed ht hmd.keyed
  obtain ⟨isMessage, himp, hall⟩ := hl.below ht
  obtain rfl : true = isMessage := by
    rw [hmd.message] at himp
    exact Except.ok.inj himp
  rw [innerRoot_of_message] at hall
  exact ⟨rfl, hmd.message, hall⟩

/-- A type in a message that is not stray is declared by a message, which has the same
    outermost message around what it declares. -/
theorem Discovered.exists_declarer (ha : a.Named) (hl : Listing none a.types l)
    (h : s.Discovered l) (hcomplete : s.Complete a) {t : TypeDescriptor} {r : Text}
    (ht : (t, some r) ∈ l) (hnot : ¬s.Stray a t) :
    ∃ n m, s.messages.find? n = some m ∧ t ∈ m.nestedTypes ∧ m.owner = some r := by
  rcases mem_or_nested_of_mem_families (hl.mem_allTypes ht) with htop | ⟨y, hy, hty⟩
  · cases (hl.unique ha ht (hl.roots t htop) rfl).2
  · obtain ⟨⟨y, ry⟩, hmem, rfl⟩ := List.mem_map.mp (hl.perm.mem_iff.mpr hy)
    have hencloses : s.Encloses a y := by
      by_contra hno
      exact hnot ⟨y, hy, hty, hno⟩
    by_cases hregistered : s.messages.contains y.fullName = true
    · obtain ⟨m, hm⟩ := Registry.contains_iff.mp hregistered
      obtain ⟨rfl, -, hall⟩ := h.listed_message ha hl hmem hm
      refine ⟨_, m, hm, List.mem_append_left _ hty, ?_⟩
      exact (hl.unique ha (hall t hty) ht rfl).2
    · -- The container class is no message, so what is around it is around the type.
      obtain ⟨hkind, hname, q, hq, hyq, hcontains⟩ := hencloses.resolve_left hregistered
      obtain ⟨⟨q, rq⟩, hqmem, rfl⟩ := List.mem_map.mp (hl.perm.mem_iff.mpr hq)
      obtain ⟨m, hm⟩ := Registry.contains_iff.mp hcontains
      obtain ⟨rfl, -, hall⟩ := h.listed_message ha hl hqmem hm
      obtain ⟨isMessage, himp, hbelow⟩ := hl.below hmem
      have hplain : isMessage = false := by
        cases isMessage with
        | false => rfl
        | true => exact absurd (Registry.contains_iff.mpr (hcomplete y hy himp)) hregistered
      have hinner : innerRoot y ry isMessage = ry := by
        unfold innerRoot
        rw [hplain, Bool.and_false]
        rfl
      rw [hinner] at hbelow
      refine ⟨_, m, hm, ?_, ?_⟩
      · exact MessageType.mem_nestedTypes_of_container ha hq hyq hkind hname hty
      · rw [(hl.unique ha (hall y hyq) hmem rfl).2]
        exact (hl.unique ha (hbelow t hty) ht rfl).2

/-- Without strays the links lead from the outermost message to every message in it. -/
theorem Discovered.reaches_of_no_stray (ha : a.Named) (hl : Listing none a.types l)
    (h : s.Discovered l) (hcomplete : s.Complete a) (hnone : ¬s.HasStray a) {n : Label}
    {m : MessageType} {r : Text} (hm : s.messages.find? n = some m)
    (hr : m.rootMessage = some r) : ReflTransGen s.linkNested.Nested (some r) n := by
  -- Induction on the length of the full name: the declaring message has a shorter one.
  induction hlen : n.text.length using Nat.strongRecOn generalizing n m with
  | _ k ih =>
      have hmd := h.message hm
      have hlisted := hmd.listed
      rw [hr] at hlisted
      have hnot : ¬s.Stray a m.descriptor := by
        intro hstray
        exact hnone (Or.inl ⟨n, m, hm, by rw [hr]; exact Option.some_ne_none r, hstray⟩)
      obtain ⟨p, mp, hp, hnested, howner⟩ := h.exists_declarer ha hl hcomplete hlisted hnot
      have hpd := h.message hp
      have hstep : s.linkNested.Nested p n := by
        refine ⟨_, s.find?_linkNested_of_find? hp, hpd.mem_nestedMessages_iff.mpr ?_⟩
        exact ⟨m.descriptor, hnested, hmd.keyed, Registry.contains_iff.mpr ⟨m, hm⟩⟩
      -- The declaring message is the outermost one itself, or is in it too.
      cases hroot : mp.rootMessage with
      | none =>
          have hname : mp.fullName = some r := by
            rw [MessageType.owner, hroot] at howner
            exact howner
          rw [hpd.keyed] at hname
          rw [← hname]
          exact .single hstep
      | some r' =>
          have hsame : mp.rootMessage = some r := by
            rw [MessageType.owner, hroot] at howner
            rw [hroot]
            exact howner
          obtain ⟨-, -, hbelow, -⟩ := hpd.listed_nestedTypes ha hl hnested
          have hlt : p.text.length < k := by
            rw [← hlen, ← hmd.keyed]
            exact hbelow.length_lt
          exact (ih _ hlt hp hsame rfl).tail hstep

/-- Without strays every enum in a message is linked to one. -/
theorem Discovered.linked_of_no_stray (ha : a.Named) (hl : Listing none a.types l)
    (h : s.Discovered l) (hcomplete : s.Complete a) (hnone : ¬s.HasStray a) {n : Label}
    {e : EnumType} (he : s.enums.find? n = some e) (hnotRoot : e.isRoot = false) :
    ∃ p m, s.linkNested.messages.find? p = some m ∧ n ∈ m.nestedEnums := by
  have hed := h.enum he
  obtain ⟨r, hr⟩ : ∃ r, e.rootMessage = some r := by
    unfold EnumType.isRoot at hnotRoot
    exact Option.isSome_iff_exists.mp (by simpa using hnotRoot)
  have hlisted := hed.listed
  rw [hr] at hlisted
  have hnot : ¬s.Stray a e.descriptor := by
    intro hstray
    exact hnone (Or.inr ⟨n, e, he, by rw [hr]; exact Option.some_ne_none r, hstray⟩)
  obtain ⟨p, mp, hp, hnested, -⟩ := h.exists_declarer ha hl hcomplete hlisted hnot
  refine ⟨p, _, s.find?_linkNested_of_find? hp, (h.message hp).mem_nestedEnums_iff.mpr ?_⟩
  exact ⟨e.descriptor, hnested, hed.keyed, Registry.contains_iff.mpr ⟨e, he⟩⟩

/-- The check of links that are in order passes. -/
theorem WellNested.checkNesting_ok (hs : s.WellNested) : s.checkNesting = .ok () := by
  have hfamilies : ∀ root ∈ s.rootMessages, ∃ family, s.family root = .ok family := by
    intro root hroot
    obtain ⟨hfound, hisRoot⟩ := (mem_rootMessages_iff hs.keyed_message).mp hroot
    exact hs.family_ok hfound hisRoot
  obtain ⟨families, hfamilies⟩ := exists_mapM_eq_ok hfamilies
  -- Both lists that would be reported are empty.
  have horphans : (s.messages.keys.filter fun name =>
      !(families.flatten.map (·.fullName)).contains name) = [] := by
    rw [List.filter_eq_nil_iff]
    intro n hn
    obtain ⟨m, hm⟩ := Registry.mem_keys.mp hn
    obtain ⟨r, root, hroot, hisRoot, hreach⟩ := hs.reached hm
    obtain rfl := hs.keyed_message hroot
    obtain rfl := hs.keyed_message hm
    obtain ⟨family, hmem, hfamily⟩ := exists_mem_of_mapM hfamilies
      ((mem_rootMessages_iff hs.keyed_message).mpr ⟨hroot, hisRoot⟩)
    have hfound : m ∈ family := (mem_family_iff hs hroot hfamily).mpr ⟨hm, hreach⟩
    have hlisted : m.fullName ∈ families.flatten.map (·.fullName) :=
      List.mem_map_of_mem (List.mem_flatten.mpr ⟨family, hmem, hfound⟩)
    simpa using hlisted
  have hunlinked : (s.enums.values.filter fun e => !e.isRoot &&
      !(s.messages.values.flatMap (·.nestedEnums)).contains e.fullName) = [] := by
    rw [List.filter_eq_nil_iff]
    intro e he
    obtain ⟨n, hn⟩ := Registry.mem_values.mp he
    cases hisRoot : e.isRoot with
    | true => simp
    | false =>
        obtain ⟨p, m, hm, hlinked⟩ := hs.linked hn hisRoot
        have hmem : e.fullName ∈ s.messages.values.flatMap (·.nestedEnums) := by
          rw [hs.keyed_enum hn]
          exact List.mem_flatMap.mpr ⟨m, Registry.mem_values.mpr ⟨p, hm⟩, hlinked⟩
        simpa using hmem
  unfold checkNesting
  rw [hfamilies, ok_bind]
  dsimp only
  rw [horphans, hunlinked]
  rfl

/-- Without strays the links are complete. -/
theorem Discovered.connect_ok (ha : a.Named)
    (halone : Label.NullAlone (· ∈ a.types.map (·.fullName))) (hl : Listing none a.types l)
    (h : s.Discovered l) (hcomplete : s.Complete a) (hnone : ¬s.HasStray a) :
    s.connect = .ok s.linkNested := by
  have hreached : ∀ {n m}, s.linkNested.messages.find? n = some m →
      ∃ r root, s.linkNested.messages.find? r = some root ∧ root.isRoot = true ∧
        ReflTransGen s.linkNested.Nested r n := by
    intro n m hm
    obtain ⟨m, hm', rfl⟩ := s.find?_linkNested hm
    cases hr : m.rootMessage with
    | none => exact ⟨n, _, hm, by rw [isRoot_withNested, MessageType.isRoot, hr]; rfl, .refl⟩
    | some r =>
        have hlisted := (h.message hm').listed
        rw [hr] at hlisted
        obtain ⟨⟨root, hroot, hisRoot⟩, -⟩ := h.rootAround ha hl hcomplete hlisted
        exact ⟨some r, _, s.find?_linkNested_of_find? hroot, hisRoot,
          h.reaches_of_no_stray ha hl hcomplete hnone hm' hr⟩
  have hnested := h.wellNested_linkNested ha halone hl hcomplete hreached
    fun he hnotRoot => h.linked_of_no_stray ha hl hcomplete hnone he hnotRoot
  unfold connect
  rw [hnested.checkNesting_ok]
  rfl

/-- What a message declares is declared in the message or in its container class, and
    nowhere else. -/
theorem Discovered.not_stray (ha : a.Named)
    (halone : Label.NullAlone (· ∈ a.types.map (·.fullName))) (hl : Listing none a.types l)
    (h : s.Discovered l) {n : Label} {m : MessageType} (hm : s.messages.find? n = some m)
    {t : TypeDescriptor} (ht : t ∈ m.nestedTypes) : ¬s.Stray a t := by
  rintro ⟨p, hp, htp, hno⟩
  have hmd := h.message hm
  have hmem := hl.mem_allTypes hmd.listed
  have hregistered : s.messages.contains m.descriptor.fullName = true :=
    Registry.contains_iff.mpr ⟨m, by rw [show m.descriptor.fullName = n from hmd.keyed, hm]⟩
  rcases MessageType.mem_nestedTypes ht with ht | ⟨c, hc, hkind, hname, ht⟩
  · rw [ha.parent_unique halone hp hmem htp ht] at hno
    exact hno (Or.inl hregistered)
  · have hcmem := nested_mem_families a.types hmem hc
    rw [ha.parent_unique halone hp hcmem htp ht] at hno
    exact hno (Or.inr ⟨hkind, hname, m.descriptor, hmem, hc, hregistered⟩)

/-- Complete links leave no strays. -/
theorem Discovered.no_stray_of_connect {s' : Schema} (ha : a.Named)
    (halone : Label.NullAlone (· ∈ a.types.map (·.fullName))) (hl : Listing none a.types l)
    (h : s.Discovered l) (hcomplete : s.Complete a) (hs' : s.connect = .ok s') :
    ¬s.HasStray a := by
  obtain ⟨rfl, hnested⟩ := h.wellNested_of_connect ha halone hl hcomplete hs'
  -- The type that is linked under a name is the type of that name.
  have htype : ∀ {p : Label} {mp : MessageType} {t : TypeDescriptor} {r : Label},
      s.messages.find? p = some mp → (t, r) ∈ l →
      (∃ y ∈ mp.nestedTypes, y.fullName = t.fullName) → ¬s.Stray a t := by
    rintro p mp t r hp ht ⟨y, hy, hname⟩
    obtain ⟨ry, hry, -⟩ := (h.message hp).listed_nestedTypes ha hl hy
    obtain ⟨rfl, -⟩ := hl.unique ha hry ht hname
    exact h.not_stray ha halone hl hp hy
  rintro (⟨n, m, hm, hr, hstray⟩ | ⟨n, e, he, hr, hstray⟩)
  -- A message that is reached and is no root message is linked to the last one on the way.
  · obtain ⟨r, root, hroot, hisRoot, hreach⟩ := hnested.reached (s.find?_linkNested_of_find? hm)
    rcases hreach.cases_tail with rfl | ⟨p, -, mp, hmp, hn⟩
    · obtain ⟨root, hroot', rfl⟩ := s.find?_linkNested hroot
      rw [hm, Option.some.injEq] at hroot'
      rw [← hroot', isRoot_withNested, MessageType.isRoot, Option.isNone_iff_eq_none] at hisRoot
      exact hr hisRoot
    · obtain ⟨mp, hp, rfl⟩ := s.find?_linkNested hmp
      obtain ⟨y, hy, hname, -⟩ := (h.message hp).mem_nestedMessages_iff.mp hn
      have hmd := h.message hm
      exact htype hp hmd.listed ⟨y, hy, hname.trans hmd.keyed.symm⟩ hstray
  · have hnotRoot : e.isRoot = false := by
      rw [EnumType.isRoot, Bool.eq_false_iff, Ne, Option.isNone_iff_eq_none]
      exact hr
    obtain ⟨p, mp, hmp, hn⟩ := hnested.linked he hnotRoot
    obtain ⟨mp, hp, rfl⟩ := s.find?_linkNested hmp
    obtain ⟨y, hy, hname, -⟩ := (h.message hp).mem_nestedEnums_iff.mp hn
    have hed := h.enum he
    exact htype hp hed.listed ⟨y, hy, hname.trans hed.keyed.symm⟩ hstray

end Links

/-- Linking the gathered types fails exactly for strays, and tells of them as a broken
    invariant. Otherwise the messages below a root message that has a name are those
    with this root message. -/
theorem connect_fails_iff_hasStray {d : AssemblyDeclaration} {a : Assembly} {s : Schema}
    (hassembly : Assembly.ofDeclaration d = .ok a) (hgather : gather a {} = .ok s) :
    ((∃ e, s.connect = .error e ∧ e.kind = .invariant) ↔ s.HasStray a) ∧
    (∀ e, s.connect = .error e → e.kind = .invariant) ∧
    ∀ s', s.connect = .ok s' → ∀ r root, s'.messages.find? r = some root →
      root.isRoot = true → r ≠ none → ∀ n, ReflTransGen s'.Nested r n ↔
        n = r ∨ ∃ m, s'.messages.find? n = some m ∧ m.rootMessage = r := by
  have ha := Assembly.named_of_ofDeclaration hassembly
  obtain ⟨halone, l, hl, h⟩ := discovered_of_gather ha hgather
  have hcomplete := complete_of_gather ha hgather
  have hkind : ∀ e, s.connect = .error e → e.kind = .invariant := by
    intro e he
    rcases h.failsOnly_connect e he with ⟨names, rfl⟩ | ⟨names, rfl⟩
    · rfl
    · rfl
  refine ⟨⟨?_, fun hstray => ?_⟩, hkind, ?_⟩
  · rintro ⟨e, he, -⟩
    by_contra hnone
    rw [h.connect_ok ha halone hl hcomplete hnone] at he
    cases he
  · cases hs' : s.connect with
    | error e => exact ⟨e, rfl, hkind e hs'⟩
    | ok s' => exact absurd hstray (h.no_stray_of_connect ha halone hl hcomplete hs')
  · intro s' hs' r root hroot hisRoot hr n
    have hnone := h.no_stray_of_connect ha halone hl hcomplete hs'
    obtain ⟨rfl, hnested⟩ := h.wellNested_of_connect ha halone hl hcomplete hs'
    constructor
    · intro hreach
      rcases hreach.cases_tail with rfl | ⟨p, -, hstep⟩
      · exact Or.inl rfl
      · obtain ⟨m, hm⟩ := hnested.found_of_nested hstep
        by_cases hn : n = r
        · exact Or.inl hn
        · exact Or.inr ⟨m, hm, (hnested.owner_of_reaches hroot hisRoot hr hreach hm).2 hn⟩
    · rintro (rfl | ⟨m, hm, hmr⟩)
      · exact .refl
      · obtain ⟨m, hm', rfl⟩ := s.find?_linkNested hm
        obtain ⟨t, rfl⟩ := Option.ne_none_iff_exists'.mp hr
        exact h.reaches_of_no_stray ha hl hcomplete hnone hm' hmr

/-- A declaration of a message without fields. -/
def declareMessage (name : Label) (nested : List TypeDeclaration) : TypeDeclaration :=
  ⟨name, some "", some .plainClass, some ["Google.Protobuf.IMessage"], some [], some [],
    some nested⟩

/-- The class around `B`, which may be static. -/
def boxNode (isStatic : Bool) : TypeDescriptor :=
  ⟨some "Types", some "", some (if isStatic then .staticClass else .plainClass), some [], some [],
    some [], some "A/Types", some "A",
    [messageNode (some "B") (some "A/Types/B") (some "A/Types") []]⟩

/-- A message `B` in a class `Types` of a message `A`. -/
def boxedDeclaration (isStatic : Bool) : AssemblyDeclaration :=
  ⟨some "", some [], some [declareMessage (some "A")
    [⟨some "Types", some "", (boxNode isStatic).kind, some [], some [], some [],
      some [declareMessage (some "B") []]⟩]]⟩

/-- The types that are declared. -/
def boxedTypes (isStatic : Bool) : Assembly :=
  .ofTypes (some "") (some []) [messageNode (some "A") (some "A") none [boxNode isStatic]]

/-- The messages that are gathered. -/
def boxedSchema (isStatic : Bool) : Schema where
  messages :=
    ⟨[(some "A", { descriptor := messageNode (some "A") (some "A") none [boxNode isStatic]
                   rootMessage := none }),
      (some "A/Types/B", { descriptor := messageNode (some "B") (some "A/Types/B")
                             (some "A/Types") []
                           rootMessage := some "A" })],
      show [some ("A" : Text), some ("A/Types/B" : Text)].Nodup by decide⟩

theorem ofDeclaration_boxed (isStatic : Bool) :
    Assembly.ofDeclaration (boxedDeclaration isStatic) = .ok (boxedTypes isStatic) := by
  cbv

theorem gather_boxed (isStatic : Bool) :
    gather (boxedTypes isStatic) {} = .ok (boxedSchema isStatic) := by
  cases isStatic
  · cbv
  · cbv

theorem connect_boxed : (boxedSchema true).connect = .ok (boxedSchema true).linkNested := by
  cbv

/-- In a class that is not static the message is stray. -/
theorem hasStray_boxed : (boxedSchema false).HasStray (boxedTypes false) := by
  refine Or.inl ⟨some "A/Types/B", _, rfl, Option.some_ne_none _, boxNode false, ?_, ?_, ?_⟩
  · exact nested_mem_families (boxedTypes false).types
      ((sublist_families _).subset List.mem_cons_self) List.mem_cons_self
  · exact List.mem_cons_self
  · rintro (hregistered | ⟨hkind, -⟩)
    · revert hregistered
      decide
    · cases hkind

/-- A message in the container class is reached from the outer message; in a class that
    only has its name it makes linking fail. -/
theorem connect_fails_iff_hasStray_boxed :
    (∃ s, (boxedSchema true).connect = .ok s ∧
      ReflTransGen s.Nested (some ("A" : Text)) (some ("A/Types/B" : Text))) ∧
    ∃ e, (boxedSchema false).connect = .error e ∧ e.kind = .invariant := by
  constructor
  · refine ⟨_, connect_boxed, ?_⟩
    refine ((connect_fails_iff_hasStray (ofDeclaration_boxed true) (gather_boxed true)).2.2 _
      connect_boxed (some "A") _ rfl rfl (Option.some_ne_none _) _).mpr (Or.inr ⟨_, rfl, rfl⟩)
  · exact (connect_fails_iff_hasStray (ofDeclaration_boxed false) (gather_boxed false)).1.mpr
      hasStray_boxed

/-- A message without a name around `B` around `C`. -/
def namelessDeclaration : AssemblyDeclaration :=
  ⟨some "", some [], some [declareMessage none [declareMessage (some "B")
    [declareMessage (some "C") []]]]⟩

/-- The types that are declared. -/
def namelessAround : Assembly :=
  .ofTypes (some "") (some []) [messageNode none none none [messageNode (some "B")
    (some "None/B") none [messageNode (some "C") (some "None/B/C") (some "None/B") []]]]

/-- The messages that are gathered: those in the nameless one record none. -/
def namelessSchema : Schema where
  messages :=
    ⟨[(none, { descriptor := messageNode none none none [messageNode (some "B") (some "None/B") none
                 [messageNode (some "C") (some "None/B/C") (some "None/B") []]]
               rootMessage := none }),
      (some "None/B", { descriptor := messageNode (some "B") (some "None/B") none
                          [messageNode (some "C") (some "None/B/C") (some "None/B") []]
                        rootMessage := none }),
      (some "None/B/C", { descriptor := messageNode (some "C") (some "None/B/C") (some "None/B") []
                          rootMessage := some "None/B" })], by decide⟩

theorem connect_nameless : namelessSchema.connect = .ok namelessSchema.linkNested := by
  cbv

/-- `C` is reached from the nameless root message, but records `B` as its outermost
    one. -/
theorem nameless_root_reaches_more :
    Assembly.ofDeclaration namelessDeclaration = .ok namelessAround ∧
      gather namelessAround {} = .ok namelessSchema ∧ ∃ s root m, namelessSchema.connect = .ok s ∧
        s.messages.find? none = some root ∧ root.isRoot = true ∧
        ReflTransGen s.Nested none (some ("None/B/C" : Text)) ∧
        s.messages.find? (some "None/B/C") = some m ∧ m.rootMessage = some ("None/B" : Text) := by
  refine ⟨by cbv, by cbv, _, _, _, connect_nameless, rfl, rfl, ?_, rfl, rfl⟩
  have hB : namelessSchema.linkNested.Nested none (some ("None/B" : Text)) := ⟨_, rfl, by decide⟩
  have hC : namelessSchema.linkNested.Nested (some ("None/B" : Text))
      (some ("None/B/C" : Text)) := ⟨_, rfl, by decide⟩
  exact (ReflTransGen.single hB).tail hC

end Schema

end SchemaRecovery
