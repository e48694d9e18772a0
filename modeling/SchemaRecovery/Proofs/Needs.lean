/-
  SchemaRecovery.Proofs.Needs

  What the messages of a schema record as their needs. After the dependencies of
  all messages are recorded, the imports of a message are exactly the external
  imports of the schema types of its fields, and the messages and enums it
  depends on exactly those that these mention (`Recorded`). Dropping the other
  enums changes no schema type that is left (`analysed_of_relate`).
-/
import SchemaRecovery.Proofs.Nesting

namespace SchemaRecovery

open Relation

/-! ## The needs of one message -/

/-- What a field may need: an external import, or a message or enum of the
    schema. -/
inductive Need where
  | path (file : Text)
  | type (name : Text)

/-- What a schema type needs. -/
def TypeMapping.Needs (t : TypeMapping) : Need → Prop
  | .path file => file ∈ t.externalImports
  | .type name => name ∈ t.internalTypes

/-- What the fields of a message need, by their schema types. -/
def Schema.Needs (s : Schema) (m : MessageType) (x : Need) : Prop :=
  ∃ f ∈ m.allFields, ∃ t, s.mapType f.valueType = .ok (.mapped t) ∧ t.Needs x

theorem Schema.needs_congr {s : Schema} {m m' : MessageType} (h : m'.allFields = m.allFields)
    (x : Need) : s.Needs m' x ↔ s.Needs m x := by
  unfold Schema.Needs
  rw [h]

namespace MessageType

/-- The message without its needs. -/
def bare (m : MessageType) : MessageType :=
  { m with imports := ∅, dependsOnMessages := ∅, dependsOnEnums := ∅ }

/-- What does not depend on the needs is the same in messages that differ only
    in these. -/
theorem eq_of_bare_eq {α : Type} (f : MessageType → α) {m m' : MessageType}
    (h : m'.bare = m.bare) (hf : ∀ m, f m.bare = f m) : f m' = f m := by
  rw [← hf m', h, hf]

/-- The second message is the first with needs recorded: external imports, and
    types sorted into enums and messages. -/
structure Adds (s : Schema) (needs : Need → Prop) (m m' : MessageType) : Prop where
  bare : m'.bare = m.bare
  imports : ∀ x, x ∈ m'.imports ↔ x ∈ m.imports ∨ needs (.path x)
  enums : ∀ x, x ∈ m'.dependsOnEnums ↔
    x ∈ m.dependsOnEnums ∨ (needs (.type x) ∧ s.enums.contains (some x) = true)
  messages : ∀ x, x ∈ m'.dependsOnMessages ↔
    x ∈ m.dependsOnMessages ∨ (needs (.type x) ∧ s.enums.contains (some x) = false)

variable {s : Schema} {m m' m'' : MessageType} {p q : Need → Prop}

theorem Adds.nothing (s : Schema) (m : MessageType) : Adds s (fun _ => False) m m where
  bare := rfl
  imports := by simp
  enums := by simp
  messages := by simp

theorem Adds.trans (h : Adds s p m m') (h' : Adds s q m' m'') :
    Adds s (fun x => p x ∨ q x) m m'' where
  bare := h'.bare.trans h.bare
  imports x := by rw [h'.imports, h.imports, or_assoc]
  enums x := by rw [h'.enums, h.enums, or_assoc, ← or_and_right]
  messages x := by rw [h'.messages, h.messages, or_assoc, ← or_and_right]

theorem Adds.congr (h : Adds s p m m') (hpq : ∀ x, p x ↔ q x) : Adds s q m m' := by
  rw [← funext fun x => propext (hpq x)]
  exact h

/-- Recording needs in a row. -/
theorem Adds.foldlM {α : Type} {f : MessageType → α → Except Failure MessageType}
    {p : α → Need → Prop} {l : List α} (h : l.foldlM f m = .ok m')
    (hstep : ∀ a m m', f m a = .ok m' → Adds s (p a) m m') :
    Adds s (fun x => ∃ a ∈ l, p a x) m m' :=
  (foldlM_adds (Adds s) (Adds.nothing s) Adds.trans (fun _ => True) trivial h
    fun a m m' _ hm => ⟨hstep a m m' hm, trivial⟩).1

theorem adds_of_addReference {f : Field} {name : Text}
    (h : MessageType.addReference s f m name = .ok m') : Adds s (· = .type name) m m' := by
  unfold MessageType.addReference at h
  split at h
  · rename_i henum
    cases h
    refine ⟨rfl, by simp, fun x => ?_, fun x => ?_⟩
    · rw [OrderedSet.mem_insert]
      grind
    · grind
  · rename_i henum
    split at h
    · cases h
      rw [Bool.not_eq_true] at henum
      refine ⟨rfl, by simp, fun x => ?_, fun x => ?_⟩
      · grind
      · rw [OrderedSet.mem_insert]
        grind
    · cases h

theorem adds_of_addFieldNeeds {f : Field} (h : (addFieldNeeds s m f).outcome = .ok m') :
    Adds s (fun x => ∃ t, s.mapType f.valueType = .ok (.mapped t) ∧ t.Needs x) m m' := by
  unfold addFieldNeeds at h
  obtain ⟨mapping, hmapping, h⟩ := Logged.outcome_bind_eq_ok.mp h
  have hmapType : s.mapType f.valueType = .ok mapping := hmapping
  split at h
  · obtain ⟨-, -, h⟩ := Logged.outcome_bind_eq_ok.mp h
    obtain rfl : m = m' := Except.ok.inj h
    refine (Adds.nothing s m).congr fun x => ?_
    simp [hmapType]
  · rename_i t
    rw [Logged.outcome_lift] at h
    -- First the imports of the schema type, then the types that it mentions.
    have himports : Adds s (fun x => ∃ file ∈ t.externalImports, x = .path file) m
        { m with imports := m.imports.insertAll t.externalImports } :=
      ⟨rfl, fun x => by rw [OrderedSet.mem_insertAll]; simp, by simp, by simp⟩
    have hmentions := Adds.foldlM h fun _ _ _ => adds_of_addReference
    refine (himports.trans hmentions).congr fun x => ?_
    cases x with
    | path file => simp [hmapType, TypeMapping.Needs]
    | type name => simp [hmapType, TypeMapping.Needs]

/-- The needs of a message are those of its fields. -/
theorem adds_of_withNeeds (h : (m.withNeeds s).outcome = .ok m') : Adds s (s.Needs m) m m' := by
  unfold withNeeds at h
  rw [Logged.outcome_foldlM] at h
  exact Adds.foldlM h fun _ _ _ => adds_of_addFieldNeeds

/-- A message can only record its needs if the schema types of its fields can be
    told. -/
theorem typed_of_withNeeds (h : (m.withNeeds s).outcome = .ok m') :
    ∀ f ∈ m.allFields, ∃ r, s.mapType f.valueType = .ok r := by
  unfold withNeeds at h
  rw [Logged.outcome_foldlM] at h
  -- A field is still to come or its schema type has been told.
  intro f hf
  refine (foldlM_keeps (fun rest _ => f ∈ rest ∨ ∃ r, s.mapType f.valueType = .ok r) ?_
    (Or.inl hf) h).resolve_left List.not_mem_nil
  rintro x rest y y' (hmem | hdone) hstep
  · rcases List.mem_cons.mp hmem with rfl | hmem
    · unfold addFieldNeeds at hstep
      obtain ⟨mapping, hmapping, -⟩ := Logged.outcome_bind_eq_ok.mp hstep
      exact Or.inr ⟨mapping, hmapping⟩
    · exact Or.inl hmem
  · exact Or.inr hdone

end MessageType

/-! ## Schemas that differ in the needs of messages -/

namespace Schema

variable {s s' u : Schema}

/-- A schema stays in order when its messages keep their places and lose at most
    the enums that the schema loses. -/
theorem WellNested.transfer (hs : s.WellNested)
    (hmessage : ∀ {n m'}, s'.messages.find? n = some m' → ∃ m, s.messages.find? n = some m ∧
      m'.descriptor = m.descriptor ∧ m'.rootMessage = m.rootMessage ∧
      m'.nestedMessages = m.nestedMessages ∧
      ∀ x, x ∈ m'.nestedEnums ↔ x ∈ m.nestedEnums ∧ ∃ e, s'.enums.find? x = some e)
    (hback : ∀ {n m}, s.messages.find? n = some m → ∃ m', s'.messages.find? n = some m')
    (henum : ∀ {n e}, s'.enums.find? n = some e → s.enums.find? n = some e) :
    s'.WellNested := by
  have howner : ∀ {m m' : MessageType}, m'.descriptor = m.descriptor →
      m'.rootMessage = m.rootMessage → m'.owner = m.owner := by
    intro m m' hdesc hroot
    unfold MessageType.owner MessageType.fullName
    rw [hdesc, hroot]
  -- Nested messages are where they were.
  have hnested : ∀ {a b}, s.Nested a b → s'.Nested a b := by
    rintro a b ⟨m, hm, hb⟩
    obtain ⟨m', hm'⟩ := hback hm
    obtain ⟨x, hx, -, -, hlist, -⟩ := hmessage hm'
    rw [hm, Option.some.injEq] at hx
    exact ⟨m', hm', by rw [hlist, ← hx]; exact hb⟩
  -- Root messages stay root messages.
  have hroots : ∀ {r root}, s.messages.find? r = some root → root.isRoot = true →
      ∃ root', s'.messages.find? r = some root' ∧ root'.isRoot = true := by
    intro r root hr hisRoot
    obtain ⟨root', hroot'⟩ := hback hr
    obtain ⟨x, hx, -, hxroot, -⟩ := hmessage hroot'
    rw [hr, Option.some.injEq] at hx
    refine ⟨root', hroot', ?_⟩
    unfold MessageType.isRoot at hisRoot ⊢
    rw [hxroot, ← hx]
    exact hisRoot
  constructor
  case keyed_message =>
    intro n m' hm'
    obtain ⟨m, hm, hdesc, -⟩ := hmessage hm'
    rw [← hs.keyed_message hm]
    exact congrArg TypeDescriptor.fullName hdesc
  case keyed_enum =>
    intro n e he
    exact hs.keyed_enum (henum he)
  case nested_message =>
    intro n m' n' hm' hn'
    obtain ⟨m, hm, hdesc, hroot, hlist, -⟩ := hmessage hm'
    rw [hlist] at hn'
    obtain ⟨x, hx, hbelow, hxroot⟩ := hs.nested_message hm hn'
    obtain ⟨x', hx'⟩ := hback hx
    obtain ⟨y, hy, -, hyroot, -⟩ := hmessage hx'
    rw [hx, Option.some.injEq] at hy
    refine ⟨x', hx', hbelow, ?_⟩
    rw [howner hdesc hroot, hyroot, ← hy]
    exact hxroot
  case nested_enum =>
    intro n m' n' hm' hn'
    obtain ⟨m, hm, hdesc, hroot, -, hlist⟩ := hmessage hm'
    obtain ⟨hn', e, he⟩ := (hlist n').mp hn'
    obtain ⟨x, hx, hxroot⟩ := hs.nested_enum hm hn'
    rw [henum he, Option.some.injEq] at hx
    refine ⟨e, he, ?_⟩
    rw [howner hdesc hroot, hx]
    exact hxroot
  case owned_message =>
    intro n m' r hm' hr
    obtain ⟨m, hm, -, hroot, -⟩ := hmessage hm'
    obtain ⟨⟨root, hfound, hisRoot⟩, hbelow⟩ := hs.owned_message hm (hroot ▸ hr)
    exact ⟨hroots hfound hisRoot, hbelow⟩
  case owned_enum =>
    intro n e r he hr
    obtain ⟨⟨root, hfound, hisRoot⟩, hbelow⟩ := hs.owned_enum (henum he) hr
    exact ⟨hroots hfound hisRoot, hbelow⟩
  case reached =>
    intro n m' hm'
    obtain ⟨m, hm, -⟩ := hmessage hm'
    obtain ⟨r, root, hr, hisRoot, hreach⟩ := hs.reached hm
    obtain ⟨root', hroot', hisRoot'⟩ := hroots hr hisRoot
    exact ⟨r, root', hroot', hisRoot', ReflTransGen.mono (fun _ _ => hnested) r n hreach⟩
  case linked =>
    intro n e he hnotRoot
    obtain ⟨p, m, hm, hn⟩ := hs.linked (henum he) hnotRoot
    obtain ⟨m', hm'⟩ := hback hm
    obtain ⟨x, hx, -, -, -, hlist⟩ := hmessage hm'
    rw [hm, Option.some.injEq] at hx
    exact ⟨p, m', hm', (hlist n).mpr ⟨hx ▸ hn, e, he⟩⟩
  case lone =>
    intro m' hm'
    obtain ⟨m, hm, -⟩ := hmessage hm'
    obtain ⟨ns, hmessages, henums⟩ := hs.lone hm
    refine ⟨ns, fun {n x'} hx' => ?_, fun he => henums (henum he)⟩
    obtain ⟨x, hx, hdesc, -⟩ := hmessage hx'
    rw [← hmessages hx]
    exact congrArg TypeDescriptor.ns hdesc

/-- The schemas differ in nothing but the needs of their messages. -/
structure SameTypes (s s' : Schema) : Prop where
  messages : ∀ n, (s'.messages.find? n).map (·.bare) = (s.messages.find? n).map (·.bare)
  enums : s'.enums = s.enums

theorem SameTypes.refl (s : Schema) : SameTypes s s := ⟨fun _ => rfl, rfl⟩

theorem SameTypes.symm (h : SameTypes s s') : SameTypes s' s :=
  ⟨fun n => (h.messages n).symm, h.enums.symm⟩

theorem SameTypes.message (h : SameTypes s s') {n : Label} {m : MessageType}
    (hm : s.messages.find? n = some m) :
    ∃ m', s'.messages.find? n = some m' ∧ m'.bare = m.bare := by
  have hbare := h.messages n
  rw [hm] at hbare
  obtain ⟨m', hm', hsame⟩ := Option.map_eq_some_iff.mp hbare
  exact ⟨m', hm', hsame⟩

theorem SameTypes.nested (h : SameTypes s s') {a b : Label} (hab : s.Nested a b) :
    s'.Nested a b := by
  obtain ⟨m, hm, hb⟩ := hab
  obtain ⟨m', hm', hbare⟩ := h.message hm
  refine ⟨m', hm', ?_⟩
  rw [MessageType.eq_of_bare_eq (·.nestedMessages) hbare fun _ => rfl]
  exact hb

theorem SameTypes.wellNested (h : SameTypes s s') (hs : s.WellNested) : s'.WellNested := by
  refine hs.transfer ?_ ?_ ?_
  · intro n m' hm'
    obtain ⟨m, hm, hbare⟩ := h.symm.message hm'
    have hsame := fun {α : Type} (f : MessageType → α) => MessageType.eq_of_bare_eq f hbare.symm
    refine ⟨m, hm, hsame (·.descriptor) fun _ => rfl, hsame (·.rootMessage) fun _ => rfl,
      hsame (·.nestedMessages) fun _ => rfl, fun x => ?_⟩
    rw [hsame (·.nestedEnums) fun _ => rfl]
    refine ⟨fun hx => ⟨hx, ?_⟩, fun hx => hx.1⟩
    obtain ⟨e, he, -⟩ := hs.nested_enum hm hx
    exact ⟨e, by rw [h.enums]; exact he⟩
  · intro n m hm
    obtain ⟨m', hm', -⟩ := h.message hm
    exact ⟨m', hm'⟩
  · intro n e he
    rw [h.enums] at he
    exact he

theorem SameTypes.sameNames (h : SameTypes s s') : SameNames s' s where
  messages := by
    intro n
    have hbare := congrArg (Option.map fun m => (m.name, m.ns, m.fullName, m.rootMessage))
      (h.messages n)
    rw [Option.map_map, Option.map_map] at hbare
    exact hbare
  enums := by
    intro n
    rw [h.enums]

theorem SameTypes.needs_iff (h : SameTypes s s') (m : MessageType) (x : Need) :
    s'.Needs m x ↔ s.Needs m x := by
  unfold Schema.Needs
  simp only [h.sameNames.mapType]

/-! ## Recording the needs of all messages -/

/-- The schema types of the fields of the message can be told, and the message has
    recorded exactly what these need. -/
structure Recorded (s : Schema) (m : MessageType) : Prop where
  typed : ∀ f ∈ m.allFields, ∃ r, s.mapType f.valueType = .ok r
  imports : ∀ x, x ∈ m.imports ↔ s.Needs m (.path x)
  enums : ∀ x, x ∈ m.dependsOnEnums ↔
    s.Needs m (.type x) ∧ s.enums.contains (some x) = true
  messages : ∀ x, x ∈ m.dependsOnMessages ↔
    s.Needs m (.type x) ∧ s.enums.contains (some x) = false

/-- The message has recorded nothing. -/
def Unrecorded (m : MessageType) : Prop :=
  m.imports = ∅ ∧ m.dependsOnMessages = ∅ ∧ m.dependsOnEnums = ∅

/-- Recording has come from `s` to `s'`: every message has recorded its needs
    or nothing, and those in `done` have. -/
structure Recording (s : Schema) (done : Label → Prop) (s' : Schema) : Prop where
  same : SameTypes s s'
  state : ∀ {n m}, s'.messages.find? n = some m → s.Recorded m ∨ (Unrecorded m ∧ ¬ done n)

theorem Recording.weaken {done done' : Label → Prop} (h : Recording s done s')
    (hdone : ∀ n, done' n → done n) : Recording s done' s' where
  same := h.same
  state hm := (h.state hm).imp_right fun hnot => ⟨hnot.1, fun hd => hnot.2 (hdone _ hd)⟩

/-- Adding the needs of its fields, to the needs or to nothing, gives the
    needs. -/
theorem recorded_of_adds (h : SameTypes s s') {m m' : MessageType}
    (hm : s.Recorded m ∨ Unrecorded m)
    (htyped : ∀ f ∈ m.allFields, ∃ r, s'.mapType f.valueType = .ok r)
    (hadds : MessageType.Adds s' (s'.Needs m) m m') : s.Recorded m' := by
  -- Adding needs changes no field, so the needs are the same before and after.
  have hfields : m'.allFields = m.allFields :=
    MessageType.eq_of_bare_eq (·.allFields) hadds.bare fun _ => rfl
  have hcontains : s'.enums = s.enums := h.enums
  constructor
  · intro f hf
    rw [← h.sameNames.mapType]
    exact htyped f (hfields ▸ hf)
  · intro x
    have hx := hadds.imports x
    rw [h.needs_iff] at hx
    rw [hx, needs_congr hfields]
    rcases hm with hm | hm
    · rw [hm.imports, or_self]
    · simp [hm.1]
  · intro x
    have hx := hadds.enums x
    rw [h.needs_iff, hcontains] at hx
    rw [hx, needs_congr hfields]
    rcases hm with hm | hm
    · rw [hm.enums, or_self]
    · simp [hm.2.2]
  · intro x
    have hx := hadds.messages x
    rw [h.needs_iff, hcontains] at hx
    rw [hx, needs_congr hfields]
    rcases hm with hm | hm
    · rw [hm.messages, or_self]
    · simp [hm.2.1]

/-- One message is replaced by itself with its needs. -/
theorem addNeeds_eq_ok_iff {n : Label} :
    (s.addNeeds n).outcome = .ok u ↔ ∃ m m', s.messages.find? n = some m ∧
      (m.withNeeds s).outcome = .ok m' ∧ u = { s with messages := s.messages.insert n m' } := by
  unfold addNeeds
  rw [Logged.outcome_bind_eq_ok]
  simp only [Logged.outcome_bind_eq_ok]
  constructor
  · rintro ⟨m, hm, m', hm', hu⟩
    exact ⟨m, m', message_eq_ok_iff.mp hm, hm', (Except.ok.inj hu).symm⟩
  · rintro ⟨m, m', hm, hm', rfl⟩
    exact ⟨m, message_eq_ok_iff.mpr hm, m', hm', rfl⟩

theorem SameTypes.addNeeds {s'' : Schema} {name : Label} (h : SameTypes s s')
    (hs'' : (s'.addNeeds name).outcome = .ok s'') : SameTypes s s'' := by
  obtain ⟨m, m', hfound, hm', rfl⟩ := addNeeds_eq_ok_iff.mp hs''
  refine ⟨fun n => ?_, h.enums⟩
  rw [← h.messages n, Registry.find?_insert]
  split
  · rename_i hn
    rw [hn, hfound, Option.map_some, Option.map_some, (MessageType.adds_of_withNeeds hm').bare]
  · rfl

theorem Recording.addNeeds {done : Label → Prop} {s'' : Schema} {name : Label}
    (h : Recording s done s') (hs'' : (s'.addNeeds name).outcome = .ok s'') :
    Recording s (fun n => done n ∨ n = name) s'' := by
  refine ⟨h.same.addNeeds hs'', fun {n x} hx => ?_⟩
  obtain ⟨m, m', hfound, hm', rfl⟩ := addNeeds_eq_ok_iff.mp hs''
  rw [Registry.find?_insert] at hx
  -- The message itself has its needs now; the others are as they were.
  split at hx
  · cases hx
    exact Or.inl (recorded_of_adds h.same ((h.state hfound).imp_right And.left)
      (MessageType.typed_of_withNeeds hm') (MessageType.adds_of_withNeeds hm'))
  · rename_i hn
    exact (h.state hx).imp_right fun hnot => ⟨hnot.1, fun hd => hd.elim hnot.2 hn⟩

theorem Recording.foldlM_addNeeds {done : Label → Prop} {s'' : Schema} {names : List Label}
    (h : Recording s done s')
    (hs'' : names.foldlM (fun s name => (Schema.addNeeds s name).outcome) s' = .ok s'') :
    Recording s (fun n => done n ∨ n ∈ names) s'' := by
  induction names generalizing s' done with
  | nil =>
      obtain rfl : s' = s'' := Except.ok.inj hs''
      exact h.weaken fun n hn => hn.resolve_right List.not_mem_nil
  | cons name rest ih =>
      rw [List.foldlM_cons] at hs''
      obtain ⟨next, hnext, hs''⟩ := bind_eq_ok.mp hs''
      refine (ih (h.addNeeds hnext) hs'').weaken fun n hn => ?_
      rw [List.mem_cons, ← or_assoc] at hn
      exact hn

/-- A walk below a message only looks at the list of messages nested in it. -/
theorem descend_congr {arrange : List Label → List Label} {depth : Nat} {m m' : MessageType}
    {l : List MessageType} (hname : m'.fullName = m.fullName)
    (hnested : m'.nestedMessages = m.nestedMessages) (h : s.descend arrange depth m = .ok l) :
    ∃ l', s.descend arrange depth m' = .ok l' ∧ l'.map (·.fullName) = l.map (·.fullName) := by
  cases depth with
  | zero =>
      rw [descend] at h ⊢
      cases h
      exact ⟨[], rfl, rfl⟩
  | succ depth =>
      rw [descend] at h ⊢
      obtain ⟨nested, hfound, h⟩ := bind_eq_ok.mp h
      obtain ⟨below, hbelow, h⟩ := bind_eq_ok.mp h
      cases h
      rw [hnested, hfound, ok_bind, hbelow, ok_bind]
      exact ⟨_, rfl, by rw [List.map_cons, List.map_cons, hname]⟩

/-- Adds the needs of a root message and of the messages below it. -/
def addNeedsBelow (s : Schema) (root : MessageType) : Except Failure Schema := do
  let below ← s.subtree root
  (below.map (·.fullName)).foldlM (fun s name => (s.addNeeds name).outcome) s

/-- Recording the needs below a root message. -/
theorem Recording.root {done : Label → Prop} {s'' : Schema} {root : MessageType}
    (hs : s.WellNested) (h : Recording s done s')
    (hroot : s.messages.find? root.fullName = some root)
    (hs'' : s'.addNeedsBelow root = .ok s'') :
    Recording s (fun n => done n ∨ ReflTransGen s.Nested root.fullName n) s'' := by
  unfold addNeedsBelow at hs''
  obtain ⟨below, hbelow, hs''⟩ := bind_eq_ok.mp hs''
  obtain ⟨root', hroot', hbare⟩ := h.same.message hroot
  have hname : root'.fullName = root.fullName :=
    MessageType.eq_of_bare_eq (·.fullName) hbare fun _ => rfl
  have hlist : root'.nestedMessages = root.nestedMessages :=
    MessageType.eq_of_bare_eq (·.nestedMessages) hbare fun _ => rfl
  -- The walk starts from the root as it was before anything was recorded.
  obtain ⟨below', hbelow', hnames⟩ := descend_congr hname hlist hbelow
  rw [← hnames] at hs''
  have hs' := h.same.wellNested hs
  rw [← hname] at hroot'
  refine (h.foldlM_addNeeds hs'').weaken fun n hn => hn.imp_right fun hreach => ?_
  have hreach' : ReflTransGen s'.Nested root'.fullName n :=
    hname ▸ ReflTransGen.mono (fun _ _ => h.same.nested) _ _ hreach
  obtain ⟨x, hx⟩ : ∃ x, s'.messages.find? n = some x := by
    rcases hreach'.cases_tail with heq | ⟨p, -, hp⟩
    · exact ⟨root', heq ▸ hroot'⟩
    · exact hs'.found_of_nested hp
  obtain rfl := hs'.keyed_message hx
  exact List.mem_map_of_mem ((mem_subtree_iff hs' hroot' hbelow').mpr ⟨hx, hreach'⟩)

theorem Recording.foldlM_addNeedsBelow {done : Label → Prop} {roots : List MessageType}
    (hs : s.WellNested) (h : Recording s done s')
    (hroots : ∀ root ∈ roots, s.messages.find? root.fullName = some root)
    (hu : roots.foldlM addNeedsBelow s' = .ok u) :
    Recording s (fun n => done n ∨ ∃ root ∈ roots, ReflTransGen s.Nested root.fullName n) u := by
  induction roots generalizing done s' with
  | nil =>
      obtain rfl : s' = u := Except.ok.inj hu
      exact h.weaken fun n hn => by simpa using hn
  | cons root rest ih =>
      rw [List.foldlM_cons] at hu
      obtain ⟨next, hnext, hu⟩ := bind_eq_ok.mp hu
      obtain ⟨hroot, hrest⟩ := List.forall_mem_cons.mp hroots
      refine (ih (h.root hs hroot hnext) hrest hu).weaken fun n hn => ?_
      rw [List.exists_mem_cons_iff, ← or_assoc] at hn
      exact hn

/-- All messages record their needs. -/
theorem recorded_of_populateDependencies (hs : s.WellNested)
    (hfresh : ∀ {n m}, s.messages.find? n = some m → Unrecorded m)
    (h : s.populateDependencies.outcome = .ok u) :
    SameTypes s u ∧ ∀ {n m}, u.messages.find? n = some m → u.Recorded m := by
  have hroots : ∀ root ∈ s.rootMessages, s.messages.find? root.fullName = some root :=
    fun root hroot => ((mem_rootMessages_iff hs.keyed_message).mp hroot).1
  unfold populateDependencies at h
  rw [Logged.outcome_foldlM] at h
  simp only [Logged.outcome_bind, Logged.outcome_foldlM] at h
  have hstart : Recording s (fun _ => False) s :=
    ⟨.refl s, fun hm => Or.inr ⟨hfresh hm, id⟩⟩
  have hall := hstart.foldlM_addNeedsBelow hs hroots h
  refine ⟨hall.same, fun {n m} hm => ?_⟩
  -- Every message is below a root message, so none is left out.
  have hrecorded : s.Recorded m := by
    refine (hall.state hm).resolve_right fun hnot => hnot.2 (Or.inr ?_)
    obtain ⟨m₀, hm₀, -⟩ := hall.same.symm.message hm
    obtain ⟨r, root, hr, hisRoot, hreach⟩ := hs.reached hm₀
    obtain rfl := hs.keyed_message hr
    exact ⟨root, (mem_rootMessages_iff hs.keyed_message).mpr ⟨hr, hisRoot⟩, hreach⟩
  constructor
  · intro f hf
    rw [hall.same.sameNames.mapType]
    exact hrecorded.typed f hf
  · intro x
    rw [hrecorded.imports, hall.same.needs_iff]
  · intro x
    rw [hrecorded.enums, hall.same.needs_iff, hall.same.enums]
  · intro x
    rw [hrecorded.messages, hall.same.needs_iff, hall.same.enums]

/-! ## Dropping enums -/

theorem find?_messages_prune (u : Schema) (n : Label) :
    u.prune.1.messages.find? n = (u.messages.find? n).map fun m =>
      { m with nestedEnums := m.nestedEnums.filter u.prune.1.enums.contains } := by
  unfold prune
  dsimp only
  rw [Registry.find?_mapValues]

/-- An enum is kept if some message needs it. -/
theorem find?_enums_prune {u : Schema} {n : Label} {e : EnumType} :
    u.prune.1.enums.find? n = some e ↔
      u.enums.find? n = some e ∧ ∃ x, n = some x ∧ x ∈ u.referencedEnums := by
  unfold prune
  dsimp only
  rw [Registry.find?_filterKeys]
  cases n with
  | none => simp
  | some x =>
      by_cases hx : x ∈ u.referencedEnums
      · simp [hx]
      · simp [hx]

theorem WellNested.prune (hu : u.WellNested) : u.prune.1.WellNested := by
  refine hu.transfer ?_ ?_ fun he => (find?_enums_prune.mp he).1
  · intro n m' hm'
    rw [find?_messages_prune] at hm'
    obtain ⟨m, hm, rfl⟩ := Option.map_eq_some_iff.mp hm'
    refine ⟨m, hm, rfl, rfl, rfl, fun x => ?_⟩
    rw [List.mem_filter, Registry.contains_iff]
  · intro n m hm
    rw [find?_messages_prune, hm]
    exact ⟨_, rfl⟩

theorem within_prune (u : Schema) : Within u.prune.1 u where
  entity := by
    intro n x hx
    unfold entity? at hx ⊢
    rw [find?_messages_prune] at hx
    cases hm : u.messages.find? n with
    | some m =>
        rw [hm] at hx
        exact hx
    | none =>
        rw [hm] at hx
        obtain ⟨e, he, hxe⟩ := Option.map_eq_some_iff.mp hx
        show Option.map _ (u.enums.find? n) = some x
        rw [(find?_enums_prune.mp he).1, Option.map_some, hxe]
  message := by
    intro n m' hm'
    rw [find?_messages_prune] at hm'
    obtain ⟨m, hm, rfl⟩ := Option.map_eq_some_iff.mp hm'
    exact ⟨m, hm, rfl, rfl⟩

/-- The schema `s` after the analysis, `u` being the schema before enums are
    dropped: the types are in order, schema types are those of `u`, and messages
    have recorded what they need by `u`, all of which is there. -/
structure Resolved (u s : Schema) : Prop extends WellNested s where
  within : Within s u
  recorded : ∀ {n m}, s.messages.find? n = some m → u.Recorded m
  mentioned : ∀ {n m x}, s.messages.find? n = some m → u.Needs m (.type x) →
    TypeReference.StartsName x ∧
      ((∃ e, s.enums.find? (some x) = some e ∧ x ∈ m.dependsOnEnums) ∨
        ∃ m', s.messages.find? (some x) = some m' ∧ x ∈ m.dependsOnMessages)

theorem resolved_prune (hu : u.WellNested)
    (hrecorded : ∀ {n m}, u.messages.find? n = some m → u.Recorded m)
    (htyped : ∀ {n m}, u.messages.find? n = some m → WellTyped m.allFields) :
    Resolved u u.prune.1 where
  toWellNested := hu.prune
  within := within_prune u
  recorded := by
    intro n m' hm'
    rw [find?_messages_prune] at hm'
    obtain ⟨m, hm, rfl⟩ := Option.map_eq_some_iff.mp hm'
    exact ⟨(hrecorded hm).typed, (hrecorded hm).imports, (hrecorded hm).enums,
      (hrecorded hm).messages⟩
  mentioned := by
    intro n m' x hm' hx
    rw [find?_messages_prune] at hm'
    obtain ⟨m, hm, rfl⟩ := Option.map_eq_some_iff.mp hm'
    have hmention : u.Needs m (.type x) := hx
    obtain ⟨f, hf, t, ht, hxt⟩ := id hmention
    have hmaps := mapType_eq_mapped_iff.mp ht
    have hcontains := hmaps.contains_internal x hxt
    refine ⟨hmaps.startsName_internal (htyped hm f hf) x hxt, ?_⟩
    rw [Bool.or_eq_true, Registry.contains_iff, Registry.contains_iff] at hcontains
    -- An enum that is needed is kept; messages are never dropped.
    cases henum : u.enums.contains (some x) with
    | true =>
        have hdep : x ∈ m.dependsOnEnums := ((hrecorded hm).enums x).mpr ⟨hmention, henum⟩
        obtain ⟨e, he⟩ := Registry.contains_iff.mp henum
        refine Or.inl ⟨e, find?_enums_prune.mpr ⟨he, x, rfl, ?_⟩, hdep⟩
        exact List.mem_flatMap.mpr ⟨m, Registry.mem_values.mpr ⟨n, hm⟩, hdep⟩
    | false =>
        have hdep : x ∈ m.dependsOnMessages := ((hrecorded hm).messages x).mpr ⟨hmention, henum⟩
        refine Or.inr ?_
        rcases hcontains with ⟨m', hm'⟩ | ⟨e, he⟩
        · exact ⟨_, by rw [find?_messages_prune, hm']; rfl, hdep⟩
        · rw [Registry.contains_iff.mpr ⟨e, he⟩] at henum
          cases henum

/-- The schema after the analysis, in which no name is that of a message and of
    an enum. -/
structure Analysed (u s : Schema) : Prop extends Resolved u s where
  apart : ∀ {n m e}, s.messages.find? n = some m → s.enums.find? n = some e → False

end Schema

/-- The analysis of the types that are discovered in an assembly, before enums
    are dropped. -/
def Recovery.unpruned (a : Assembly) : Logged Schema := do
  let s ← discover a
  let s ← s.connect
  s.populateDependencies

/-- How the schema `u`, in which needs are recorded, comes from the types that are
    discovered in an assembly. -/
structure Prepared (a : Assembly) (l : List (TypeDescriptor × Label))
    (discovered u : Schema) : Prop where
  alone : Label.NullAlone (· ∈ a.types.map (·.fullName))
  listing : Listing none a.types l
  entered : discovered.Discovered l
  wellNested : discovered.linkNested.WellNested
  same : Schema.SameTypes discovered.linkNested u
  recorded : ∀ {n m}, u.messages.find? n = some m → u.Recorded m

/-- How the analysed schema `s` comes from what is discovered in an assembly, `u`
    being the schema before enums are dropped. -/
structure Related (a : Assembly) (l : List (TypeDescriptor × Label))
    (discovered u s : Schema) : Prop extends Prepared a l discovered u where
  apart : ∀ {n m e}, discovered.messages.find? n = some m →
    discovered.enums.find? n = some e → False
  unpruned : (Recovery.unpruned a).outcome = .ok u
  pruned : s = u.prune.1

section Prepared

variable {a : Assembly} {l : List (TypeDescriptor × Label)}
  {gathered discovered connected u s : Schema}

/-- The steps of the analysis up to the linking of nested types. -/
theorem linked_of_steps (ha : a.Named) (hgather : Schema.gather a {} = .ok gathered)
    (hfields : gathered.populateFields.outcome = .ok discovered)
    (hconnect : discovered.connect = .ok connected) :
    connected = discovered.linkNested ∧ connected.WellNested ∧
      Label.NullAlone (· ∈ a.types.map (·.fullName)) ∧
      ∃ l, Listing none a.types l ∧ discovered.Discovered l := by
  obtain ⟨halone, l, hl, hgathered⟩ := discovered_of_gather ha hgather
  have hd := hgathered.populateFields hfields
  have hcomplete := (complete_of_gather ha hgather).populateFields hfields
  obtain ⟨hlinked, hnested⟩ := hd.wellNested_of_connect ha halone hl hcomplete hconnect
  exact ⟨hlinked, hnested, halone, l, hl, hd⟩

/-- The steps of the analysis up to the recording of needs. -/
theorem prepared_of_steps (ha : a.Named) (hgather : Schema.gather a {} = .ok gathered)
    (hfields : gathered.populateFields.outcome = .ok discovered)
    (hconnect : discovered.connect = .ok connected)
    (hneeds : connected.populateDependencies.outcome = .ok u) :
    connected = discovered.linkNested ∧ ∃ l, Prepared a l discovered u := by
  obtain ⟨rfl, hnested, halone, l, hl, hd⟩ := linked_of_steps ha hgather hfields hconnect
  have hfresh : ∀ {n m}, discovered.linkNested.messages.find? n = some m →
      Schema.Unrecorded m := by
    intro n m hm
    obtain ⟨m', hm', rfl⟩ := discovered.find?_linkNested hm
    exact (hd.message hm').unneeding
  obtain ⟨hsame, hrecorded⟩ := Schema.recorded_of_populateDependencies hnested hfresh hneeds
  exact ⟨rfl, l, halone, hl, hd, hnested, hsame, hrecorded⟩

theorem Prepared.wellNested_needs (h : Prepared a l discovered u) : u.WellNested :=
  h.same.wellNested h.wellNested

/-- Linking types and recording needs makes and drops no message. -/
theorem Prepared.message_iff (h : Prepared a l discovered u) (n : Label) :
    (∃ m, u.messages.find? n = some m) ↔ ∃ m, discovered.messages.find? n = some m := by
  have hlinked : (∃ m, u.messages.find? n = some m) ↔
      ∃ m, discovered.linkNested.messages.find? n = some m := by
    constructor
    · rintro ⟨m, hm⟩
      obtain ⟨m', hm', -⟩ := h.same.symm.message hm
      exact ⟨m', hm'⟩
    · rintro ⟨m, hm⟩
      obtain ⟨m', hm', -⟩ := h.same.message hm
      exact ⟨m', hm'⟩
  rw [hlinked, ← Registry.mem_keys, ← Registry.mem_keys]
  unfold Schema.linkNested
  rw [Registry.keys_mapValues]

theorem Prepared.wellTyped (h : Prepared a l discovered u) {n : Label} {m : MessageType}
    (hm : u.messages.find? n = some m) : WellTyped m.allFields := by
  obtain ⟨m', hm', hbare⟩ := h.same.symm.message hm
  obtain ⟨x, hx, rfl⟩ := discovered.find?_linkNested hm'
  rw [MessageType.eq_of_bare_eq (·.allFields) hbare.symm fun _ => rfl]
  exact (h.entered.message hx).named

/-- What the fields of messages mention is there after enums are dropped. -/
theorem Prepared.resolved (h : Prepared a l discovered u) : Schema.Resolved u u.prune.1 :=
  Schema.resolved_prune h.wellNested_needs h.recorded h.wellTyped

theorem related_of_relate (ha : a.Named)
    (hkinds : ∀ t ∈ a.allTypes, t.isEnum = true → t.implements messageInterface ≠ .ok true)
    (hdiscovered : (Recovery.discover a).outcome = .ok discovered)
    (hs : (Recovery.relate discovered).outcome = .ok s) : ∃ l u, Related a l discovered u s := by
  obtain ⟨connected, u, hconnected, hu, hprune⟩ := Recovery.relate_eq_ok hs
  obtain ⟨gathered, hgather, hfields⟩ := Recovery.discover_eq_ok hdiscovered
  have hunpruned : (Recovery.unpruned a).outcome = .ok u := by
    unfold Recovery.unpruned
    rw [Logged.outcome_bind, hdiscovered, ok_bind, Logged.outcome_bind]
    show (discovered.connect >>= _) = _
    rw [hconnected]
    exact hu
  obtain ⟨-, l, h⟩ := prepared_of_steps ha hgather hfields hconnected hu
  exact ⟨l, u, h, h.entered.apart ha hkinds h.listing, hunpruned, hprune⟩

theorem Related.analysed (h : Related a l discovered u s) : Schema.Analysed u s := by
  rw [h.pruned]
  refine ⟨h.resolved, fun {n m e} hm he => ?_⟩
  rw [Schema.find?_messages_prune] at hm
  obtain ⟨m', hm', -⟩ := Option.map_eq_some_iff.mp hm
  obtain ⟨x, hx, -⟩ := h.same.symm.message hm'
  obtain ⟨y, hy, -⟩ := discovered.find?_linkNested hx
  have hkept := (Schema.find?_enums_prune.mp he).1
  rw [h.same.enums] at hkept
  exact h.apart hy hkept

/-- The types of an assembly are analysed, if no enum is listed as a message. -/
theorem analysed_of_relate (ha : a.Named)
    (hkinds : ∀ t ∈ a.allTypes, t.isEnum = true → t.implements messageInterface ≠ .ok true)
    (hdiscovered : (Recovery.discover a).outcome = .ok discovered)
    (hs : (Recovery.relate discovered).outcome = .ok s) :
    ∃ u, (Recovery.unpruned a).outcome = .ok u ∧ s = u.prune.1 ∧ Schema.Analysed u s := by
  obtain ⟨l, u, h⟩ := related_of_relate ha hkinds hdiscovered hs
  exact ⟨u, h.unpruned, h.pruned, h.analysed⟩

end Prepared

end SchemaRecovery
