/-
  SchemaRecovery.Proofs.FullNames

  What the full name of a type tells about where the type is declared. Below the full
  name of its root message it has the names of the messages around the type and of the
  type itself, with slashes between them, and any of these may come after the name of
  the container class (`Schema.Spells`, `Inside.spells`). Cut at its slashes and without
  the names of containers it gives the names back exactly if no name holds a slash and
  no message around the type has the name of containers (`flatMap_pathBelow_iff`).
-/
import Mathlib.Data.List.Flatten
import SchemaRecovery.Proofs.Blocks
import SchemaRecovery.Proofs.Forest

namespace SchemaRecovery

open TypeDescriptor

/-! ## Pieces and joined parts -/

namespace Text

theorem pieces_eq_splitOn (sep : Char) (t : Text) : pieces sep t = t.splitOn (.char sep) := by
  induction t with
  | nil => rfl
  | cons c rest ih =>
      rw [pieces, List.splitOn_cons_eq_if_modifyHead, ih, beq_eq_decide]
      by_cases hc : c = .char sep
      · rw [if_pos hc, if_pos (decide_eq_true hc)]
      · rw [if_neg hc, if_neg (by simpa using hc)]
        cases hrest : rest.splitOn (.char sep) with
        | nil => exact absurd hrest (List.splitOn_ne_nil _ _)
        | cons piece others => rfl

/-- The separator is in none of the pieces. -/
theorem sep_not_mem_pieces {sep : Char} {t piece : Text} (h : piece ∈ pieces sep t) :
    CodePoint.char sep ∉ piece := by
  induction t generalizing piece with
  | nil =>
      rw [pieces, List.mem_singleton] at h
      rw [h]
      exact List.not_mem_nil
  | cons c rest ih =>
      rw [pieces] at h
      split at h
      · rcases List.mem_cons.mp h with rfl | h
        · exact List.not_mem_nil
        · exact ih h
      · rename_i hc
        split at h
        · rw [List.mem_singleton] at h
          rw [h, List.mem_singleton]
          exact fun heq => hc heq.symm
        · rename_i first others hpieces
          rw [hpieces] at ih
          rcases List.mem_cons.mp h with rfl | h
          · rw [List.mem_cons, not_or]
            exact ⟨fun heq => hc heq.symm, ih List.mem_cons_self⟩
          · exact ih (List.mem_cons_of_mem first h)

theorem pieces_join {sep : Char} {parts : List Text} (hne : parts ≠ [])
    (hparts : ∀ part ∈ parts, CodePoint.char sep ∉ part) :
    pieces sep (join [.char sep] parts) = parts := by
  rw [pieces_eq_splitOn]
  exact List.splitOn_intercalate _ hparts hne

/-- With a separator before every part there is one before all that are joined. -/
theorem append_join {sep : Text} {parts : List Text} (hne : parts ≠ []) :
    sep ++ join sep parts = parts.flatMap (sep ++ ·) := by
  induction parts with
  | nil => exact absurd rfl hne
  | cons part rest ih =>
      cases rest with
      | nil => simp [join]
      | cons next rest =>
          rw [List.flatMap_cons, ← ih (List.cons_ne_nil _ _)]
          unfold join
          rw [List.intercalate_cons_cons]
          simp

theorem join_eq_join_iff {sep : Text} {parts parts' : List Text} (hne : parts ≠ [])
    (hne' : parts' ≠ []) : join sep parts = join sep parts' ↔
      parts.flatMap (sep ++ ·) = parts'.flatMap (sep ++ ·) := by
  rw [← append_join hne, ← append_join hne', List.append_cancel_left_eq]

end Text

/-! ## Names on the way to a type -/

namespace Schema

/-- The segments without those that are names of containers, but for the last. -/
def withoutHolders (segments : List Text) : List Text :=
  segments.dropLast.filter (· ≠ typesContainer) ++ segments.getLast?.toList

theorem withoutHolders_cons_cons (p q : Text) (rest : List Text) :
    withoutHolders (p :: q :: rest) =
      (if p ≠ typesContainer then [p] else []) ++ withoutHolders (q :: rest) := by
  unfold withoutHolders
  rw [List.dropLast_cons_cons, List.getLast?_cons_cons, List.filter_cons]
  by_cases hp : p = typesContainer
  · simp [hp]
  · simp [hp]

theorem withoutHolders_cons_congr {segments segments' : List Text}
    (hnil : segments = [] ↔ segments' = [])
    (h : withoutHolders segments = withoutHolders segments') (p : Text) :
    withoutHolders (p :: segments) = withoutHolders (p :: segments') := by
  cases segments with
  | nil => rw [hnil.mp rfl]
  | cons q rest =>
      cases segments' with
      | nil => cases hnil.mpr rfl
      | cons q' rest' => rw [withoutHolders_cons_cons, withoutHolders_cons_cons, h]

theorem withoutHolders_sublist (segments : List Text) :
    (withoutHolders segments).Sublist segments := by
  induction segments with
  | nil => exact List.Sublist.refl []
  | cons p rest ih =>
      cases rest with
      | nil => exact List.Sublist.refl [p]
      | cons q rest =>
          rw [withoutHolders_cons_cons]
          split
          · exact ih.cons_cons p
          · exact ih.cons p

/-- Nothing is left out only if no segment but the last is the name of containers. -/
theorem flatMap_withoutHolders_iff {sep : Text} (hsep : sep ≠ []) (segments : List Text) :
    (withoutHolders segments).flatMap (sep ++ ·) = segments.flatMap (sep ++ ·) ↔
      ∀ p ∈ segments.dropLast, p ≠ typesContainer := by
  induction segments with
  | nil => simp [withoutHolders]
  | cons p rest ih =>
      cases rest with
      | nil => simp [withoutHolders]
      | cons q rest =>
          rw [withoutHolders_cons_cons, List.dropLast_cons_cons, List.forall_mem_cons, ← ih,
            List.flatMap_append, List.flatMap_cons]
          by_cases hp : p = typesContainer
          · rw [if_neg (not_not.mpr hp)]
            refine iff_of_false (fun heq => ?_) fun h => h.1 hp
            -- What is left cannot be longer than all segments but the first.
            have hle := ((withoutHolders_sublist (q :: rest)).flatMap (sep ++ ·)).length_le
            have hlen := congrArg List.length heq
            have hpos := List.length_pos_of_ne_nil hsep
            rw [List.flatMap_nil, List.nil_append, List.length_append, List.length_append] at hlen
            omega
          · rw [if_pos hp, List.flatMap_singleton, List.append_cancel_left_eq]
            simp [hp]

/-- The segments spell the names, each of which may come after a container. -/
inductive Spells : List Label → List Text → Prop
  | nil : Spells [] []
  | direct (n : Label) {names : List Label} {segments : List Text} (h : Spells names segments) :
      Spells (n :: names) (n.text :: segments)
  | held (n : Label) {names : List Label} {segments : List Text} (h : Spells names segments) :
      Spells (n :: names) (typesContainer :: n.text :: segments)

namespace Spells

variable {names : List Label} {segments : List Text}

theorem append {names' : List Label} {segments' : List Text} (h : Spells names segments)
    (h' : Spells names' segments') : Spells (names ++ names') (segments ++ segments') := by
  induction h with
  | nil => exact h'
  | direct n _ ih => exact ih.direct n
  | held n _ ih => exact ih.held n

theorem segments_eq_nil_iff (h : Spells names segments) : segments = [] ↔ names = [] := by
  cases h with
  | nil => simp
  | direct n _ => simp
  | held n _ => simp

/-- The segments hold no slash if the names do not: nor does that of containers. -/
theorem slash_not_mem (h : Spells names segments)
    (hnames : ∀ n ∈ names, CodePoint.char '/' ∉ n.text) :
    ∀ p ∈ segments, CodePoint.char '/' ∉ p := by
  induction h with
  | nil => simp
  | direct n _ ih =>
      obtain ⟨hn, hrest⟩ := List.forall_mem_cons.mp hnames
      exact List.forall_mem_cons.mpr ⟨hn, ih hrest⟩
  | held n _ ih =>
      obtain ⟨hn, hrest⟩ := List.forall_mem_cons.mp hnames
      exact List.forall_mem_cons.mpr ⟨by decide, List.forall_mem_cons.mpr ⟨hn, ih hrest⟩⟩

/-- Leaving out containers from the segments and from the names comes to the same. -/
theorem withoutHolders_eq (h : Spells names segments) :
    withoutHolders segments = withoutHolders (names.map Label.text) := by
  have hcons : ∀ {names : List Label} {segments : List Text} (n : Label), Spells names segments →
      withoutHolders segments = withoutHolders (names.map Label.text) →
      withoutHolders (n.text :: segments) = withoutHolders (n.text :: names.map Label.text) :=
    fun n h ih => withoutHolders_cons_congr (h.segments_eq_nil_iff.trans List.map_eq_nil_iff.symm)
      ih n.text
  induction h with
  | nil => rfl
  | direct n h ih => exact hcons n h ih
  | held n h ih =>
      rw [withoutHolders_cons_cons, if_neg (not_not.mpr rfl)]
      exact hcons n h ih

end Spells

theorem pathBelow_append (root : Text) {segments : List Text} (hne : segments ≠ []) :
    pathBelow root (root ++ segments.flatMap (("/" : Text) ++ ·)) =
      withoutHolders (Text.pieces '/' (Text.join "/" segments)) := by
  rw [← Text.append_join hne]
  unfold pathBelow
  rw [List.drop_length_add_append]
  rfl

theorem text_eq_typesContainer_iff {n : Label} :
    n.text = typesContainer ↔ n = some typesContainer := by
  cases n with
  | none => exact iff_of_false (by decide) nofun
  | some t =>
      rw [Option.some.injEq]
      rfl

/-- The path to a type below its root message has the names on the way exactly if these
    can be told from the full name. -/
theorem Spells.flatMap_pathBelow_iff {names : List Label} {segments : List Text}
    (h : Spells names segments) (hne : names ≠ []) (root : Text) :
    (pathBelow root (root ++ segments.flatMap (("/" : Text) ++ ·))).flatMap (("." : Text) ++ ·) =
        (names.map Label.text).flatMap (("." : Text) ++ ·) ↔
      (∀ n ∈ names, CodePoint.char '/' ∉ n.text) ∧
        ∀ n ∈ names.dropLast, n ≠ some typesContainer := by
  have hsegments : segments ≠ [] := fun hnil => hne (h.segments_eq_nil_iff.mp hnil)
  rw [pathBelow_append root hsegments]
  -- Names without slashes are the pieces, but for the containers.
  have hpieces : (∀ n ∈ names, CodePoint.char '/' ∉ n.text) →
      withoutHolders (Text.pieces '/' (Text.join "/" segments)) =
        withoutHolders (names.map Label.text) := by
    intro hslash
    rw [← h.withoutHolders_eq]
    exact congrArg withoutHolders (Text.pieces_join hsegments (h.slash_not_mem hslash))
  have hdropLast : (∀ p ∈ (names.map Label.text).dropLast, p ≠ typesContainer) ↔
      ∀ n ∈ names.dropLast, n ≠ some typesContainer := by
    rw [← List.map_dropLast, List.forall_mem_map]
    simp only [Ne, text_eq_typesContainer_iff]
  constructor
  · intro heq
    have hslash : ∀ n ∈ names, CodePoint.char '/' ∉ n.text := by
      intro n hn hmem
      have hright : CodePoint.char '/' ∈ (names.map Label.text).flatMap (("." : Text) ++ ·) :=
        List.mem_flatMap.mpr ⟨n.text, List.mem_map_of_mem hn, List.mem_append_right _ hmem⟩
      rw [← heq] at hright
      obtain ⟨piece, hpiece, hmem⟩ := List.mem_flatMap.mp hright
      rcases List.mem_append.mp hmem with hmem | hmem
      · revert hmem
        decide
      · exact Text.sep_not_mem_pieces ((withoutHolders_sublist _).subset hpiece) hmem
    rw [hpieces hslash, flatMap_withoutHolders_iff (by decide), hdropLast] at heq
    exact ⟨hslash, heq⟩
  · rintro ⟨hslash, hholders⟩
    rw [hpieces hslash, flatMap_withoutHolders_iff (by decide), hdropLast]
    exact hholders

end Schema

/-! ## Full names of declarations -/

/-- The type `y` has the namespace of `x`, and a full name that goes on from that of
    `x` with its name, after a container or not. -/
def TypeDescriptor.GoesOn (x y : TypeDescriptor) : Prop :=
  y.ns = x.ns ∧ ∃ segments, Schema.Spells [y.name] segments ∧
    y.fullName = some (x.fullName.text ++ segments.flatMap (("/" : Text) ++ ·))

/-- The full names of a schema. A type that a message declares has one that goes on
    from that of the message. What stands under that of an enum has the name, namespace
    and outermost message of the enum, be it a message too. A message without a full
    name has no name. -/
structure Schema.FullyNamed (s : Schema) : Prop where
  message : ∀ {n m n' m'}, s.messages.find? n = some m → n' ∈ m.nestedMessages →
    s.messages.find? n' = some m' → m.descriptor.GoesOn m'.descriptor
  enum : ∀ {n m n' e}, s.messages.find? n = some m → n' ∈ m.nestedEnums →
    s.enums.find? n' = some e → m.descriptor.GoesOn e.descriptor
  entity : ∀ {n e}, s.enums.find? n = some e → s.entity? n = some (e.name, e.ns, e.rootMessage)
  nameless : ∀ {m}, s.messages.find? none = some m → m.name = none

section Prepared

variable {a : Assembly} {l : List (TypeDescriptor × Label)} {n : Label} {m : MessageType}
  {x : TypeDescriptor} {discovered u : Schema}

/-- A type that a message declares goes on from the message. -/
theorem MessageType.Placed.goesOn (ha : a.Named) (hl : Listing none a.types l)
    (h : m.Placed l n) (hx : x ∈ a.allTypes) (hname : x.fullName ∈ m.nestedTypes.map (·.fullName)) :
    m.descriptor.GoesOn x := by
  obtain ⟨y, hy, hname⟩ := List.mem_map.mp hname
  have hm := hl.mem_allTypes h.listed
  rcases MessageType.mem_nestedTypes hy with hdirect | ⟨c, hc, -, hcontainer, hheld⟩
  · obtain rfl := ha.eq_of_fullName_eq (nested_mem_families a.types hm hdirect) hx hname
    refine ⟨h.ns_nested ha hl hy, _, .direct y.name .nil, ?_⟩
    rw [(ha.nested _ hm y hdirect).2]
    simp
  · have hcAll := nested_mem_families a.types hm hc
    obtain rfl := ha.eq_of_fullName_eq (nested_mem_families a.types hcAll hheld) hx hname
    refine ⟨h.ns_nested ha hl hy, _, .held y.name .nil, ?_⟩
    rw [(ha.nested c hcAll y hheld).2, (ha.nested _ hm c hc).2, hcontainer]
    simp [Label.text]

/-- The full names after the analysis of an assembly. -/
theorem Prepared.fullyNamed (h : Prepared a l discovered u) (ha : a.Named) :
    u.prune.1.FullyNamed where
  message hm hn' hm' := by
    have hplaced := h.placed_message hm
    have hplaced' := h.placed_message hm'
    refine hplaced.goesOn ha h.listing (h.listing.mem_allTypes hplaced'.listed) ?_
    rw [← hplaced'.keyed] at hn'
    exact hplaced.messages.subset hn'
  enum hm hn' he := by
    have hplaced := h.placed_message hm
    have henum := h.discovered_enum he
    refine hplaced.goesOn ha h.listing (h.listing.mem_allTypes henum.listed) ?_
    rw [← henum.keyed] at hn'
    exact hplaced.enums.subset hn'
  entity := by
    intro n e he
    unfold Schema.entity?
    cases hm : u.prune.1.messages.find? n with
    | none =>
        show Option.map _ (u.prune.1.enums.find? n) = _
        rw [he]
        rfl
    | some m =>
        -- One type is both.
        have hplaced := h.placed_message hm
        have henum := h.discovered_enum he
        obtain ⟨hsame, hroot⟩ := h.listing.unique ha hplaced.listed henum.listed
          (hplaced.keyed.trans henum.keyed.symm)
        show some (m.descriptor.name, m.descriptor.ns, m.rootMessage) = _
        rw [hsame, hroot]
        rfl
  nameless := by
    intro m hm
    have hplaced := h.placed_message hm
    exact ha.name_of_null (h.listing.mem_allTypes hplaced.listed) hplaced.keyed

end Prepared

namespace Schema

variable {s : Schema} {m : MessageType} {blocks : List MessageType} {d : Declaration}

/-- A declaration inside a message goes on from the message with the names of the
    messages around it and its own. -/
theorem Inside.spells (hs : s.WellNested) (hn : s.FullyNamed) (h : s.Inside m blocks d)
    (hm : s.messages.find? m.fullName = some m) :
    d.ns = m.ns ∧ ∃ inner segments, blocks.map (·.name) ++ [d.name] = m.name :: inner ∧
      Spells inner segments ∧
      d.fullName.text = m.fullName.text ++ segments.flatMap (("/" : Text) ++ ·) := by
  -- Each step down adds a name, directly or after a container.
  induction h with
  | self m => exact ⟨rfl, [], [], rfl, .nil, (List.append_nil _).symm⟩
  | @enum m n e hmem he =>
      obtain ⟨hns, segments, hspells, hname⟩ := hn.enum hm hmem (enum_eq_ok_iff.mp he)
      exact ⟨hns, [e.name], segments, rfl, hspells, congrArg Label.text hname⟩
  | @nested m m' n blocks d hmem hm' _ ih =>
      have hfound := message_eq_ok_iff.mp hm'
      obtain ⟨hns, segments, hspells, hname⟩ := hn.message hm hmem hfound
      obtain rfl := hs.keyed_message hfound
      obtain ⟨hns', inner, segments', hnames, hspells', hname'⟩ := ih hfound
      refine ⟨hns'.trans hns, m'.name :: inner, segments ++ segments', ?_, hspells.append hspells',
        ?_⟩
      · rw [List.map_cons, List.cons_append, hnames]
      · have htext : m'.fullName.text = _ := congrArg Label.text hname
        rw [hname', htext, List.flatMap_append, ← List.append_assoc]
        rfl

/-- A declaration inside a message has the owner of the message as its outermost
    message, if it is not the message itself. -/
theorem Inside.rootMessage_eq (hs : s.WellNested) (h : s.Inside m blocks d)
    (hm : s.messages.find? m.fullName = some m) (howner : m.owner ≠ none) :
    (blocks = [] ∧ d = .message m) ∨ (blocks ≠ [] ∧ d.rootMessage = m.owner) := by
  induction h with
  | self m => exact Or.inl ⟨rfl, rfl⟩
  | @enum m n e hmem he =>
      obtain ⟨e', he', hroot⟩ := hs.nested_enum hm hmem
      rw [enum_eq_ok_iff, he', Option.some.injEq] at he
      exact Or.inr ⟨List.cons_ne_nil _ _, he ▸ hroot howner⟩
  | @nested m m' n blocks d hmem hm' _ ih =>
      have hfound := message_eq_ok_iff.mp hm'
      obtain ⟨x, hx, -, hroot⟩ := hs.nested_message hm hmem
      rw [hfound, Option.some.injEq] at hx
      obtain rfl := hs.keyed_message hfound
      have hroot' : m'.rootMessage = m.owner := hx ▸ hroot howner
      have howner' := MessageType.owner_of_rootMessage hroot' howner
      refine Or.inr ⟨List.cons_ne_nil _ _, ?_⟩
      rcases ih hfound (howner' ▸ howner) with ⟨-, rfl⟩ | ⟨-, hd⟩
      · exact hroot'
      · exact hd.trans howner'

/-- The message without a name has no messages in it, and its enums are in no message
    by their own record: a root message with a name could not be put in order with
    it. -/
theorem Inside.of_nameless (hs : s.WellNested)
    (halone : Label.NullAlone fun n => ∃ m, s.messages.find? n = some m ∧ m.isRoot = true)
    (h : s.Inside m blocks d) (hm : s.messages.find? none = some m) (hisRoot : m.isRoot = true) :
    (blocks = [] ∧ d = .message m) ∨ (blocks = [m] ∧ d.rootMessage = none) := by
  have hnull : ∀ n, (∃ m, s.messages.find? n = some m ∧ m.isRoot = true) → n = none :=
    halone ⟨m, hm, hisRoot⟩
  -- No message with a name is around another type.
  have hround : ∀ {r : Text} {n : Label}, ¬ s.RootAround r n := by
    rintro r n ⟨hroot, -⟩
    cases hnull _ hroot
  cases h with
  | self => exact Or.inl ⟨rfl, rfl⟩
  | @enum _ n e hmem he =>
      refine Or.inr ⟨rfl, ?_⟩
      cases hroot : e.rootMessage with
      | none => exact hroot
      | some r => exact absurd (hs.owned_enum (enum_eq_ok_iff.mp he) hroot) hround
  | @nested _ m' n _ _ hmem hm' _ =>
      have hfound := message_eq_ok_iff.mp hm'
      obtain ⟨-, -, ⟨rest, hrest⟩, -⟩ := hs.nested_message hm hmem
      cases hroot : m'.rootMessage with
      | some r => exact absurd (hs.owned_message hfound hroot) hround
      | none =>
          have hself := hnull n ⟨m', hfound, by rw [MessageType.isRoot, hroot]; rfl⟩
          rw [hself] at hrest
          cases hrest

/-- What is inside a message of a schema is in the schema. -/
theorem Inside.entity?_eq (hs : s.WellNested) (hn : s.FullyNamed) (h : s.Inside m blocks d)
    (hm : s.messages.find? m.fullName = some m) :
    s.entity? d.fullName = some (d.name, d.ns, d.rootMessage) := by
  induction h with
  | self m =>
      unfold entity?
      rw [show s.messages.find? (Declaration.message m).fullName = some m from hm]
      rfl
  | @enum m n e hmem he =>
      have hfound := enum_eq_ok_iff.mp he
      rw [← hs.keyed_enum hfound] at hfound
      exact hn.entity hfound
  | @nested m m' n blocks d hmem hm' _ ih =>
      have hfound := message_eq_ok_iff.mp hm'
      obtain rfl := hs.keyed_message hfound
      exact ih hfound

end Schema

end SchemaRecovery
