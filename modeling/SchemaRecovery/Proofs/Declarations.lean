/-
  SchemaRecovery.Proofs.Declarations

  What the output files declare. The messages of a schema form a forest whose
  roots are shared out among the files, so the walks below the root messages of
  all files meet every message once, and with it the enums nested there. An enum
  that is in no message is among the enums of one file
  (`rebuild_declares_once`).

  One message can be without a name. The types in it then have no outermost
  message, so its enums are declared in it and among the enums of its file
  (`nameless_declares_twice`).
-/
import SchemaRecovery.Proofs.Forest
import SchemaRecovery.Proofs.Imports

namespace SchemaRecovery

open Relation TypeDescriptor

/-! ## All messages of a schema -/

namespace Schema

variable {s : Schema}

/-- The root messages: all of them, and each once. -/
structure Roots (s : Schema) (roots : List MessageType) : Prop where
  nodup : (roots.map (·.fullName)).Nodup
  mem_iff : ∀ m, m ∈ roots ↔ s.messages.find? m.fullName = some m ∧ m.isRoot = true

/-- A root message is nested in no message: otherwise that one would be without
    a name, and there would be no order among the root messages. -/
theorem Forest.not_nested_root (h : s.Forest) (hs : s.WellNested)
    (halone : Label.NullAlone fun n => ∃ m, s.messages.find? n = some m ∧ m.isRoot = true)
    {p r : Label} {root : MessageType} (hr : s.messages.find? r = some root)
    (hisRoot : root.isRoot = true) : ¬ s.Nested p r := by
  intro hnested
  obtain ⟨m, hm, hmem⟩ := id hnested
  obtain ⟨howner, -⟩ := h.message_place hm hmem hr
  rw [MessageType.isRoot, Option.isNone_iff_eq_none, howner, MessageType.owner,
    Option.or_eq_none_iff] at hisRoot
  have hnull : p = none := (hs.keyed_message hm).symm.trans hisRoot.2
  subst hnull
  have hrnull : r = none := halone ⟨m, hm, h.nameless hm⟩ r ⟨root, hr, by
    rw [MessageType.isRoot, howner, MessageType.owner, hisRoot.1, hisRoot.2]
    rfl⟩
  subst hrnull
  exact hs.not_nested_self (.single hnested)

section Roots

variable {roots : List MessageType} {trees : List (List MessageType)}
  (hs : s.WellNested) (hroots : s.Roots roots) (htrees : roots.mapM s.subtree = .ok trees)

include hs hroots htrees

/-- The walks below the root messages meet every message. -/
theorem Roots.mem_trees (m : MessageType) :
    m ∈ trees.flatten ↔ s.messages.find? m.fullName = some m := by
  rw [List.mem_flatten]
  constructor
  · rintro ⟨tree, htree, hm⟩
    obtain ⟨root, hroot, hwalk⟩ := exists_of_mem_mapM htrees htree
    exact ((mem_subtree_iff hs ((hroots.mem_iff root).mp hroot).1 hwalk).mp hm).1
  · intro hm
    obtain ⟨r, root, hr, hisRoot, hreach⟩ := hs.reached hm
    obtain rfl := hs.keyed_message hr
    obtain ⟨tree, htree, hwalk⟩ :=
      exists_mem_of_mapM htrees ((hroots.mem_iff root).mpr ⟨hr, hisRoot⟩)
    exact ⟨tree, htree, (mem_subtree_iff hs hr hwalk).mpr ⟨hm, hreach⟩⟩

/-- An enum is nested in a message that the walks meet or in none. -/
theorem Roots.mem_nestedEnums (n : Label) :
    n ∈ trees.flatten.flatMap (·.nestedEnums) ↔
      ∃ p m, s.messages.find? p = some m ∧ n ∈ m.nestedEnums := by
  rw [List.mem_flatMap]
  constructor
  · rintro ⟨m, hm, hn⟩
    exact ⟨_, m, (hroots.mem_trees hs htrees m).mp hm, hn⟩
  · rintro ⟨p, m, hm, hn⟩
    obtain rfl := hs.keyed_message hm
    exact ⟨m, (hroots.mem_trees hs htrees m).mpr hm, hn⟩

variable (hf : s.Forest)
  (halone : Label.NullAlone fun n => ∃ m, s.messages.find? n = some m ∧ m.isRoot = true)

include hf halone

/-- The walks below the root messages meet no message twice. -/
theorem Roots.nodup_trees : (trees.flatten.map (·.fullName)).Nodup := by
  have hfound : ∀ m ∈ roots, s.messages.find? m.fullName = some m :=
    fun m hm => ((hroots.mem_iff m).mp hm).1
  refine nodup_walks hs.keyed_message (fun _ _ => Iff.rfl) htrees hfound ?_
    fun m hm l hl => nodup_descend hf hs (hfound m hm) hl
  -- Of two root messages with a common one below, one would be below the other.
  have hno : ∀ {m m'}, m ∈ roots → m' ∈ roots → m.fullName ≠ m'.fullName →
      ¬ ReflTransGen s.Nested m.fullName m'.fullName := by
    intro m m' hm hm' hne hreach
    rcases hreach.cases_tail with heq | ⟨p, -, hp⟩
    · exact hne heq.symm
    · obtain ⟨hr, hisRoot⟩ := (hroots.mem_iff m').mp hm'
      exact hf.not_nested_root hs halone hr hisRoot hp
  refine (List.pairwise_map.mp hroots.nodup).imp_of_mem fun hm hm' hne x hx hx' => ?_
  rcases hf.total hx hx' with hreach | hreach
  · exact hno hm hm' hne hreach
  · exact hno hm' hm hne.symm hreach

/-- No enum is nested in two messages, or twice in one. -/
theorem Roots.nodup_nestedEnums : (trees.flatten.flatMap (·.nestedEnums)).Nodup := by
  have hfound : ∀ m ∈ trees.flatten, s.messages.find? m.fullName = some m :=
    fun m hm => (hroots.mem_trees hs htrees m).mp hm
  rw [List.nodup_flatMap]
  refine ⟨fun m hm => hf.nodup_enums (hfound m hm), ?_⟩
  have hnodup := List.pairwise_map.mp (hroots.nodup_trees hs htrees hf halone)
  refine hnodup.imp_of_mem fun hm hm' hne x hx hx' => hne ?_
  exact hf.enum_parent (hfound _ hm) (hfound _ hm') hx hx'

end Roots

end Schema

/-! ## The root types of the files -/

namespace OutputFile

variable {s : Schema} {g : ModuleGraph} {file : Int → OutputFile} {files : List OutputFile}

/-- Lists of names that no two files share are joined without repetition. -/
theorem Planned.nodup_flatMap (hp : Planned s g file files) {names : OutputFile → List Label}
    (hone : ∀ {i}, g.Live i → (names (file i)).Nodup)
    (hapart : ∀ {i j n}, g.Live i → g.Live j → n ∈ names (file i) → n ∈ names (file j) → i = j) :
    (files.flatMap names).Nodup := by
  rw [List.nodup_flatMap]
  constructor
  · intro f hf
    obtain ⟨i, hi, rfl⟩ := (hp.mem_iff f).mp hf
    exact hone hi
  · refine (List.pairwise_map.mp hp.names).imp_of_mem fun hf hf' hne n hn hn' => hne ?_
    obtain ⟨i, hi, rfl⟩ := (hp.mem_iff _).mp hf
    obtain ⟨j, hj, rfl⟩ := (hp.mem_iff _).mp hf'
    rw [hapart hi hj hn hn']

section Roots

variable (hp : Planned s g file files) (hs : s.WellNested) (hg : ModuleGraph.Partitioned s g)

include hp hs hg

theorem Planned.mem_messages_iff {i : Int} (hi : g.Live i) (x : MessageType) :
    x ∈ (file i).messages ↔
      s.messages.find? x.fullName = some x ∧ g.messageModule.find? x.fullName = some i := by
  obtain ⟨m, hm⟩ := hi
  rw [hp.messages hm, hg.messages]
  constructor
  · rintro ⟨n, hn, hx⟩
    obtain rfl := hs.keyed_message hx
    exact ⟨hx, m, hm, hn⟩
  · rintro ⟨hx, m', hm', hn⟩
    rw [hm, Option.some.injEq] at hm'
    exact ⟨_, hm' ▸ hn, hx⟩

theorem Planned.mem_enums_iff {i : Int} (hi : g.Live i) (x : EnumType) :
    x ∈ (file i).enums ↔
      s.enums.find? x.fullName = some x ∧ g.enumModule.find? x.fullName = some i := by
  obtain ⟨m, hm⟩ := hi
  rw [hp.enums hm, hg.enums]
  constructor
  · rintro ⟨n, hn, hx⟩
    obtain rfl := hs.keyed_enum hx
    exact ⟨hx, m, hm, hn⟩
  · rintro ⟨hx, m', hm', hn⟩
    rw [hm, Option.some.injEq] at hm'
    exact ⟨_, hm' ▸ hn, hx⟩

/-- The files share out the root messages. -/
theorem Planned.roots : s.Roots (files.flatMap (·.messages)) := by
  constructor
  · rw [List.map_flatMap]
    refine hp.nodup_flatMap hp.nodup_messages fun {i j n} hi hj hn hn' => ?_
    obtain ⟨x, hx, rfl⟩ := List.mem_map.mp hn
    obtain ⟨y, hy, heq⟩ := List.mem_map.mp hn'
    have hxi := ((hp.mem_messages_iff hs hg hi x).mp hx).2
    have hyj := ((hp.mem_messages_iff hs hg hj y).mp hy).2
    rw [heq, hxi, Option.some.injEq] at hyj
    exact hyj
  · intro m
    rw [List.mem_flatMap]
    constructor
    · rintro ⟨f, hf, hm⟩
      obtain ⟨i, hi, rfl⟩ := (hp.mem_iff f).mp hf
      obtain ⟨hfound, hheld⟩ := (hp.mem_messages_iff hs hg hi m).mp hm
      obtain ⟨m', hm', hisRoot⟩ := (hg.message_owned _).mp ⟨i, hheld⟩
      rw [hfound, Option.some.injEq] at hm'
      exact ⟨hfound, hm' ▸ hisRoot⟩
    · rintro ⟨hfound, hisRoot⟩
      obtain ⟨i, hheld⟩ := (hg.message_owned _).mpr ⟨m, hfound, hisRoot⟩
      have hi := ModuleGraph.Holds.live hg.toConsistent (x := .message m.fullName) hheld
      exact ⟨file i, (hp.mem_iff _).mpr ⟨i, hi, rfl⟩,
        (hp.mem_messages_iff hs hg hi m).mpr ⟨hfound, hheld⟩⟩

/-- The files share out the enums that are in no message. -/
theorem Planned.rootEnums :
    ((files.flatMap (·.enums)).map (·.fullName)).Nodup ∧
      ∀ n, n ∈ (files.flatMap (·.enums)).map (·.fullName) ↔
        ∃ e, s.enums.find? n = some e ∧ e.isRoot = true := by
  rw [List.map_flatMap]
  constructor
  · refine hp.nodup_flatMap hp.nodup_enums fun {i j n} hi hj hn hn' => ?_
    obtain ⟨x, hx, rfl⟩ := List.mem_map.mp hn
    obtain ⟨y, hy, heq⟩ := List.mem_map.mp hn'
    have hxi := ((hp.mem_enums_iff hs hg hi x).mp hx).2
    have hyj := ((hp.mem_enums_iff hs hg hj y).mp hy).2
    rw [heq, hxi, Option.some.injEq] at hyj
    exact hyj
  · intro n
    rw [List.mem_flatMap]
    constructor
    · rintro ⟨f, hf, hn⟩
      obtain ⟨e, he, rfl⟩ := List.mem_map.mp hn
      obtain ⟨i, hi, rfl⟩ := (hp.mem_iff f).mp hf
      exact (hg.enum_owned _).mp ⟨i, ((hp.mem_enums_iff hs hg hi e).mp he).2⟩
    · rintro ⟨e, he, hisRoot⟩
      obtain ⟨i, hheld⟩ := (hg.enum_owned n).mpr ⟨e, he, hisRoot⟩
      obtain rfl := hs.keyed_enum he
      have hi := ModuleGraph.Holds.live hg.toConsistent (x := .enum e.fullName) hheld
      exact ⟨file i, (hp.mem_iff _).mpr ⟨i, hi, rfl⟩,
        List.mem_map_of_mem ((hp.mem_enums_iff hs hg hi e).mpr ⟨he, hheld⟩)⟩

end Roots

/-! ## Declarations -/

/-- The full names of the types in a file: its messages and those below them, the
    enums nested in all of these, and its enums. -/
def declarations (s : Schema) (f : OutputFile) : Except Failure (List Label) := do
  let messages := (← f.messages.mapM s.subtree).flatten
  return messages.map (·.fullName) ++ messages.flatMap (·.nestedEnums) ++
    f.enums.map (·.fullName)

theorem declarations_eq_ok {f : OutputFile} {names : List Label}
    (h : f.declarations s = .ok names) :
    ∃ trees, f.messages.mapM s.subtree = .ok trees ∧
      names = trees.flatten.map (·.fullName) ++ trees.flatten.flatMap (·.nestedEnums) ++
        f.enums.map (·.fullName) := by
  unfold declarations at h
  obtain ⟨trees, htrees, h⟩ := bind_eq_ok.mp h
  exact ⟨trees, htrees, (Except.ok.inj h).symm⟩

/-- The declarations of all files are those of the messages below their root
    messages, and their enums. -/
theorem count_declarations {declared : List (List Label)}
    (h : files.mapM (declarations s) = .ok declared) :
    ∃ trees, (files.flatMap (·.messages)).mapM s.subtree = .ok trees ∧
      ∀ n, declared.flatten.count n = (trees.flatten.map (·.fullName)).count n +
        (trees.flatten.flatMap (·.nestedEnums)).count n +
        ((files.flatMap (·.enums)).map (·.fullName)).count n := by
  rw [mapM_eq_ok_iff] at h
  simp only [mapM_eq_ok_iff]
  induction h with
  | nil => exact ⟨[], .nil, fun _ => rfl⟩
  | @cons f names files declared hnames _ ih =>
      obtain ⟨trees, htrees, rfl⟩ := declarations_eq_ok hnames
      obtain ⟨rest, hrest, hcount⟩ := ih
      refine ⟨trees ++ rest, List.rel_append (mapM_eq_ok_iff.mp htrees) hrest, fun n => ?_⟩
      simp only [List.flatten_cons, List.flatMap_cons, List.flatten_append, List.map_append,
        List.flatMap_append, List.count_append, hcount]
      omega

theorem exists_declarations (hs : s.WellNested)
    (hfound : ∀ f ∈ files, ∀ m ∈ f.messages, s.messages.find? m.fullName = some m) :
    ∃ declared, files.mapM (declarations s) = .ok declared := by
  refine exists_mapM_eq_ok fun f hf => ?_
  obtain ⟨trees, htrees⟩ := exists_mapM_eq_ok fun m hm =>
    hs.subtree_ok (hfound f hf m hm)
  have hwalks : f.messages.mapM s.subtree = .ok trees := htrees
  unfold declarations
  rw [hwalks]
  exact ⟨_, rfl⟩

/-- The enum is nested in the message without a name. -/
def InNameless (s : Schema) (n : Label) : Prop :=
  ∃ m, s.messages.find? none = some m ∧ n ∈ m.nestedEnums

/-- The types of a schema are declared once each and nothing else is, but for the
    enums in a message without a name, which are declared twice: once in that
    message and once among the enums of a file. Each file only declares types of
    its namespace. `gathered` are the types before the analysis. -/
structure DeclaresOnce (a : Assembly) (gathered s : Schema) (files : List OutputFile)
    (declared : List (List Label)) : Prop where
  walks : files.mapM (declarations s) = .ok declared
  messages : ∀ n, gathered.messages.contains n = true → declared.flatten.count n = 1
  enums : ∀ n, s.enums.contains n = true → ¬ InNameless s n → declared.flatten.count n = 1
  nameless : ∀ m, s.messages.find? none = some m → ∀ n ∈ m.nestedEnums,
    declared.flatten.count n = 2 ∧ m.nestedEnums.count n = 1 ∧
      ((files.flatMap (·.enums)).map (·.fullName)).count n = 1
  nothing_else : ∀ n ∈ declared.flatten,
    gathered.messages.contains n = true ∨ s.enums.contains n = true
  ns : List.Forall₂ (fun f names => ∀ n ∈ names, ∃ t ∈ a.allTypes, t.fullName = n ∧ t.ns = f.ns)
    files declared

section Declared

variable {declared : List (List Label)} (hp : Planned s g file files) (hs : s.WellNested)
  (hg : ModuleGraph.Partitioned s g) (hf : s.Forest)
  (halone : Label.NullAlone fun n => ∃ m, s.messages.find? n = some m ∧ m.isRoot = true)
  (hdeclared : files.mapM (declarations s) = .ok declared)

include hp hs hg hf halone hdeclared

open Classical in
/-- How often the files declare a name: once as a message, once as an enum in a
    message, once as an enum in no message. -/
theorem Planned.count_declared (n : Label) : declared.flatten.count n =
    (if ∃ m, s.messages.find? n = some m then 1 else 0) +
    (if ∃ p m, s.messages.find? p = some m ∧ n ∈ m.nestedEnums then 1 else 0) +
    (if ∃ e, s.enums.find? n = some e ∧ e.isRoot = true then 1 else 0) := by
  obtain ⟨trees, htrees, hcount⟩ := count_declarations hdeclared
  have hroots := hp.roots hs hg
  obtain ⟨hnodup, hmem⟩ := hp.rootEnums hs hg
  have hmessage : n ∈ trees.flatten.map (·.fullName) ↔ ∃ m, s.messages.find? n = some m := by
    simp only [List.mem_map, hroots.mem_trees hs htrees]
    constructor
    · rintro ⟨m, hm, rfl⟩
      exact ⟨m, hm⟩
    · rintro ⟨m, hm⟩
      obtain rfl := hs.keyed_message hm
      exact ⟨m, hm, rfl⟩
  rw [hcount, (hroots.nodup_trees hs htrees hf halone).count,
    (hroots.nodup_nestedEnums hs htrees hf halone).count, hnodup.count]
  simp only [hmessage, hroots.mem_nestedEnums hs htrees, hmem]

omit hp hg halone hdeclared in
/-- An enum in a message is in no message by its own record only if that message
    is without a name. -/
theorem isRoot_nestedEnum_iff {p n : Label} {m : MessageType} {e : EnumType}
    (hm : s.messages.find? p = some m) (hn : n ∈ m.nestedEnums)
    (he : s.enums.find? n = some e) : e.isRoot = true ↔ InNameless s n := by
  obtain ⟨hroot, -⟩ := hf.enum_place hm hn he
  constructor
  · intro hisRoot
    rw [EnumType.isRoot, Option.isNone_iff_eq_none, hroot, MessageType.owner,
      Option.or_eq_none_iff] at hisRoot
    obtain rfl : p = none := (hs.keyed_message hm).symm.trans hisRoot.2
    exact ⟨m, hm, hn⟩
  · rintro ⟨m', hm', hn'⟩
    obtain rfl := hf.enum_parent hm hm' hn hn'
    rw [hm, Option.some.injEq] at hm'
    rw [EnumType.isRoot, hroot, MessageType.owner_of_isRoot (hf.nameless hm), hs.keyed_message hm]
    rfl

/-- An enum of the schema is declared once, or twice if it is in the message
    without a name. -/
theorem Planned.count_enum {n : Label} {e : EnumType} (he : s.enums.find? n = some e) :
    (¬ InNameless s n → declared.flatten.count n = 1) ∧
      (InNameless s n → declared.flatten.count n = 2) := by
  classical
  have hmessage : ¬ ∃ m, s.messages.find? n = some m := by
    rintro ⟨m, hm⟩
    exact hf.apart hm he
  rw [hp.count_declared hs hg hf halone hdeclared, if_neg hmessage]
  by_cases hnested : ∃ p m, s.messages.find? p = some m ∧ n ∈ m.nestedEnums
  · obtain ⟨p, m, hm, hn⟩ := id hnested
    have hroot := isRoot_nestedEnum_iff hs hf hm hn he
    rw [if_pos hnested]
    constructor
    · intro hnot
      rw [if_neg]
      rintro ⟨e', he', hisRoot⟩
      rw [he, Option.some.injEq] at he'
      exact hnot (hroot.mp (he' ▸ hisRoot))
    · intro hin
      rw [if_pos ⟨e, he, hroot.mpr hin⟩]
  · -- An enum in no message is a root enum.
    have hisRoot : e.isRoot = true := by
      by_contra hnot
      exact hnested (hs.linked he (Bool.not_eq_true _ ▸ hnot))
    rw [if_neg hnested, if_pos ⟨e, he, hisRoot⟩]
    refine ⟨fun _ => rfl, ?_⟩
    rintro ⟨m, hm, hn⟩
    exact absurd ⟨none, m, hm, hn⟩ hnested

/-- An enum in the message without a name is declared there and among the enums
    of one file. -/
theorem Planned.count_nameless {m : MessageType} (hm : s.messages.find? none = some m)
    {n : Label} (hn : n ∈ m.nestedEnums) :
    declared.flatten.count n = 2 ∧ m.nestedEnums.count n = 1 ∧
      ((files.flatMap (·.enums)).map (·.fullName)).count n = 1 := by
  obtain ⟨e, he, -⟩ := hs.nested_enum hm hn
  have hin : InNameless s n := ⟨m, hm, hn⟩
  have hisRoot : e.isRoot = true := (isRoot_nestedEnum_iff hs hf hm hn he).mpr hin
  obtain ⟨hnodup, hmem⟩ := hp.rootEnums hs hg
  have htwice := (hp.count_enum hs hg hf halone hdeclared he).2 hin
  have hthere := List.count_eq_one_of_mem (hf.nodup_enums hm) hn
  exact ⟨htwice, hthere, List.count_eq_one_of_mem hnodup ((hmem n).mpr ⟨e, he, hisRoot⟩)⟩

/-- A message of the schema is declared once. -/
theorem Planned.count_message {n : Label} {m : MessageType}
    (hm : s.messages.find? n = some m) : declared.flatten.count n = 1 := by
  classical
  have hnested : ¬ ∃ p m, s.messages.find? p = some m ∧ n ∈ m.nestedEnums := by
    rintro ⟨p, m', hm', hn⟩
    obtain ⟨e, he, -⟩ := hs.nested_enum hm' hn
    exact hf.apart hm he
  have hroot : ¬ ∃ e, s.enums.find? n = some e ∧ e.isRoot = true := by
    rintro ⟨e, he, -⟩
    exact hf.apart hm he
  rw [hp.count_declared hs hg hf halone hdeclared, if_pos ⟨m, hm⟩, if_neg hnested, if_neg hroot]

theorem Planned.found_of_declared {n : Label} (h : n ∈ declared.flatten) :
    (∃ m, s.messages.find? n = some m) ∨ ∃ e, s.enums.find? n = some e := by
  classical
  rw [← List.count_pos_iff, hp.count_declared hs hg hf halone hdeclared] at h
  by_contra hnot
  rw [not_or] at hnot
  have hnested : ¬ ∃ p m, s.messages.find? p = some m ∧ n ∈ m.nestedEnums := by
    rintro ⟨p, m, hm, hn⟩
    obtain ⟨e, he, -⟩ := hs.nested_enum hm hn
    exact hnot.2 ⟨e, he⟩
  have hroot : ¬ ∃ e, s.enums.find? n = some e ∧ e.isRoot = true := by
    rintro ⟨e, he, -⟩
    exact hnot.2 ⟨e, he⟩
  rw [if_neg hnot.1, if_neg hnested, if_neg hroot] at h
  omega

end Declared

/-- The messages below a message have its namespace. -/
theorem ns_of_reaches (hf : s.Forest) {r n : Label} {root m : MessageType}
    (hroot : s.messages.find? r = some root) (hreach : ReflTransGen s.Nested r n)
    (hm : s.messages.find? n = some m) : m.ns = root.ns := by
  induction hreach generalizing m with
  | refl =>
      rw [hroot, Option.some.injEq] at hm
      rw [hm]
  | tail _ hstep ih =>
      obtain ⟨p, hp, hn⟩ := hstep
      rw [(hf.message_place hp hn hm).2]
      exact ih hp

/-- A file declares types of its namespace. -/
theorem Planned.ns_declared (hp : Planned s g file files) (hs : s.WellNested)
    (hg : ModuleGraph.Partitioned s g) (hf : s.Forest) {i : Int} (hi : g.Live i)
    {names : List Label} (h : (file i).declarations s = .ok names) {n : Label} (hn : n ∈ names) :
    (∃ m, s.messages.find? n = some m ∧ m.ns = (file i).ns) ∨
      ∃ e, s.enums.find? n = some e ∧ e.ns = (file i).ns := by
  obtain ⟨mod, hmod⟩ := id hi
  obtain ⟨trees, htrees, rfl⟩ := declarations_eq_ok h
  -- The messages have the namespace of the root message they are below.
  have hmessage : ∀ m ∈ trees.flatten, s.messages.find? m.fullName = some m ∧
      m.ns = (file i).ns := by
    intro m hm
    obtain ⟨tree, htree, hm⟩ := List.mem_flatten.mp hm
    obtain ⟨root, hroot, hwalk⟩ := exists_of_mem_mapM htrees htree
    obtain ⟨r, hr, hfound⟩ := (hp.messages hmod root).mp hroot
    obtain ⟨root', hfound', hns⟩ := hg.message_ns hmod r hr
    rw [hfound, Option.some.injEq] at hfound'
    obtain rfl := hs.keyed_message hfound
    obtain ⟨hm, hreach⟩ := (Schema.mem_subtree_iff hs hfound hwalk).mp hm
    refine ⟨hm, ?_⟩
    rw [ns_of_reaches hf hfound hreach hm, hfound', hns, hp.ns hmod]
  rcases List.mem_append.mp hn with hn | hn
  · rcases List.mem_append.mp hn with hn | hn
    · obtain ⟨m, hm, rfl⟩ := List.mem_map.mp hn
      exact Or.inl ⟨m, hmessage m hm⟩
    · obtain ⟨m, hm, hn⟩ := List.mem_flatMap.mp hn
      obtain ⟨hfound, hns⟩ := hmessage m hm
      obtain ⟨e, he, -⟩ := hs.nested_enum hfound hn
      exact Or.inr ⟨e, he, (hf.enum_place hfound hn he).2.trans hns⟩
  · obtain ⟨e, he, rfl⟩ := List.mem_map.mp hn
    obtain ⟨x, hx, hfound⟩ := (hp.enums hmod e).mp he
    obtain ⟨e', hfound', hns⟩ := hg.enum_ns hmod x hx
    rw [hfound, Option.some.injEq] at hfound'
    obtain rfl := hs.keyed_enum hfound
    exact Or.inr ⟨e, hfound, by rw [hfound', hns, hp.ns hmod]⟩

end OutputFile

/-! ## The types that are gathered -/

/-- The analysis makes and drops no message. -/
theorem Related.message_iff {a : Assembly} {l : List (TypeDescriptor × Label)}
    {discovered u s : Schema} (h : Related a l discovered u s) (n : Label) :
    (∃ m, s.messages.find? n = some m) ↔ ∃ m, discovered.messages.find? n = some m := by
  rw [h.pruned, ← h.toPrepared.message_iff n]
  simp only [Schema.find?_messages_prune, Option.map_eq_some_iff]
  constructor
  · rintro ⟨-, m, hm, -⟩
    exact ⟨m, hm⟩
  · rintro ⟨m, hm⟩
    exact ⟨_, m, hm, rfl⟩

/-- The root messages of a first grouping that can be compacted have an order. -/
theorem ModuleGraph.Partitioned.nullAlone {s : Schema} {g₀ g : ModuleGraph}
    (h : Partitioned s g₀) (hcompact : (g₀.compact s).outcome = .ok g) :
    Label.NullAlone fun n => ∃ m, s.messages.find? n = some m ∧ m.isRoot = true := by
  have hlistable := ((compact_returns_iff h.toConsistent).mp ⟨g, hcompact⟩).1.messages
  refine (Label.NullAlone.congr fun n => ?_).mp hlistable
  rw [← h.message_owned]
  exact exists_congr fun i => (h.messages n i).symm

namespace Recovery

/-- The files that are recovered from a document, no enum or static class of which
    is listed as a message, declare the messages and the enums that are kept once
    each. -/
theorem rebuild_declares_once {text : Text} {a : Assembly} {r : Recovery}
    {files : List OutputFile} (hload : Assembly.load text = .ok a)
    (hkinds : ∀ t ∈ a.allTypes, t.kind = some .enumeration ∨ t.kind = some .staticClass →
      t.implements messageInterface ≠ .ok true)
    (hok : (rebuild a).outcome = .ok (r, files)) :
    ∃ gathered declared, Schema.gather a {} = .ok gathered ∧
      OutputFile.DeclaresOnce a gathered r.schema files declared := by
  obtain ⟨s₀, g₀, hdiscover, hrelate, hpartition, hcompact, hplan⟩ := rebuild_eq_ok hok
  have ha := Assembly.named_of_load hload
  have henums : ∀ t ∈ a.allTypes, t.isEnum = true → t.implements messageInterface ≠ .ok true :=
    fun t ht henum => hkinds t ht (Or.inl (beq_iff_eq.mp henum))
  obtain ⟨l, u, h⟩ := related_of_relate ha henums hdiscover hrelate
  have hs := h.analysed.toWellNested
  have hplaced := h.placed
  have hf := hplaced.forest ha h.listing (fun t ht hkind => hkinds t ht (Or.inr hkind)) h.alone
  have hg₀ := ModuleGraph.partitioned_of_partition hs hpartition
  have halone := hg₀.nullAlone hcompact
  obtain ⟨hg, -, -⟩ := ModuleGraph.faithful_of_compact h.analysed hpartition hcompact
  obtain ⟨file, hp⟩ := OutputFile.planned_of_plan hs hg.toWired hplan
  obtain ⟨gathered, hgather, hfields⟩ := discover_eq_ok hdiscover
  -- The messages of the schema are those that were gathered.
  have hgathered : ∀ n, gathered.messages.contains n = true ↔
      ∃ m, r.schema.messages.find? n = some m := by
    intro n
    rw [h.message_iff, Registry.contains_iff, ← Registry.mem_keys, ← Registry.mem_keys,
      Schema.keys_populateFields hfields]
  have hfound : ∀ f ∈ files, ∀ m ∈ f.messages, r.schema.messages.find? m.fullName = some m :=
    fun f hf m hm => (((hp.roots hs hg).mem_iff m).mp (List.mem_flatMap.mpr ⟨f, hf, hm⟩)).1
  obtain ⟨declared, hdeclared⟩ := OutputFile.exists_declarations hs hfound
  refine ⟨gathered, declared, hgather, hdeclared, ?_, ?_, ?_, ?_, ?_⟩
  · intro n hn
    obtain ⟨m, hm⟩ := (hgathered n).mp hn
    exact hp.count_message hs hg hf halone hdeclared hm
  · intro n hn hnot
    obtain ⟨e, he⟩ := Registry.contains_iff.mp hn
    exact (hp.count_enum hs hg hf halone hdeclared he).1 hnot
  · intro m hm n hn
    exact hp.count_nameless hs hg hf halone hdeclared hm hn
  · intro n hn
    rw [hgathered, Registry.contains_iff]
    exact hp.found_of_declared hs hg hf halone hdeclared hn
  · refine List.forall₂_iff_zip.mpr ⟨?_, ?_⟩
    · exact (mapM_eq_ok_iff.mp hdeclared).length_eq
    · intro f names hpair n hn
      have hnames := (List.forall₂_iff_zip.mp (mapM_eq_ok_iff.mp hdeclared)).2 hpair
      obtain ⟨i, hi, rfl⟩ := (hp.mem_iff f).mp (List.of_mem_zip hpair).1
      rcases hp.ns_declared hs hg hf hi hnames hn with ⟨m, hm, hns⟩ | ⟨e, he, hns⟩
      · have hm' := hplaced.message hm
        exact ⟨m.descriptor, h.listing.mem_allTypes hm'.listed, hm'.keyed, hns⟩
      · have he' := hplaced.enum he
        exact ⟨e.descriptor, h.listing.mem_allTypes he'.listed, he'.keyed, hns⟩

/-! ## A message with types in it -/

/-- A document with a message `A`, in whose container class are a message `B` and
    an enum `E`. The message has a field of the type of the enum. -/
def nestedMessage : Text :=
  List.flatten
    ["\x7b\"name\":\"\",", "\"references\":[\x7b\"name\":", "\"Google.Protobuf\"\x7d],",
      "\"types\":[\x7b\"name\":\"A\",", "\"interfaces\":[", "\"Google.Protobuf.IMessage\"],",
      "\"fields\":[\x7b\"name\":", "\"EFieldNumber\",", "\"type\":\"\",\"constant\":1\x7d],",
      "\"properties\":[\x7b", "\"name\":\"E\",", "\"type\":\"A/Types/E\"\x7d],",
      "\"nested_types\":[\x7b", "\"name\":\"Types\",", "\"kind\":\"static_class\",",
      "\"nested_types\":[\x7b", "\"name\":\"B\",", "\"interfaces\":[",
      "\"Google.Protobuf.IMessage\"]\x7d,", "\x7b\"name\":\"E\",", "\"kind\":\"enum\"\x7d]\x7d]",
      "\x7d]\x7d"]

def membersOfMessage : Decode.Members :=
  [("name", .str "B"), ("interfaces", .arr [.str "Google.Protobuf.IMessage"])]

def membersOfEnum : Decode.Members := [("name", .str "E"), ("kind", .str "enum")]

def membersOfContainer : Decode.Members :=
  [("name", .str "Types"), ("kind", .str "static_class"),
    ("nested_types", .arr [.obj membersOfMessage, .obj membersOfEnum])]

def membersOfNesting : Decode.Members :=
  [("name", .str "A"), ("interfaces", .arr [.str "Google.Protobuf.IMessage"]),
    ("fields", .arr [.obj [("name", .str "EFieldNumber"), ("type", .str ""),
      ("constant", .int 1)]]),
    ("properties", .arr [.obj [("name", .str "E"), ("type", .str "A/Types/E")]]),
    ("nested_types", .arr [.obj membersOfContainer])]

/-- The assembly that the document describes. -/
def nestedTypes : Assembly :=
  .ofTypes (some "") (some [⟨some "Google.Protobuf", none⟩])
    [⟨some "A", some "", some .plainClass, some ["Google.Protobuf.IMessage"],
        some [⟨some "EFieldNumber", some "", some (.int 1), some false⟩],
        some [⟨some "E", some "A/Types/E", some true, some false, some false⟩], some "A", none,
        [⟨some "Types", some "", some .staticClass, some [], some [], some [], some "A/Types",
          some "A",
          [⟨some "B", some "", some .plainClass, some ["Google.Protobuf.IMessage"], some [],
              some [], some "A/Types/B", some "A/Types", []⟩,
            ⟨some "E", some "", some .enumeration, some [], some [], some [], some "A/Types/E",
              some "A/Types", []⟩]⟩]⟩]

set_option maxRecDepth 8000 in
theorem read_nestedMessage : Json.read nestedMessage = .ok (.obj [("name", .str ""),
    ("references", .arr [.obj [("name", .str "Google.Protobuf")]]),
    ("types", .arr [.obj membersOfNesting])]) := by
  cbv

def enumDeclaration : TypeDeclaration :=
  ⟨some "E", some "", some .enumeration, some [], some [], some [], some []⟩

theorem type_membersOfEnum : Decode.type (.obj membersOfEnum) = .ok enumDeclaration := by
  rw [Decode.type_obj]
  cbv

def messageDeclaration : TypeDeclaration :=
  ⟨some "B", some "", some .plainClass, some ["Google.Protobuf.IMessage"], some [], some [],
    some []⟩

theorem type_membersOfMessage : Decode.type (.obj membersOfMessage) = .ok messageDeclaration := by
  rw [Decode.type_obj]
  cbv

def containerDeclaration : TypeDeclaration :=
  ⟨some "Types", some "", some .staticClass, some [], some [], some [],
    some [messageDeclaration, enumDeclaration]⟩

theorem type_membersOfContainer :
    Decode.type (.obj membersOfContainer) = .ok containerDeclaration := by
  have hinner := mapM_eq_ok_iff.mpr (.cons type_membersOfMessage (.cons type_membersOfEnum .nil))
  rw [Decode.type_obj, Decode.nestedOf_arr (by cbv) hinner]
  cbv

theorem load_nestedMessage : Assembly.load nestedMessage = .ok nestedTypes := by
  have hinner := mapM_eq_ok_iff.mpr (.cons type_membersOfContainer .nil)
  have houter : Decode.type (.obj membersOfNesting) = .ok ⟨some "A", some "", some .plainClass,
      some ["Google.Protobuf.IMessage"],
      some [⟨some "EFieldNumber", some "", some (.int 1), some false⟩],
      some [⟨some "E", some "A/Types/E", some true, some false, some false⟩],
      some [containerDeclaration]⟩ := by
    rw [Decode.type_obj, Decode.nestedOf_arr (by cbv) hinner]
    cbv
  have htypes := mapM_eq_ok_iff.mpr (.cons houter .nil)
  unfold Assembly.load
  rw [read_nestedMessage]
  show Assembly.ofJson _ = _
  unfold Assembly.ofJson
  rw [Decode.assembly_of_types (by cbv) (by cbv) htypes]
  cbv

/-- The names that the recovered files declare, and the enums that are kept. -/
def declaredNames (x : Except Failure (Recovery × List OutputFile)) :
    Option (List (List Label) × List Label) :=
  match x with
  | .ok (r, files) =>
    match files.mapM (OutputFile.declarations r.schema) with
    | .ok declared => some (declared, r.schema.enums.keys)
    | .error _ => none
  | .error _ => none

theorem declaredNames_eq_some {x : Except Failure (Recovery × List OutputFile)}
    {declared : List (List Label)} {enums : List Label}
    (h : declaredNames x = some (declared, enums)) :
    ∃ r files, x = .ok (r, files) ∧
      files.mapM (OutputFile.declarations r.schema) = .ok declared ∧
      r.schema.enums.keys = enums := by
  unfold declaredNames at h
  split at h
  · rename_i r files
    split at h
    · rename_i declared' hdeclared
      cases h
      exact ⟨r, files, rfl, hdeclared, rfl⟩
    · cases h
  · cases h

/-- A type without interfaces is no message. -/
theorem not_message_of_no_interfaces {t : TypeDescriptor} (h : t.interfaces = some []) :
    t.implements messageInterface ≠ .ok true := by
  unfold implements
  rw [h]
  exact fun h => Bool.false_ne_true (Except.ok.inj h)

theorem declaredNames_nestedTypes : declaredNames (rebuild nestedTypes).outcome =
    some ([[some ("A" : Text), some ("A/Types/B" : Text), some ("A/Types/E" : Text)]],
      [some ("A/Types/E" : Text)]) := by
  rw [outcome_rebuild, outcome_analyze_steps]
  cbv

/-- One file is recovered from the document, which declares the two messages and
    the enum. -/
theorem rebuild_declares_once_nestedMessage :
    Assembly.load nestedMessage = .ok nestedTypes ∧ ∃ r files gathered declared,
      (rebuild nestedTypes).outcome = .ok (r, files) ∧
      Schema.gather nestedTypes {} = .ok gathered ∧
      declared = [[some ("A" : Text), some ("A/Types/B" : Text), some ("A/Types/E" : Text)]] ∧
      OutputFile.DeclaresOnce nestedTypes gathered r.schema files declared := by
  refine ⟨load_nestedMessage, ?_⟩
  have hkinds : ∀ t ∈ nestedTypes.allTypes,
      t.kind = some .enumeration ∨ t.kind = some .staticClass →
        t.implements messageInterface ≠ .ok true := by
    have hall : ∀ t ∈ nestedTypes.allTypes,
        t.kind = some .enumeration ∨ t.kind = some .staticClass → t.interfaces = some [] := by
      decide
    exact fun t ht hkind => not_message_of_no_interfaces (hall t ht hkind)
  obtain ⟨r, files, hok, hwalks, -⟩ := declaredNames_eq_some declaredNames_nestedTypes
  obtain ⟨gathered, declared, hgather, honce⟩ :=
    rebuild_declares_once load_nestedMessage hkinds hok
  have hdeclared := hwalks.symm.trans honce.walks
  exact ⟨r, files, gathered, declared, hok, hgather, (Except.ok.inj hdeclared).symm, honce⟩

/-! ## A message without a name -/

/-- A document with a message without a name, in which is an enum `E`. The
    message has a field of the type of the enum. -/
def namelessMessage : Text :=
  List.flatten
    ["\x7b\"name\":\"\",", "\"references\":[\x7b\"name\":", "\"Google.Protobuf\"\x7d],",
      "\"types\":[\x7b\"name\":null,", "\"interfaces\":[", "\"Google.Protobuf.IMessage\"],",
      "\"fields\":[\x7b\"name\":", "\"EFieldNumber\",", "\"type\":\"\",\"constant\":1\x7d],",
      "\"properties\":[\x7b", "\"name\":\"E\",", "\"type\":\"None/E\"\x7d],",
      "\"nested_types\":[\x7b", "\"name\":\"E\",", "\"kind\":\"enum\"\x7d]\x7d]\x7d"]

def membersOfNameless : Decode.Members :=
  [("name", .null), ("interfaces", .arr [.str "Google.Protobuf.IMessage"]),
    ("fields", .arr [.obj [("name", .str "EFieldNumber"), ("type", .str ""),
      ("constant", .int 1)]]),
    ("properties", .arr [.obj [("name", .str "E"), ("type", .str "None/E")]]),
    ("nested_types", .arr [.obj membersOfEnum])]

/-- The assembly that the document describes. -/
def namelessTypes : Assembly :=
  .ofTypes (some "") (some [⟨some "Google.Protobuf", none⟩])
    [⟨none, some "", some .plainClass, some ["Google.Protobuf.IMessage"],
        some [⟨some "EFieldNumber", some "", some (.int 1), some false⟩],
        some [⟨some "E", some "None/E", some true, some false, some false⟩], none, none,
        [⟨some "E", some "", some .enumeration, some [], some [], some [], some "None/E",
          none, []⟩]⟩]

set_option maxRecDepth 8000 in
theorem read_namelessMessage : Json.read namelessMessage = .ok (.obj [("name", .str ""),
    ("references", .arr [.obj [("name", .str "Google.Protobuf")]]),
    ("types", .arr [.obj membersOfNameless])]) := by
  cbv

theorem load_namelessMessage : Assembly.load namelessMessage = .ok namelessTypes := by
  have hinner := mapM_eq_ok_iff.mpr (.cons type_membersOfEnum .nil)
  have houter : Decode.type (.obj membersOfNameless) = .ok ⟨none, some "", some .plainClass,
      some ["Google.Protobuf.IMessage"],
      some [⟨some "EFieldNumber", some "", some (.int 1), some false⟩],
      some [⟨some "E", some "None/E", some true, some false, some false⟩],
      some [enumDeclaration]⟩ := by
    rw [Decode.type_obj, Decode.nestedOf_arr (by cbv) hinner]
    cbv
  have htypes := mapM_eq_ok_iff.mpr (.cons houter .nil)
  unfold Assembly.load
  rw [read_namelessMessage]
  show Assembly.ofJson _ = _
  unfold Assembly.ofJson
  rw [Decode.assembly_of_types (by cbv) (by cbv) htypes]
  cbv

theorem declaredNames_namelessTypes : declaredNames (rebuild namelessTypes).outcome =
    some ([[none, some ("None/E" : Text), some ("None/E" : Text)]], [some ("None/E" : Text)]) := by
  rw [outcome_rebuild, outcome_analyze_steps]
  cbv

/-- The enum in the message without a name is declared twice: in the message and
    among the enums of the file. -/
theorem nameless_declares_twice :
    Assembly.load namelessMessage = .ok namelessTypes ∧
      (∀ t ∈ namelessTypes.allTypes, t.kind = some .enumeration ∨ t.kind = some .staticClass →
        t.implements messageInterface ≠ .ok true) ∧
      ∃ r files declared, (rebuild namelessTypes).outcome = .ok (r, files) ∧
        files.mapM (OutputFile.declarations r.schema) = .ok declared ∧
        r.schema.enums.contains (some "None/E") = true ∧
        declared.flatten.count (some ("None/E" : Text)) = 2 := by
  refine ⟨load_namelessMessage, ?_, ?_⟩
  · have hall : ∀ t ∈ namelessTypes.allTypes,
        t.kind = some .enumeration ∨ t.kind = some .staticClass → t.interfaces = some [] := by
      decide
    exact fun t ht hkind => not_message_of_no_interfaces (hall t ht hkind)
  · obtain ⟨r, files, hok, hwalks, hkeys⟩ := declaredNames_eq_some declaredNames_namelessTypes
    refine ⟨r, files, _, hok, hwalks, ?_, by decide⟩
    rw [Registry.contains_iff, ← Registry.mem_keys, hkeys]
    exact List.mem_cons_self

end Recovery

end SchemaRecovery
