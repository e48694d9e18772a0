/-
  SchemaRecovery.Proofs.OrderIndependence

  Two recoveries side by side, of documents that differ in the order of their
  types. Where only the types at the top stand in another order, the files and
  their texts are the same. Where nested types do, the files are the same but
  for the order in which messages declare the types in them
  (`run_order_independent`).
-/
import SchemaRecovery.Proofs.Plan
import SchemaRecovery.Proofs.ReorderedModules

namespace SchemaRecovery

namespace OutputFile

variable {s s' : Schema}

/-- Files that differ only in the order in which their messages declare the types
    in them. -/
structure Alike (f f' : OutputFile) : Prop where
  fileName : f.fileName = f'.fileName
  packageName : f.packageName = f'.packageName
  ns : f.ns = f'.ns
  imports : f.imports = f'.imports
  messages : List.Forall₂ MessageType.Alike f.messages f'.messages
  enums : List.Forall₂ EnumType.Alike f.enums f'.enums

/-- Drafts of files that are alike. -/
structure Draft.Alike (d d' : Draft) : Prop where
  moduleId : d.moduleId = d'.moduleId
  file : d.file.Alike d'.file
  imports : d.imports = d'.imports

/-! ## Plans -/

/-- The imports of messages that are alike, in any order. -/
theorem foldl_union_imports_of_shuffled {l l' : List MessageType}
    (h : Shuffled MessageType.Alike l l') :
    l.foldl (fun acc x => acc.union x.imports) (∅ : OrderedSet Text) =
      l'.foldl (fun acc x => acc.union x.imports) ∅ := by
  have hperm := h.map_perm fun x x' hx => hx.imports
  refine OrderedSet.ext_mem fun path => ?_
  rw [mem_foldl_union_imports, mem_foldl_union_imports]
  refine or_congr_right ?_
  have hmem := fun s : OrderedSet Text => hperm.mem_iff (a := s)
  simp only [List.mem_map] at hmem
  constructor
  · rintro ⟨x, hx, hpath⟩
    obtain ⟨x', hx', heq⟩ := (hmem x.imports).mp ⟨x, hx, rfl⟩
    exact ⟨x', hx', heq ▸ hpath⟩
  · rintro ⟨x', hx', hpath⟩
    obtain ⟨x, hx, heq⟩ := (hmem x'.imports).mpr ⟨x', hx', rfl⟩
    exact ⟨x, hx, heq ▸ hpath⟩

theorem follows_draft (h : s.Alike s') (g : ModuleGraph) (used : List Text) (m : SchemaModule) :
    Follows Draft.Alike (draft s g used m) (draft s' g used m) := by
  unfold draft
  refine .bind_same fun ns => ?_
  dsimp only
  split
  · exact .error _
  · refine (Follows.mapM_same _ h.message).bind fun found found' hfound => ?_
    refine (Label.follows_sortOnPair hfound fun x x' hx => ?_).bind
      fun messages messages' hmessages => ?_
    · rw [hx.name, hx.fullName]
    refine (Follows.mapM_same _ h.enum).bind fun found found' hfound => ?_
    refine (Label.follows_sortOnPair hfound fun e e' he => ?_).bind fun enums enums' henums => ?_
    · rw [he.name, he.fullName]
    refine (Follows.mapM hmessages fun x x' hx => Schema.follows_family h hx).bind
      fun families families' hfamilies => .ok ?_
    exact ⟨rfl, ⟨rfl, rfl, rfl, rfl, hmessages, henums⟩,
      foldl_union_imports_of_shuffled (Shuffled.of_forall₂ hfamilies).flatten⟩

theorem follows_drafts (h : s.Alike s') (g : ModuleGraph) :
    Follows (List.Forall₂ Draft.Alike) (drafts s g) (drafts s' g) := by
  unfold drafts
  refine Follows.bind (R := fun state state' => state.1 = state'.1 ∧
    List.Forall₂ Draft.Alike state.2 state'.2) ?_ fun state state' hstate => .ok hstate.2
  refine .foldlM_same _ ?_ ⟨rfl, .nil⟩
  rintro ⟨used, made⟩ ⟨_, made'⟩ m ⟨rfl, hmade⟩
  refine (follows_draft h g used m).bind fun d d' hd => .ok ?_
  dsimp only
  rw [hd.file.fileName]
  exact ⟨rfl, List.rel_append hmade (.cons hd .nil)⟩

theorem follows_finish (g : ModuleGraph) {ds ds' : List Draft}
    (hds : List.Forall₂ Draft.Alike ds ds') {d d' : Draft} (hd : d.Alike d') :
    Follows OutputFile.Alike (finish g ds d) (finish g ds' d') := by
  unfold finish
  rw [hd.moduleId]
  refine .bind_same fun m => ?_
  refine Follows.bind (R := List.Forall₂ Eq) (.mapM_same _ fun id => ?_)
    fun names names' hnames => .ok ?_
  · -- A module has a draft in both lists, with one file name, or in none.
    rcases find?_of_forall₂ hds (p := fun x => x.moduleId == id)
        (q := fun x => x.moduleId == id) (fun x x' hx => by rw [hx.moduleId]) with
      ⟨hx, hx'⟩ | ⟨x, x', hx, hx', halike⟩
    · rw [hx, hx']
      exact .error _
    · rw [hx, hx']
      exact .ok halike.file.fileName
  · rw [List.forall₂_eq_eq_eq] at hnames
    refine { hd.file with imports := ?_ }
    dsimp only
    rw [hd.imports, hnames]

/-- Schemas that are alike give files that are alike. -/
theorem follows_plan (h : s.Alike s') (g : ModuleGraph) :
    Follows (List.Forall₂ OutputFile.Alike) (plan s g) (plan s' g) := by
  unfold plan
  refine (follows_drafts h g).bind fun ds ds' hds => ?_
  refine (Follows.mapM hds fun d d' hd => follows_finish g hds hd).bind
    fun files files' hfiles => .ok ?_
  refine forall₂_mergeSort hfiles fun f k f' k' hf hk => ?_
  rw [hf.fileName, hk.fileName]

/-! ## Texts -/

/-- The line of a field does not depend on the order of types. -/
theorem outcome_fieldLine (h : s.Alike s') (m m' : MessageType) (oneof : Option Oneof)
    (f : Field) : (fieldLine s m oneof f).outcome = (fieldLine s' m' oneof f).outcome := by
  unfold fieldLine
  simp only [Logged.outcome_bind, h.sameNames.mapType]
  refine bind_congr fun name => bind_congr fun mapping => ?_
  cases mapping with
  | unmapped typeName => rfl
  | mapped t => rfl

theorem outcome_oneofLines (h : s.Alike s') (m m' : MessageType) (depth : Nat) (o : Oneof) :
    (oneofLines s m depth o).outcome = (oneofLines s' m' depth o).outcome := by
  unfold oneofLines
  simp only [Logged.outcome_bind, Logged.outcome_mapM, outcome_fieldLine h m m']

theorem enumLines_of_alike {e e' : EnumType} (h : e.Alike e') (depth : Nat) :
    enumLines depth e = enumLines depth e' := by
  unfold enumLines valueLines orderedValues
  rw [h.name, h.values]

/-- Messages that are alike have texts or have none. -/
theorem follows_messageLines (h : s.Alike s') (bound depth : Nat) {m m' : MessageType}
    (hm : m.Alike m') :
    Follows (fun _ _ => True) (messageLines s bound depth m).outcome
      (messageLines s' bound depth m').outcome := by
  induction bound generalizing depth m m' with
  | zero => exact .ok trivial
  | succ bound ih =>
      rw [messageLines, messageLines]
      simp only [Logged.outcome_bind, Logged.outcome_mapM, outcome_fieldLine h m m',
        outcome_oneofLines h m m', Logged.outcome_lift, hm.fields, hm.oneofs]
      refine .bind_same fun fields => .bind_same fun oneofs => ?_
      refine (h.mapM_enum hm.nestedEnums).bind fun es es' hes => ?_
      refine (hes.mapM fun e e' he => .of_eq (enumLines_of_alike he _)).bind fun _ _ _ => ?_
      refine (h.mapM_message hm.nestedMessages).bind fun xs xs' hxs => ?_
      exact (hxs.mapM fun x x' hx => ih _ hx).bind fun _ _ _ => .ok trivial

theorem follows_render (h : s.Alike s') {f f' : OutputFile} (hf : f.Alike f') :
    Follows (fun _ _ => True) (f.render s).outcome (f'.render s').outcome := by
  unfold render
  simp only [Logged.outcome_bind, Logged.outcome_mapM, h.messages.size]
  refine (Follows.mapM hf.messages fun m m' hm => follows_messageLines h _ 0 hm).bind
    fun _ _ _ => ?_
  refine (Follows.mapM hf.enums fun e e' he => .of_eq (enumLines_of_alike he 0)).bind
    fun _ _ _ => .ok trivial

/-- What a file shows besides the declarations in its types is the same. -/
structure SameOutline (f f' : OutputFile) : Prop where
  fileName : f.fileName = f'.fileName
  packageName : f.packageName = f'.packageName
  ns : f.ns = f'.ns
  imports : f.imports = f'.imports
  messages : f.messages.map (·.fullName) = f'.messages.map (·.fullName)
  enums : f.enums.map (·.fullName) = f'.enums.map (·.fullName)

theorem Alike.sameOutline {f f' : OutputFile} (h : f.Alike f') : f.SameOutline f' where
  fileName := h.fileName
  packageName := h.packageName
  ns := h.ns
  imports := h.imports
  messages := map_eq_of_forall₂ h.messages fun _ _ hm => hm.fullName
  enums := map_eq_of_forall₂ h.enums fun _ _ he => he.fullName

end OutputFile

namespace Recovery

/-! ## Recoveries -/

/-- The steps of a recovery after the types are discovered. -/
theorem outcome_run_eq (a : Assembly) :
    (run a).outcome = (do
      let s ← (discover a).outcome
      let s ← (relate s).outcome
      let g ← (ModuleGraph.partition s {}).outcome
      let g ← (g.compact s).outcome
      let files ← OutputFile.plan s g
      (renderFiles s files).outcome) := by
  rw [outcome_run, outcome_rebuild, outcome_analyze]
  simp only [bind_assoc, pure_bind]

theorem follows_renderFiles {s s' : Schema} (h : s.Alike s') {files files' : List OutputFile}
    (hfiles : List.Forall₂ OutputFile.Alike files files') :
    Follows (List.Forall₂ fun x x' => x.1.Alike x'.1) (renderFiles s files).outcome
      (renderFiles s' files').outcome := by
  unfold renderFiles
  simp only [Logged.outcome_mapM, Logged.outcome_bind]
  refine .mapM hfiles fun f f' hf => ?_
  exact (OutputFile.follows_render h hf).bind fun _ _ _ => .ok hf

/-- No two types in a message that is discovered have one name. -/
theorem nodup_nested_of_discover {a : Assembly} (ha : a.Named) {s : Schema}
    (hs : (discover a).outcome = .ok s) {n : Label} {m : MessageType}
    (hm : s.messages.find? n = some m) : (m.descriptor.nested.map (·.name)).Nodup := by
  obtain ⟨-, l, hl, hd⟩ := discovered_of_discover ha hs
  have hlisted := List.mem_map_of_mem (f := Prod.fst) (hd.message hm).listed
  exact Schema.nodup_nested_name ha (hl.perm.mem_iff.mp hlisted)

/-- Types at the top in another order give the same files. -/
theorem follows_run_perm {a a' : Assembly} (ha : a.Named) (h : a.Reordered Eq a') :
    Follows Eq (run a).outcome (run a').outcome := by
  rw [outcome_run_eq, outcome_run_eq]
  refine (follows_discover_perm ha h).bind fun s s' hs => ?_
  rw [hs]
  exact .of_eq rfl

/-- Types in another order, at any depth, give files that are alike. -/
theorem follows_run {a a' : Assembly} (ha : a.Named)
    (h : a.Reordered TypeDescriptor.Reordered a') :
    Follows (List.Forall₂ fun x x' => x.1.Alike x'.1) (run a).outcome (run a').outcome := by
  rw [outcome_run_eq, outcome_run_eq]
  refine (follows_discover ha h).with_ok.bind fun s₀ s₀' hs₀ => ?_
  refine (Schema.follows_relate hs₀.2 (nodup_nested_of_discover ha hs₀.1)).bind fun s s' hs => ?_
  refine (ModuleGraph.follows_partition hs {}).bind fun g₀ g₀' hg₀ => ?_
  rw [hg₀]
  refine (ModuleGraph.follows_compact hs g₀').bind fun g g' hg => ?_
  rw [hg]
  refine (OutputFile.follows_plan hs g').bind fun files files' hfiles => ?_
  exact follows_renderFiles hs hfiles

/-- A document with its types in another order is recovered if the first is. If
    only types at the top are moved, the files and their texts are the same. If
    nested types are moved too, the files have the same names, packages,
    namespaces, imports and root types. -/
theorem run_order_independent {text text' : Text} {v v' : Json} {a : Assembly}
    {files : List (OutputFile × Text)} (hread : Json.read text = .ok v)
    (hread' : Json.read text' = .ok v') (hload : Assembly.load text = .ok a)
    (hrun : (run a).outcome = .ok files) :
    (v.WithTypes List.Perm v' →
      ∃ a', Assembly.load text' = .ok a' ∧ (run a').outcome = .ok files) ∧
    (v.WithTypes (Shuffled Json.Reordered) v' →
      ∃ a' files', Assembly.load text' = .ok a' ∧ (run a').outcome = .ok files' ∧
        List.Forall₂ (fun x x' => x.1.SameOutline x'.1) files files') := by
  have ha := Assembly.named_of_load hload
  rw [Assembly.load_of_read hread] at hload
  rw [Assembly.load_of_read hread']
  constructor
  · intro hperm
    obtain ⟨a', ha', hreordered⟩ := Assembly.follows_ofJson_perm hperm a hload
    obtain ⟨files', hrun', rfl⟩ := follows_run_perm ha hreordered files hrun
    exact ⟨a', ha', hrun'⟩
  · intro hshuffled
    obtain ⟨a', ha', hreordered⟩ := Assembly.follows_ofJson_reordered hshuffled a hload
    obtain ⟨files', hrun', halike⟩ := follows_run ha hreordered files hrun
    exact ⟨a', files', ha', hrun', halike.imp fun _ _ hf => hf.sameOutline⟩

/-! ## Messages that change places -/

/-- The text of a message without fields. -/
def messageText (name : Text) (nested : List Text) : Text :=
  List.flatten ["\x7b\"name\":\"", name, "\",\"interfaces\":[", "\"Google.Protobuf.IMessage\"],",
    "\"nested_types\":[", Text.join "," nested, "]\x7d"]

/-- The descriptor of a message without fields. -/
def messageValue (name : Text) (nested : List Json) : Json :=
  .withList [("name", .str name), ("interfaces", .arr [.str "Google.Protobuf.IMessage"])] []
    "nested_types" nested

/-- The text of a document. -/
def documentText (types : List Text) : Text :=
  List.flatten ["\x7b\"name\":\"\",", "\"references\":[\x7b\"name\":", "\"Google.Protobuf\"\x7d],",
    "\"types\":[", Text.join "," types, "]\x7d"]

/-- What a document holds. -/
def documentValue (types : List Json) : Json :=
  .withList [("name", .str ""), ("references", .arr [.obj [("name", .str "Google.Protobuf")]])] []
    "types" types

/-- A document with a message `A`, in which are messages `B` and `C`, and a message
    `D`. -/
def fourMessages : Text :=
  documentText [messageText "A" [messageText "B" [], messageText "C" []], messageText "D" []]

/-- The document with the messages at the top in the other order. -/
def swappedAtTop : Text :=
  documentText [messageText "D" [], messageText "A" [messageText "B" [], messageText "C" []]]

/-- The document with the nested messages in the other order. -/
def swappedInside : Text :=
  documentText [messageText "A" [messageText "C" [], messageText "B" []], messageText "D" []]

set_option maxRecDepth 8000 in
theorem read_fourMessages : Json.read fourMessages = .ok (documentValue
    [messageValue "A" [messageValue "B" [], messageValue "C" []], messageValue "D" []]) := by
  cbv

set_option maxRecDepth 8000 in
theorem read_swappedAtTop : Json.read swappedAtTop = .ok (documentValue
    [messageValue "D" [], messageValue "A" [messageValue "B" [], messageValue "C" []]]) := by
  cbv

set_option maxRecDepth 8000 in
theorem read_swappedInside : Json.read swappedInside = .ok (documentValue
    [messageValue "A" [messageValue "C" [], messageValue "B" []], messageValue "D" []]) := by
  cbv

theorem type_messageValue (name : Text) {nested : List Json} {ds : List TypeDeclaration}
    (h : nested.mapM Decode.type = .ok ds) :
    Decode.type (messageValue name nested) = .ok ⟨some name, some "", some .plainClass,
      some ["Google.Protobuf.IMessage"], some [], some [], some ds⟩ := by
  unfold messageValue Json.withList
  rw [Decode.type_obj, Decode.nestedOf_arr (by cbv) h]
  cbv

/-- The assembly that the document describes. -/
def fourTypes : Assembly :=
  .ofTypes (some "") (some [⟨some "Google.Protobuf", none⟩])
    [messageNode (some "A") (some "A") none
        [messageNode (some "B") (some "A/B") (some "A") [],
          messageNode (some "C") (some "A/C") (some "A") []],
      messageNode (some "D") (some "D") none []]

theorem load_fourMessages : Assembly.load fourMessages = .ok fourTypes := by
  have hnone : ([] : List Json).mapM Decode.type = .ok [] := rfl
  have hB := type_messageValue "B" hnone
  have hC := type_messageValue "C" hnone
  have hD := type_messageValue "D" hnone
  have hA := type_messageValue "A" (mapM_eq_ok_iff.mpr (.cons hB (.cons hC .nil)))
  have htypes := mapM_eq_ok_iff.mpr (.cons hA (.cons hD .nil))
  rw [Assembly.load_of_read read_fourMessages]
  unfold Assembly.ofJson documentValue Json.withList
  rw [Decode.assembly_of_types (by cbv) (by cbv) htypes]
  cbv

/-- The names of the recovered files, with the root messages of each. -/
def fileRoots (x : Except Failure (List (OutputFile × Text))) :
    Option (List (Text × List Label)) :=
  match x with
  | .ok files => some (files.map fun f => (f.1.fileName, f.1.messages.map (·.fullName)))
  | .error _ => none

theorem fileRoots_fourTypes : fileRoots (run fourTypes).outcome =
    some [(("base.proto" : Text), [some ("A" : Text), some ("D" : Text)])] := by
  rw [outcome_run, outcome_rebuild, outcome_analyze_steps]
  cbv

/-- One file is recovered from the document. It stays the same with the messages at
    the top in the other order, and keeps its outline with the nested messages in
    the other order. -/
theorem run_order_independent_fourMessages :
    Assembly.load fourMessages = .ok fourTypes ∧ ∃ files,
      (run fourTypes).outcome = .ok files ∧
      files.map (fun f => (f.1.fileName, f.1.messages.map (·.fullName))) =
        [(("base.proto" : Text), [some ("A" : Text), some ("D" : Text)])] ∧
      (∃ a', Assembly.load swappedAtTop = .ok a' ∧ (run a').outcome = .ok files) ∧
      ∃ a' files', Assembly.load swappedInside = .ok a' ∧ (run a').outcome = .ok files' ∧
        List.Forall₂ (fun x x' => x.1.SameOutline x'.1) files files' := by
  refine ⟨load_fourMessages, ?_⟩
  have hroots := fileRoots_fourTypes
  cases hrun : (run fourTypes).outcome with
  | error e =>
      rw [hrun] at hroots
      cases hroots
  | ok files =>
      rw [hrun] at hroots
      refine ⟨files, rfl, Option.some.inj hroots, ?_, ?_⟩
      · refine (run_order_independent read_fourMessages read_swappedAtTop load_fourMessages hrun).1
          ⟨_, _, _, _, rfl, rfl, ?_⟩
        exact .swap _ _ _
      · refine (run_order_independent read_fourMessages read_swappedInside load_fourMessages
          hrun).2 ⟨_, _, _, _, rfl, rfl, ?_⟩
        have hswap : Shuffled Json.Reordered [messageValue "B" [], messageValue "C" []]
            [messageValue "C" [], messageValue "B" []] :=
          .perm (.cons (.same _) (.cons (.same _) .nil)) (.swap _ _ _)
        exact .cons (.nested hswap) (.cons (.same _) .nil)

end Recovery

end SchemaRecovery
