/-
  SchemaRecovery.Proofs.Failures

  Why a recovery can fail. What the stages look up by name or by id is there, and
  what they check of each other holds: no message, enum or module is missed, no
  module comes to need itself, mergers are of two modules of one namespace, and
  what is checked of the merged modules is so. That leaves what the document says,
  types that are linked to no message, modules in a circle, and two files with one
  name (`run_failures`).
-/
import SchemaRecovery.Proofs.AnalysisFailures
import SchemaRecovery.Proofs.Compaction
import SchemaRecovery.Proofs.Decoding
import SchemaRecovery.Proofs.FirstGrouping
import SchemaRecovery.Proofs.Plan

namespace SchemaRecovery

open Failure (OfDocument OfOrphans)

/-! ## Modules -/

namespace ModuleGraph

variable {u s : Schema} {g : ModuleGraph}

/-- The first grouping fails only if the root enums cannot be put in order. -/
theorem failsOnly_partition (h : Schema.Resolved u s) :
    FailsOnly (· = .nullOperand) (partition s {}).outcome := by
  rw [outcome_partition]
  refine FailsOnly.bind ?_ fun g₁ hg₁ => ?_
  · exact (Label.failsOnly_sortOnPair (P := (· = .nullOperand)) rfl _ _).bind fun _ _ => .ok _
  · obtain ⟨g, hg⟩ := partition_ok h hg₁
    rw [outcome_partition, hg₁] at hg
    exact .of_ok hg

/-- The compaction of a consistent graph fails only if a list cannot be put in order
    or a cycle is left. -/
theorem Consistent.failsOnly_compact (hg : Consistent s g) :
    FailsOnly (fun e => e = .nullOperand ∨ ∃ path, e = .moduleCycle path)
      (g.compact s).outcome := by
  rcases compact_cases hg with ⟨-, hout⟩ | ⟨-, -, g', -, -, -, -, ⟨-, hout⟩ | ⟨-, path, hout⟩⟩
  · rw [hout]
    exact .error (Or.inl rfl)
  · exact .of_ok hout
  · rw [hout]
    exact .error (Or.inr ⟨path, rfl⟩)

end ModuleGraph

/-! ## Files -/

namespace OutputFile

variable {s : Schema} {g : ModuleGraph}

/-- The failure is that of a null, or of a file name that is in use. -/
def OfNaming (e : Failure) : Prop :=
  e = .nullOperand ∨ ∃ fileName ns, e = .fileNameTaken fileName ns

/-- The root types of a module are there, and the families of its messages can be
    listed: it holds no message that is in another one. -/
theorem roots_ok (hs : s.WellNested) (hg : ModuleGraph.Partitioned s g) {i : Int}
    {m : SchemaModule} (hm : g.modules.find? i = some m) :
    (∃ messages, m.rootMessages.toList.mapM s.message = .ok messages ∧
      ∀ root ∈ messages, s.messages.find? root.fullName = some root ∧
        ∃ family, s.family root = .ok family) ∧
    ∃ enums, m.rootEnums.toList.mapM s.enum = .ok enums ∧
      ∀ e ∈ enums, s.enums.find? e.fullName = some e := by
  have hmessages : ∀ n ∈ m.rootMessages.toList, ∃ x, s.message n = .ok x := by
    intro n hn
    obtain ⟨x, hx, -⟩ := hg.message_ns hm n hn
    exact ⟨x, Schema.message_eq_ok_iff.mpr hx⟩
  have henums : ∀ n ∈ m.rootEnums.toList, ∃ x, s.enum n = .ok x := by
    intro n hn
    obtain ⟨x, hx, -⟩ := hg.enum_ns hm n hn
    exact ⟨x, Schema.enum_eq_ok_iff.mpr hx⟩
  obtain ⟨messages, hfound⟩ := exists_mapM_eq_ok hmessages
  obtain ⟨enums, hfoundEnums⟩ := exists_mapM_eq_ok henums
  refine ⟨⟨messages, hfound, fun root hroot => ?_⟩, enums, hfoundEnums, fun e he => ?_⟩
  · obtain ⟨n, hn, hmessage⟩ := exists_of_mem_mapM hfound hroot
    rw [Schema.message_eq_ok_iff] at hmessage
    obtain ⟨root', hroot', hisRoot⟩ :=
      (hg.message_owned n).mp ⟨i, (hg.messages n i).mpr ⟨m, hm, hn⟩⟩
    rw [hmessage, Option.some.injEq] at hroot'
    obtain rfl := hs.keyed_message hmessage
    exact ⟨hmessage, hs.family_ok hmessage (hroot' ▸ hisRoot)⟩
  · obtain ⟨n, -, henum⟩ := exists_of_mem_mapM hfoundEnums he
    rw [Schema.enum_eq_ok_iff] at henum
    exact hs.keyed_enum henum ▸ henum

theorem failsOnly_draft (hs : s.WellNested) (hg : ModuleGraph.Partitioned s g)
    (used : List Text) {i : Int} {m : SchemaModule} (hm : g.modules.find? i = some m) :
    FailsOnly OfNaming (draft s g used m) := by
  obtain ⟨⟨found, hfound, hroots⟩, foundEnums, hfoundEnums, -⟩ := roots_ok hs hg hm
  unfold draft
  refine (failsOnly_present (Or.inl rfl) _).bind fun ns _ => ?_
  dsimp only
  split
  · exact .error (Or.inr ⟨_, _, rfl⟩)
  · rw [hfound, ok_bind]
    refine (Label.failsOnly_sortOnPair (Or.inl rfl) _ _).bind fun messages hsorted => ?_
    rw [hfoundEnums, ok_bind]
    refine (Label.failsOnly_sortOnPair (Or.inl rfl) _ _).bind fun enums _ => ?_
    refine FailsOnly.bind (FailsOnly.mapM fun root hroot => ?_) fun _ _ => .ok _
    rw [(Label.perm_of_sortOnPair hsorted).mem_iff] at hroot
    obtain ⟨-, family, hfamily⟩ := hroots root hroot
    exact .of_ok hfamily

/-- Every module has a draft, so the files that a file imports are known. -/
theorem finish_ok (hs : s.WellNested) (hw : g.Wired) {ds : List Draft} (hds : drafts s g = .ok ds)
    {d : Draft} (hd : d ∈ ds) : ∃ f, finish g ds d = .ok f := by
  obtain ⟨hall, -⟩ := drafts_eq_ok hs hds
  obtain ⟨m, hmem, hdraft⟩ := exists_left_of_forall₂ hall hd
  have hm := (mem_orderedModules hw.keyed).mp hmem
  rw [hdraft.moduleId] at hm
  have hmodule := ModuleGraph.module_eq_ok_iff.mpr hm
  refine (exists_mapM_eq_ok fun j hj => ?_).elim fun names hnames =>
    ⟨_, bind_eq_ok.mpr ⟨m, hmodule, bind_eq_ok.mpr ⟨names, hnames, rfl⟩⟩⟩
  obtain ⟨n, hn, -⟩ := hw.forth hm hj
  obtain rfl := hw.keyed hn
  obtain ⟨d', hd', hdraft'⟩ := exists_right_of_forall₂ hall ((mem_orderedModules hw.keyed).mpr hn)
  rw [hdraft'.moduleId, find?_moduleId (nodup_moduleIds hw.keyed hall) hd']
  exact ⟨_, rfl⟩

/-- Files cannot be planned only if a name is null or taken. -/
theorem failsOnly_plan (hs : s.WellNested) (hg : ModuleGraph.Partitioned s g) :
    FailsOnly OfNaming (plan s g) := by
  unfold plan
  refine FailsOnly.bind ?_ fun ds hds => ?_
  · unfold drafts
    refine FailsOnly.bind ?_ fun _ _ => .ok _
    refine FailsOnly.foldlM (fun rest _ => rest ⊆ orderedModules g) ?_ fun _ hx => hx
    rintro m rest ⟨used, made⟩ hsub
    obtain ⟨hmem, hrest⟩ := List.cons_subset.mp hsub
    have hm := (mem_orderedModules hg.keyed).mp hmem
    exact ⟨(failsOnly_draft hs hg used hm).bind fun _ _ => .ok _, fun _ _ => hrest⟩
  · obtain ⟨files, hfiles⟩ := exists_mapM_eq_ok fun d hd => finish_ok hs hg.toWired hds hd
    rw [hfiles]
    exact .ok _

/-! ## Texts -/

theorem failsOnly_fieldLine (hs : s.WellNested) (m : MessageType) (oneof : Option Oneof)
    (f : Field) : FailsOnly OfDocument (fieldLine s m oneof f).outcome := by
  unfold fieldLine
  refine Logged.failsOnly_bind (failsOnly_present .null _) fun name _ => ?_
  refine Logged.failsOnly_bind (hs.failsOnly_mapType _) fun mapping _ => ?_
  split
  · exact .ok _
  · exact .ok _

theorem failsOnly_oneofLines (hs : s.WellNested) (m : MessageType) (depth : Nat) (o : Oneof) :
    FailsOnly OfDocument (oneofLines s m depth o).outcome := by
  unfold oneofLines
  refine Logged.failsOnly_bind ?_ fun _ _ => .ok _
  exact Logged.failsOnly_mapM fun f _ => failsOnly_fieldLine hs m (some o) f

theorem failsOnly_enumLines (depth : Nat) (e : EnumType) :
    FailsOnly OfDocument (enumLines depth e) := by
  unfold enumLines
  refine FailsOnly.bind ?_ fun _ _ => .ok _
  unfold valueLines
  refine (failsOnly_present .null _).bind fun enum _ => FailsOnly.mapM fun v _ => ?_
  exact (failsOnly_present .null _).bind fun _ _ => .ok _

/-- The types nested in a message are found when it is rendered. -/
theorem failsOnly_messageLines (hs : s.WellNested) (bound depth : Nat) {m : MessageType}
    (hm : s.messages.find? m.fullName = some m) :
    FailsOnly OfDocument (messageLines s bound depth m).outcome := by
  induction bound generalizing depth m with
  | zero => exact .ok _
  | succ bound ih =>
      have henums : ∀ n ∈ m.nestedEnums, FailsOnly OfDocument (s.enum n) := by
        intro n hn
        obtain ⟨e, he, -⟩ := hs.nested_enum hm hn
        exact .of_ok (Schema.enum_eq_ok_iff.mpr he)
      have hnested : ∀ n ∈ m.nestedMessages, FailsOnly OfDocument (s.message n) := by
        intro n hn
        obtain ⟨x, hx⟩ := hs.nested_found hm hn
        exact .of_ok (Schema.message_eq_ok_iff.mpr hx)
      rw [messageLines]
      refine Logged.failsOnly_bind
        (Logged.failsOnly_mapM fun f _ => failsOnly_fieldLine hs m none f) fun fields _ => ?_
      refine Logged.failsOnly_bind
        (Logged.failsOnly_mapM fun o _ => failsOnly_oneofLines hs m _ o) fun oneofs _ => ?_
      refine Logged.failsOnly_bind (Logged.failsOnly_mapM henums) fun enums _ => ?_
      refine Logged.failsOnly_bind
        (Logged.failsOnly_mapM fun e _ => failsOnly_enumLines _ e) fun enumTexts _ => ?_
      refine Logged.failsOnly_bind (Logged.failsOnly_mapM hnested) fun nested hfound => ?_
      refine Logged.failsOnly_bind (Logged.failsOnly_mapM fun x hx => ?_) fun _ _ => .ok _
      rw [Logged.outcome_mapM] at hfound
      obtain ⟨n, -, hn⟩ := exists_of_mem_mapM hfound hx
      have hxfound := Schema.message_eq_ok_iff.mp hn
      exact ih (depth + 1) (hs.keyed_message hxfound ▸ hxfound)

theorem failsOnly_render (hs : s.WellNested) {file : OutputFile}
    (hfile : ∀ m ∈ file.messages, s.messages.find? m.fullName = some m) :
    FailsOnly OfDocument (file.render s).outcome := by
  unfold render
  refine Logged.failsOnly_bind
    (Logged.failsOnly_mapM fun m hm => failsOnly_messageLines hs _ _ (hfile m hm)) fun _ _ => ?_
  refine Logged.failsOnly_bind
    (Logged.failsOnly_mapM fun e _ => failsOnly_enumLines 0 e) fun _ _ => .ok _

end OutputFile

/-! ## The whole recovery -/

/-- The failures that a recovery may meet. -/
def Failure.Foreseen (e : Failure) : Prop :=
  e.OfDocument ∨ e.OfOrphans ∨ (∃ path, e = .moduleCycle path) ∨
    ∃ fileName ns, e = .fileNameTaken fileName ns

open Failure (Foreseen)

/-- None of them is a failed look-up or a failed check, but for those of the links and
    of cycles. -/
theorem Failure.Foreseen.kind {e : Failure} (h : e.Foreseen) :
    e.kind ≠ .lookup ∧ e.kind ≠ .assertion ∧ e.kind ≠ .value ∧
      (e.kind = .invariant → (∃ names, e = .orphanMessages names) ∨
        (∃ names, e = .orphanEnums names) ∨ ∃ path, e = .moduleCycle path) := by
  rcases h with (h | h | h | h) | (⟨names, rfl⟩ | ⟨names, rfl⟩) | ⟨path, rfl⟩ | ⟨file, ns, rfl⟩
  · rw [h]
    exact ⟨nofun, nofun, nofun, nofun⟩
  · rw [h]
    exact ⟨nofun, nofun, nofun, nofun⟩
  · rw [h]
    exact ⟨nofun, nofun, nofun, nofun⟩
  · rw [h]
    exact ⟨nofun, nofun, nofun, nofun⟩
  · exact ⟨nofun, nofun, nofun, fun _ => Or.inl ⟨names, rfl⟩⟩
  · exact ⟨nofun, nofun, nofun, fun _ => Or.inr (Or.inl ⟨names, rfl⟩)⟩
  · exact ⟨nofun, nofun, nofun, fun _ => Or.inr (Or.inr ⟨path, rfl⟩)⟩
  · exact ⟨nofun, nofun, nofun, nofun⟩

theorem Failure.foreseen_of_null : Failure.nullOperand.Foreseen := Or.inl .null

namespace Recovery

variable {a : Assembly}

theorem failsOnly_relate (ha : a.Named) {discovered : Schema}
    (hdiscovered : (discover a).outcome = .ok discovered) :
    FailsOnly Foreseen (relate discovered).outcome := by
  obtain ⟨gathered, hgather, hfields⟩ := discover_eq_ok hdiscovered
  obtain ⟨-, l, -, hd⟩ := discovered_of_discover ha hdiscovered
  rw [outcome_relate]
  refine (hd.failsOnly_connect.mono fun e he => Or.inr (Or.inl he)).bind
    fun connected hconnect => ?_
  obtain ⟨-, hnested, -⟩ := linked_of_steps ha hgather hfields hconnect
  exact (hnested.failsOnly_populateDependencies.mono fun e => Or.inl).bind fun _ _ => .ok _

/-- What the messages of the related types mention is there. -/
theorem exists_resolved_of_relate (ha : a.Named) {discovered s : Schema}
    (hdiscovered : (discover a).outcome = .ok discovered)
    (hs : (relate discovered).outcome = .ok s) : ∃ u, Schema.Resolved u s := by
  obtain ⟨gathered, hgather, hfields⟩ := discover_eq_ok hdiscovered
  obtain ⟨connected, u, hconnect, hneeds, rfl⟩ := relate_eq_ok hs
  obtain ⟨-, l, h⟩ := prepared_of_steps ha hgather hfields hconnect hneeds
  exact ⟨u, h.resolved⟩

theorem failsOnly_analyze (ha : a.Named) : FailsOnly Foreseen (analyze a).outcome := by
  rw [outcome_analyze]
  refine ((failsOnly_discover a).mono fun e => Or.inl).bind fun discovered hdiscovered => ?_
  refine (failsOnly_relate ha hdiscovered).bind fun s hs => ?_
  obtain ⟨u, hresolved⟩ := exists_resolved_of_relate ha hdiscovered hs
  refine ((ModuleGraph.failsOnly_partition hresolved).mono ?_).bind fun g hg => ?_
  · rintro e rfl
    exact Failure.foreseen_of_null
  · have hpartitioned := ModuleGraph.partitioned_of_partition hresolved.toWellNested hg
    have hconsistent := hpartitioned.toConsistent
    refine (hconsistent.failsOnly_compact.mono ?_).bind fun _ _ => .ok _
    rintro e (rfl | hcycle)
    · exact Failure.foreseen_of_null
    · exact Or.inr (Or.inr (Or.inl hcycle))

/-- The types of an analysed assembly are in order, and so are its modules. -/
theorem partitioned_of_analyze (ha : a.Named) {r : Recovery} (hr : (analyze a).outcome = .ok r) :
    r.schema.WellNested ∧ ModuleGraph.Partitioned r.schema r.graph := by
  obtain ⟨discovered, g₀, hdiscovered, hs, hg₀, hg⟩ := analyze_eq_ok hr
  obtain ⟨u, hresolved⟩ := exists_resolved_of_relate ha hdiscovered hs
  have hpartitioned := ModuleGraph.partitioned_of_partition hresolved.toWellNested hg₀
  obtain ⟨hconsistent, -, -, cls, hquot⟩ := ModuleGraph.compact_ok hpartitioned.toConsistent hg
  exact ⟨hresolved.toWellNested, hpartitioned.quotient hconsistent hquot⟩

theorem failsOnly_rebuild (ha : a.Named) : FailsOnly Foreseen (rebuild a).outcome := by
  rw [outcome_rebuild]
  refine (failsOnly_analyze ha).bind fun r hr => ?_
  obtain ⟨hs, hg⟩ := partitioned_of_analyze ha hr
  refine ((OutputFile.failsOnly_plan hs hg).mono ?_).bind fun _ _ => .ok _
  rintro e (rfl | htaken)
  · exact Failure.foreseen_of_null
  · exact Or.inr (Or.inr (Or.inr htaken))

theorem failsOnly_run (ha : a.Named) : FailsOnly Foreseen (run a).outcome := by
  rw [outcome_run]
  refine (failsOnly_rebuild ha).bind fun result hresult => ?_
  obtain ⟨r, files⟩ := result
  rw [outcome_rebuild] at hresult
  obtain ⟨r', hr, hresult⟩ := bind_eq_ok.mp hresult
  obtain ⟨files', hplan, hresult⟩ := bind_eq_ok.mp hresult
  obtain ⟨rfl, rfl⟩ := Prod.mk.inj (Except.ok.inj hresult)
  obtain ⟨hs, hg⟩ := partitioned_of_analyze ha hr
  obtain ⟨file, hplanned⟩ := OutputFile.planned_of_plan hs hg.toWired hplan
  refine (Logged.failsOnly_mapM fun f hf => ?_).mono fun e => Or.inl
  -- The messages of a file are those of its module, which are there.
  obtain ⟨i, ⟨m, hm⟩, rfl⟩ := (hplanned.mem_iff f).mp hf
  refine Logged.failsOnly_bind (OutputFile.failsOnly_render hs fun x hx => ?_) fun _ _ => .ok _
  obtain ⟨n, -, hn⟩ := (hplanned.messages hm x).mp hx
  exact hs.keyed_message hn ▸ hn

/-- Nothing that a recovery looks up is missing, and nothing that it checks of its own
    stages fails but that types are linked to messages and that modules do not depend
    on each other in a circle. -/
theorem run_failures {text : Text} {e : Failure} (hload : Assembly.load text = .ok a)
    (herr : (run a).outcome = .error e) :
    e.kind ≠ .lookup ∧ e.kind ≠ .assertion ∧ e.kind ≠ .value ∧
      (e.kind = .invariant → (∃ names, e = .orphanMessages names) ∨
        (∃ names, e = .orphanEnums names) ∨ ∃ path, e = .moduleCycle path) :=
  (failsOnly_run (Assembly.named_of_load hload) e herr).kind

/-- A document with a message `A`, a class `B` in it, and a message `C` in the class. -/
def strayMessage : Text :=
  List.flatten
    ["\x7b\"name\":\"\",", "\"references\":[\x7b\"name\":", "\"Google.Protobuf\"\x7d],",
      "\"types\":[\x7b\"name\":\"A\",", "\"interfaces\":[", "\"Google.Protobuf.IMessage\"],",
      "\"nested_types\":[\x7b", "\"name\":\"B\",", "\"nested_types\":[\x7b",
      "\"name\":\"C\",", "\"interfaces\":[", "\"Google.Protobuf.IMessage\"]\x7d]\x7d]\x7d]\x7d"]

/-- The assembly that the document describes. -/
def strayTypes : Assembly :=
  .ofTypes (some "") (some [⟨some "Google.Protobuf", none⟩])
    [⟨some "A", some "", some .plainClass, some ["Google.Protobuf.IMessage"], some [], some [],
        some "A", none, [⟨some "B", some "", some .plainClass, some [], some [], some [],
          some "A/B", some "A", [⟨some "C", some "", some .plainClass,
            some ["Google.Protobuf.IMessage"], some [], some [], some "A/B/C", some "A/B", []⟩]⟩]⟩]

def innermostDeclaration : TypeDeclaration :=
  ⟨some "C", some "", some .plainClass, some ["Google.Protobuf.IMessage"], some [], some [],
    some []⟩

def middleDeclaration : TypeDeclaration :=
  ⟨some "B", some "", some .plainClass, some [], some [], some [], some [innermostDeclaration]⟩

def membersOfInnermost : Decode.Members :=
  [("name", .str "C"), ("interfaces", .arr [.str "Google.Protobuf.IMessage"])]

def membersOfMiddle : Decode.Members :=
  [("name", .str "B"), ("nested_types", .arr [.obj membersOfInnermost])]

def membersOfOutermost : Decode.Members :=
  [("name", .str "A"), ("interfaces", .arr [.str "Google.Protobuf.IMessage"]),
    ("nested_types", .arr [.obj membersOfMiddle])]

set_option maxRecDepth 8000 in
theorem read_strayMessage : Json.read strayMessage = .ok (.obj [("name", .str ""),
    ("references", .arr [.obj [("name", .str "Google.Protobuf")]]),
    ("types", .arr [.obj membersOfOutermost])]) := by
  cbv

theorem load_strayMessage : Assembly.load strayMessage = .ok strayTypes := by
  have hinnermost : Decode.type (.obj membersOfInnermost) = .ok innermostDeclaration := by
    rw [Decode.type_obj]
    cbv
  have hclass : Decode.type (.obj membersOfMiddle) = .ok middleDeclaration := by
    rw [Decode.type_obj,
      Decode.nestedOf_arr (by cbv) (mapM_eq_ok_iff.mpr (.cons hinnermost .nil))]
    cbv
  have houtermost : Decode.type (.obj membersOfOutermost) = .ok ⟨some "A", some "",
      some .plainClass, some ["Google.Protobuf.IMessage"], some [], some [],
      some [middleDeclaration]⟩ := by
    rw [Decode.type_obj, Decode.nestedOf_arr (by cbv) (mapM_eq_ok_iff.mpr (.cons hclass .nil))]
    cbv
  have htypes := mapM_eq_ok_iff.mpr (.cons houtermost .nil)
  unfold Assembly.load
  rw [read_strayMessage]
  show Assembly.ofJson _ = _
  unfold Assembly.ofJson
  rw [Decode.assembly_of_types (by cbv) (by cbv) htypes]
  cbv

theorem run_strayTypes :
    (run strayTypes).outcome = .error (.orphanMessages [some "A/B/C"]) := by
  cbv

/-- The message in the class is linked to no message, which is the one failure of the
    document. -/
theorem run_failures_strayMessage :
    Assembly.load strayMessage = .ok strayTypes ∧
      ∃ e, (run strayTypes).outcome = .error e ∧ e.kind = .invariant ∧ e.kind ≠ .lookup ∧
        ((∃ names, e = .orphanMessages names) ∨ (∃ names, e = .orphanEnums names) ∨
          ∃ path, e = .moduleCycle path) := by
  obtain ⟨hlookup, -, -, hinvariant⟩ := run_failures load_strayMessage run_strayTypes
  exact ⟨load_strayMessage, _, run_strayTypes, rfl, hlookup, hinvariant rfl⟩

end Recovery

end SchemaRecovery
