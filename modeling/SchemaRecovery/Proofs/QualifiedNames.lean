/-
  SchemaRecovery.Proofs.QualifiedNames

  Whether references name what is declared. The qualified name of a type is cut from
  its full name; the place of its declaration is the package of the file and the
  messages around it. The two agree exactly if the names on the way can be told from the
  full name (`rebuild_typeName_iff`). They do not for a type in a message that has the
  name of container classes: the message is left out of the qualified name
  (`message_named_types_left_out`).
-/
import SchemaRecovery.Proofs.Declarations
import SchemaRecovery.Proofs.FullNames

namespace SchemaRecovery

open TypeDescriptor

/-! ## Packages -/

namespace Text

theorem lowerPoint_ne_nil (c : CodePoint) : LetterCase.lowerPoint c ≠ [] := by
  unfold LetterCase.lowerPoint
  split
  · split
    · exact List.cons_ne_nil _ _
    · unfold LetterCase.form
      split
      · rename_i e he
        have hall : ∀ e ∈ LetterCase.lowerExpansions, e.2 ≠ [] := by decide
        rw [Ne, List.map_eq_nil_iff]
        exact hall e (List.mem_of_find?_eq_some he)
      · split
        · exact List.cons_ne_nil _ _
        · exact List.cons_ne_nil _ _
  · exact List.cons_ne_nil _ _

theorem lower_ne_nil (c : CodePoint) (rest : Text) : lower (c :: rest) ≠ [] := by
  unfold lower
  rw [LetterCase.lowerFrom]
  refine List.append_ne_nil_of_left_ne_nil ?_ _
  split
  · exact List.cons_ne_nil _ _
  · exact lowerPoint_ne_nil c

/-- Only the empty text is empty in lower case with underscores. -/
theorem lowerSnake_eq_nil_iff {t : Text} : lowerSnake t = [] ↔ t = [] := by
  refine ⟨fun h => ?_, fun h => by rw [h]; rfl⟩
  unfold lowerSnake at h
  cases hmarked : markHumps t with
  | cons c rest =>
      rw [hmarked] at h
      exact absurd h (lower_ne_nil c rest)
  | nil =>
      revert hmarked
      fun_cases markHumps t with
      | case1 => exact fun _ => rfl
      | case2 => exact nofun
      | case3 => exact nofun
      | case4 => exact nofun

end Text

/-! ## Dotted names -/

namespace Schema

theorem dotted_map_some (texts : List Text) :
    dotted (texts.map some) = .ok (Text.join "." texts) := by
  have hpresent : (texts.map some).mapM present = .ok texts := by
    rw [mapM_eq_ok_iff, List.forall₂_map_left_iff]
    exact List.forall₂_same.mpr fun _ _ => rfl
  unfold dotted
  rw [hpresent]
  rfl

theorem none_not_mem_of_dotted {labels : List Label} {t : Text} (h : dotted labels = .ok t) :
    none ∉ labels := by
  intro hmem
  unfold dotted at h
  obtain ⟨texts, htexts, -⟩ := bind_eq_ok.mp h
  obtain ⟨x, -, hx⟩ := exists_mem_of_mapM htexts hmem
  cases hx

/-- Dotted names with the same beginning are the same exactly if what follows is, and
    the outermost of the names is one. -/
theorem dotted_eq_ok_iff {scope path names : List Text} {outer : Label} :
    dotted (scope.map some ++ outer :: path.map some) =
        .ok (Text.join "." (scope ++ outer.text :: names)) ↔
      outer ≠ none ∧ path.flatMap (("." : Text) ++ ·) = names.flatMap (("." : Text) ++ ·) := by
  cases outer with
  | none =>
      refine iff_of_false (fun h => none_not_mem_of_dotted h ?_) fun h => h.1 rfl
      exact List.mem_append_right _ List.mem_cons_self
  | some t =>
      have hlabels : scope.map some ++ some t :: path.map some = (scope ++ t :: path).map some := by
        rw [List.map_append, List.map_cons]
      rw [hlabels, dotted_map_some, Except.ok.injEq, Text.join_eq_join_iff (by simp) (by simp)]
      simp [Label.text]

end Schema

/-! ## Qualified names -/

namespace OutputFile

variable {s : Schema} {f : OutputFile} {m : MessageType} {blocks : List MessageType}
  {d : Declaration}

/-- What the qualified names of the types in a file begin with: its package, if it has
    one. -/
def scope (f : OutputFile) : List Text := if f.packageName.isEmpty then [] else [f.packageName]

/-- The qualified name of a declaration in a file: the package, the names of the
    messages around it, its own. -/
def qualified (f : OutputFile) (names : List Label) : Text :=
  Text.join "." (f.scope ++ names.map Label.text)

/-- The names of a declaration and the messages around it can be told from its full
    name: the outermost is there, those inside hold no slash, and none of these but
    the last is the name of containers. -/
def Spelled : List Label → Prop
  | [] => True
  | outer :: inner => outer ≠ none ∧ (∀ n ∈ inner, CodePoint.char '/' ∉ n.text) ∧
      ∀ n ∈ inner.dropLast, n ≠ some typesContainer

/-- The types in a file are root types of its namespace, and its package is that of the
    namespace. -/
structure Rooted (s : Schema) (f : OutputFile) : Prop where
  message : ∀ m ∈ f.messages, s.messages.find? m.fullName = some m ∧ m.isRoot = true ∧ m.ns = f.ns
  enum : ∀ e ∈ f.enums, s.enums.find? e.fullName = some e ∧ e.isRoot = true ∧ e.ns = f.ns
  package : ∃ ns, f.ns = some ns ∧ f.packageName = packageOf ns

theorem Planned.rooted {g : ModuleGraph} {file : Int → OutputFile} {files : List OutputFile}
    (hp : Planned s g file files) (hs : s.WellNested) (hg : ModuleGraph.Partitioned s g)
    (hf : f ∈ files) : f.Rooted s := by
  obtain ⟨i, ⟨mod, hmod⟩, rfl⟩ := (hp.mem_iff f).mp hf
  refine ⟨fun m hm => ?_, fun e he => ?_, ?_⟩
  · obtain ⟨hfound, hisRoot⟩ := ((hp.roots hs hg).mem_iff m).mp (List.mem_flatMap.mpr ⟨_, hf, hm⟩)
    obtain ⟨n, hn, hfound'⟩ := (hp.messages hmod m).mp hm
    obtain ⟨m', hm', hns⟩ := hg.message_ns hmod n hn
    rw [hfound', Option.some.injEq] at hm'
    exact ⟨hfound, hisRoot, by rw [hm', hns, hp.ns hmod]⟩
  · obtain ⟨hfound, hheld⟩ := (hp.mem_enums_iff hs hg ⟨mod, hmod⟩ e).mp he
    obtain ⟨e₁, he₁, hisRoot⟩ := (hg.enum_owned _).mp ⟨i, hheld⟩
    obtain ⟨n, hn, hfound'⟩ := (hp.enums hmod e).mp he
    obtain ⟨e₂, he₂, hns⟩ := hg.enum_ns hmod n hn
    rw [hfound, Option.some.injEq] at he₁
    rw [hfound', Option.some.injEq] at he₂
    exact ⟨hfound, he₁ ▸ hisRoot, by rw [he₂, hns, hp.ns hmod]⟩
  · rw [hp.ns hmod]
    exact hp.package hmod

/-- The package is put before names exactly if the namespace is not void. -/
theorem Rooted.scope_append (hf : f.Rooted s) (segments : List Label) :
    (if f.ns.isVoid then segments else some (Text.lowerSnake f.ns.text) :: segments) =
      f.scope.map some ++ segments := by
  obtain ⟨ns, hns, hpackage⟩ := hf.package
  unfold scope
  rw [hns, hpackage]
  unfold packageOf Label.isVoid Label.text
  by_cases hempty : ns = []
  · rw [if_pos (by simpa using hempty), if_pos (by simpa [Text.lowerSnake_eq_nil_iff] using hempty)]
    rfl
  · rw [if_neg (by simpa using hempty),
      if_neg (by simpa [Text.lowerSnake_eq_nil_iff] using hempty)]
    rfl

theorem Rooted.typeName_root (hf : f.Rooted s) {n name : Label}
    (hentity : s.entity? n = some (name, f.ns, none)) :
    s.typeName n = Schema.dotted (f.scope.map some ++ [name]) := by
  rw [← hf.scope_append]
  unfold Schema.typeName
  rw [hentity]
  rfl

/-- A root type is named at the top of its file exactly if it has a name. -/
theorem Rooted.typeName_root_iff (hf : f.Rooted s) {n name : Label}
    (hentity : s.entity? n = some (name, f.ns, none)) :
    s.typeName n = .ok (f.qualified [name]) ↔ Spelled [name] := by
  rw [hf.typeName_root hentity]
  refine (@Schema.dotted_eq_ok_iff f.scope [] [] name).trans ?_
  simp [Spelled]

/-- A type inside a root message that has a full name is named where it is declared
    exactly if the names on the way to it can be told. -/
theorem Rooted.typeName_nested_iff (hf : f.Rooted s) (hs : s.WellNested) (hn : s.FullyNamed)
    (hm : m ∈ f.messages) (hinside : s.Inside m blocks d) (hblocks : blocks ≠ [])
    {r : Text} (hname : m.fullName = some r) (hroot : d.rootMessage = some r) :
    s.typeName d.fullName = .ok (f.qualified (blocks.map (·.name) ++ [d.name])) ↔
      Spelled (blocks.map (·.name) ++ [d.name]) := by
  obtain ⟨hfound, -, hns⟩ := hf.message m hm
  obtain ⟨hdns, inner, segments, hnames, hspells, htext⟩ := hinside.spells hs hn hfound
  have hinner : inner ≠ [] := by
    rintro rfl
    have hlen := congrArg List.length hnames
    simp only [List.length_append, List.length_map, List.length_singleton] at hlen
    exact hblocks (List.eq_nil_of_length_eq_zero (by omega))
  have htype : s.typeName d.fullName = Schema.dotted (f.scope.map some ++
      m.name :: (Schema.pathBelow m.fullName.text d.fullName.text).map some) := by
    rw [← hf.scope_append, ← hns, ← hdns]
    unfold Schema.typeName
    rw [hinside.entity?_eq hs hn hfound, hroot]
    dsimp only
    rw [Schema.message_eq_ok_iff.mpr (hname ▸ hfound)]
    rfl
  rw [htype, hnames, htext]
  unfold qualified
  rw [List.map_cons, Schema.dotted_eq_ok_iff, hspells.flatMap_pathBelow_iff hinner]
  rfl

/-- An enum in the message without a name is named at the top of the file, not in the
    message. -/
theorem Rooted.typeName_nameless_iff (hf : f.Rooted s) (hn : s.FullyNamed)
    (hm : s.messages.find? none = some m)
    (hentity : s.entity? d.fullName = some (d.name, f.ns, none)) :
    s.typeName d.fullName = .ok (f.qualified [m.name, d.name]) ↔ Spelled [m.name, d.name] := by
  refine iff_of_false (fun h => ?_) fun h => h.1 (hn.nameless hm)
  have hsome : d.name ≠ none := by
    rw [hf.typeName_root hentity] at h
    exact fun hnone => Schema.none_not_mem_of_dotted h (hnone ▸ List.mem_append_right _ (by simp))
  -- With the name of the message the text would be longer.
  have hroot := (hf.typeName_root_iff hentity).mpr ⟨hsome, by simp, by simp⟩
  rw [h, Except.ok.injEq] at hroot
  unfold qualified at hroot
  rw [Text.join_eq_join_iff (by simp) (by simp)] at hroot
  have hlen := congrArg List.length hroot
  simp only [List.flatMap_append, List.map_cons, List.map_nil, List.flatMap_cons, List.flatMap_nil,
    List.length_append] at hlen
  have hdot : (("." : String) : Text).length = 1 := rfl
  omega

/-- The qualified name of a type is where its file declares it exactly if the names on
    the way to it can be told from its full name. -/
theorem Rooted.typeName_iff (hf : f.Rooted s) (hs : s.WellNested) (hn : s.FullyNamed)
    (halone : Label.NullAlone fun n => ∃ m, s.messages.find? n = some m ∧ m.isRoot = true)
    (h : f.DeclaresIn s blocks d) :
    s.typeName d.fullName = .ok (f.qualified (blocks.map (·.name) ++ [d.name])) ↔
      Spelled (blocks.map (·.name) ++ [d.name]) := by
  rcases h with ⟨m, hm, hinside⟩ | ⟨rfl, e, he, rfl⟩
  · obtain ⟨hfound, hisRoot, hns⟩ := hf.message m hm
    have hentity := hinside.entity?_eq hs hn hfound
    rw [(hinside.spells hs hn hfound).1, hns] at hentity
    have hrootNone : m.rootMessage = none := Option.isNone_iff_eq_none.mp hisRoot
    cases hname : m.fullName with
    | none =>
        rcases hinside.of_nameless hs halone (hname ▸ hfound) hisRoot with ⟨rfl, rfl⟩ | ⟨rfl, hroot⟩
        · exact hf.typeName_root_iff (hrootNone ▸ hentity)
        · exact hf.typeName_nameless_iff hn (hname ▸ hfound) (hroot ▸ hentity)
    | some r =>
        have howner : m.owner = some r := (MessageType.owner_of_isRoot hisRoot).trans hname
        rcases hinside.rootMessage_eq hs hfound (howner ▸ Option.some_ne_none r) with
          ⟨rfl, rfl⟩ | ⟨hblocks, hroot⟩
        · exact hf.typeName_root_iff (hrootNone ▸ hentity)
        · exact hf.typeName_nested_iff hs hn hm hinside hblocks hname (hroot.trans howner)
  · obtain ⟨hfound, hisRoot, hns⟩ := hf.enum e he
    have hentity := hn.entity hfound
    rw [hns, Option.isNone_iff_eq_none.mp hisRoot] at hentity
    exact hf.typeName_root_iff hentity

end OutputFile

namespace Recovery

open OutputFile

/-- What a run that returns files has made: types that have been analysed, modules that
    share out the root types among them, and a file for each module. -/
theorem planned_of_rebuild {a : Assembly} {r : Recovery} {files : List OutputFile}
    (ha : a.Named) (hok : (rebuild a).outcome = .ok (r, files)) :
    ∃ l discovered u file, Prepared a l discovered u ∧ r.schema = u.prune.1 ∧
      ModuleGraph.Partitioned r.schema r.graph ∧ Planned r.schema r.graph file files ∧
      Label.NullAlone fun n => ∃ m, r.schema.messages.find? n = some m ∧ m.isRoot = true := by
  obtain ⟨discovered, g₀, hdiscover, hrelate, hpartition, hcompact, hplan⟩ := rebuild_eq_ok hok
  obtain ⟨gathered, hgather, hfields⟩ := discover_eq_ok hdiscover
  obtain ⟨connected, u, hconnect, hneeds, hprune⟩ := relate_eq_ok hrelate
  obtain ⟨-, l, hprepared⟩ := prepared_of_steps ha hgather hfields hconnect hneeds
  have hs : r.schema.WellNested := hprune ▸ hprepared.resolved.toWellNested
  have hg₀ := ModuleGraph.partitioned_of_partition hs hpartition
  obtain ⟨hconsistent, -, -, cls, hquotient⟩ := ModuleGraph.compact_ok hg₀.toConsistent hcompact
  have hg := hg₀.quotient hconsistent hquotient
  obtain ⟨file, hplanned⟩ := planned_of_plan hs hg.toWired hplan
  exact ⟨l, _, u, file, hprepared, hprune, hg, hplanned, hg₀.nullAlone hcompact⟩

/-- Where the files that are recovered from a document declare a type. In the text of
    the file the line of the type stands inside the blocks of the messages around it.
    The qualified name of the type consists of the package, the names of these messages
    and its own exactly if the outermost name is there, no other one holds a slash, and
    no message inside the outermost one has the name of containers. -/
theorem rebuild_typeName_iff {text : Text} {a : Assembly} {r : Recovery}
    {files : List OutputFile} {f : OutputFile} {blocks : List MessageType} {d : Declaration}
    (hload : Assembly.load text = .ok a) (hok : (rebuild a).outcome = .ok (r, files))
    (hf : f ∈ files) (hd : f.DeclaresIn r.schema blocks d) :
    (∀ rendered, (f.render r.schema).outcome = .ok rendered →
      ∃ lines, rendered = lines.flatMap (fun line => line ++ "\n") ∧
        Enclosed d.header 0 blocks lines) ∧
    (r.schema.typeName d.fullName = .ok (f.qualified (blocks.map (·.name) ++ [d.name])) ↔
      Spelled (blocks.map (·.name) ++ [d.name])) := by
  have ha := Assembly.named_of_load hload
  obtain ⟨discovered, g₀, hdiscover, hrelate, hpartition, hcompact, hplan⟩ := rebuild_eq_ok hok
  obtain ⟨gathered, hgather, hfields⟩ := discover_eq_ok hdiscover
  obtain ⟨connected, u, hconnect, hneeds, hprune⟩ := relate_eq_ok hrelate
  obtain ⟨-, l, hprepared⟩ := prepared_of_steps ha hgather hfields hconnect hneeds
  have hn : r.schema.FullyNamed := hprune ▸ hprepared.fullyNamed ha
  have hs : r.schema.WellNested := hprune ▸ hprepared.resolved.toWellNested
  -- The modules share out the root types, and so do the files.
  have hg₀ := ModuleGraph.partitioned_of_partition hs hpartition
  obtain ⟨hconsistent, -, -, cls, hquotient⟩ := ModuleGraph.compact_ok hg₀.toConsistent hcompact
  have hg := hg₀.quotient hconsistent hquotient
  obtain ⟨file, hplanned⟩ := planned_of_plan hs hg.toWired hplan
  have hrooted := hplanned.rooted hs hg hf
  constructor
  · intro rendered hrendered
    exact enclosed_of_render hs (fun m hm => (hrooted.message m hm).1) hd hrendered
  · exact hrooted.typeName_iff hs hn (hg₀.nullAlone hcompact) hd

/-! ## A message with the name of containers -/

/-- A document with a message `A` in the namespace `Acme`, in which is a message
    `Types`, in which is a message `B`. The first has a field of the type of the last. -/
def nestedBlocks : Text :=
  List.flatten
    ["\x7b\"name\":\"\",", "\"references\":[\x7b\"name\":", "\"Google.Protobuf\"\x7d],",
      "\"types\":[\x7b\"name\":\"A\",", "\"namespace\":\"Acme\",", "\"interfaces\":[",
      "\"Google.Protobuf.IMessage\"],", "\"fields\":[\x7b\"name\":", "\"BFieldNumber\",",
      "\"type\":\"\",\"constant\":1\x7d],", "\"properties\":[\x7b", "\"name\":\"B\",",
      "\"type\":\"Acme.A/Types/B\"\x7d],", "\"nested_types\":[\x7b", "\"name\":\"Types\",",
      "\"interfaces\":[", "\"Google.Protobuf.IMessage\"],", "\"nested_types\":[\x7b",
      "\"name\":\"B\",", "\"interfaces\":[", "\"Google.Protobuf.IMessage\"]\x7d]\x7d]\x7d]\x7d"]

def membersOfInner : Decode.Members :=
  [("name", .str "Types"), ("interfaces", .arr [.str "Google.Protobuf.IMessage"]),
    ("nested_types", .arr [.obj membersOfMessage])]

def membersOfOuter : Decode.Members :=
  [("name", .str "A"), ("namespace", .str "Acme"),
    ("interfaces", .arr [.str "Google.Protobuf.IMessage"]),
    ("fields", .arr [.obj [("name", .str "BFieldNumber"), ("type", .str ""),
      ("constant", .int 1)]]),
    ("properties", .arr [.obj [("name", .str "B"), ("type", .str "Acme.A/Types/B")]]),
    ("nested_types", .arr [.obj membersOfInner])]

/-- The assembly that the document describes. -/
def blockTypes : Assembly :=
  .ofTypes (some "") (some [⟨some "Google.Protobuf", none⟩])
    [⟨some "A", some "Acme", some .plainClass, some ["Google.Protobuf.IMessage"],
        some [⟨some "BFieldNumber", some "", some (.int 1), some false⟩],
        some [⟨some "B", some "Acme.A/Types/B", some true, some false, some false⟩],
        some "Acme.A", none,
        [⟨some "Types", some "Acme", some .plainClass, some ["Google.Protobuf.IMessage"],
          some [], some [], some "Acme.A/Types", some "Acme.A",
          [⟨some "B", some "Acme", some .plainClass, some ["Google.Protobuf.IMessage"], some [],
            some [], some "Acme.A/Types/B", some "Acme.A/Types", []⟩]⟩]⟩]

set_option maxRecDepth 8000 in
theorem read_nestedBlocks : Json.read nestedBlocks = .ok (.obj [("name", .str ""),
    ("references", .arr [.obj [("name", .str "Google.Protobuf")]]),
    ("types", .arr [.obj membersOfOuter])]) := by
  cbv

theorem load_nestedBlocks : Assembly.load nestedBlocks = .ok blockTypes := by
  have hB := mapM_eq_ok_iff.mpr (.cons type_membersOfMessage .nil)
  have hTypes : Decode.type (.obj membersOfInner) = .ok ⟨some "Types", some "",
      some .plainClass, some ["Google.Protobuf.IMessage"], some [], some [],
      some [messageDeclaration]⟩ := by
    rw [Decode.type_obj, Decode.nestedOf_arr (by cbv) hB]
    cbv
  have hinner := mapM_eq_ok_iff.mpr (.cons hTypes .nil)
  have hA : Decode.type (.obj membersOfOuter) = .ok ⟨some "A", some "Acme", some .plainClass,
      some ["Google.Protobuf.IMessage"],
      some [⟨some "BFieldNumber", some "", some (.int 1), some false⟩],
      some [⟨some "B", some "Acme.A/Types/B", some true, some false, some false⟩],
      some [⟨some "Types", some "", some .plainClass, some ["Google.Protobuf.IMessage"], some [],
        some [], some [messageDeclaration]⟩]⟩ := by
    rw [Decode.type_obj, Decode.nestedOf_arr (by cbv) hinner]
    cbv
  have htypes := mapM_eq_ok_iff.mpr (.cons hA .nil)
  unfold Assembly.load
  rw [read_nestedBlocks]
  show Assembly.ofJson _ = _
  unfold Assembly.ofJson
  rw [Decode.assembly_of_types (by cbv) (by cbv) htypes]
  cbv

/-- The first message in a message, and so on down, with the messages around it. -/
def firstInside (s : Schema) : (depth : Nat) → MessageType → List MessageType × MessageType
  | 0, m => ([], m)
  | depth + 1, m =>
    match m.nestedMessages with
    | [] => ([], m)
    | n :: _ =>
      match s.message n with
      | .ok m' => (m :: (firstInside s depth m').1, (firstInside s depth m').2)
      | .error _ => ([], m)

theorem inside_firstInside (s : Schema) (depth : Nat) (m : MessageType) :
    s.Inside m (firstInside s depth m).1 (.message (firstInside s depth m).2) := by
  fun_induction firstInside s depth m with
  | case1 m => exact .self m
  | case2 depth m hnil => exact .self m
  | case3 depth m n rest hcons m' hm' ih =>
      exact .nested (hcons ▸ List.mem_cons_self) hm' ih
  | case4 depth m n rest hcons e he => exact .self m

/-- The text that is recovered from the document. -/
def blockText : Text :=
  (["syntax = \"proto3\";", "package acme;", "option csharp_namespace = \"Acme\";", "",
    "message A \x7b", "  acme.A.B b = 1;", "", "  message Types \x7b", "", "    message B \x7b",
    "    \x7d", "  \x7d", "\x7d"] : List Text).flatMap fun line => line ++ "\n"

/-- What is seen of a type of the first recovered file, the first one so far down: the
    text of the file, the names on the way to the type, the name that it has there and
    its qualified name. -/
structure Sighting where
  rendered : Option Text
  names : List Label
  declared : Text
  referred : Option Text

/-- The first types at several depths in the first recovered file. -/
def sightings (depths : List Nat) (x : Except Failure (Recovery × List OutputFile)) :
    List Sighting :=
  match x with
  | .ok (r, f :: _) =>
    match f.messages with
    | m :: _ => depths.map fun depth =>
      let place := firstInside r.schema depth m
      let names := place.1.map (·.name) ++ [place.2.name]
      ⟨(f.render r.schema).outcome.toOption, names, f.qualified names,
        (r.schema.typeName place.2.fullName).toOption⟩
    | [] => []
  | _ => []

theorem exists_of_mem_sightings {depths : List Nat}
    {x : Except Failure (Recovery × List OutputFile)} {rendered declared referred : Text}
    {names : List Label}
    (h : ⟨some rendered, names, declared, some referred⟩ ∈ sightings depths x) :
    ∃ r files f blocks d, x = .ok (r, files) ∧ f ∈ files ∧ f.DeclaresIn r.schema blocks d ∧
      (f.render r.schema).outcome = .ok rendered ∧ blocks.map (·.name) ++ [d.name] = names ∧
      f.qualified names = declared ∧ r.schema.typeName d.fullName = .ok referred := by
  unfold sightings at h
  split at h
  · rename_i r f rest
    split at h
    · rename_i m others hm
      obtain ⟨depth, -, h⟩ := List.mem_map.mp h
      simp only [Sighting.mk.injEq] at h
      obtain ⟨hrendered, hnames, hdeclared, hreferred⟩ := h
      have hplace := inside_firstInside r.schema depth m
      refine ⟨r, f :: rest, f, _, _, rfl, List.mem_cons_self, Or.inl ⟨m, ?_, hplace⟩,
        eq_ok_of_toOption hrendered, hnames, hnames ▸ hdeclared, eq_ok_of_toOption hreferred⟩
      rw [hm]
      exact List.mem_cons_self
    · cases h
  · cases h

theorem sightings_blockTypes : sightings [1, 2] (rebuild blockTypes).outcome =
    [⟨some blockText, [some ("A" : Text), some ("Types" : Text)], "acme.A.Types",
        some ("acme.A.Types" : Text)⟩,
      ⟨some blockText, [some ("A" : Text), some ("Types" : Text), some ("B" : Text)],
        "acme.A.Types.B", some ("acme.A.B" : Text)⟩] := by
  rw [outcome_rebuild, outcome_analyze_steps]
  cbv

/-- The message `Types` has its own name at the end, and is named where it is
    declared. -/
theorem rebuild_typeName_iff_nestedBlocks :
    Assembly.load nestedBlocks = .ok blockTypes ∧ ∃ r files f blocks d,
      (rebuild blockTypes).outcome = .ok (r, files) ∧ f ∈ files ∧
      f.DeclaresIn r.schema blocks d ∧
      blocks.map (·.name) ++ [d.name] = [some ("A" : Text), some ("Types" : Text)] ∧
      (∃ lines, blockText = lines.flatMap (fun line => line ++ "\n") ∧
        Enclosed d.header 0 blocks lines) ∧
      r.schema.typeName d.fullName =
        .ok (f.qualified [some ("A" : Text), some ("Types" : Text)]) := by
  refine ⟨load_nestedBlocks, ?_⟩
  obtain ⟨r, files, f, blocks, d, hok, hf, hd, hrendered, hnames, -, -⟩ :=
    exists_of_mem_sightings (sightings_blockTypes ▸ List.mem_cons_self)
  obtain ⟨hblocks, hname⟩ := rebuild_typeName_iff load_nestedBlocks hok hf hd
  rw [hnames] at hname
  refine ⟨r, files, f, blocks, d, hok, hf, hd, hnames, hblocks _ hrendered, hname.mpr ?_⟩
  exact ⟨Option.some_ne_none _, by decide, by decide⟩

/-- The message `B` is declared inside the message `Types`, but its qualified name
    leaves this one out, and so does the type of the field of `A`. -/
theorem message_named_types_left_out :
    Assembly.load nestedBlocks = .ok blockTypes ∧ ∃ r files f blocks d,
      (rebuild blockTypes).outcome = .ok (r, files) ∧ f ∈ files ∧
      f.DeclaresIn r.schema blocks d ∧ (f.render r.schema).outcome = .ok blockText ∧
      blocks.map (·.name) ++ [d.name] =
        [some ("A" : Text), some ("Types" : Text), some ("B" : Text)] ∧
      f.qualified (blocks.map (·.name) ++ [d.name]) = "acme.A.Types.B" ∧
      r.schema.typeName d.fullName = .ok "acme.A.B" := by
  obtain ⟨r, files, f, blocks, d, hok, hf, hd, hrendered, hnames, hdeclared, hreferred⟩ :=
    exists_of_mem_sightings
      (sightings_blockTypes ▸ List.mem_cons_of_mem _ (List.mem_singleton_self _))
  exact ⟨load_nestedBlocks, r, files, f, blocks, d, hok, hf, hd, hrendered, hnames,
    hnames ▸ hdeclared, hreferred⟩

end Recovery

end SchemaRecovery
