/-
  SchemaRecovery.Proofs.NameClashes

  When two types that are declared get one qualified name. A qualified name is the
  package, the names of the messages around the type and its own, so types can only
  share one if they have the same name and what is around them is the same
  (`OutputFile.qualified_concat_eq_iff`). Nothing keeps that from happening: the classes
  around root types and containers are not part of it, nor is the case of namespaces.
  Where names are plain there is no clash exactly if root types of one package, and
  types in one message, differ in their names, and no package has the name of a message
  (`Recovery.rebuild_typeName_distinct_iff`).
-/
import SchemaRecovery.Proofs.QualifiedNames

namespace SchemaRecovery

/-! ## The last part of a dotted name -/

namespace Text

theorem eq_of_dot_append {c last last' : Text} (h : CodePoint.char '.' ∉ last)
    (heq : ("." : Text) ++ last = c ++ (("." : Text) ++ last')) : c = [] ∧ last = last' := by
  cases c with
  | nil => exact ⟨rfl, List.append_cancel_left heq⟩
  | cons x c =>
      -- Then the dot on the right is one of the last part on the left.
      have hlast : last = c ++ (("." : Text) ++ last') := (List.cons.inj heq).2
      rw [hlast] at h
      exact absurd (List.mem_append_right c List.mem_cons_self) h

/-- What comes after the last dot of a text is told from what is before it. -/
theorem append_dot_inj {front front' last last' : Text} (h : CodePoint.char '.' ∉ last)
    (h' : CodePoint.char '.' ∉ last') :
    front ++ (("." : Text) ++ last) = front' ++ (("." : Text) ++ last') ↔
      front = front' ∧ last = last' := by
  constructor
  · intro heq
    rcases List.append_eq_append_iff.mp heq with ⟨c, hfront, hlast⟩ | ⟨c, hfront, hlast⟩
    · obtain ⟨rfl, rfl⟩ := eq_of_dot_append h hlast
      exact ⟨by rw [hfront, List.append_nil], rfl⟩
    · obtain ⟨rfl, rfl⟩ := eq_of_dot_append h' hlast
      exact ⟨by rw [hfront, List.append_nil], rfl⟩
  · rintro ⟨rfl, rfl⟩
    rfl

end Text

namespace OutputFile

variable {s : Schema} {f f' : OutputFile} {names names' : List Label} {n n' : Label}

/-- The package of a file, if it has one, and the names, each after a dot. -/
def dottedPath (f : OutputFile) (names : List Label) : Text :=
  (f.scope ++ names.map Label.text).flatMap (("." : Text) ++ ·)

theorem dottedPath_eq_qualified (hne : names ≠ []) :
    f.dottedPath names = "." ++ f.qualified names :=
  (Text.append_join (by simp [hne])).symm

theorem qualified_eq_iff (hne : names ≠ []) (hne' : names' ≠ []) :
    f.qualified names = f'.qualified names' ↔ f.dottedPath names = f'.dottedPath names' := by
  rw [dottedPath_eq_qualified hne, dottedPath_eq_qualified hne', List.append_cancel_left_eq]

/-- Names without dots are the same at the end of qualified names that are. -/
theorem qualified_concat_eq_iff (hn : CodePoint.char '.' ∉ n.text)
    (hn' : CodePoint.char '.' ∉ n'.text) :
    f.qualified (names ++ [n]) = f'.qualified (names' ++ [n']) ↔
      f.dottedPath names = f'.dottedPath names' ∧ n.text = n'.text := by
  rw [qualified_eq_iff (by simp) (by simp), ← Text.append_dot_inj hn hn']
  unfold dottedPath
  simp only [List.map_append, List.flatMap_append, List.map_cons, List.map_nil, List.flatMap_cons,
    List.flatMap_nil, List.append_nil, List.append_assoc]

theorem scope_cases (f : OutputFile) : f.scope = [] ∨ f.scope = [f.packageName] := by
  unfold scope
  split
  · exact Or.inl rfl
  · exact Or.inr rfl

/-- At the top of files the packages are compared. -/
theorem dottedPath_nil_eq_iff : f.dottedPath [] = f'.dottedPath [] ↔ f.scope = f'.scope := by
  refine ⟨fun h => ?_, fun h => by rw [dottedPath, dottedPath, h]⟩
  unfold dottedPath at h
  rcases f.scope_cases with hf | hf
  · rcases f'.scope_cases with hf' | hf'
    · rw [hf, hf']
    · rw [hf, hf'] at h
      cases h
  · rcases f'.scope_cases with hf' | hf'
    · rw [hf, hf'] at h
      cases h
    · rw [hf, hf'] at h ⊢
      simpa using h

/-- Only a package can stand for a message. -/
theorem dottedPath_nil_eq_concat_iff (hne : names ≠ []) :
    f.dottedPath [] = f'.dottedPath names ↔ f.scope = [f'.qualified names] := by
  rw [dottedPath_eq_qualified hne]
  unfold dottedPath
  rcases f.scope_cases with hf | hf
  · rw [hf]
    exact iff_of_false nofun nofun
  · rw [hf]
    simp

end OutputFile

/-! ## Places of declarations -/

namespace Schema

variable {s : Schema} {m x : MessageType} {outer : List MessageType} {d : Declaration}

/-- The innermost message around a declaration is itself declared there. -/
theorem Inside.innermost (h : s.Inside m (outer ++ [x]) d) : s.Inside m outer (.message x) := by
  generalize hblocks : outer ++ [x] = blocks at h
  induction h generalizing outer with
  | self m => simp at hblocks
  | @enum m n e hn he =>
      obtain ⟨rfl, hx⟩ := List.append_eq_singleton_iff.mp hblocks |>.resolve_right (by simp)
      obtain rfl := List.singleton_inj.mp hx
      exact .self x
  | @nested m m' n blocks d hn hm' h ih =>
      cases outer with
      | nil =>
          obtain ⟨rfl, -⟩ := List.cons.inj hblocks
          exact .self x
      | cons y outer =>
          obtain ⟨rfl, hrest⟩ := List.cons.inj hblocks
          exact .nested hn hm' (ih hrest)

end Schema

namespace OutputFile

variable {s : Schema} {f : OutputFile} {files : List OutputFile} {outer : List MessageType}
  {x : MessageType} {d : Declaration}

theorem DeclaresIn.innermost (h : f.DeclaresIn s (outer ++ [x]) d) :
    f.DeclaresIn s outer (.message x) := by
  rcases h with ⟨m, hm, hinside⟩ | ⟨hnil, -⟩
  · exact Or.inl ⟨m, hm, hinside.innermost⟩
  · simp at hnil

/-- Names on the way to a type that can be told from its full name and from its
    qualified name: the outermost is there, no other one holds a slash, none but the
    last below the outermost is the name of containers, and none holds a dot. -/
def Plain (names : List Label) : Prop :=
  Spelled names ∧ ∀ n ∈ names, CodePoint.char '.' ∉ n.text

/-- What keeps the qualified names of the types in files apart. Root types of one
    package differ in their names, and so do the types in one message. If a package is
    also the qualified name of a message, no root type in it has the name of a type in
    the message. -/
structure Unambiguous (s : Schema) (files : List OutputFile) : Prop where
  roots : ∀ f ∈ files, ∀ f' ∈ files, ∀ d d', f.DeclaresIn s [] d → f'.DeclaresIn s [] d' →
    f.scope = f'.scope → d.fullName ≠ d'.fullName → d.name.text ≠ d'.name.text
  siblings : ∀ f ∈ files, ∀ f' ∈ files, ∀ outer outer' m m' d d',
    f.DeclaresIn s (outer ++ [m]) d → f'.DeclaresIn s (outer' ++ [m']) d' →
    m.fullName = m'.fullName → d.fullName ≠ d'.fullName → d.name.text ≠ d'.name.text
  apart : ∀ f ∈ files, ∀ f' ∈ files, ∀ outer m d d', f.DeclaresIn s [] d →
    f'.DeclaresIn s (outer ++ [m]) d' → f.scope = [f'.qualified ((outer ++ [m]).map (·.name))] →
    d.fullName ≠ d'.fullName → d.name.text ≠ d'.name.text

/-- Every type in the files has the qualified name of the place where it is declared,
    and no dot in its name. -/
def NamedInPlace (s : Schema) (files : List OutputFile) : Prop :=
  ∀ f ∈ files, ∀ blocks d, f.DeclaresIn s blocks d →
    s.typeName d.fullName = .ok (f.qualified (blocks.map (·.name) ++ [d.name])) ∧
      CodePoint.char '.' ∉ d.name.text

/-- No two types in the files have one qualified name. -/
def Distinct (s : Schema) (files : List OutputFile) : Prop :=
  ∀ f ∈ files, ∀ f' ∈ files, ∀ blocks blocks' d d', f.DeclaresIn s blocks d →
    f'.DeclaresIn s blocks' d' → d.fullName ≠ d'.fullName →
    s.typeName d.fullName ≠ s.typeName d'.fullName

/-- Types at two places have one qualified name exactly if the places and the names
    agree. -/
theorem NamedInPlace.typeName_eq_iff (h : NamedInPlace s files) {f' : OutputFile}
    {blocks blocks' : List MessageType} {d' : Declaration} (hf : f ∈ files) (hf' : f' ∈ files)
    (hd : f.DeclaresIn s blocks d) (hd' : f'.DeclaresIn s blocks' d') :
    s.typeName d.fullName = s.typeName d'.fullName ↔
      f.dottedPath (blocks.map (·.name)) = f'.dottedPath (blocks'.map (·.name)) ∧
        d.name.text = d'.name.text := by
  obtain ⟨hname, hdot⟩ := h f hf blocks d hd
  obtain ⟨hname', hdot'⟩ := h f' hf' blocks' d' hd'
  rw [hname, hname', Except.ok.injEq, qualified_concat_eq_iff hdot hdot']

/-- The places inside two messages are the same exactly if the messages have one
    qualified name. -/
theorem NamedInPlace.innermost_eq_iff (h : NamedInPlace s files) {f' : OutputFile}
    {outer outer' : List MessageType} {m m' : MessageType} {d' : Declaration} (hf : f ∈ files)
    (hf' : f' ∈ files) (hd : f.DeclaresIn s (outer ++ [m]) d)
    (hd' : f'.DeclaresIn s (outer' ++ [m']) d') :
    f.dottedPath ((outer ++ [m]).map (·.name)) = f'.dottedPath ((outer' ++ [m']).map (·.name)) ↔
      s.typeName m.fullName = s.typeName m'.fullName := by
  have hm : s.typeName m.fullName = .ok (f.qualified ((outer ++ [m]).map (·.name))) := by
    rw [List.map_append]
    exact (h f hf outer (.message m) hd.innermost).1
  have hm' : s.typeName m'.fullName = .ok (f'.qualified ((outer' ++ [m']).map (·.name))) := by
    rw [List.map_append]
    exact (h f' hf' outer' (.message m') hd'.innermost).1
  rw [hm, hm', Except.ok.injEq, qualified_eq_iff (by simp) (by simp)]

theorem Unambiguous.distinct (h : Unambiguous s files) (hplace : NamedInPlace s files) :
    Distinct s files := by
  intro f hf f' hf' blocks
  -- Induction on the messages around: those of types with one name have one name too.
  induction blocks using List.reverseRec generalizing f f' with
  | nil =>
      intro blocks' d d' hd hd' hne heq
      obtain ⟨hpath, hname⟩ := (hplace.typeName_eq_iff hf hf' hd hd').mp heq
      rcases List.eq_nil_or_concat blocks' with rfl | ⟨outer', m', rfl⟩
      · exact h.roots f hf f' hf' d d' hd hd' (dottedPath_nil_eq_iff.mp hpath) hne hname
      · rw [List.concat_eq_append] at hd' hpath
        have hscope := (dottedPath_nil_eq_concat_iff (by simp)).mp hpath
        exact h.apart f hf f' hf' outer' m' d d' hd hd' hscope hne hname
  | append_singleton outer m ih =>
      intro blocks' d d' hd hd' hne heq
      obtain ⟨hpath, hname⟩ := (hplace.typeName_eq_iff hf hf' hd hd').mp heq
      rcases List.eq_nil_or_concat blocks' with rfl | ⟨outer', m', rfl⟩
      · have hscope := (dottedPath_nil_eq_concat_iff (by simp)).mp hpath.symm
        exact h.apart f' hf' f hf outer m d' d hd' hd hscope hne.symm hname.symm
      · rw [List.concat_eq_append] at hd' hpath
        by_cases hm : m.fullName = m'.fullName
        · exact h.siblings f hf f' hf' outer outer' m m' d d' hd hd' hm hne hname
        · exact ih f hf f' hf' outer' (.message m) (.message m') hd.innermost hd'.innermost hm
            ((hplace.innermost_eq_iff hf hf' hd hd').mp hpath)

theorem Distinct.unambiguous (h : Distinct s files) (hplace : NamedInPlace s files) :
    Unambiguous s files where
  roots f hf f' hf' d d' hd hd' hscope hne hname := by
    refine h f hf f' hf' [] [] d d' hd hd' hne ?_
    exact (hplace.typeName_eq_iff hf hf' hd hd').mpr ⟨dottedPath_nil_eq_iff.mpr hscope, hname⟩
  siblings f hf f' hf' outer outer' m m' d d' hd hd' hm hne hname := by
    refine h f hf f' hf' _ _ d d' hd hd' hne ?_
    have hpath := (hplace.innermost_eq_iff hf hf' hd hd').mpr (congrArg s.typeName hm)
    exact (hplace.typeName_eq_iff hf hf' hd hd').mpr ⟨hpath, hname⟩
  apart f hf f' hf' outer m d d' hd hd' hscope hne hname := by
    refine h f hf f' hf' [] _ d d' hd hd' hne ?_
    refine (hplace.typeName_eq_iff hf hf' hd hd').mpr ⟨?_, hname⟩
    exact (dottedPath_nil_eq_concat_iff (by simp)).mpr hscope

/-- Names are plain on the way to a type if there is none without them, none that holds
    a dot or a slash, and no message around has the name of containers. -/
theorem plain_of_forall {around : List Label} {name : Label}
    (h : ∀ n ∈ around ++ [name], n ≠ none ∧ CodePoint.char '/' ∉ n.text ∧
      CodePoint.char '.' ∉ n.text)
    (haround : ∀ n ∈ around, n ≠ some typesContainer) : Plain (around ++ [name]) := by
  refine ⟨?_, fun n hn => (h n hn).2.2⟩
  cases around with
  | nil => exact ⟨(h name List.mem_cons_self).1, by simp, by simp⟩
  | cons outer rest =>
      rw [List.cons_append] at h ⊢
      refine ⟨(h outer List.mem_cons_self).1,
        fun n hn => (h n (List.mem_cons_of_mem outer hn)).2.1, fun n hn => ?_⟩
      rw [List.dropLast_concat] at hn
      exact haround n (List.mem_cons_of_mem outer hn)

end OutputFile

/-! ## Recovered files -/

/-- The type of the declaration is in the schema. -/
def Schema.Has (s : Schema) : Declaration → Prop
  | .message m => s.messages.find? m.fullName = some m
  | .enum e => s.enums.find? e.fullName = some e

theorem Schema.Inside.has {s : Schema} (hs : s.WellNested) {m : MessageType}
    {blocks : List MessageType} {d : Declaration} (h : s.Inside m blocks d)
    (hm : s.Has (.message m)) : s.Has d ∧ ∀ x ∈ blocks, s.Has (.message x) := by
  induction h with
  | self m => exact ⟨hm, by simp⟩
  | @enum m n e hn he =>
      have hfound := enum_eq_ok_iff.mp he
      obtain rfl := hs.keyed_enum hfound
      exact ⟨hfound, List.forall_mem_singleton.mpr hm⟩
  | @nested m m' n blocks d hn hm' _ ih =>
      have hfound := message_eq_ok_iff.mp hm'
      obtain rfl := hs.keyed_message hfound
      obtain ⟨hd, hblocks⟩ := ih hfound
      exact ⟨hd, List.forall_mem_cons.mpr ⟨hm, hblocks⟩⟩

namespace Recovery

open OutputFile

/-- The names in the files of a document are plain if those of its types are. -/
theorem plain_of_types {a : Assembly} {r : Recovery} {files : List OutputFile} (ha : a.Named)
    (hok : (rebuild a).outcome = .ok (r, files))
    (hnames : ∀ t ∈ a.allTypes, t.name ≠ none ∧ CodePoint.char '/' ∉ t.name.text ∧
      CodePoint.char '.' ∉ t.name.text)
    (hmessages : ∀ t ∈ a.allTypes, t.implements messageInterface = .ok true →
      t.name ≠ some typesContainer) :
    ∀ f ∈ files, ∀ blocks d, f.DeclaresIn r.schema blocks d →
      Plain (blocks.map (·.name) ++ [d.name]) := by
  obtain ⟨l, discovered, u, file, hprepared, hprune, hg, hplanned, -⟩ := planned_of_rebuild ha hok
  have hs : r.schema.WellNested := hprune ▸ hprepared.resolved.toWellNested
  have hmessage : ∀ {m}, r.schema.Has (.message m) → m.descriptor ∈ a.allTypes ∧
      m.descriptor.implements messageInterface = .ok true := by
    intro m hm
    rw [Schema.Has, hprune] at hm
    have hplaced := hprepared.placed_message hm
    exact ⟨hprepared.listing.mem_allTypes hplaced.listed, hplaced.message⟩
  have hdeclared : ∀ {d : Declaration}, r.schema.Has d → ∃ t ∈ a.allTypes, t.name = d.name := by
    intro d hd
    cases d with
    | message m => exact ⟨_, (hmessage hd).1, rfl⟩
    | enum e =>
        rw [Schema.Has, hprune] at hd
        exact ⟨_, hprepared.listing.mem_allTypes (hprepared.discovered_enum hd).listed, rfl⟩
  intro f hf blocks d hd
  obtain ⟨hhas, hblocks⟩ : r.schema.Has d ∧ ∀ x ∈ blocks, r.schema.Has (.message x) := by
    rcases hd with ⟨m, hm, hinside⟩ | ⟨rfl, e, he, rfl⟩
    · exact hinside.has hs ((hplanned.rooted hs hg hf).message m hm).1
    · exact ⟨((hplanned.rooted hs hg hf).enum e he).1, by simp⟩
  refine plain_of_forall (fun n hn => ?_) fun n hn => ?_
  · rcases List.mem_append.mp hn with hn | hn
    · obtain ⟨x, hx, rfl⟩ := List.mem_map.mp hn
      exact hnames _ (hmessage (hblocks x hx)).1
    · obtain ⟨t, ht, hname⟩ := hdeclared hhas
      rw [List.mem_singleton.mp hn, ← hname]
      exact hnames t ht
  · obtain ⟨x, hx, rfl⟩ := List.mem_map.mp hn
    obtain ⟨ht, himp⟩ := hmessage (hblocks x hx)
    exact hmessages _ ht himp

/-- The types in the files of a document in which names are plain. Each has the
    qualified name of the place where it is declared; and no two have the same one
    exactly if root types of one package, and types in one message, differ in their
    names, and no root type has the name of a type in a message that has the name of
    its package. -/
theorem rebuild_typeName_distinct_iff {text : Text} {a : Assembly} {r : Recovery}
    {files : List OutputFile} (hload : Assembly.load text = .ok a)
    (hok : (rebuild a).outcome = .ok (r, files))
    (hplain : ∀ f ∈ files, ∀ blocks d, f.DeclaresIn r.schema blocks d →
      Plain (blocks.map (·.name) ++ [d.name])) :
    NamedInPlace r.schema files ∧ (Distinct r.schema files ↔ Unambiguous r.schema files) := by
  have ha := Assembly.named_of_load hload
  obtain ⟨l, discovered, u, file, hprepared, hprune, hg, hplanned, halone⟩ :=
    planned_of_rebuild ha hok
  have hs : r.schema.WellNested := hprune ▸ hprepared.resolved.toWellNested
  have hn : r.schema.FullyNamed := hprune ▸ hprepared.fullyNamed ha
  have hplace : NamedInPlace r.schema files := by
    intro f hf blocks d hd
    obtain ⟨hspelled, hdots⟩ := hplain f hf blocks d hd
    exact ⟨((hplanned.rooted hs hg hf).typeName_iff hs hn halone hd).mpr hspelled,
      hdots d.name (List.mem_append_right _ List.mem_cons_self)⟩
  exact ⟨hplace, fun h => h.unambiguous hplace, fun h => h.distinct hplace⟩

/-! ## Types with one qualified name -/

/-- A document with two messages `M` in one namespace: one in a class, the other at the
    top. In the latter are two messages `N`, one of them in the container class. -/
def clashingNames : Text :=
  List.flatten
    ["\x7b\"name\":\"\",", "\"references\":[\x7b\"name\":", "\"Google.Protobuf\"\x7d],",
      "\"types\":[\x7b\"name\":\"H\",", "\"namespace\":\"Acme\",",
      "\"nested_types\":[\x7b\"name\":\"M\",", "\"interfaces\":[",
      "\"Google.Protobuf.IMessage\"]\x7d]\x7d,", "\x7b\"name\":\"M\",",
      "\"namespace\":\"Acme\",", "\"interfaces\":[", "\"Google.Protobuf.IMessage\"],",
      "\"nested_types\":[\x7b\"name\":\"N\",", "\"interfaces\":[",
      "\"Google.Protobuf.IMessage\"]\x7d,", "\x7b\"name\":\"Types\",",
      "\"kind\":\"static_class\",", "\"nested_types\":[\x7b\"name\":\"N\",",
      "\"interfaces\":[", "\"Google.Protobuf.IMessage\"]\x7d]\x7d]\x7d]\x7d"]

/-- A message that a document declares with nothing but a name, in another type. -/
def membersOfInside (name : Text) : Decode.Members :=
  [("name", .str name), ("interfaces", .arr [.str "Google.Protobuf.IMessage"])]

def membersOfHolder : Decode.Members :=
  [("name", .str "H"), ("namespace", .str "Acme"),
    ("nested_types", .arr [.obj (membersOfInside "M")])]

def membersOfTypes : Decode.Members :=
  [("name", .str "Types"), ("kind", .str "static_class"),
    ("nested_types", .arr [.obj (membersOfInside "N")])]

def membersOfTop : Decode.Members :=
  [("name", .str "M"), ("namespace", .str "Acme"),
    ("interfaces", .arr [.str "Google.Protobuf.IMessage"]),
    ("nested_types", .arr [.obj (membersOfInside "N"), .obj membersOfTypes])]

set_option maxRecDepth 8000 in
theorem read_clashingNames : Json.read clashingNames = .ok (.obj [("name", .str ""),
    ("references", .arr [.obj [("name", .str "Google.Protobuf")]]),
    ("types", .arr [.obj membersOfHolder, .obj membersOfTop])]) := by
  cbv

/-- A message without fields in the namespace `Acme`, as it stands in an
    assembly. -/
def acmeMessage (name fullName : Text) (declaringType : Label) (nested : List TypeDescriptor) :
    TypeDescriptor :=
  ⟨some name, some "Acme", some .plainClass, some ["Google.Protobuf.IMessage"], some [],
    some [], some fullName, declaringType, nested⟩

/-- The assembly that the document describes. -/
def clashingTypes : Assembly :=
  .ofTypes (some "") (some [⟨some "Google.Protobuf", none⟩])
    [⟨some "H", some "Acme", some .plainClass, some [], some [], some [], some "Acme.H", none,
        [acmeMessage "M" "Acme.H/M" (some "Acme.H") []]⟩,
      acmeMessage "M" "Acme.M" none
        [acmeMessage "N" "Acme.M/N" (some "Acme.M") [],
          ⟨some "Types", some "Acme", some .staticClass, some [], some [], some [],
            some "Acme.M/Types", some "Acme.M",
            [acmeMessage "N" "Acme.M/Types/N" (some "Acme.M/Types") []]⟩]]

def insideDeclaration (name : Text) : TypeDeclaration :=
  ⟨some name, some "", some .plainClass, some ["Google.Protobuf.IMessage"], some [], some [],
    some []⟩

theorem type_membersOfInside (name : Text) :
    Decode.type (.obj (membersOfInside name)) = .ok (insideDeclaration name) := by
  rw [Decode.type_obj]
  rfl

theorem load_clashingNames : Assembly.load clashingNames = .ok clashingTypes := by
  have hM := mapM_eq_ok_iff.mpr (.cons (type_membersOfInside "M") .nil)
  have hN := mapM_eq_ok_iff.mpr (.cons (type_membersOfInside "N") .nil)
  have hholder : Decode.type (.obj membersOfHolder) = .ok ⟨some "H", some "Acme",
      some .plainClass, some [], some [], some [], some [insideDeclaration "M"]⟩ := by
    rw [Decode.type_obj, Decode.nestedOf_arr (by cbv) hM]
    cbv
  have hTypes : Decode.type (.obj membersOfTypes) = .ok ⟨some "Types", some "",
      some .staticClass, some [], some [], some [], some [insideDeclaration "N"]⟩ := by
    rw [Decode.type_obj, Decode.nestedOf_arr (by cbv) hN]
    cbv
  have hinner := mapM_eq_ok_iff.mpr (.cons (type_membersOfInside "N") (.cons hTypes .nil))
  have htop : Decode.type (.obj membersOfTop) = .ok ⟨some "M", some "Acme", some .plainClass,
      some ["Google.Protobuf.IMessage"], some [], some [], some [insideDeclaration "N",
        ⟨some "Types", some "", some .staticClass, some [], some [], some [],
          some [insideDeclaration "N"]⟩]⟩ := by
    rw [Decode.type_obj, Decode.nestedOf_arr (by cbv) hinner]
    cbv
  have htypes := mapM_eq_ok_iff.mpr (.cons hholder (.cons htop .nil))
  unfold Assembly.load
  rw [read_clashingNames]
  show Assembly.ofJson _ = _
  unfold Assembly.ofJson
  rw [Decode.assembly_of_types (by cbv) (by cbv) htypes]
  cbv

/-- The full names of the root messages in the files and of the messages nested in them,
    each with its qualified name. -/
def messageNames (x : Except Failure (Recovery × List OutputFile)) :
    Option (List (List (Label × Option Text))) :=
  match x with
  | .ok (r, files) =>
    some ((files.flatMap (·.messages)).map fun m =>
      (m.fullName :: m.nestedMessages).map fun n => (n, (r.schema.typeName n).toOption))
  | .error _ => none

theorem messageNames_clashingTypes : messageNames (rebuild clashingTypes).outcome =
    some [[(some ("Acme.H/M" : Text), some ("acme.M" : Text))],
      [(some ("Acme.M" : Text), some ("acme.M" : Text)),
        (some ("Acme.M/N" : Text), some ("acme.M.N" : Text)),
        (some ("Acme.M/Types/N" : Text), some ("acme.M.N" : Text))]] := by
  rw [outcome_rebuild, outcome_analyze_steps]
  cbv

/-- Two root types in the files, and two types in the one at the top, have one qualified
    name each. -/
theorem exists_clashes : ∃ r files, (rebuild clashingTypes).outcome = .ok (r, files) ∧
    (∃ f ∈ files, ∃ f' ∈ files, ∃ d d', f.DeclaresIn r.schema [] d ∧
      f'.DeclaresIn r.schema [] d' ∧ d.fullName = some "Acme.H/M" ∧
      d'.fullName = some "Acme.M" ∧ r.schema.typeName d.fullName = .ok "acme.M" ∧
      r.schema.typeName d'.fullName = .ok "acme.M") ∧
    r.schema.typeName (some "Acme.M/N") = .ok "acme.M.N" ∧
    r.schema.typeName (some "Acme.M/Types/N") = .ok "acme.M.N" := by
  have hnames := messageNames_clashingTypes
  unfold messageNames at hnames
  split at hnames
  · rename_i r files hok
    obtain ⟨m, rest, hroots, hm, hrest⟩ := List.map_eq_cons_iff.mp (Option.some.inj hnames)
    obtain ⟨m', rest', rfl, hm', -⟩ := List.map_eq_cons_iff.mp hrest
    obtain ⟨f, hf, hfm⟩ := List.mem_flatMap.mp (hroots ▸ List.mem_cons_self)
    obtain ⟨f', hf', hfm'⟩ := List.mem_flatMap.mp
      (hroots ▸ List.mem_cons_of_mem m List.mem_cons_self)
    rw [List.map_cons, List.cons.injEq, Prod.mk.injEq] at hm hm'
    obtain ⟨⟨hname, htype⟩, -⟩ := hm
    obtain ⟨⟨hname', htype'⟩, hnested⟩ := hm'
    obtain ⟨n, ns, -, hn, hns⟩ := List.map_eq_cons_iff.mp hnested
    obtain ⟨n', ns', -, hn', -⟩ := List.map_eq_cons_iff.mp hns
    obtain ⟨rfl, htypen⟩ := Prod.mk.inj hn
    obtain ⟨rfl, htypen'⟩ := Prod.mk.inj hn'
    exact ⟨r, files, hok, ⟨f, hf, f', hf', .message m, .message m', Or.inl ⟨m, hfm, .self m⟩,
      Or.inl ⟨m', hfm', .self m'⟩, hname, hname', eq_ok_of_toOption htype,
      eq_ok_of_toOption htype'⟩, eq_ok_of_toOption htypen, eq_ok_of_toOption htypen'⟩
  · cases hnames

/-- The class around the one message `M` is not part of its qualified name, and the
    container class is not part of that of the one message `N`. -/
theorem holders_not_in_typeName :
    Assembly.load clashingNames = .ok clashingTypes ∧ ∃ r files,
      (rebuild clashingTypes).outcome = .ok (r, files) ∧
      (∃ f ∈ files, ∃ f' ∈ files, ∃ d d', f.DeclaresIn r.schema [] d ∧
        f'.DeclaresIn r.schema [] d' ∧ d.fullName ≠ d'.fullName ∧
        r.schema.typeName d.fullName = .ok "acme.M" ∧
        r.schema.typeName d'.fullName = .ok "acme.M") ∧
      r.schema.typeName (some "Acme.M/N") = r.schema.typeName (some "Acme.M/Types/N") := by
  obtain ⟨r, files, hok, ⟨f, hf, f', hf', d, d', hd, hd', hname, hname', htype, htype'⟩, hn,
    hn'⟩ := exists_clashes
  refine ⟨load_clashingNames, r, files, hok,
    ⟨f, hf, f', hf', d, d', hd, hd', ?_, htype, htype'⟩, hn.trans hn'.symm⟩
  rw [hname, hname']
  decide

/-- The names in the document are plain, but not those of the root types of one package
    all different. -/
theorem rebuild_typeName_distinct_iff_clashing :
    Assembly.load clashingNames = .ok clashingTypes ∧ ∃ r files,
      (rebuild clashingTypes).outcome = .ok (r, files) ∧
      (∀ f ∈ files, ∀ blocks d, f.DeclaresIn r.schema blocks d →
        Plain (blocks.map (·.name) ++ [d.name])) ∧
      NamedInPlace r.schema files ∧ ¬ Distinct r.schema files ∧
      ¬ Unambiguous r.schema files := by
  obtain ⟨r, files, hok, ⟨f, hf, f', hf', d, d', hd, hd', hname, hname', htype, htype'⟩, -⟩ :=
    exists_clashes
  have hcontainer : ∀ t ∈ clashingTypes.allTypes, t.name = some typesContainer →
      t.interfaces = some [] := by
    decide
  have hplain := plain_of_types (Assembly.named_of_load load_clashingNames) hok (by decide)
    fun t ht himp hname => not_message_of_no_interfaces (hcontainer t ht hname) himp
  obtain ⟨hplace, hiff⟩ := rebuild_typeName_distinct_iff load_clashingNames hok hplain
  have hclash : ¬ Distinct r.schema files := by
    intro hdistinct
    refine hdistinct f hf f' hf' [] [] d d' hd hd' ?_ (htype.trans htype'.symm)
    rw [hname, hname']
    decide
  exact ⟨load_clashingNames, r, files, hok, hplain, hplace, hclash, fun h => hclash (hiff.mpr h)⟩

end Recovery

end SchemaRecovery
