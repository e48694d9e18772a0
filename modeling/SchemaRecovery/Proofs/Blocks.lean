/-
  SchemaRecovery.Proofs.Blocks

  Where the text of a file declares a type. A type is in a file as one of its root
  types or inside one of its messages, with a row of messages around it
  (`OutputFile.DeclaresIn`). A message is rendered as a block: the line of the
  message, lines that are indented deeper, and the first closing line of its own
  depth. In the text of a file the line of a type stands inside the blocks of the
  messages around it, one in the other (`enclosed_of_render`).
-/
import SchemaRecovery.OutputFile.Render
import SchemaRecovery.Proofs.Nesting

namespace SchemaRecovery

/-! ## Places -/

/-- A message or an enum. -/
inductive Declaration where
  | message (m : MessageType)
  | enum (e : EnumType)

namespace Declaration

/-- The full name of the type. -/
def fullName : Declaration → Label
  | message m => m.fullName
  | enum e => e.fullName

/-- The name of the type. -/
def name : Declaration → Label
  | message m => m.name
  | enum e => e.name

/-- The namespace of the type. -/
def ns : Declaration → Label
  | message m => m.ns
  | enum e => e.ns

/-- The full name of the outermost message around the type. -/
def rootMessage : Declaration → Label
  | message m => m.rootMessage
  | enum e => e.rootMessage

/-- The line that opens the declaration, as it stands at the top. -/
def header : Declaration → Text
  | message m => "message " ++ m.name.text ++ " \x7b"
  | enum e => "enum " ++ e.name.text ++ " \x7b"

end Declaration

/-- The message is or holds the declaration, at any depth. The messages around the
    declaration are listed, outermost first. -/
inductive Schema.Inside (s : Schema) : MessageType → List MessageType → Declaration → Prop
  | self (m : MessageType) : Inside s m [] (.message m)
  | enum {m : MessageType} {n : Label} {e : EnumType} (hn : n ∈ m.nestedEnums)
      (he : s.enum n = .ok e) : Inside s m [m] (.enum e)
  | nested {m m' : MessageType} {n : Label} {blocks : List MessageType} {d : Declaration}
      (hn : n ∈ m.nestedMessages) (hm' : s.message n = .ok m') (h : Inside s m' blocks d) :
      Inside s m (m :: blocks) d

namespace OutputFile

variable {s : Schema}

/-- The file declares a type, inside the messages that are listed, outermost
    first. -/
def DeclaresIn (s : Schema) (f : OutputFile) (blocks : List MessageType) (d : Declaration) :
    Prop :=
  (∃ m ∈ f.messages, s.Inside m blocks d) ∨ (blocks = [] ∧ ∃ e ∈ f.enums, d = .enum e)

/-- Among the lines, which begin at the depth, the header stands inside the blocks
    of the messages, each in the one before. A block ends at the first closing line
    of its depth. -/
def Enclosed (header : Text) : (depth : Nat) → List MessageType → (lines : List Text) → Prop
  | depth, [], lines => indented depth header ∈ lines
  | depth, m :: blocks, lines => ∃ before body after,
      lines = before ++ indented depth (Declaration.message m).header :: body ++
        indented depth "\x7d" :: after ∧
      indented depth "\x7d" ∉ body ∧ Enclosed header (depth + 1) blocks body

theorem Enclosed.mono {header : Text} {depth : Nat} {blocks : List MessageType}
    {part lines : List Text} (h : Enclosed header depth blocks part) (hpart : part <:+: lines) :
    Enclosed header depth blocks lines := by
  cases blocks with
  | nil => exact hpart.subset h
  | cons m blocks =>
      obtain ⟨left, right, rfl⟩ := hpart
      obtain ⟨before, body, after, rfl, hbody, hinner⟩ := h
      refine ⟨left ++ before, body, after ++ right, ?_, hbody, hinner⟩
      simp only [List.append_assoc, List.cons_append]

/-! ## Depth of lines -/

/-- The lines are blank or indented as deep as that. -/
def AtDepth (depth : Nat) (lines : List Text) : Prop :=
  ∀ line ∈ lines, line = blankLine ∨ ∃ rest, line = indented depth rest

theorem indented_succ (depth : Nat) (line : Text) :
    indented (depth + 1) line = indented depth ("  " ++ line) := by
  unfold indented
  rw [List.replicate_succ', List.flatten_append]
  simp

theorem AtDepth.of_succ {depth : Nat} {lines : List Text} (h : AtDepth (depth + 1) lines) :
    AtDepth depth lines := by
  intro line hline
  refine (h line hline).imp_right ?_
  rintro ⟨rest, rfl⟩
  exact ⟨_, indented_succ depth rest⟩

theorem AtDepth.append {depth : Nat} {lines lines' : List Text} (h : AtDepth depth lines)
    (h' : AtDepth depth lines') : AtDepth depth (lines ++ lines') :=
  List.forall_mem_append.mpr ⟨h, h'⟩

theorem AtDepth.flatten {depth : Nat} {parts : List (List Text)}
    (h : ∀ part ∈ parts, AtDepth depth part) : AtDepth depth parts.flatten := by
  intro line hline
  obtain ⟨part, hpart, hline⟩ := List.mem_flatten.mp hline
  exact h part hpart line hline

theorem AtDepth.indented (depth : Nat) (lines : List Text) :
    AtDepth depth (lines.map (indented depth)) := by
  intro line hline
  obtain ⟨rest, -, rfl⟩ := List.mem_map.mp hline
  exact Or.inr ⟨rest, rfl⟩

/-- What opens a type is no deeper than the type. -/
theorem AtDepth.block {depth : Nat} {header : Text} {body : List Text}
    (h : AtDepth (depth + 1) body) :
    AtDepth depth ([blankLine, OutputFile.indented depth header] ++ body ++
      [OutputFile.indented depth "\x7d"]) := by
  refine AtDepth.append (AtDepth.append ?_ h.of_succ) (AtDepth.indented depth [_])
  intro line hline
  rcases List.mem_cons.mp hline with rfl | hline
  · exact Or.inl rfl
  · exact AtDepth.indented depth [header] line hline

/-- No line inside a block closes it. -/
theorem AtDepth.closing_not_mem {depth : Nat} {body : List Text} (h : AtDepth (depth + 1) body) :
    OutputFile.indented depth "\x7d" ∉ body := by
  intro hclose
  rcases h _ hclose with hblank | ⟨rest, hrest⟩
  · have hlen := congrArg List.length hblank
    unfold OutputFile.indented at hlen
    rw [List.length_append] at hlen
    cases hlen
  · rw [indented_succ] at hrest
    cases List.append_cancel_left hrest

/-! ## Lines of types -/

theorem enumLines_eq_ok {depth : Nat} {e : EnumType} {lines : List Text}
    (h : enumLines depth e = .ok lines) :
    AtDepth depth lines ∧ indented depth (Declaration.enum e).header ∈ lines := by
  unfold enumLines at h
  obtain ⟨values, -, h⟩ := bind_eq_ok.mp h
  obtain rfl := Except.ok.inj h
  exact ⟨(AtDepth.indented (depth + 1) values).block, by simp [Declaration.header]⟩

theorem atDepth_oneofLines {m : MessageType} {depth : Nat} {o : Oneof} {lines : List Text}
    (h : (oneofLines s m depth o).outcome = .ok lines) : AtDepth depth lines := by
  unfold oneofLines at h
  obtain ⟨members, -, h⟩ := Logged.outcome_bind_eq_ok.mp h
  obtain rfl := Except.ok.inj h
  refine AtDepth.append (AtDepth.append ?_ (AtDepth.indented (depth + 1) members).of_succ) ?_
  · exact AtDepth.indented depth [_]
  · exact AtDepth.indented depth [_]

/-- The lines of a message: those of its fields and oneofs, of the enums in it and of
    the messages in it, in a block. -/
theorem messageLines_eq_ok {bound depth : Nat} {m : MessageType} {lines : List Text}
    (h : (messageLines s (bound + 1) depth m).outcome = .ok lines) :
    ∃ members es enums ms nested, AtDepth (depth + 1) members ∧
      m.nestedEnums.mapM s.enum = .ok es ∧ es.mapM (enumLines (depth + 1)) = .ok enums ∧
      m.nestedMessages.mapM s.message = .ok ms ∧
      ms.mapM (fun x => (messageLines s bound (depth + 1) x).outcome) = .ok nested ∧
      lines = [blankLine, indented depth (Declaration.message m).header] ++
        (members ++ enums.flatten ++ nested.flatten) ++ [indented depth "\x7d"] := by
  rw [messageLines] at h
  obtain ⟨fields, -, h⟩ := Logged.outcome_bind_eq_ok.mp h
  obtain ⟨oneofs, honeofs, h⟩ := Logged.outcome_bind_eq_ok.mp h
  obtain ⟨es, hes, h⟩ := Logged.outcome_bind_eq_ok.mp h
  obtain ⟨enums, henums, h⟩ := Logged.outcome_bind_eq_ok.mp h
  obtain ⟨ms, hms, h⟩ := Logged.outcome_bind_eq_ok.mp h
  obtain ⟨nested, hnested, h⟩ := Logged.outcome_bind_eq_ok.mp h
  rw [Logged.outcome_mapM] at honeofs hes henums hms hnested
  refine ⟨fields.map (indented (depth + 1)) ++ oneofs.flatten, es, enums, ms, nested, ?_, hes,
    henums, hms, hnested, ?_⟩
  · refine (AtDepth.indented _ _).append (AtDepth.flatten fun part hpart => ?_)
    obtain ⟨o, -, ho⟩ := exists_of_mem_mapM honeofs hpart
    exact atDepth_oneofLines ho
  · obtain rfl := Except.ok.inj h
    simp [Declaration.header]

theorem atDepth_body {depth : Nat} {members : List Text} {es : List EnumType}
    {enums nested : List (List Text)} (hmembers : AtDepth depth members)
    (henums : es.mapM (enumLines depth) = .ok enums)
    (hnested : ∀ part ∈ nested, AtDepth depth part) :
    AtDepth depth (members ++ enums.flatten ++ nested.flatten) := by
  refine (hmembers.append (AtDepth.flatten fun part hpart => ?_)).append (AtDepth.flatten hnested)
  obtain ⟨e, -, he⟩ := exists_of_mem_mapM henums hpart
  exact (enumLines_eq_ok he).1

theorem atDepth_messageLines {bound depth : Nat} {m : MessageType} {lines : List Text}
    (h : (messageLines s bound depth m).outcome = .ok lines) : AtDepth depth lines := by
  induction bound generalizing depth m lines with
  | zero =>
      obtain rfl := Except.ok.inj h
      exact fun line hline => absurd hline List.not_mem_nil
  | succ bound ih =>
      obtain ⟨members, es, enums, ms, nested, hmembers, -, henums, -, hnested, rfl⟩ :=
        messageLines_eq_ok h
      refine (atDepth_body hmembers henums fun part hpart => ?_).block
      obtain ⟨x, -, hx⟩ := exists_of_mem_mapM hnested hpart
      exact ih hx

/-! ## Blocks around declarations -/

/-- The block of a message has a body in which the lines of every enum and of every
    message in it stand together. -/
theorem messageLines_block {bound depth : Nat} {m : MessageType} {lines : List Text}
    (h : (messageLines s (bound + 1) depth m).outcome = .ok lines) :
    ∃ body, lines = [blankLine] ++ indented depth (Declaration.message m).header :: body ++
        [indented depth "\x7d"] ∧ indented depth "\x7d" ∉ body ∧
      (∀ n ∈ m.nestedEnums, ∀ e, s.enum n = .ok e →
        ∃ part, enumLines (depth + 1) e = .ok part ∧ part <:+: body) ∧
      ∀ n ∈ m.nestedMessages, ∀ m', s.message n = .ok m' →
        ∃ part, (messageLines s bound (depth + 1) m').outcome = .ok part ∧ part <:+: body := by
  obtain ⟨members, es, enums, ms, nested, hmembers, hes, henums, hms, hnested, rfl⟩ :=
    messageLines_eq_ok h
  have hdepth := atDepth_body hmembers henums fun part hpart => by
    obtain ⟨x, -, hx⟩ := exists_of_mem_mapM hnested hpart
    exact atDepth_messageLines hx
  refine ⟨_, rfl, hdepth.closing_not_mem, ?_, ?_⟩
  · intro n hn e he
    obtain ⟨part, hpart, hlines⟩ := exists_mem_of_mapM henums ((mem_mapM_iff hes).mpr ⟨n, hn, he⟩)
    exact ⟨part, hlines, (List.infix_of_mem_flatten hpart).trans ⟨members, nested.flatten, rfl⟩⟩
  · intro n hn m' hm'
    obtain ⟨part, hpart, hlines⟩ :=
      exists_mem_of_mapM hnested ((mem_mapM_iff hms).mpr ⟨n, hn, hm'⟩)
    exact ⟨part, hlines, (List.infix_of_mem_flatten hpart).trans (List.suffix_append _ _).isInfix⟩

/-- A declaration stands inside the blocks of the messages around it, if the message
    may be rendered as deep as messages are nested in it. -/
theorem enclosed_of_messageLines (hs : s.WellNested) {m : MessageType}
    {blocks : List MessageType} {d : Declaration} (h : s.Inside m blocks d)
    (hm : s.messages.find? m.fullName = some m) {bound depth : Nat} {lines : List Text}
    (hbound : ∀ rest, (m.fullName :: rest).IsChain s.Nested → rest.length < bound)
    (hlines : (messageLines s bound depth m).outcome = .ok lines) :
    Enclosed d.header depth blocks lines := by
  -- Induction on the way down: the lines of a nested message are part of the body.
  induction h generalizing bound depth lines with
  | self m =>
      obtain ⟨bound, rfl⟩ := Nat.exists_eq_add_one.mpr (hbound [] (List.isChain_singleton _))
      obtain ⟨body, rfl, -⟩ := messageLines_block hlines
      simp [Enclosed]
  | @enum m n e hn he =>
      obtain ⟨bound, rfl⟩ := Nat.exists_eq_add_one.mpr (hbound [] (List.isChain_singleton _))
      obtain ⟨body, rfl, hclose, henums, -⟩ := messageLines_block hlines
      obtain ⟨part, hpart, hwithin⟩ := henums n hn e he
      exact ⟨_, body, [], rfl, hclose, hwithin.subset (enumLines_eq_ok hpart).2⟩
  | @nested m m' n blocks d hn hm' _ ih =>
      obtain ⟨bound, rfl⟩ := Nat.exists_eq_add_one.mpr (hbound [] (List.isChain_singleton _))
      obtain ⟨body, rfl, hclose, -, hmessages⟩ := messageLines_block hlines
      obtain ⟨part, hpart, hwithin⟩ := hmessages n hn m' hm'
      have hfound := Schema.message_eq_ok_iff.mp hm'
      obtain rfl := hs.keyed_message hfound
      refine ⟨_, body, [], rfl, hclose, (ih hfound (fun rest hrest => ?_) hpart).mono hwithin⟩
      -- A chain below the nested message is one step longer from here.
      have hlen := hbound (m'.fullName :: rest) (List.isChain_cons_cons.mpr ⟨⟨m, hm, hn⟩, hrest⟩)
      rw [List.length_cons] at hlen
      omega

/-- In the text of a file the line of a declaration stands inside the blocks of the
    messages around it. -/
theorem enclosed_of_render (hs : s.WellNested) {f : OutputFile} {blocks : List MessageType}
    {d : Declaration} (hfound : ∀ m ∈ f.messages, s.messages.find? m.fullName = some m)
    (h : f.DeclaresIn s blocks d) {text : Text} (htext : (f.render s).outcome = .ok text) :
    ∃ lines, text = lines.flatMap (fun line => line ++ "\n") ∧
      Enclosed d.header 0 blocks lines := by
  unfold render at htext
  obtain ⟨messages, hmessages, htext⟩ := Logged.outcome_bind_eq_ok.mp htext
  obtain ⟨enums, henums, htext⟩ := Logged.outcome_bind_eq_ok.mp htext
  rw [Logged.outcome_mapM] at hmessages henums
  refine ⟨_, (Except.ok.inj htext).symm, ?_⟩
  rcases h with ⟨m, hm, hinside⟩ | ⟨rfl, e, he, rfl⟩
  · obtain ⟨part, hpart, hlines⟩ := exists_mem_of_mapM hmessages hm
    have hbound : ∀ rest, (m.fullName :: rest).IsChain s.Nested →
        rest.length < s.messages.size := by
      intro rest hrest
      have hlen := hs.length_le_of_chain (hfound m hm) hrest
      rw [List.length_cons] at hlen
      omega
    refine (enclosed_of_messageLines hs hinside (hfound m hm) hbound hlines).mono ?_
    exact (List.infix_of_mem_flatten hpart).trans ⟨f.headerLines, enums.flatten, rfl⟩
  · obtain ⟨part, hpart, hlines⟩ := exists_mem_of_mapM henums he
    have hwithin : part <:+: f.headerLines ++ messages.flatten ++ enums.flatten :=
      (List.infix_of_mem_flatten hpart).trans (List.suffix_append _ _).isInfix
    exact hwithin.subset (enumLines_eq_ok hlines).2

end OutputFile

end SchemaRecovery
