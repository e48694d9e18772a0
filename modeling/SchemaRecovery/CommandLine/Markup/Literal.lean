/-
  SchemaRecovery.CommandLine.Markup.Literal

  Literals: numbers, quoted texts, constants, and tuples, sets and maps of
  literals. A text is checked for being a literal token by token, with a stack
  of the brackets that are open.
-/
import SchemaRecovery.CommandLine.Markup.Literal.Token

namespace SchemaRecovery.CommandLine.Markup.Literal

/-- What a part of a literal is worth to what stands around it. -/
inductive Shape where
  /-- A number without a sign. -/
  | number (imaginary : Bool)
  /-- A number with a sign. -/
  | signed (imaginary : Bool)
  /-- A quoted text, which another one may follow. -/
  | quoted (bytes : Bool)
  /-- The word for a set, which brackets must follow. -/
  | setWord
  /-- Any other value; only a fixed one may be a key or in a set. -/
  | value (fixed : Bool)

/-- The value may be a key or in a set. -/
def Shape.isFixed : Shape → Bool
  | .value fixed => fixed
  | _ => true

/-- The shape in round brackets. -/
def Shape.enclosed : Shape → Shape
  | .quoted _ => .value true
  | s => s

/-- What has been read of a value. -/
inductive Progress where
  | nothing
  | sign
  | done (s : Shape)
  /-- A real number and a sign after it. -/
  | realPart

/-- The value that has been read, if it is whole. -/
def Progress.value? : Progress → Option Shape
  | .done .setWord => none
  | .done s => some s
  | _ => none

/-- A bracket that is open: round around a value or a tuple, round after the
word for a set, or curly. -/
inductive Bracket where
  | round
  | call
  | curly
  deriving DecidableEq

/-- What the values in brackets are. -/
inductive Content where
  /-- One value so far, and no mark after it. -/
  | single
  /-- Values of a tuple, all fixed or not. -/
  | tuple (fixed : Bool)
  | set
  /-- Keys and values of a map, a key being next. -/
  | key
  /-- Keys and values of a map, a value being next. -/
  | entry

/-- What is open: the bracket, if any, what has been read in it, and the value
that is being read. -/
structure Level where
  bracket : Option Bracket
  content : Content := .single
  progress : Progress := .nothing

namespace Level

/-- Reads a whole operand. -/
def operand (l : Level) (s : Shape) : Option Level :=
  match l.progress, s with
  | .nothing, s => some { l with progress := .done s }
  | .sign, .number imaginary => some { l with progress := .done (.signed imaginary) }
  | .realPart, .number true => some { l with progress := .done (.value true) }
  | .done (.quoted a), .quoted b => if a = b then some l else none
  | _, _ => none

/-- Reads a sign, before a number or between two. -/
def sign (l : Level) : Option Level :=
  match l.progress with
  | .nothing => some { l with progress := .sign }
  | .done (.number false) | .done (.signed false) => some { l with progress := .realPart }
  | _ => none

/-- Reads a comma. -/
def comma (l : Level) : Option Level := do
  let s ← l.progress.value?
  let content ←
    match l.bracket, l.content with
    | some .curly, .single | some .curly, .set => if s.isFixed then some .set else none
    | some .curly, .entry => some .key
    | some .curly, _ | some .call, _ => none
    | _, .tuple fixed => some (.tuple (fixed && s.isFixed))
    | _, _ => some (.tuple s.isFixed)
  return { l with content, progress := .nothing }

/-- Reads a colon. -/
def colon (l : Level) : Option Level := do
  let s ← l.progress.value?
  match l.bracket, l.content with
  | some .curly, .single | some .curly, .key =>
    if s.isFixed then some { l with content := .entry, progress := .nothing } else none
  | _, _ => none

/-- What the brackets hold when they are closed. -/
def close? (l : Level) : Option Shape :=
  match l.bracket, l.content, l.progress with
  | some .call, .single, .nothing => some (.value false)
  | some .call, _, _ => none
  | some .curly, .single, .nothing => some (.value false)
  | some .curly, .set, .nothing | some .curly, .key, .nothing => some (.value false)
  | some .curly, .single, p | some .curly, .set, p =>
    p.value?.bind fun s => if s.isFixed then some (.value false) else none
  | some .curly, .entry, p => p.value?.map fun _ => .value false
  | some .curly, _, _ => none
  | some .round, .single, .nothing => some (.value true)
  | _, .single, .done s => some s.enclosed
  | _, .tuple fixed, .nothing => some (.value fixed)
  | _, .tuple fixed, p => p.value?.map fun s => .value (fixed && s.isFixed)
  | _, _, _ => none

end Level

/-- What has been read: the innermost level, those around it, and whether the
line of the literal has ended. -/
structure Reading where
  level : Level := { bracket := none }
  outer : List Level := []
  ended : Bool := false

/-- How many brackets may be open at once. -/
def maxDepth : Nat := 200

namespace Reading

/-- Opens a bracket. Round ones may follow the word for a set. -/
def push (r : Reading) (b : Bracket) : Option Reading :=
  if r.outer.length < maxDepth then
    some { r with level := { bracket := some b }, outer := r.level :: r.outer }
  else none

/-- Closes a bracket, of which `isMatch` holds. -/
def pop (r : Reading) (isMatch : Bracket → Bool) : Option Reading := do
  let b ← r.level.bracket
  let s ← r.level.close?
  match r.outer with
  | [] => none
  | l :: outer =>
    if !isMatch b then none
    else if b = .call then some { r with level := { l with progress := .done s }, outer }
    else return { r with level := ← l.operand s, outer }

/-- Reads a mark. -/
def mark (r : Reading) : Char → Option Reading
  | '(' =>
    match r.level.progress with
    | .done .setWord => r.push .call
    | _ => r.push .round
  | ')' => r.pop (· ≠ .curly)
  | '{' => r.push .curly
  | '}' => r.pop (· = .curly)
  | ',' => return { r with level := ← r.level.comma }
  | ':' => return { r with level := ← r.level.colon }
  | _ => return { r with level := ← r.level.sign }

/-- Nothing has been read. -/
def isFresh (r : Reading) : Bool :=
  match r.level with
  | ⟨none, .single, .nothing⟩ => true
  | _ => false

/-- Reads a token. Line ends mean nothing in brackets; outside they may stand
before and after the literal. -/
def step (r : Reading) (t : Token) : Option Reading :=
  match t with
  | .lineEnd indented =>
    if !r.outer.isEmpty then some r
    else if r.isFresh then if indented then none else some r
    else some { r with ended := true }
  | t =>
    if r.ended then none
    else
      match t with
      | .mark c => r.mark c
      | .number imaginary => return { r with level := ← r.level.operand (.number imaginary) }
      | .quoted bytes => return { r with level := ← r.level.operand (.quoted bytes) }
      | .setWord => return { r with level := ← r.level.operand .setWord }
      | _ => return { r with level := ← r.level.operand (.value true) }

/-- All brackets are closed and what has been read is a literal. -/
def isWhole (r : Reading) : Bool :=
  r.outer.isEmpty &&
    match r.level.close? with
    | some .setWord | none => false
    | some _ => true

end Reading

/-- Carriage returns, also before a line feed, end lines as line feeds do. -/
def withLineFeeds : Text → Text
  | .char '\r' :: .char '\n' :: rest => .char '\n' :: withLineFeeds rest
  | .char '\r' :: rest => .char '\n' :: withLineFeeds rest
  | c :: rest => c :: withLineFeeds rest
  | [] => []

end SchemaRecovery.CommandLine.Markup.Literal

namespace SchemaRecovery.CommandLine.Markup

/-- The text is a literal. -/
def isLiteral (s : Text) : Bool :=
  ((Literal.tokens? (Literal.withLineFeeds s)).bind fun ts =>
    ts.foldlM Literal.Reading.step {}).any Literal.Reading.isWhole

end SchemaRecovery.CommandLine.Markup
