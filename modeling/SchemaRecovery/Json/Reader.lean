/-
  SchemaRecovery.Json.Reader

  Reading a JSON document. Blanks are space, tab and the two line ends only; a
  control character inside a string is refused; the words `NaN`, `Infinity`
  and `-Infinity` are numbers; of members with one key the last counts, at the
  place of the first. Arrays and objects may be nested to a fixed depth.
-/
import SchemaRecovery.Container.Registry
import SchemaRecovery.Json.Basic
import SchemaRecovery.Number.IntegerText

namespace SchemaRecovery.Json

/-- Why a text is not read. -/
inductive ReadError where
  | invalid
  | integerTooLong
  | tooDeep
  deriving DecidableEq

namespace Reader

/-- A blank between the parts of a document. -/
def isBlank (c : Char) : Bool := c = ' ' || c = '\t' || c = '\n' || c = '\r'

/-- The text after the blanks it begins with. -/
def skip (cs : Text) : Text := cs.dropWhile fun c => c.holds isBlank

/-! ## Strings -/

/-- The code unit that four hexadecimal digits give. -/
def codeUnit? (a b c d : Char) : Option Nat := do
  let a ← Text.hexValue? a
  let b ← Text.hexValue? b
  let c ← Text.hexValue? c
  let d ← Text.hexValue? d
  return ((a * 16 + b) * 16 + c) * 16 + d

/-- The character after a backslash that needs no digits. -/
def simpleEscape? : Char → Option Char
  | '"' => some '"'
  | '\\' => some '\\'
  | '/' => some '/'
  | 'b' => some '\x08'
  | 'f' => some '\x0c'
  | 'n' => some '\n'
  | 'r' => some '\r'
  | 't' => some '\t'
  | _ => none

/-- A first half of a character beyond the 16-bit range. -/
def isHighHalf (n : Nat) : Bool := 0xd800 ≤ n && n < 0xdc00

/-- A second half of a character beyond the 16-bit range. -/
def isLowHalf (n : Nat) : Bool := 0xdc00 ≤ n && n < 0xe000

/-- A code point read from an escape, or one that stands for itself. -/
inductive StringPart where
  | escaped (n : Nat)
  | plain (c : CodePoint)

/-- Joins the escaped halves that stand together; other halves are kept. -/
def joinHalves : List StringPart → Text
  | [] => []
  | .escaped h :: .escaped l :: rest =>
    if isHighHalf h && isLowHalf l then
      .char (Char.ofNat (0x10000 + (h - 0xd800) * 0x400 + (l - 0xdc00))) :: joinHalves rest
    else CodePoint.ofNat h :: joinHalves (.escaped l :: rest)
  | .escaped n :: rest => CodePoint.ofNat n :: joinHalves rest
  | .plain c :: rest => c :: joinHalves rest

/-- The parts of a string up to its closing quote. -/
def stringParts : Text → Except ReadError (List StringPart × Text)
  | [] => .error .invalid
  | .char '"' :: rest => .ok ([], rest)
  | .char '\\' :: .char 'u' :: .char a :: .char b :: .char c :: .char d :: rest =>
    match codeUnit? a b c d with
    | none => .error .invalid
    | some n => do
      let (parts, rest) ← stringParts rest
      return (.escaped n :: parts, rest)
  | .char '\\' :: .char e :: rest =>
    match simpleEscape? e with
    | none => .error .invalid
    | some x => do
      let (parts, rest) ← stringParts rest
      return (.plain x :: parts, rest)
  | c :: rest =>
    if c.toNat < 0x20 || c = .char '\\' then .error .invalid
    else do
      let (parts, rest) ← stringParts rest
      return (.plain c :: parts, rest)

/-- The string whose opening quote has been read. -/
def stringBody (cs : Text) : Except ReadError (Text × Text) := do
  let (parts, rest) ← stringParts cs
  return (joinHalves parts, rest)

/-! ## Numbers -/

/-- The digits at the front of a text, and what follows them. -/
def digitRun (cs : Text) : Text × Text :=
  (cs.takeWhile Text.isPlainDigit, cs.dropWhile Text.isPlainDigit)

/-- The digits before the point: a zero alone, or digits that do not begin
with one. -/
def wholeDigits? : Text → Option (Text × Text)
  | .char '0' :: rest => some ([.char '0'], rest)
  | c :: rest =>
    if Text.isPlainDigit c then some (c :: (digitRun rest).1, (digitRun rest).2) else none
  | [] => none

/-- The digits after a point, when there are any. -/
def places? : Text → Option (Text × Text)
  | .char '.' :: c :: rest =>
    if Text.isPlainDigit c then some (c :: (digitRun rest).1, (digitRun rest).2) else none
  | _ => none

/-- An exponent, when there is one. -/
def power? : Text → Option (Int × Text)
  | e :: rest =>
    if e = .char 'e' || e = .char 'E' then
      let (negative, rest) :=
        match rest with
        | .char '-' :: r => (true, r)
        | .char '+' :: r => (false, r)
        | r => (false, r)
      match (digitRun rest).1 with
      | [] => none
      | ds =>
        let n : Int := Text.plainNumber ds
        some (if negative then -n else n, (digitRun rest).2)
    else none
  | [] => none

/-- The number after an optional minus. With a point or an exponent it is a
floating-point number, else a whole one. -/
def unsigned (negative : Bool) (cs : Text) : Except ReadError (Json × Text) :=
  match wholeDigits? cs with
  | none => .error .invalid
  | some (whole, rest) =>
    match places? rest, power? (((places? rest).map (·.2)).getD rest) with
    | none, none =>
      if maxDigits < whole.length then .error .integerTooLong
      else
        let n : Int := Text.plainNumber whole
        .ok (.int (if negative then -n else n), rest)
    | places, power =>
      let fraction := (places.map (·.1)).getD []
      let after := (places.map (·.2)).getD rest
      let e := (power.map (·.1)).getD 0
      let after := (power.map (·.2)).getD after
      .ok (.float (Binary64.ofDecimal negative (Text.plainNumber (whole ++ fraction))
        (e - fraction.length)), after)

/-! ## Values -/

/-- The text after the word `w`, when the text begins with it. -/
def afterWord? (w cs : Text) : Option Text :=
  if w.isPrefixOf cs then some (cs.drop w.length) else none

/-- The values that are words. -/
def wordValues : List (Text × Json) :=
  [("null", .null), ("true", .bool true), ("false", .bool false), ("NaN", .float .nan),
    ("Infinity", .float (.infinite false)), ("-Infinity", .float (.infinite true))]

/-- A value that is one word or one number. -/
def atom (cs : Text) : Except ReadError (Json × Text) :=
  match wordValues.findSome? fun w => (afterWord? w.1 cs).map fun rest => (w.2, rest) with
  | some r => .ok r
  | none =>
    match cs with
    | .char '-' :: rest => unsigned true rest
    | _ => unsigned false cs

/-- The members of an object, each key once: at the place of its first
member, with the value of its last. -/
def lastMembers (members : List (Text × Json)) : List (Text × Json) :=
  members.foldl (fun acc m => Registry.store m.1 m.2 acc) []

mutual

/-- A value, blanks before it skipped. `room` is how many arrays and objects
may still be nested, the second argument bounds the depth of the recursion. -/
def value (room : Nat) : Nat → Text → Except ReadError (Json × Text)
  | 0, _ => .error .invalid
  | n + 1, cs =>
    match skip cs with
    | .char '"' :: rest => do
      let (s, rest) ← stringBody rest
      return (.str s, rest)
    | .char '[' :: rest =>
      if room = 0 then .error .tooDeep
      else
        match skip rest with
        | .char ']' :: rest => .ok (.arr [], rest)
        | rest => do
          let (vs, rest) ← items (room - 1) n rest
          return (.arr vs, rest)
    | .char '{' :: rest =>
      if room = 0 then .error .tooDeep
      else
        match skip rest with
        | .char '}' :: rest => .ok (.obj [], rest)
        | rest => do
          let (ms, rest) ← members (room - 1) n rest
          return (.obj (lastMembers ms), rest)
    | cs => atom cs

/-- The items of an array that has some, and its closing bracket. -/
def items (room : Nat) : Nat → Text → Except ReadError (List Json × Text)
  | 0, _ => .error .invalid
  | n + 1, cs => do
    let (v, rest) ← value room n cs
    match skip rest with
    | .char ',' :: rest => do
      let (vs, rest) ← items room n rest
      return (v :: vs, rest)
    | .char ']' :: rest => return ([v], rest)
    | _ => .error .invalid

/-- The members of an object that has some, and its closing brace. -/
def members (room : Nat) : Nat → Text → Except ReadError (List (Text × Json) × Text)
  | 0, _ => .error .invalid
  | n + 1, cs =>
    match skip cs with
    | .char '"' :: rest => do
      let (k, rest) ← stringBody rest
      match skip rest with
      | .char ':' :: rest => do
        let (v, rest) ← value room n rest
        match skip rest with
        | .char ',' :: rest => do
          let (ms, rest) ← members room n rest
          return ((k, v) :: ms, rest)
        | .char '}' :: rest => return ([(k, v)], rest)
        | _ => .error .invalid
      | _ => .error .invalid
    | _ => .error .invalid

end

end Reader

/-- How many arrays and objects may be nested in each other. -/
def maxNesting : Nat := 990

/-- The value of a document. Each step of the reader takes a code point or
follows one that did, so twice the length bounds its depth. -/
def read (text : Text) : Except ReadError Json := do
  let (v, rest) ← Reader.value maxNesting (2 * text.length + 2) text
  match Reader.skip rest with
  | [] => return v
  | _ => .error .invalid

end SchemaRecovery.Json
