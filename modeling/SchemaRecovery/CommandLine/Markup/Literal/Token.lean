/-
  SchemaRecovery.CommandLine.Markup.Literal.Token

  The tokens of literals: numbers, quoted texts, constants and punctuation.
  Blanks, comments after `#` and line ends that a backslash hides part tokens
  and are no tokens themselves.
-/
import SchemaRecovery.Text.Affix
import SchemaRecovery.Text.Digit
import SchemaRecovery.Text.WordCharacter

namespace SchemaRecovery.CommandLine.Markup.Literal

/-- A token of a literal. -/
inductive Token where
  | number (imaginary : Bool)
  /-- A text in quotes, of characters or of bytes. -/
  | quoted (bytes : Bool)
  /-- A truth value, the void value, or three dots. -/
  | constant
  /-- The word for a set. -/
  | setWord
  | mark (c : Char)
  /-- The end of a line; the next line may be indented. -/
  | lineEnd (indented : Bool)
  deriving DecidableEq

/-- A code point that words are written with; every code point beyond the ASCII
range counts. -/
def isWordPart (c : CodePoint) : Bool := 128 ≤ c.toNat || c.holds Text.isPlainWordCharacter

/-! ## Numbers -/

/-- How many code points at the front are digits, each of which may have an
underscore before it. -/
def digitsLength (isDigit : Char → Bool) : Text → Nat
  | .char '_' :: d :: rest => if d.holds isDigit then 2 + digitsLength isDigit rest else 0
  | d :: rest => if d.holds isDigit then 1 + digitsLength isDigit rest else 0
  | [] => 0

/-- As `digitsLength` for decimal digits, the first without an underscore. -/
def plainDigitsLength (s : Text) : Nat :=
  if s.head?.any Text.isPlainDigit then digitsLength Char.isDigit s else 0

/-- The digits of numbers that begin with a zero and a letter. -/
def radixDigit? (letter : CodePoint) : Option (Char → Bool) :=
  if letter = .char 'x' || letter = .char 'X' then some fun c => (Text.hexValue? c).isSome
  else if letter = .char 'o' || letter = .char 'O' then some fun c => '0' ≤ c && c ≤ '7'
  else if letter = .char 'b' || letter = .char 'B' then some fun c => c = '0' || c = '1'
  else none

/-- The length of a fraction at the front, which may lack digits. -/
def fractionLength : Text → Nat
  | .char '.' :: rest => 1 + plainDigitsLength rest
  | _ => 0

/-- The length of an exponent at the front, which may not lack digits. -/
def exponentLength? : Text → Option Nat
  | e :: rest =>
    if e = .char 'e' || e = .char 'E' then
      let sign := if rest.head? = some (.char '+') || rest.head? = some (.char '-') then 1 else 0
      let digits := plainDigitsLength (rest.drop sign)
      if digits = 0 then none else some (1 + sign + digits)
    else some 0
  | [] => some 0

/-- The length of a decimal number at the front, and whether it is imaginary.
Only zero may begin with a zero, unless something follows the digits. -/
def decimal? (s : Text) : Option (Nat × Bool) := do
  let whole := plainDigitsLength s
  let fraction := fractionLength (s.drop whole)
  let exponent ← exponentLength? (s.drop (whole + fraction))
  let length := whole + fraction + exponent
  let unit := (s.drop length).head?
  if unit = some (.char 'j') || unit = some (.char 'J') then some (length + 1, true)
  else if length = whole && s.head? = some (.char '0') &&
      (s.take whole).any (fun c => c ≠ .char '0' && c ≠ .char '_') then none
  else some (length, false)

/-- The length of a number at the front, and whether it is imaginary. No word
may follow it directly. -/
def number? (s : Text) : Option (Nat × Bool) := do
  let radix := if s.head? = some (.char '0') then (s.drop 1).head?.bind radixDigit? else none
  let (length, imaginary) ←
    match radix with
    | some isDigit =>
      let digits := digitsLength isDigit (s.drop 2)
      if digits = 0 then none else some (2 + digits, false)
    | none => decimal? s
  if (s.drop length).head?.any isWordPart then none else some (length, imaginary)

/-! ## Quoted texts -/

/-- How a quoted text is written: the letters before it, whether backslashes
mean themselves, and whether it is of bytes. -/
structure Quoting where
  letters : Nat
  raw : Bool
  bytes : Bool

/-- The quoting that some letters ask for. -/
def quoting? (letters : Text) : Option Quoting :=
  if letters = [] || letters = "u" then some ⟨letters.length, false, false⟩
  else if letters = "r" then some ⟨1, true, false⟩
  else if letters = "b" then some ⟨1, false, true⟩
  else if letters = "br" || letters = "rb" then some ⟨2, true, true⟩
  else none

/-- A plain letter in lower case. -/
def lowered (c : CodePoint) : CodePoint :=
  match c with
  | .char x => .char x.toLower
  | .half n => .half n

/-- A quote. -/
def isQuote (c : CodePoint) : Bool := c = .char '"' || c = .char '\''

/-- The quoting of a text at the front. -/
def openingQuote? (s : Text) : Option (CodePoint × Quoting) := do
  let letters := s.takeWhile fun c => c.holds Char.isAlpha
  let quoting ← quoting? (letters.map lowered)
  let quote ← (s.drop letters.length).head?
  if isQuote quote then some (quote, quoting) else none

/-- The length of a text up to the quotes that close it. A text between single
quotes has one line. -/
def bodyLength? (quote : CodePoint) (triple : Bool) : Text → Option Nat
  | .char '\\' :: _ :: rest => (bodyLength? quote triple rest).map (· + 2)
  | c :: rest =>
    if c = quote && (!triple || rest.take 2 = [quote, quote]) then some 0
    else if c = .char '\n' && !triple then none
    else (bodyLength? quote triple rest).map (· + 1)
  | [] => none

/-- The first `n` code points are hexadecimal digits of a number up to `most`. -/
def hasCode (n most : Nat) (s : Text) : Bool :=
  let values := (s.take n).map fun
    | .char c => Text.hexValue? c
    | .half _ => none
  values.length = n && values.all Option.isSome &&
    values.foldl (fun code v => 16 * code + v.getD 0) 0 ≤ most

/-- The escapes in a text mean something. Codes of two digits can be escaped in
every text, longer ones in texts of characters. -/
def escapesHold (bytes : Bool) : Text → Bool
  | .char '\\' :: .char 'x' :: rest => hasCode 2 0xff rest && escapesHold bytes rest
  | .char '\\' :: .char 'u' :: rest => (bytes || hasCode 4 0xffff rest) && escapesHold bytes rest
  | .char '\\' :: .char 'U' :: rest => (bytes || hasCode 8 0x10ffff rest) && escapesHold bytes rest
  | .char '\\' :: .char 'N' :: rest => bytes && escapesHold bytes rest
  | .char '\\' :: _ :: rest => escapesHold bytes rest
  | _ :: rest => escapesHold bytes rest
  | [] => true

/-- The length of a quoted text at the front, and whether it is of bytes, which
are written with ASCII characters. -/
def quoted? (s : Text) : Option (Nat × Bool) := do
  let (quote, quoting) ← openingQuote? s
  let after := s.drop (quoting.letters + 1)
  let triple := after.take 2 = [quote, quote]
  let quotes := if triple then 3 else 1
  let body := s.drop (quoting.letters + quotes)
  let length ← bodyLength? quote triple body
  let text := body.take length
  if !(quoting.raw || escapesHold quoting.bytes text) then none
  else if quoting.bytes && text.any (fun c => 128 ≤ c.toNat) then none
  else some (quoting.letters + quotes + length + quotes, quoting.bytes)

/-! ## Tokens -/

/-- The token that a word is. -/
def word? (word : Text) : Option Token :=
  if word = "True" || word = "False" || word = "None" then some .constant
  else if word = "set" then some .setWord
  else none

/-- The marks between values. -/
def marks : List Char := ['(', ')', '{', '}', ',', ':', '+', '-']

/-- The token at the front and its length. -/
def token? (s : Text) : Option (Token × Nat) :=
  match openingQuote? s with
  | some _ => (quoted? s).map fun (length, bytes) => (.quoted bytes, length)
  | none =>
    let word := s.takeWhile isWordPart
    if s.head?.any Text.isPlainDigit ||
        (s.head? = some (.char '.') && (s.drop 1).head?.any Text.isPlainDigit) then
      (number? s).map fun (length, imaginary) => (.number imaginary, length)
    else if !word.isEmpty then (word? word).map fun t => (t, word.length)
    else if s.take 3 = "..." then some (.constant, 3)
    else
      match s with
      | .char c :: _ => if marks.contains c then some (.mark c, 1) else none
      | _ => none

/-- A blank between tokens. -/
def isGap (c : CodePoint) : Bool := c = .char ' ' || c = .char '\t' || c = .char '\x0c'

/-- A line has something besides a comment, and blanks before it. A form feed
takes back the blanks before it. -/
def isIndented (line : Text) : Bool :=
  let rest := line.dropWhile isGap
  (line.takeWhile isGap).getLast?.any (· ≠ .char '\x0c') &&
    rest.head?.any fun c => c ≠ .char '#' && c ≠ .char '\n'

/-- The tokens of a text; none if some of it is no token. -/
def tokens? (s : Text) : Option (List Token) :=
  match s with
  | [] => some []
  | c :: rest =>
    if isGap c then tokens? rest
    else if c = .char '#' then
      tokens? (rest.drop (rest.takeWhile (· ≠ .char '\n')).length)
    else if c = .char '\n' then
      (tokens? rest).map fun ts => .lineEnd (isIndented rest) :: ts
    else if c = .char '\\' then
      if rest.head? = some (.char '\n') && 1 < rest.length then tokens? (rest.drop 1) else none
    else
      match token? s with
      | some (t, length) => (tokens? (rest.drop (length - 1))).map fun ts => t :: ts
      | none => none
termination_by s.length
decreasing_by
  all_goals simp only [List.length_cons, List.length_drop]; omega

end SchemaRecovery.CommandLine.Markup.Literal
