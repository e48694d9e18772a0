/-
  SchemaRecovery.TypeReference.Parser

  Reading a type reference. The text is cut into tokens, blanks between them
  skipped, and the tokens are read by the grammar

    type      ::= NAME arguments? ("[" "]")*
    arguments ::= "<" type ("," type)* ">"
-/
import SchemaRecovery.TypeReference.Basic

namespace SchemaRecovery.TypeReference

/-- A token of a type reference. -/
inductive Token where
  | name (s : Text)
  | less
  | comma
  | greater
  | opening
  | closing
  deriving DecidableEq

/-- A blank between tokens: space, tab, form feed and the two line ends. -/
def isBlank (c : Char) : Bool :=
  c = ' ' || c = '\t' || c = '\x0c' || c = '\r' || c = '\n'

/-- A character that a name may begin with. -/
def isNameStart (c : Char) : Bool := c.isAlpha || c = '_'

/-- A character inside a name. -/
def isNameChar (c : Char) : Bool :=
  c.isAlphanum || c = '_' || c = '.' || c = arityMark || c = nestingMark

/-- The token that a single character makes. -/
def Token.ofPoint? : CodePoint → Option Token
  | .char '<' => some .less
  | .char ',' => some .comma
  | .char '>' => some .greater
  | .char '[' => some .opening
  | .char ']' => some .closing
  | _ => none

/-- The token of a name read so far, last character first; none between
tokens. -/
def nameToken (word : Text) : List Token :=
  if word.isEmpty then [] else [.name word.reverse]

/-- The name `word` goes on with `c`. -/
def goesOn (word : Text) (c : CodePoint) : Bool :=
  if word.isEmpty then c.holds isNameStart else c.holds isNameChar

/-- The tokens of a text. `word` is the part of a name already read, last
character first; it is empty between tokens. -/
def tokensFrom (word : Text) : Text → Option (List Token)
  | [] => some (nameToken word)
  | c :: rest =>
    if goesOn word c then tokensFrom (c :: word) rest
    else if c.holds isBlank then (tokensFrom [] rest).map fun ts => nameToken word ++ ts
    else
      match Token.ofPoint? c with
      | none => none
      | some t => (tokensFrom [] rest).map fun ts => nameToken word ++ t :: ts

/-- The tokens of a text. -/
def tokens? (s : Text) : Option (List Token) := tokensFrom [] s

/-- The pairs of brackets at the front, and what follows them. -/
def takeBrackets : List Token → Nat × List Token
  | .opening :: .closing :: rest => ((takeBrackets rest).1 + 1, (takeBrackets rest).2)
  | ts => (0, ts)

mutual

/-- A reference at the front of the tokens, and what follows it. The first
argument bounds the depth of the recursion. -/
def readType : Nat → List Token → Option (TypeReference × List Token)
  | n + 1, .name s :: .less :: rest => do
    let (args, rest) ← readArguments n rest
    return (⟨s, args, (takeBrackets rest).1⟩, (takeBrackets rest).2)
  | _ + 1, .name s :: rest => some (⟨s, [], (takeBrackets rest).1⟩, (takeBrackets rest).2)
  | _, _ => none

/-- The arguments after an opening mark, to the closing one. -/
def readArguments : Nat → List Token → Option (List TypeReference × List Token)
  | n + 1, ts => do
    let (arg, rest) ← readType n ts
    match rest with
    | .comma :: rest => do
      let (args, rest) ← readArguments n rest
      return (arg :: args, rest)
    | .greater :: rest => return ([arg], rest)
    | _ => none
  | 0, _ => none

end

/-- The reference that a text spells. Every step but one in two takes a token,
so twice their number bounds the depth of the reader. -/
def parse? (s : Text) : Option TypeReference := do
  let ts ← tokens? s
  match readType (2 * ts.length + 1) ts with
  | some (t, []) => some t
  | _ => none

end SchemaRecovery.TypeReference
