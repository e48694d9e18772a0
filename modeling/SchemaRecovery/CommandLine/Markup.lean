/-
  SchemaRecovery.CommandLine.Markup

  Text as the console shows it. Tags in square brackets, as in
  `[bold]word[/bold]`, set a style and are not shown; a backslash before a tag
  keeps it as text. A closing tag must have a tag to close.
-/
import SchemaRecovery.CommandLine.Markup.Emoji
import SchemaRecovery.CommandLine.Markup.Handler
import SchemaRecovery.CommandLine.Markup.Style
import SchemaRecovery.CommandLine.StyledText

namespace SchemaRecovery.CommandLine

namespace Markup

/-- A part of a marked-up text. A closing tag without a name closes the last
tag that is open. -/
inductive Part where
  | plain (s : Text)
  | opening (name : Text) (parameters : Option Text)
  | closing (name : Text)

/-- A character that a tag may begin with. -/
def isTagStart (c : Char) : Bool := ('a' ≤ c && c ≤ 'z') || c = '#' || c = '/' || c = '@'

/-- A code point that does not end a tag. -/
def isTagInside (c : CodePoint) : Bool := c ≠ .char ']' && c ≠ .char '['

/-- The content of the tag at the front of a text, and what follows it. -/
def tag? : Text → Option (Text × Text)
  | .char '[' :: c :: rest =>
    match c.holds isTagStart, rest.dropWhile isTagInside with
    | true, .char ']' :: after => some (c :: rest.takeWhile isTagInside, after)
    | _, _ => none
  | _ => none

theorem length_of_tag? {s content after : Text} (h : tag? s = some (content, after)) :
    after.length < s.length := by
  unfold tag? at h
  split at h
  · rename_i c rest
    split at h
    · rename_i after' _ hdrop
      cases h
      have hle : (rest.dropWhile isTagInside).length ≤ rest.length :=
        (List.dropWhile_sublist _).length_le
      rw [hdrop] at hle
      simp only [List.length_cons] at hle ⊢
      omega
    · exact absurd h (by simp)
  · exact absurd h (by simp)

/-- The part that a tag with some content is. What follows an equals sign are
its parameters. -/
def Part.ofTag (content : Text) : Part :=
  match Text.beforeFirst '=' content with
  | .char '/' :: name => .closing (trimmed name)
  | name =>
    .opening name
      (if name.length < content.length then some (content.drop (name.length + 1)) else none)

/-- The parts that a tag gives after some backslashes: each two of them are
one, and one left over makes the tag plain. -/
def partsOfTag (backslashes : Nat) (content : Text) : List Part :=
  let kept : List Part :=
    if backslashes / 2 = 0 then [] else [.plain (List.replicate (backslashes / 2) (.char '\\'))]
  kept ++ [if backslashes % 2 = 1 then .plain ("[" ++ content ++ "]") else Part.ofTag content]

/-- A plain part with some text, last code point first; none if there is no
text. -/
def plainPart (reversed : Text) : List Part :=
  if reversed.isEmpty then [] else [.plain reversed.reverse]

/-- The number of backslashes at the front of a text. -/
def backslashes (s : Text) : Nat := (s.takeWhile (· = .char '\\')).length

/-- The parts of `s`, `reversed` being the plain text before it, last code
point first. -/
def partsFrom (reversed s : Text) : List Part :=
  match _h : tag? (s.drop (backslashes s)) with
  | some (content, after) =>
    plainPart reversed ++ partsOfTag (backslashes s) content ++ partsFrom [] after
  | none =>
    match s with
    | [] => plainPart reversed
    | c :: rest => partsFrom (c :: reversed) rest
termination_by s.length
decreasing_by
  · have hlt := length_of_tag? _h
    rw [List.length_drop] at hlt
    omega
  · simp

/-- The parts of a marked-up text. -/
def parts (s : Text) : List Part := partsFrom [] s

/-- A bracket with a backslash before it is a bracket. -/
def unescaped : Text → Text
  | .char '\\' :: .char '[' :: rest => .char '[' :: unescaped rest
  | c :: rest => c :: unescaped rest
  | [] => []

/-- Controls that the console does not show: bell, backspace, vertical tab,
form feed and carriage return. -/
def isDropped (c : CodePoint) : Bool := [7, 8, 11, 12, 13].contains c.toNat

/-- Plain text as it is shown. -/
def plainShown (s : Text) : Text :=
  (withEmoji (unescaped s)).filter fun c => !isDropped c

/-! ## Reading -/

/-- A tag that is open: where its text begins, its name in the common spelling,
and its parameters. -/
structure OpenTag where
  start : Nat
  name : Text
  parameters : Option Text

namespace OpenTag

/-- The definition of the style that the tag asks for. -/
def style (t : OpenTag) : Text :=
  match t.parameters with
  | some parameters => t.name ++ " " ++ parameters
  | none => t.name

/-- The span of the tag's text, which ends at `stop`. -/
def span (t : OpenTag) (stop : Nat) : Span := ⟨t.start, stop, t.style⟩

/-- The tag may be closed. A tag whose name begins with `@` asks for a handler,
which must be readable. -/
def isClosable (t : OpenTag) : Bool :=
  !Text.hasStart t.name "@" || (t.parameters.getD []).isEmpty || t.parameters.any isHandler

end OpenTag

/-- What has been read: the text with the styles of the tags that are closed,
and the tags that are open, the last one first. -/
structure Reading where
  shown : StyledText := { text := [] }
  opened : List OpenTag := []

namespace Reading

/-- The length of the text. -/
def length (r : Reading) : Nat := r.shown.text.length

/-- Adds the span of a tag that ends here. -/
def addSpan (r : Reading) (t : OpenTag) : Reading :=
  { r with shown := { r.shown with spans := r.shown.spans ++ [t.span r.length] } }

/-- Closes the last tag that `p` holds of. -/
def close (r : Reading) (p : OpenTag → Bool) : Option Reading := do
  let t ← r.opened.find? p
  if t.isClosable then some ({ r with opened := r.opened.eraseP p }.addSpan t) else none

/-- Reads a part. -/
def step (r : Reading) : Part → Option Reading
  | .plain s => some { r with shown := r.shown ++ (plainShown s : StyledText) }
  | .opening name parameters => do
    let name ← (styleSpelling name).toOption
    return { r with opened := ⟨r.length, name, parameters⟩ :: r.opened }
  | .closing name =>
    if name.isEmpty then r.close fun _ => true
    else do
      let name ← (styleSpelling name).toOption
      r.close fun t => t.name = name

/-- The text, with the tags that are open closed at its end. -/
def finish (r : Reading) : StyledText := (r.opened.foldl addSpan r).shown

end Reading

end Markup

/-- A marked-up text as it is shown; fails if a closing tag has nothing to
close, or a tag cannot be read. -/
def Markup.shown (s : Text) : Option StyledText :=
  ((Markup.parts s).foldlM Markup.Reading.step {}).map Markup.Reading.finish

end SchemaRecovery.CommandLine
