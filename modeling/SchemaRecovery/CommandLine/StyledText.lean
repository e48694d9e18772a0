/-
  SchemaRecovery.CommandLine.StyledText

  Text with styles. A style covers a span of the text; spans may overlap and
  may be void. Cutting a text cuts its spans, and a void span is lost when the
  text around it is cut.
-/
import SchemaRecovery.Text.DisplayWidth

namespace SchemaRecovery.CommandLine

/-- The part of a text from position `start` up to `stop`, shown in the style
with the given definition. -/
structure Span where
  start : Nat
  stop : Nat
  style : Text

namespace Span

/-- The span in a text that stands `n` positions further on. -/
def shift (n : Nat) (p : Span) : Span := { p with start := p.start + n, stop := p.stop + n }

/-- What the span covers between two positions, seen from the first of them. -/
def between? (low high : Nat) (p : Span) : Option Span :=
  if max p.start low < min p.stop high then
    some { p with start := max p.start low - low, stop := min p.stop high - low }
  else none

/-- What is left of the span in the first `n` positions; a span that begins
after them is lost. -/
def upTo? (n : Nat) (p : Span) : Option Span :=
  if p.start < n then some { p with stop := min p.stop n } else none

end Span

/-- A text and the spans of its styles. -/
structure StyledText where
  text : Text
  spans : List Span := []

namespace StyledText

instance : Coe Text StyledText := ⟨fun text => { text }⟩

/-- One text after another. -/
def append (s t : StyledText) : StyledText :=
  ⟨s.text ++ t.text, s.spans ++ t.spans.map (Span.shift s.text.length)⟩

instance : Append StyledText := ⟨append⟩

/-- The part between two positions. -/
def slice (s : StyledText) (low high : Nat) : StyledText :=
  ⟨(s.text.take high).drop low, s.spans.filterMap (Span.between? low high)⟩

/-- The part of the first `n` positions. -/
def upTo (s : StyledText) (n : Nat) : StyledText :=
  ⟨s.text.take n, s.spans.filterMap (Span.upTo? n)⟩

/-- The parts between positions in ascending order, from position `low` on. -/
def slicesFrom (s : StyledText) (low : Nat) : List Nat → List StyledText
  | [] => [s.slice low s.text.length]
  | cut :: cuts => s.slice low cut :: slicesFrom s cut cuts

/-- The text cut at positions in ascending order; whole if there are none. -/
def cutAt (s : StyledText) (cuts : List Nat) : List StyledText :=
  if cuts.isEmpty then [s] else s.slicesFrom 0 cuts

/-- The positions of a character in the text. -/
def positions (s : StyledText) (c : Char) : List Nat :=
  s.text.zipIdx.filterMap fun p => if p.1 = .char c then some p.2 else none

/-- The text cut at its line feeds, which are left out. -/
def lines (s : StyledText) : List StyledText :=
  (s.cutAt ((s.positions '\n').flatMap fun i => [i, i + 1])).filter fun t => t.text ≠ "\n"

/-- The pieces of the text in each of which the styles are the same. -/
def pieces (s : StyledText) : List Text :=
  let ends := s.spans.flatMap fun p => [p.start, p.stop]
  let cuts := (List.range (s.text.length + 1)).filter ends.contains
  ((s.text : StyledText).cutAt cuts).map fun t => t.text

/-! ## Tabs -/

/-- The distance between the columns that a tab goes to. -/
def tabSize : Nat := 8

/-- The text with blanks at its end, in the styles of its last character. -/
def stretch (s : StyledText) (n : Nat) : StyledText :=
  ⟨s.text ++ Text.blanks n,
    s.spans.map fun p => if s.text.length ≤ p.stop then { p with stop := p.stop + n } else p⟩

/-- Puts pieces, each of which may end in a tab, one after another from the
given column on, with blanks for the tabs. -/
def expandFrom (column : Nat) : List StyledText → StyledText
  | [] => ([] : Text)
  | s :: rest =>
    if s.text.getLast? = some (.char '\t') then
      let blank := { s with text := s.text.dropLast ++ Text.blanks 1 }
      let next := column + Text.width blank.text
      let gap := (tabSize - next % tabSize) % tabSize
      blank.stretch gap ++ expandFrom (next + gap) rest
    else s ++ expandFrom (column + Text.width s.text) rest

/-- A line with blanks for its tabs. -/
def expandTabs (s : StyledText) : StyledText :=
  let tabs := s.positions '\t'
  if tabs.isEmpty then s else expandFrom 0 (s.cutAt (tabs.map (· + 1)))

end StyledText

end SchemaRecovery.CommandLine
