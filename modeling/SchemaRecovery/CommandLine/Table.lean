/-
  SchemaRecovery.CommandLine.Table

  Tables on the console. A column is as wide as the widest line of its cells,
  and two blanks part it from the next. If that is more than the console has,
  the widest columns are narrowed. A line that is too wide for its column is
  broken between words, and what still does not fit shows as dots.
-/
import SchemaRecovery.CommandLine.StyledText
import SchemaRecovery.Text.Affix
import SchemaRecovery.Text.Blank
import SchemaRecovery.Text.Lines

namespace SchemaRecovery.CommandLine

/-- Where the text of a cell stands in its column. -/
inductive Alignment where
  | left
  | right
  deriving DecidableEq

/-- A table: the title and alignment of each column, and the rows of cells. -/
structure Table where
  columns : List (Text × Alignment)
  rows : List (List StyledText)

namespace Table

/-! ## Lines of a cell -/

/-- Cuts a line before each word but the first. `word` is the part of the
current piece already read, last code point first. -/
def wordPiecesFrom (word : Text) : Text → List Text
  | [] => [word.reverse]
  | c :: rest =>
    if !Text.isBlank c && word.head?.any Text.isBlank && !word.all Text.isBlank then
      word.reverse :: wordPiecesFrom [c] rest
    else wordPiecesFrom (c :: word) rest

/-- The number of blanks at the end of a text. -/
def endBlanks (s : Text) : Nat := (s.reverse.takeWhile Text.isBlank).length

/-- Where to break a line before pieces that would go beyond `limit`. The
pieces begin at the given position and at the given column. -/
def breaksFrom (limit column position : Nat) : List Text → List Nat
  | [] => []
  | piece :: rest =>
    let next := position + piece.length
    if column + Text.width (piece.take (piece.length - endBlanks piece)) ≤ limit then
      breaksFrom limit (column + Text.width piece) next rest
    else if position = 0 then breaksFrom limit (Text.width piece) next rest
    else position :: breaksFrom limit (Text.width piece) next rest

/-- The lines that a line is broken into. -/
def fill (limit : Nat) (line : StyledText) : List StyledText :=
  line.cutAt (breaksFrom limit 0 0 (wordPiecesFrom [] line.text))

/-- A line without the blanks at its end that go beyond `limit`. -/
def cropEnd (limit : Nat) (line : StyledText) : StyledText :=
  let crop := min (endBlanks line.text) (line.text.length - limit)
  if crop = 0 then line else line.upTo (line.text.length - crop)

/-- A line that fits into `limit` columns; what is cut off shows as dots. -/
def shorten (limit : Nat) (line : StyledText) : StyledText :=
  if limit < Text.width line.text then
    let text := Text.fit (limit - 1) line.text ++ ("…" : Text)
    if text.length < line.text.length then { line.upTo text.length with text }
    else { line with text }
  else line

/-- The lines of a cell in a column of width `limit`. -/
def cellLines (limit : Nat) (cell : StyledText) : List StyledText :=
  cell.lines.flatMap fun line =>
    (fill limit line.expandTabs).map fun l => shorten limit (cropEnd limit l)

/-- A line at its place in a column of width `limit`. -/
def align (limit : Nat) (line : StyledText) : Alignment → StyledText
  | .left => { line with text := line.text ++ Text.blanks (limit - Text.width line.text) }
  | .right => (Text.blanks (limit - Text.width line.text) : StyledText) ++ line

/-- Some widths in all. -/
def total (widths : List Nat) : Nat := widths.foldl (fun n w => n + w) 0

/-- Pieces one after another as far as they go into `limit` columns. -/
def cropPieces (limit : Nat) : List Text → Text
  | [] => []
  | piece :: rest =>
    if Text.width piece < limit then piece ++ cropPieces (limit - Text.width piece) rest
    else Text.fit limit piece

/-- Pieces cut, or followed by blanks, so that they take `limit` columns. Each
is measured by itself. -/
def fitPieces (limit : Nat) (pieces : List Text) : Text :=
  let used := total (pieces.map Text.width)
  if used ≤ limit then pieces.flatten ++ Text.blanks (limit - used) else cropPieces limit pieces

/-! ## Columns -/

/-- The gap after a column. -/
def gap : Nat := 2

/-- The columns of the console. -/
def consoleWidth : Nat := 1000

/-- The width of a column with some cells, with the gap after it. -/
def widthOf (cells : List StyledText) : Nat :=
  let lines := cells.flatMap fun cell => Text.lines cell.text
  min (lines.foldl (fun n line => max n (Text.width line)) 0 + gap) consoleWidth

/-- The quotient rounded to the nearest number; a half goes to the even one. -/
def nearestQuotient (n d : Nat) : Nat :=
  if d < 2 * (n % d) || (2 * (n % d) = d && n / d % 2 = 1) then n / d + 1 else n / d

/-- Takes about equal shares of `excess`, none above `most`, from the widths
that are `widest`, of which there are `count`. -/
def narrow (widest most : Nat) : (excess count : Nat) → List Nat → List Nat
  | _, _, [] => []
  | excess, count, w :: rest =>
    if w = widest then
      let share := min most (nearestQuotient excess count)
      (w - share) :: narrow widest most (excess - share) (count - 1) rest
    else w :: narrow widest most excess count rest

/-- One round of narrowing: the widest columns lose what is too much, but at
most what they have over the next widest. -/
def narrowOnce (limit : Nat) (widths : List Nat) : List Nat :=
  let excess := total widths - limit
  let widest := widths.foldl max 0
  let next := (widths.filter (· ≠ widest)).foldl max 0
  narrow widest (min excess (widest - next)) excess (widths.count widest) widths

/-- Narrows columns until they take no more than `limit` in all. -/
def narrowTo (limit : Nat) (widths : List Nat) : List Nat :=
  if limit < total widths then
    if _h : total (narrowOnce limit widths) < total widths then
      narrowTo limit (narrowOnce limit widths)
    else widths
  else widths
termination_by total widths

/-! ## Rows -/

/-- A line of a cell and the width of its column, without the gap. -/
structure Part where
  line : StyledText
  width : Nat

/-- The part as it is printed, with the gap after it. -/
def Part.printed (p : Part) : Text := fitPieces p.width p.line.pieces ++ Text.blanks gap

/-- The lines of a row, whose cells come with the width and alignment of their
columns. -/
def rowLines (cells : List (StyledText × Nat × Alignment)) : List (List Part) :=
  let columns := cells.map fun (cell, width, alignment) =>
    ((cellLines width cell).map fun line => align width line alignment, width)
  let height := columns.foldl (fun n c => max n c.1.length) 0
  (List.range height).map fun i => columns.map fun (lines, width) =>
    ⟨lines.getD i (Text.blanks width : Text), width⟩

/-- The lines of the table, its titles first. -/
def layout (t : Table) : List (List Part) :=
  let rows : List (List StyledText) := t.columns.map (fun c => (c.1 : StyledText)) :: t.rows
  let natural := t.columns.mapIdx fun i _ =>
    widthOf (rows.map fun row => row.getD i ([] : Text))
  let columns := ((narrowTo consoleWidth natural).map (· - gap)).zip (t.columns.map (·.2))
  rows.flatMap fun row => rowLines (row.zip columns)

/-- The lines of the table as they are printed. -/
def lines (t : Table) : List Text := t.layout.map fun line => line.flatMap Part.printed

/-- The definitions of all styles that are seen in the table. -/
def styles (t : Table) : List Text :=
  t.layout.flatten.flatMap fun p => p.line.spans.map fun s => s.style

end Table

end SchemaRecovery.CommandLine
