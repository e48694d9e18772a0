/-
  SchemaRecovery.Text.Lines

  The lines of a text. A line ends at a line or page control, at a file, group
  or record separator, or at a line or paragraph separator; a carriage return
  and the line feed after it are one end.
-/
import SchemaRecovery.Text.Basic

namespace SchemaRecovery.Text

/-- A code point that ends a line. -/
def isLineEnd (c : CodePoint) : Bool :=
  [0xa, 0xb, 0xc, 0xd, 0x1c, 0x1d, 0x1e, 0x85, 0x2028, 0x2029].contains c.toNat

/-- Cuts a text into lines, `line` being the part of the current line already
read, last code point first. -/
def linesFrom (line : Text) : Text → List Text
  | [] => if line.isEmpty then [] else [line.reverse]
  | .char '\r' :: .char '\n' :: rest => line.reverse :: linesFrom [] rest
  | c :: rest =>
    if isLineEnd c then line.reverse :: linesFrom [] rest else linesFrom (c :: line) rest

/-- The lines of a text, without their ends. -/
def lines (s : Text) : List Text := linesFrom [] s

end SchemaRecovery.Text
