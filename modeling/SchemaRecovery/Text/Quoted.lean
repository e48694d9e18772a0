/-
  SchemaRecovery.Text.Quoted

  Quoted texts as messages show them: single quotes, or double quotes when
  the text holds a single quote and no double one. The quote in use, the
  backslash and every character that is not printable are escaped.
-/
import SchemaRecovery.Text.Printable

namespace SchemaRecovery.Text

/-- The hexadecimal digits of `n`, at least `width` of them. -/
def hexDigits (width n : Nat) : Text :=
  let digits := Nat.toDigits 16 n
  ofChars (List.replicate (width - digits.length) '0' ++ digits)

/-- How a code point stands between the quotes `quote`. -/
def escapePoint (quote c : CodePoint) : Text :=
  if c = quote ∨ c = .char '\\' then [.char '\\', c]
  else if c = .char '\n' then "\\n"
  else if c = .char '\r' then "\\r"
  else if c = .char '\t' then "\\t"
  else if isPrintable c then [c]
  else if c.toNat < 0x100 then "\\x" ++ hexDigits 2 c.toNat
  else if c.toNat < 0x10000 then "\\u" ++ hexDigits 4 c.toNat
  else "\\U" ++ hexDigits 8 c.toNat

/-- The quote that a text is written in. -/
def quoteFor (s : Text) : CodePoint :=
  if s.contains (.char '\'') && !s.contains (.char '"') then .char '"' else .char '\''

/-- The text in quotes. -/
def quoted (s : Text) : Text :=
  quoteFor s :: s.flatMap (escapePoint (quoteFor s)) ++ [quoteFor s]

end SchemaRecovery.Text
