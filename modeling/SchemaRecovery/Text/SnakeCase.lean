/-
  SchemaRecovery.Text.SnakeCase

  Identifiers written in humps (`PhoneType`) become identifiers with
  underscores (`phone_type`, `PHONE_TYPE`).
-/
import SchemaRecovery.Text.LetterCase

namespace SchemaRecovery.Text

/-- Puts an underscore wherever a letter of `a`–`z` is followed by one of
`A`–`Z`. -/
def markHumps : Text → Text
  | [] => []
  | [c] => [c]
  | c :: d :: rest =>
    if c.holds Char.isLower && d.holds Char.isUpper then c :: .char '_' :: markHumps (d :: rest)
    else c :: markHumps (d :: rest)

/-- The identifier in lower case, its humps parted by underscores. -/
def lowerSnake (s : Text) : Text := lower (markHumps s)

/-- The identifier in upper case, its humps parted by underscores. -/
def upperSnake (s : Text) : Text := upper (markHumps s)

end SchemaRecovery.Text
