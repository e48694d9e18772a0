/-
  SchemaRecovery.CommandLine.Markup.Handler

  Handlers: what a tag such as `[@click=turn(1, 2)]` asks to be done. The
  arguments of a handler are a literal.
-/
import SchemaRecovery.CommandLine.Markup.Literal
import SchemaRecovery.CommandLine.Markup.Style

namespace SchemaRecovery.CommandLine.Markup

/-- What follows the name in a call such as `turn(1, 2)`, which may be nothing;
none if the text is no call in one line. -/
def callArguments? (s : Text) : Option Text :=
  let rest := s.dropWhile fun c => Text.isWordCharacter c || c = .char '.'
  if rest.isEmpty then some []
  else if Text.hasStart rest "(" && Text.hasEnding rest ")" && !rest.contains (.char '\n') then
    some rest
  else none

/-- A handler can be read: it is a call, whose arguments are a literal if it
has any, or a literal. -/
def isHandler (s : Text) : Bool :=
  match callArguments? (trimmed s) with
  | some arguments => arguments.isEmpty || isLiteral arguments
  | none => isLiteral (trimmed s)

end SchemaRecovery.CommandLine.Markup
