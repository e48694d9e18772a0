/-
  SchemaRecovery.Logged

  Computations that write log entries on their way and may fail. The entries
  written before a failure are kept.
-/
import SchemaRecovery.Failure

namespace SchemaRecovery

/-- How much an entry matters. -/
inductive LogLevel where
  | debug
  | info
  | warning
  | error
  deriving DecidableEq

/-- The levels in ascending order. -/
def LogLevel.rank : LogLevel → Nat
  | debug => 0
  | info => 1
  | warning => 2
  | error => 3

/-- A level as the log shows it. -/
def LogLevel.name : LogLevel → String
  | debug => "DEBUG"
  | info => "INFO"
  | warning => "WARNING"
  | error => "ERROR"

/-- An entry of the log. -/
structure LogEntry where
  level : LogLevel
  text : Text

/-- Monads in which entries can be written. -/
class MonadLog (M : Type → Type) where
  write : LogLevel → Text → M Unit

/-- A computation that may fail keeps no log. -/
instance : MonadLog (Except Failure) where
  write _ _ := .ok ()

/-- A computation's log and its outcome. -/
structure Logged (α : Type) where
  log : List LogEntry
  outcome : Except Failure α

namespace Logged

variable {α β : Type}

/-- A value, with nothing logged. -/
def pure (a : α) : Logged α := ⟨[], .ok a⟩

/-- Goes on with the value of `x`, unless it failed. -/
def bind (x : Logged α) (f : α → Logged β) : Logged β :=
  match x.outcome with
  | .error e => ⟨x.log, .error e⟩
  | .ok a =>
    let y := f a
    ⟨x.log ++ y.log, y.outcome⟩

instance : Monad Logged where
  pure := Logged.pure
  bind := Logged.bind

/-- Steps may be put together in any grouping: logs are joined end to end. -/
instance : LawfulMonad Logged := LawfulMonad.mk' Logged
  (by
    intro α x
    obtain ⟨log, outcome⟩ := x
    cases outcome with
    | error e => rfl
    | ok a => exact congrArg (fun l => Logged.mk l (.ok a)) (List.append_nil log))
  (by
    intro α β a f
    rfl)
  (by
    intro α β γ x f g
    obtain ⟨log, outcome⟩ := x
    cases outcome with
    | error e => rfl
    | ok a =>
      show Logged.bind (Logged.bind ⟨log, .ok a⟩ f) g = Logged.bind ⟨log, .ok a⟩ fun a => f a >>= g
      simp only [Logged.bind]
      generalize f a = y
      obtain ⟨ylog, youtcome⟩ := y
      cases youtcome with
      | error e => simp only [Bind.bind, Logged.bind]
      | ok b => simp only [Bind.bind, Logged.bind, List.append_assoc])

/-- A computation that logs nothing. -/
def lift (x : Except Failure α) : Logged α := ⟨[], x⟩

instance : MonadLift (Except Failure) Logged where
  monadLift := lift

/-- Writes an entry. -/
def write (level : LogLevel) (text : Text) : Logged Unit := ⟨[⟨level, text⟩], .ok ()⟩

instance : MonadLog Logged where
  write := write

/-- Writes an entry at the debug level. -/
def debug (text : Text) : Logged Unit := write .debug text

/-- Writes an entry at the info level. -/
def info (text : Text) : Logged Unit := write .info text

/-- Writes an entry at the warning level. -/
def warning (text : Text) : Logged Unit := write .warning text

@[simp] theorem outcome_pure (a : α) : (Pure.pure a : Logged α).outcome = .ok a := rfl

@[simp] theorem outcome_lift (x : Except Failure α) : (lift x).outcome = x := rfl

@[simp] theorem outcome_write (level : LogLevel) (text : Text) :
    (write level text).outcome = .ok () := rfl

/-- The outcome of two computations in a row does not depend on their logs. -/
theorem outcome_bind (x : Logged α) (f : α → Logged β) :
    (x >>= f).outcome = x.outcome >>= fun a => (f a).outcome := by
  show (Logged.bind x f).outcome = _
  unfold Logged.bind
  cases x.outcome <;> rfl

end Logged

end SchemaRecovery
