/-!
# Log entries and logged results

A computation that reports its progress returns the entries together with its result. `Logged` is
the monad of such computations; entries appear in the order in which they were made.
-/

namespace SourceAtlas

/-- How urgent a log entry is. -/
inductive Level where
  | info
  | warning
  | error
  deriving DecidableEq, Repr

/-- The word for a level. -/
def Level.label : Level → String
  | .info => "INFO"
  | .warning => "WARNING"
  | .error => "ERROR"

/-- One entry of a log. -/
structure LogEntry where
  /-- How urgent it is. -/
  level : Level
  /-- What it says. -/
  message : String
  deriving DecidableEq, Repr

/-- **A result together with the log of how it came about.** -/
structure Logged (α : Type) where
  /-- The result. -/
  value : α
  /-- The log, in order. -/
  log : List LogEntry
  deriving DecidableEq, Repr

namespace Logged

/-- A result without any entries. -/
protected def pure {α : Type} (a : α) : Logged α :=
  ⟨a, []⟩

/-- One computation and then another. -/
protected def bind {α β : Type} (x : Logged α) (f : α → Logged β) : Logged β :=
  let y := f x.value
  ⟨y.value, x.log ++ y.log⟩

instance : Monad Logged where
  pure := Logged.pure
  bind := Logged.bind

@[simp] theorem value_pure {α : Type} (a : α) : (pure a : Logged α).value = a := rfl

@[simp] theorem log_pure {α : Type} (a : α) : (pure a : Logged α).log = [] := rfl

@[simp] theorem value_bind {α β : Type} (x : Logged α) (f : α → Logged β) :
    (x >>= f).value = (f x.value).value := rfl

@[simp] theorem log_bind {α β : Type} (x : Logged α) (f : α → Logged β) :
    (x >>= f).log = x.log ++ (f x.value).log := rfl

end Logged

/-- Makes an entry. -/
def record (level : Level) (message : String) : Logged Unit :=
  ⟨(), [⟨level, message⟩]⟩

/-- Makes an entry about progress. -/
def info (message : String) : Logged Unit :=
  record .info message

/-- Makes an entry about progress if there is reason to. -/
def infoIf (condition : Bool) (message : String) : Logged Unit :=
  if condition then info message else pure ()

end SourceAtlas
