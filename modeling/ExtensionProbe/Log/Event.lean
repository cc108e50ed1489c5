import ExtensionProbe.Text

/-!
# Events and the computations that report them

An event is what a part of the library reports while it works. `Logged ε α` is a computation that
reports events and then fails or gives a value; a failure keeps the events reported before it.

* `events_bind_ok`, `events_bind_error`: the events of a sequence are those of its parts in order, and
  nothing is reported after a failure.
-/

namespace ExtensionProbe.Log

/-- How grave an event is. -/
inductive Severity where
  | debug | info | warning | error | critical
deriving DecidableEq, Repr

/-- The number that orders a severity among all levels. -/
def Severity.level : Severity → Int
  | .debug => 10
  | .info => 20
  | .warning => 30
  | .error => 40
  | .critical => 50

/-- The name of a severity. -/
def Severity.name : Severity → String
  | .debug => "DEBUG"
  | .info => "INFO"
  | .warning => "WARNING"
  | .error => "ERROR"
  | .critical => "CRITICAL"

/-- One report: how grave, from which part, in which words, and for which capability if the part
works for one. -/
structure Event where
  severity : Severity
  source : String
  message : Text
  capability : Option Text := none
deriving DecidableEq, Repr

/-- A computation that reports events and then fails or gives a value. -/
structure Logged (ε α : Type) where
  events : List Event
  outcome : Except ε α

namespace Logged

variable {ε α β : Type}

/-- A value, with nothing to report. -/
protected def pure (a : α) : Logged ε α := ⟨[], .ok a⟩

/-- One computation after another; a failure of the first one ends it. -/
protected def bind (x : Logged ε α) (f : α → Logged ε β) : Logged ε β :=
  match x.outcome with
  | .ok a => ⟨x.events ++ (f a).events, (f a).outcome⟩
  | .error e => ⟨x.events, .error e⟩

instance : Monad (Logged ε) where
  pure := Logged.pure
  bind := Logged.bind

/-- Reports one event. -/
def emit (e : Event) : Logged ε Unit := ⟨[e], .ok ()⟩

/-- Fails, with nothing to report. -/
def fail (e : ε) : Logged ε α := ⟨[], .error e⟩

/-- A result that is at hand, with nothing to report. -/
def ofExcept (r : Except ε α) : Logged ε α := ⟨[], r⟩

/-- The same computation with its failures renamed. -/
def mapError {ε' : Type} (f : ε → ε') (x : Logged ε α) : Logged ε' α :=
  ⟨x.events, x.outcome.mapError f⟩

@[simp] theorem events_pure (a : α) : (pure a : Logged ε α).events = [] := rfl

@[simp] theorem outcome_pure (a : α) : (pure a : Logged ε α).outcome = .ok a := rfl

theorem events_bind_ok {x : Logged ε α} {a : α} (h : x.outcome = .ok a) (f : α → Logged ε β) :
    (x >>= f).events = x.events ++ (f a).events := by
  simp [bind, Logged.bind, h]

theorem events_bind_error {x : Logged ε α} {e : ε} (h : x.outcome = .error e)
    (f : α → Logged ε β) : (x >>= f).events = x.events := by
  simp [bind, Logged.bind, h]

theorem outcome_bind_ok {x : Logged ε α} {a : α} (h : x.outcome = .ok a) (f : α → Logged ε β) :
    (x >>= f).outcome = (f a).outcome := by
  simp [bind, Logged.bind, h]

theorem outcome_bind_error {x : Logged ε α} {e : ε} (h : x.outcome = .error e)
    (f : α → Logged ε β) : (x >>= f).outcome = .error e := by
  simp [bind, Logged.bind, h]

theorem outcome_mapError_ok {ε' : Type} {x : Logged ε α} {a : α} (h : x.outcome = .ok a)
    (f : ε → ε') : (x.mapError f).outcome = .ok a := by
  rw [mapError, h]; rfl

end Logged

end ExtensionProbe.Log
