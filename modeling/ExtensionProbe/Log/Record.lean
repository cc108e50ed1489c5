import ExtensionProbe.Log.Failure
import ExtensionProbe.Log.Level
import ExtensionProbe.Template

/-!
# Records of a log

A record is what a log keeps of one report: its attributes by name, in the order in which they were set,
and the failure that it tells of. Reports are made through a logger, which has a name and may have a
context.

* `Logger.record_of_adapter`: a context takes the place of what a report gives.
-/

namespace ExtensionProbe.Log

/-- The place in a program that a record was made at. -/
structure Site where
  inModule : Data
  inFunction : Data
  atLine : Data

/-- What a log keeps of one report. -/
structure Record where
  attributes : List (Text × Data)
  trouble : Trouble := .none

namespace Record

/-- The names of the attributes that every record has of its own. -/
def ownNames : List Text :=
  ["name", "msg", "args", "levelname", "levelno", "pathname", "filename", "module", "exc_info",
    "exc_text", "stack_info", "lineno", "funcName", "created", "msecs", "relativeCreated", "thread",
    "threadName", "processName", "process"]

/-- Puts a value under a name. A name that is there keeps its place. -/
def put (name : Text) (value : Data) : List (Text × Data) → List (Text × Data)
  | [] => [(name, value)]
  | (n, v) :: rest => if n = name then (n, value) :: rest else (n, v) :: put name value rest

/-- Sets an attribute. -/
def set (r : Record) (name : Text) (value : Data) : Record :=
  { r with attributes := put name value r.attributes }

/-- The value of an attribute, if the record has it. -/
def get? (r : Record) (name : Text) : Option Data := r.attributes.lookup name

/-- The value of an attribute; null if the record does not have it. -/
def get (r : Record) (name : Text) : Data := (r.get? name).getD .null

/-- Seconds of a clock that counts microseconds. -/
def seconds (clock : Int) : Binary64 := Binary64.ofRatio (clock < 0) clock.natAbs 1000000

/-- The whole milliseconds beyond the whole seconds. -/
def milliseconds (created : Binary64) : Binary64 :=
  let whole := (created.truncate?.getD 0 : Int)
  let beyond := (created.add (Binary64.ofInt (-whole))).mul (Binary64.ofInt 1000)
  Binary64.ofInt (beyond.truncate?.getD 0)

/-- The values of a message. A single mapping that has entries serves them by name. -/
def supplied : List Data → Data
  | [.map (e :: es)] => .map (e :: es)
  | values => .tuple values

/-- A record of a report at a time. -/
def make (clock : Int) (source : Text) (level : Int) (message : Data) (values : List Data)
    (trouble : Trouble) (site : Option Site) : Record :=
  let created := seconds clock
  let report : List (Text × Data) :=
    [("name", .text source), ("msg", message), ("args", supplied values),
      ("levelname", .text (Level.name level)), ("levelno", .int level)]
  let place : List (Text × Data) :=
    match site with
    | none => []
    | some s => [("module", s.inModule), ("lineno", s.atLine), ("funcName", s.inFunction)]
  let circumstances : List (Text × Data) :=
    [("exc_text", .null), ("stack_info", .null), ("created", .float created),
      ("msecs", .float (milliseconds created)), ("threadName", .text "MainThread"),
      ("processName", .text "MainProcess")]
  { attributes := report ++ place ++ circumstances
    trouble }

/-- The record of an event at a time. -/
def ofEvent (clock : Int) (e : Event) : Record :=
  let r := make clock e.source e.severity.level (.text e.message) [] .none none
  match e.capability with
  | none => r
  | some c => r.set "capability" (.text c)

/-- The wording for a further attribute under a name of the record's own. -/
def overwriteMessage (name : Text) : String :=
  "Attempt to overwrite " ++ Text.quote name ++ " in LogRecord"

/-- Whether further attributes may not have a name. -/
def isTaken (r : Record) (name : Text) : Bool :=
  name == "message" || name == "asctime" || ownNames.contains name || (r.get? name).isSome

/-- A record with further attributes, or the first name among them that is taken. -/
def withExtras (r : Record) : List (Text × Data) → Except Text Record
  | [] => .ok r
  | (name, value) :: rest =>
    if r.isTaken name then .error name else (r.set name value).withExtras rest

/-- The message of a record: its template, filled if there are values to fill it with. -/
def message (r : Record) : Except Template.Fault Text := do
  let s ← (r.get "msg").display.mapError .shown
  let values := r.get "args"
  if values.isNothing then pure s else Template.fill s values

theorem lookup_put (name : Text) (value : Data) (es : List (Text × Data)) :
    (put name value es).lookup name = some value := by
  induction es with
  | nil => simp [put]
  | cons e rest ih =>
    obtain ⟨other, old⟩ := e
    by_cases h : other = name
    · simp [put, h]
    · have : (name == other) = false := beq_false_of_ne (Ne.symm h)
      simp only [put, h, if_false, List.lookup_cons, this, ih]

end Record

/-- What reports are made through: a name, and a context that every report is given. -/
structure Logger where
  source : Text
  context : List (Text × Data)

namespace Logger

/-- The logger of a name with a context; the root goes by its own name. -/
def ofName (name : Text) (context : List (Text × Data)) : Logger :=
  { source := if name.isEmpty then "root" else name, context }

/-- Whether a logger is an adapter of another one: it has a context. -/
def isAdapter (l : Logger) : Bool := !l.context.isEmpty

/-- The further attributes of a report that gives some; an adapter puts its context in their place. -/
def extras (l : Logger) (given : List (Text × Data)) : List (Text × Data) :=
  if l.isAdapter then l.context else given

/-- The record of a report at a time, or the first name of a further attribute that is taken. -/
def record (l : Logger) (clock : Int) (level : Int) (message : Data) (values : List Data)
    (trouble : Trouble) (site : Option Site) (given : List (Text × Data)) : Except Text Record :=
  (Record.make clock l.source level message values trouble site).withExtras (l.extras given)

theorem record_of_adapter {l : Logger} (h : l.isAdapter = true) (clock level : Int) (message : Data)
    (values : List Data) (trouble : Trouble) (site : Option Site) (given : List (Text × Data)) :
    l.record clock level message values trouble site given =
      (Record.make clock l.source level message values trouble site).withExtras l.context := by
  unfold record extras
  rw [if_pos h]

end Logger

end ExtensionProbe.Log
