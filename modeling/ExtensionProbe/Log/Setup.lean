import ExtensionProbe.Files
import ExtensionProbe.Log.Layout
import ExtensionProbe.Settings

/-!
# Setting up a log

A log drops what is below its threshold and writes the rest as lines, to the console or to the end of a
file. Setting it up again replaces all of this; a request that fails leaves the log as it was.
-/

namespace ExtensionProbe.Log

/-- Where lines go. -/
inductive Sink where
  | console
  | file (way : List Text)
deriving DecidableEq, Repr

/-- How lines are written, and where they go. -/
structure Handler where
  sink : Sink
  layout : Layout
deriving DecidableEq, Repr

/-- A log: the level below which reports are dropped, and the handler of the others, if there is one. -/
structure Setup where
  threshold : Int := 30
  handler : Option Handler := none
deriving DecidableEq, Repr

/-- What a log is asked to be. A template or a file name that is empty counts as none given. -/
structure Request where
  level : String := "WARNING"
  template : Option Text := none
  filename : Option Text := none
  structured : Bool := false
deriving DecidableEq, Repr

/-- Why a log is not set up. -/
inductive SetupError where
  /-- No level has this name. -/
  | level (given : String)
  /-- The file is not opened. -/
  | opening (e : OpenError)
  /-- The text is no template of lines. -/
  | template (given : Text)
deriving DecidableEq, Repr

/-- The wording of an error, as far as it has one of its own. -/
def SetupError.message : SetupError → Text
  | .level given => "Unknown log level: " ++ given
  | .opening .badName => OpenError.badNameMessage
  | .opening _ => ""
  | .template given => "Invalid format '" ++ given ++ "' for '%' style"

namespace Setup

/-- The layout that a request asks for. -/
def layoutOf (q : Request) : Except SetupError Layout :=
  if q.structured then .ok (.structured false)
  else
    let template := (Text.given q.template).getD ({} : Logging).format
    if Layout.isTemplate template then .ok (.plain template) else .error (.template template)

/-- Opens what a request writes to; a file is made if it is missing. -/
def openSink (q : Request) (fs : Files) : Except SetupError (Sink × Files) :=
  match Text.given q.filename with
  | none => .ok (.console, fs)
  | some name =>
    match fs.openLog name with
    | .error e => .error (.opening e)
    | .ok (way, fs) => .ok (.file way, fs)

/-- Sets up a log; the files then. The file is opened before the template is looked at. -/
def configure (q : Request) (fs : Files) : Except SetupError Setup × Files :=
  match Level.ofName? q.level with
  | none => (.error (.level q.level), fs)
  | some threshold =>
    match openSink q fs with
    | .error e => (.error e, fs)
    | .ok (sink, fs) =>
      ((layoutOf q).map fun layout => { threshold, handler := some ⟨sink, layout⟩ }, fs)

/-- Whether reports of a level are kept. -/
def isEnabled (s : Setup) (level : Int) : Bool := 0 < level && s.threshold ≤ level

/-- Writes a record that is kept: what goes to the console, and the files then. A record that has no
line with so many levels of nesting is dropped. -/
def emit (limit : Nat) (s : Setup) (fs : Files) (r : Record) : Text × Files :=
  match s.handler with
  | none => ([], fs)
  | some h =>
    match h.layout.line limit r with
    | .error _ => ([], fs)
    | .ok line =>
      match h.sink with
      | .console => (line ++ "\n", fs)
      | .file way => ([], fs.append way (line ++ "\n"))

/-- Writes those of the events at a time that are kept: what goes to the console, and the files then. -/
def emitEvents (limit : Nat) (s : Setup) (clock : Int) (fs : Files) : List Event → Text × Files
  | [] => ([], fs)
  | e :: rest =>
    if s.isEnabled e.severity.level then
      let (here, fs) := s.emit limit fs (.ofEvent clock e)
      let (more, fs) := s.emitEvents limit clock fs rest
      (here ++ more, fs)
    else s.emitEvents limit clock fs rest

end Setup

end ExtensionProbe.Log
