import ExtensionProbe.Command
import ExtensionProbe.Command.Show
import ExtensionProbe.Json.Writer
import ExtensionProbe.Log.Setup
import ExtensionProbe.Probe
import ExtensionProbe.Schema.Assign
import ExtensionProbe.Settings.Load
import ExtensionProbe.Snapshot

/-!
# Running a command

A command is run in surroundings: the files, the console, the host version that is told, the clock, and the
room for nested values that is left where they are read or written. It ends with an exit code and what it
wrote, or with a fault that is none of its input.

* `endRefused_exit`: input that is refused ends a command with the code of an error.
-/

namespace ExtensionProbe

/-- The levels of nesting that a command has room for: in the file of its settings, in its registry, in a
report that it writes, and in a line of its log. -/
structure Room where
  settings : Levels
  registry : Levels
  report : Nat
  log : Nat

/-- Where a command runs. -/
structure Surroundings where
  files : Files
  console : Console
  room : Room
  hostVersion : Option Text := none
  /-- The clock, in microseconds since 1970. -/
  clock : Int := 0

/-- What is left after a command: its exit code, what it wrote to the output and of its log to the
console, and the files. -/
structure Ended where
  exit : Nat
  output : Text
  log : Text := []
  files : Files

/-- A fault that a command does not answer for. -/
inductive CommandFault where
  /-- A file cannot be read, for a reason that is not its content. -/
  | loading (e : LoadError)
  /-- The log cannot be set up. -/
  | setup (e : Log.SetupError)
  /-- A probe fails for another reason than a malformed listing. -/
  | probe (e : ProbeError)
  /-- Something cannot be shown. -/
  | display (e : ShowError)
  /-- A report cannot be written. -/
  | writing (e : Json.WriteError)

namespace Command

/-- The exit code for input that cannot be loaded or used. -/
def errorExit : Nat := 2

/-- Why input is not used: in words, or by a fault that the command does not answer for. -/
abbrev Refused := Except CommandFault Text

/-- The wording for data that does not fit a record. -/
def issuesMessage (kind : RecordKind) (issues : List Issue) : Text :=
  toString issues.length ++ " validation error" ++ (if issues.length = 1 then "" else "s") ++ " for "
    ++ kind.title

/-- A data file that is not loaded. -/
def refusedFile (e : LoadError) : Refused :=
  if e.isOfInput then .ok e.message else .error (.loading e)

/-- Settings that are not loaded. -/
def refusedSettings : Settings.SettingsError → Refused
  | .file e => refusedFile e
  | .invalid issues => .ok (issuesMessage .settings issues)

/-- A snapshot that is not loaded. -/
def refusedSnapshot : SnapshotError → Refused
  | .notList capability kind => .ok (SnapshotError.notListMessage capability kind)
  | .entry issues => .ok (issuesMessage .descriptor issues)
  | .unwritable e => .ok e.message

/-- The settings of a command: those of a file and of the surroundings, with those of the command line in
force. -/
def settings (w : Surroundings) (config : Option Text) (o : Settings.Overrides) :
    Except Refused Settings := do
  let file := (Text.given config).map Path.ofText
  let s ← (Settings.load w.room.settings w.files file w.hostVersion).mapError refusedSettings
  (s.overrideChecked o).mapError fun issues => .ok (issuesMessage .settings issues)

/-- The snapshot in a file, and the event that tells of it. -/
def snapshot (levels : Levels) (fs : Files) (path : Text) : Except Refused (Snapshot × Log.Event) := do
  let es ← (Document.load levels fs (Path.ofText path)).mapError refusedFile
  let s ← (Snapshot.ofData es).mapError refusedSnapshot
  pure (s, Snapshot.loadedEvent path es.length)

/-- Ends a command whose input is not used. -/
def endRefused (console : Console) (files : Files) (log : Text) (context : String) (why : Refused) :
    Except CommandFault Ended := do
  let message ← why
  let output ← (Show.errorLine console context message).mapError .display
  pure { exit := errorExit, output, log, files }

/-- What the log of a command is asked to be. -/
def logRequest (q : ProbeRequest) (l : Logging) : Log.Request :=
  { level := if q.debug then "DEBUG" else l.level
    template := some l.format
    filename := l.filename
    structured := l.structured }

/-- A report as a JSON document with at most so many levels of nesting, with whether no check failed. -/
def json (limit : Nat) (r : Report) : Except Json.WriteError Text :=
  let entries :=
    match r.dump with
    | .map es => es
    | _ => []
  (fun s => Text.ofString (s ++ "\n"))
    <$> Json.write limit (.indented 2) (.map ((.text "success", .bool r.success) :: entries))

/-- A report in the form that is asked for. -/
def present (w : Surroundings) (asJson : Bool) (r : Report) : Except CommandFault Text :=
  if asJson then (json w.room.report r).mapError .writing
  else (Show.report w.console r).mapError .display

/-- Ends a probe that gave a report or failed. -/
def endProbe (w : Surroundings) (asJson : Bool) (files : Files) (log : Text)
    (outcome : Except ProbeError Report) : Except CommandFault Ended :=
  match outcome with
  | .ok r => (present w asJson r).map fun output => { exit := r.exitCode, output, log, files }
  | .error (.malformed m) => endRefused w.console files log "Malformed registry: " (.ok m.message)
  | .error e => .error (.probe e)

/-- Probes a recorded registry. -/
def runProbe (w : Surroundings) (q : ProbeRequest) : Except CommandFault Ended :=
  match settings w q.config q.overrides with
  | .error why => endRefused w.console w.files [] "Could not load config: " why
  | .ok s =>
    match Log.Setup.configure (logRequest q s.logging) w.files with
    | (.error e, _) => .error (.setup e)
    | (.ok log, files) =>
      match snapshot w.room.registry files q.registry with
      | .error why => endRefused w.console files [] "Could not load registry listing: " why
      | .ok (registry, loaded) =>
        let run := (Probe.probe s.leastExtensions Snapshot.client s.checks s.capability s.hostVersion
          registry).1
        let (written, files) := log.emitEvents w.room.log w.clock files (loaded :: run.events)
        endProbe w q.asJson files written run.outcome

/-- Reads a version and shows its parts. -/
def showVersion (w : Surroundings) (raw : Text) : Except CommandFault Ended :=
  match Version.parse (some raw) with
  | .ok v =>
    ((Show.version w.console v).mapError .display).map fun output =>
      { exit := 0, output, files := w.files }
  | .error (.rejected r) => endRefused w.console w.files [] "" (.ok r.message)
  | .error (.tooLong e) => .error (.display (.limit e))

/-- Shows the checks of the settings. -/
def showChecks (w : Surroundings) (config : Option Text) : Except CommandFault Ended :=
  match settings w config {} with
  | .error why => endRefused w.console w.files [] "Could not load config: " why
  | .ok s =>
    ((Show.checks w.console s.checks).mapError .display).map fun output =>
      { exit := 0, output, files := w.files }

/-- Runs a command. -/
def run (w : Surroundings) : Command → Except CommandFault Ended
  | .probe q => runProbe w q
  | .version raw => showVersion w raw
  | .checks config => showChecks w config

theorem endRefused_exit {console : Console} {files : Files} {log : Text} {context : String}
    {why : Refused} {e : Ended} (h : endRefused console files log context why = .ok e) : e.exit = errorExit := by
  unfold endRefused at h
  cases why with
  | error _ => simp [bind, Except.bind] at h
  | ok message =>
    cases hs : (Show.errorLine console context message).mapError CommandFault.display with
    | error _ => simp [bind, Except.bind, hs] at h
    | ok output =>
      simp [bind, Except.bind, pure, Except.pure, hs] at h
      rw [← h]

end Command

end ExtensionProbe
