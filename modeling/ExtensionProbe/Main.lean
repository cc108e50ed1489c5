import ExtensionProbe.Command.Execute
import Std.Time.DateTime.Timestamp

/-!
# The program

Reads the files that a command line names, runs the command, prints what it wrote and writes back the
files that it changed.
-/

namespace ExtensionProbe.Main

/-! ## Files -/

/-- What is at a place, if anything is. What may not be opened is taken for a file that may not be read. -/
def entryAt (place : String) : IO (Option Entry) := do
  try
    pure (some (.file (← IO.FS.readBinFile place)))
  catch e =>
    match e with
    | .inappropriateType .. => pure (some .directory)
    | .permissionDenied .. => pure (some (.file .empty { read := false }))
    | _ => pure none

/-- A place in writing, from the root, if its names are characters. -/
def placeText? (way : List Text) : Option String := Text.toString? (Path.text ⟨.root, way⟩)

/-- Adds what is at a place, and the directories on the way to it, up to the first that is missing. -/
def visit (fs : Files) (way : List Text) : IO Files := do
  let mut fs := fs
  for n in List.range way.length do
    let part := way.take (n + 1)
    match fs.find part.dropLast, fs.find part, placeText? part with
    | some (.directory _), none, some place =>
      match ← entryAt place with
      | some e => fs := fs.put part e
      | none => pure ()
    | _, _, _ => pure ()
  pure fs

/-- Adds what is on the way that a path names. -/
def visitPath (fs : Files) (path : Text) : IO Files := do
  let p := Path.ofText path
  let mut fs := fs
  for n in List.range (p.names.length + 1) do
    fs ← visit fs (Files.settle (fs.placeOf p.start) (p.names.take n))
  pure fs

/-- Adds the files that a command may read or write. -/
def visitAll (w : Surroundings) : Command → IO Files
  | .version _ => pure w.files
  | .checks config => visitPath w.files ((Text.given config).getD Settings.defaultFile)
  | .probe q => do
    let fs ← visitPath w.files ((Text.given q.config).getD Settings.defaultFile)
    let fs ← visitPath fs q.registry
    match Command.settings { w with files := fs } q.config q.overrides with
    | .error _ => pure fs
    | .ok s =>
      match Text.given s.logging.filename with
      | none => pure fs
      | some name => visitPath fs name

/-- Writes back the files that a command changed. -/
def writeBack (before after : Files) : IO Unit := do
  let old := before.toList
  for (place, content) in after.toList do
    if old.lookup place != some content then
      match Text.toString? place with
      | some place => IO.FS.writeBinFile ("/" ++ place) content
      | none => pure ()

/-! ## The console -/

/-- The columns of a console that does not tell how many it has. -/
def usualWidth : Nat := 80

/-- The variable that tells the columns of the console. -/
def widthVariable : String := "COLUMNS"

/-- A console of so many columns, which writes no halves. Names of characters are not known to it. -/
def console (width : Nat) : Console where
  width
  halves _ := false
  knows _ := false

/-- The levels of nesting that a thousand calls have room for: reading YAML takes two calls a level, and
the calls on the way to a reader or a writer are some twenty. -/
def room : Room where
  settings := ⟨980, 490⟩
  registry := ⟨980, 490⟩
  report := 980
  log := 980

/-- A text for the console of errors, with an escape for each half. -/
def escaped (s : Text) : String :=
  String.ofList (s.flatMap fun c =>
    match c with
    | .char c => [c]
    | .half place => '\\' :: 'u' :: Text.Hex.fixed 4 (Code.half place).value)

/-- The words for a half that the console cannot write. -/
def unwritableMessage (place : Fin 2048) : Text :=
  Text.ofString "the console cannot write " ++ [.half place]

/-- The words for a fault. -/
def faultText : CommandFault → Text
  | .loading e => e.message
  | .setup e => e.message
  | .probe (.malformed m) => m.message
  | .probe (.unwritable e) => e.message
  | .probe (.leastBelowOne least) => Probe.leastMessage least
  | .display (.markup _) => "the markup of what is shown is at fault"
  | .display (.limit e) => e.message
  | .display (.unwritable place) => unwritableMessage place
  | .writing (.number e) => e.message
  | .writing _ => "the report has no form in JSON"

/-- How the program is used. -/
def usage : String :=
  "usage: strategyprobe run --registry PATH [--config PATH] [--capability TAG] [--host-version TEXT]\n"
    ++ "                         [--min-extensions N] [--json] [--debug]\n"
    ++ "       strategyprobe parse-version VERSION\n"
    ++ "       strategyprobe checks [--config PATH]"

/-- Prints what a command wrote, which has no halves on this console, and its log. -/
def finish (ended : Ended) : IO UInt32 :=
  match Text.toString? ended.output with
  | none => throw (IO.userError "what a command wrote has halves")
  | some output => do
    IO.print output
    IO.eprint (escaped ended.log)
    pure (UInt32.ofNat ended.exit)

/-- Runs a command in the surroundings of the program. -/
def runCommand (c : Command) : IO UInt32 := do
  let hostVersion := (← IO.getEnv Settings.hostVariable).map Text.ofString
  let width := ((← IO.getEnv widthVariable).bind String.toNat?).getD usualWidth
  let clock := (← Std.Time.Timestamp.now).toNanosecondsSinceUnixEpoch.val / 1000
  let here := (Path.ofText (← IO.currentDir).toString).names
  let files ← visit { Files.empty with here } here
  let start : Surroundings := { files, console := console width, room, hostVersion, clock }
  let files ← visitAll start c
  match c.run { start with files } with
  | .error e =>
    IO.eprintln (escaped (faultText e))
    pure 1
  | .ok ended =>
    writeBack files ended.files
    finish ended

end ExtensionProbe.Main

open ExtensionProbe in
/-- The program: the exit code tells whether a check failed, and whether the input could be used. -/
def main (words : List String) : IO UInt32 :=
  match Command.ofWords (words.map Text.ofString) with
  | .ok c => Main.runCommand c
  | .error .help => do
    IO.println Main.usage
    pure 0
  | .error _ => do
    IO.eprintln Main.usage
    pure 2
