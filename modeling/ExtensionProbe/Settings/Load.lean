import ExtensionProbe.Document
import ExtensionProbe.Schema.Settings

/-!
# Loading settings

Settings come from a file, and a host version that they leave open from the surroundings. Only the file
that is read without being named may be missing.
-/

namespace ExtensionProbe.Settings

/-- Why settings are not loaded. -/
inductive SettingsError where
  /-- The file is not loaded. -/
  | file (e : LoadError)
  /-- The file holds no settings. -/
  | invalid (issues : List Issue)
deriving DecidableEq, Repr

/-- The settings in the file at a path. -/
def ofFile (levels : Levels) (fs : Files) (p : Path) : Except SettingsError Settings := do
  let es ← (Document.load levels fs p).mapError .file
  (decode (.map es)).mapError .invalid

/-- The settings in a file, or in the usual one if none is named. -/
def load (levels : Levels) (fs : Files) (file : Option Path) (environment : Option Text) :
    Except SettingsError Settings := do
  let s ←
    match file with
    | some p => ofFile levels fs p
    | none =>
      let p := Path.ofText defaultFile
      match fs.exist p with
      | .error e => .error (.file (.opening e))
      | .ok found => if found then ofFile levels fs p else .ok {}
  pure (s.withSurroundings environment)

end ExtensionProbe.Settings
