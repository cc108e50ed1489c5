import ExtensionProbe.Files
import ExtensionProbe.Json.Reader
import ExtensionProbe.Text.Encoded
import ExtensionProbe.Yaml.Build

/-!
# Data files

A data file is JSON or YAML by the suffix of its path, in UTF-8, and holds a mapping. The readers of both
formats call themselves for what is nested, so they read as many levels as the caller leaves calls for.

* `load_missing`: a path that leads nowhere is not loaded, whatever its suffix.
-/

namespace ExtensionProbe

/-- The formats of data files. -/
inductive Format where
  | json | yaml
deriving DecidableEq, Repr

namespace Format

/-- The name of a format. -/
def name : Format → String
  | .json => "json"
  | .yaml => "yaml"

/-- The format that a suffix in small letters stands for. -/
def ofSuffix? (suffix : Text) : Option Format :=
  if suffix == ".json" then some .json
  else if suffix == ".yaml" || suffix == ".yml" then some .yaml
  else none

end Format

/-- The levels of nesting that there is room for in a document of each format. -/
structure Levels where
  json : Nat
  yaml : Nat

/-- Why a data file is not loaded. -/
inductive LoadError where
  /-- Nothing is at the path. -/
  | missing (path : Text)
  /-- The suffix stands for no format. -/
  | suffix (suffix : Text)
  /-- The file cannot be looked for or opened. -/
  | opening (e : OpenError)
  /-- The bytes are not UTF-8. -/
  | encoding
  /-- The text is no JSON document. -/
  | json (path : Text) (e : Json.ReadError)
  /-- The text is no YAML document. -/
  | yaml (path : Text) (e : Yaml.Fault)
  /-- The document is something else than a mapping. -/
  | notMapping (path : Text) (kind : String)
deriving DecidableEq, Repr

namespace LoadError

/-- The wording for a suffix that stands for no format. -/
def suffixMessage (suffix : Text) : Text := "Unsupported config format: " ++ suffix

/-- The wording of an error, as far as it has one of its own. -/
def message : LoadError → Text
  | .missing path => "Config file does not exist: " ++ path
  | .suffix s => suffixMessage s
  | .opening _ => ""
  | .encoding => ""
  | .json path .malformed => "Invalid JSON in " ++ path
  | .json _ (.number e) => e.message
  | .json _ (.depth inObject) =>
    "maximum recursion depth exceeded while decoding a JSON "
      ++ (if inObject then "object" else "array") ++ " from a unicode string"
  | .yaml path .malformed => "Invalid YAML in " ++ path
  | .yaml _ e => e.message
  | .notMapping path kind => "Config in " ++ path ++ " must be a mapping, got " ++ kind

/-- Whether an error is one of the input: it is reported and ends the program in order. -/
def isOfInput : LoadError → Bool
  | .missing _ => true
  | .suffix _ => true
  | .opening e => e == .missing
  | .encoding => true
  | .json _ (.depth _) => false
  | .json _ _ => true
  | .yaml _ e =>
    match e with
    | .malformed => true
    | .codePoint n => decide (n ≤ Yaml.greatestEscape)
    | .integer _ => true
    | .number _ => true
    | .calendar _ => true
    | _ => false
  | .notMapping _ _ => true

end LoadError

namespace Document

/-- The entries of a document; an empty YAML document has none. -/
def entries (path : Text) (format : Format) (d : Data) :
    Except LoadError (List (Data × Data)) :=
  match d, format with
  | .map es, _ => .ok es
  | .null, .yaml => .ok []
  | other, _ => .error (.notMapping path other.kindName)

/-- A fault of a YAML document in the file at a path. -/
def yamlError (path : Text) : Yaml.Fault → LoadError
  | .encoding => .encoding
  | e => .yaml path e

/-- The entries of bytes in a format. A YAML document is read page by page, so a fault may be met before
bytes that are not UTF-8. -/
def parse (levels : Levels) (path : Text) (format : Format) (bytes : ByteArray) :
    Except LoadError (List (Data × Data)) := do
  let d ←
    match format, String.fromUTF8? bytes with
    | .json, some s => (Json.read levels.json (Text.unify s.toList)).mapError (.json path)
    | .json, none => .error .encoding
    | .yaml, some s => (Yaml.read levels.yaml { text := Text.unify s.toList }).mapError (yamlError path)
    | .yaml, none =>
      let start := Text.readableStart bytes.toList
      let text := start.take (start.length / Yaml.pageSize * Yaml.pageSize)
      (Yaml.read levels.yaml { text, stop := some .encoding }).mapError (yamlError path)
  entries path format d

/-- The entries of the file at a path. -/
def load (levels : Levels) (fs : Files) (p : Path) : Except LoadError (List (Data × Data)) :=
  match fs.exist p, Format.ofSuffix? p.suffix with
  | .error e, _ => .error (.opening e)
  | .ok false, _ => .error (.missing p.text)
  | .ok true, none => .error (.suffix p.suffix)
  | .ok true, some format =>
    match fs.read p with
    | .error e => .error (.opening e)
    | .ok bytes => parse levels p.text format bytes

theorem load_missing {levels : Levels} {fs : Files} {p : Path} (h : fs.look p = .ok none) :
    load levels fs p = .error (.missing p.text) := by
  simp [load, Files.exist, h, Functor.map, Except.map]

end Document

end ExtensionProbe
