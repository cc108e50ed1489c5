import ExtensionProbe.Data.Display

/-!
# Failures in a log

What a record tells of a failure: the name of its kind, by itself and with the place that the kind is
from, and the values that it was raised with. A failure of the system is raised with a code and what the
code means, and perhaps with the files that it is about; the general kind of them gives way to the kind
that the code stands for.
-/

namespace ExtensionProbe.Log

/-- How a failure says the values that it was raised with. -/
inductive Saying where
  /-- A single value is shown. -/
  | values
  /-- A single value is written out, because it is a key. -/
  | key
  /-- A code and its meaning come first, then the files. -/
  | system (files : List Data)
deriving Inhabited

/-- A failure that a record tells of. -/
structure Failure where
  kind : String
  /-- The place that the kind is from; empty for a kind that is known everywhere. -/
  home : String := ""
  saying : Saying := .values
  arguments : List Data

/-! ## Failures of the system -/

/-- The names of the general kind of failures of the system, the first of which is its own. -/
def systemNames : List String := ["OSError", "IOError", "EnvironmentError"]

/-- The special kinds of failures of the system, each with the codes that it stands for. -/
def systemKinds : List (String × List Int) :=
  [("BlockingIOError", [11, 114, 115]), ("BrokenPipeError", [32, 108]), ("ChildProcessError", [10]),
    ("ConnectionAbortedError", [103]), ("ConnectionError", []), ("ConnectionRefusedError", [111]),
    ("ConnectionResetError", [104]), ("FileExistsError", [17]), ("FileNotFoundError", [2]),
    ("InterruptedError", [4]), ("IsADirectoryError", [21]), ("NotADirectoryError", [20]),
    ("PermissionError", [13, 1]), ("ProcessLookupError", [3]), ("TimeoutError", [110])]

/-- The kind of failures of the system that tells how much was written, and not of a file. -/
def countingKind : String := "BlockingIOError"

/-- The whole number that a value is. -/
def wholeNumber? : Data → Option Int
  | .int n => some n
  | .bool b => some (if b then 1 else 0)
  | _ => none

/-- The kind of a failure of the system that is raised under a name with a code. -/
def systemKind (name : String) (code : Data) : String :=
  if systemNames.contains name then
    match systemKinds.find? fun k => (wholeNumber? code).any k.2.contains with
    | some (special, _) => special
    | none => "OSError"
  else name

/-- The files that a failure of the system of a kind is about: the third value that it is raised with, and
with it the fifth. -/
def systemFiles (kind : String) : List Data → List Data
  | [] => []
  | .null :: _ => []
  | file :: rest =>
    if kind == countingKind && (wholeNumber? file).isSome then []
    else
      match rest with
      | [_, .null] => [file]
      | [_, other] => [file, other]
      | _ => [file]

/-- A failure of the system. It keeps its code and the meaning only, if it is about files. With less than
those two values, or with more than there is a use for, it is like any other failure. -/
def systemFailure (name : String) (arguments : List Data) : Failure :=
  match arguments with
  | code :: meaning :: rest =>
    let kind := systemKind name code
    let files := systemFiles kind rest
    if 3 < rest.length then { kind := systemKind name .null, arguments }
    else
      { kind, saying := .system files,
        arguments := if files.isEmpty then arguments else [code, meaning] }
  | _ => { kind := systemKind name .null, arguments }

/-- A failure of a kind that is known everywhere, raised with values. -/
def Failure.ofKind (name : String) (arguments : List Data) : Failure :=
  if systemNames.contains name || systemKinds.any (·.1 == name) then systemFailure name arguments
  else if name == "KeyError" then { kind := name, saying := .key, arguments }
  else { kind := name, arguments }

/-! ## What failures say -/

namespace Failure

/-- What a failure of the system says: its code, the meaning of it, and the files written out. -/
def systemMessage (code meaning : Data) (files : List Data) : Except Data.DisplayError Text := do
  let code ← code.display
  let meaning ← meaning.display
  let files ← files.mapM Data.literal
  let about := if files.isEmpty then "" else ": " ++ " -> ".intercalate files
  pure ("[Errno " ++ code ++ "] " ++ meaning ++ about)

/-- What a failure says by the values that it was raised with: one is shown, more are written out in a
row. -/
def message (f : Failure) : Except Data.DisplayError Text :=
  match f.saying, f.arguments with
  | .system files, code :: meaning :: _ => systemMessage code meaning files
  | _, [] => .ok []
  | .key, [d] => Text.ofString <$> d.literal
  | _, [d] => d.display
  | _, ds => Text.ofString <$> (Data.tuple ds).literal

/-- What a failure to read a version says by the text that was read and the reason. -/
def unread (raw reason : Data) : Except Data.DisplayError Text := do
  let raw ← raw.literal
  let reason ← reason.display
  pure ("Cannot parse version " ++ raw ++ ": " ++ reason)

/-- The name of the kind with the place that it is from. -/
def qualifiedKind (f : Failure) : String :=
  if f.home.isEmpty then f.kind else f.home ++ "." ++ f.kind

/-- A failure on a line of its own. -/
def trace (f : Failure) : Text :=
  match f.message with
  | .error _ => f.qualifiedKind ++ ": <exception str() failed>"
  | .ok s => if s.isEmpty then f.qualifiedKind else f.qualifiedKind ++ ": " ++ s

end Failure

/-- What a record has to tell of a failure: none, one that is not known, or a known one. -/
inductive Trouble where
  | none
  | unknown
  | known (f : Failure)

namespace Trouble

/-- The trace of a failure, if there is one to tell of. -/
def trace? : Trouble → Option Text
  | .none => Option.none
  | .unknown => some "NoneType: None"
  | .known f => some f.trace

/-- What a record holds of a failure: its kind, the failure itself, and no way that led to it. -/
def value : Trouble → Data
  | .none => .null
  | .unknown => .tuple [.null, .null, .null]
  | .known f => .tuple [.failureKind f.qualifiedKind, .failure f.kind f.arguments, .null]

end Trouble

end ExtensionProbe.Log
