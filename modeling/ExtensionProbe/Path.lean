import ExtensionProbe.Text.Case

/-!
# Paths of files

A path is where it starts and the names on the way. Names that stand for no step are left out; a step up
is kept, because it may lead elsewhere than back. A name is a row of bytes. A byte that is part of no
character stands in a name as a half, which is one of those that are kept for bytes.
-/

namespace ExtensionProbe

/-- Where a path starts. -/
inductive Path.Start where
  | here | root | doubleRoot
deriving DecidableEq, Repr

/-- A path: where it starts, and the names on the way. -/
structure Path where
  start : Path.Start
  names : List Text
deriving DecidableEq, Repr

namespace Path

/-- A start in writing. -/
def Start.text : Start → Text
  | .here => ""
  | .root => "/"
  | .doubleRoot => "//"

/-- The start that a text has. Two slashes differ from one, and more than two do not. -/
def Start.ofText : Text → Start
  | .char '/' :: .char '/' :: .char '/' :: _ => .root
  | .char '/' :: .char '/' :: _ => .doubleRoot
  | .char '/' :: _ => .root
  | _ => .here

/-- Whether a name is a step on the way. -/
def isStep (name : Text) : Bool := !(name.isEmpty || name == ".")

/-- The names between the slashes of a text, the empty ones too. -/
def namesOf : Text → List Text
  | [] => [[]]
  | c :: rest =>
    if c = '/' then [] :: namesOf rest
    else
      match namesOf rest with
      | [] => [[c]]
      | name :: names => (c :: name) :: names

/-- The path that a text names. -/
def ofText (s : Text) : Path := ⟨Start.ofText s, (namesOf s).filter isStep⟩

/-- A path in writing; the place itself is a point. -/
def text (p : Path) : Text :=
  let s := p.start.text ++ Text.join "/" p.names
  if s.isEmpty then "." else s

/-- The last name of a path. -/
def name (p : Path) : Text := p.names.getLast?.getD []

/-- The suffix of a name: its end from the last point on, if the point is neither first nor last. -/
def suffixOf (name : Text) : Text :=
  let reversed := name.reverse
  let ending := (reversed.takeWhile fun (c : Code) => c != '.').reverse
  match reversed.dropWhile fun (c : Code) => c != '.' with
  | _ :: _ :: _ => if ending.isEmpty then [] else '.' :: ending
  | _ => []

/-- The suffix of a path in small letters. -/
def suffix (p : Path) : Text := Text.lower (suffixOf p.name)

/-! ## Names in bytes -/

/-- Whether a half is kept for a byte that is part of no character. -/
def isByte (place : Fin 2048) : Bool := 0x480 ≤ place.val && place.val < 0x500

/-- Whether every half in a text is kept for a byte. -/
def isEncodable (s : Text) : Bool := (s.filterMap Code.half?).all isByte

/-- Whether a text can be a name of files: it has a form in bytes, and none of them is zero. -/
def isName (s : Text) : Bool := isEncodable s && !s.contains '\x00'

/-- The bytes of a code point in a name. -/
def sizeOfCode : Code → Nat
  | .char c => c.utf8Size
  | .half _ => 1

/-- The bytes of a text as a name. -/
def size (s : Text) : Nat := s.foldl (fun n c => n + sizeOfCode c) 0

end Path

end ExtensionProbe
