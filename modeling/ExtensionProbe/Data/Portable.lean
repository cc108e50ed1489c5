import ExtensionProbe.Data

/-!
# Values in the forms that JSON has

What a record holds is told to others in forms that JSON has: bytes as the text that they are, days as
they are written, rows of every kind as lists, and doubles that are no numbers as nothing. Values are told
as deep as there is room for.

* `portable_text`, `portable_int`, `portable_bool`: a value that JSON has is told as it is.
-/

namespace ExtensionProbe.Data

/-- Why a value is not told. -/
inductive PortableError where
  /-- Bytes are no text. -/
  | bytes
  /-- Values are nested too deeply. -/
  | depth
  /-- A name of what a record holds has halves that stand alone. -/
  | torn
  /-- A key of what a record holds is no name. -/
  | noName
deriving DecidableEq, Repr

/-- The wording of an error, as far as it has one of its own. -/
def PortableError.message : PortableError → String
  | .bytes => ""
  | .depth => "Circular reference detected (depth exceeded)"
  | .torn => ""
  | .noName => ""

/-- The levels of nesting that are told. A value with more of them is taken for one that is within itself. -/
def maxPortableDepth : Nat := 255

/-- The text of a timestamp; universal time has a letter of its own. -/
def timestampText (t : Timestamp) : String :=
  if t.offset = some 0 then { t with offset := none }.textWith "T" ++ "Z" else t.textWith "T"

mutual

/-- A value at a level of nesting in a form that JSON has. -/
def portableAt (level : Nat) (d : Data) : Except PortableError Data :=
  if maxPortableDepth ≤ level then .error .depth
  else
    match d with
    | float (.finite s m e) => pure (float (.finite s m e))
    | float _ => pure null
    | bytes b =>
      match String.fromUTF8? ⟨b.toArray⟩ with
      | some s => pure (text s)
      | none => .error .bytes
    | date d => pure (text d.text)
    | timestamp t => pure (text (timestampText t))
    | path s => pure (text s)
    | list items => list <$> portablesAt (level + 1) items
    | tuple items => list <$> portablesAt (level + 1) items
    | set items => list <$> portablesAt (level + 1) items
    | map entries => map <$> portableEntriesAt (level + 1) entries
    | d => pure d

/-- Members at a level of nesting. -/
def portablesAt (level : Nat) : List Data → Except PortableError (List Data)
  | [] => pure []
  | item :: rest => do
    let d ← portableAt level item
    let more ← portablesAt level rest
    pure (d :: more)

/-- Entries of a mapping at a level of nesting. Their keys are told as they are. -/
def portableEntriesAt (level : Nat) : List (Data × Data) → Except PortableError (List (Data × Data))
  | [] => pure []
  | (k, v) :: rest => do
    let value ← portableAt level v
    let more ← portableEntriesAt level rest
    pure ((k, value) :: more)

end

/-- A value in a form that JSON has. -/
def portable (d : Data) : Except PortableError Data := portableAt 0 d

@[simp] theorem portable_text (s : Text) : portable (text s) = .ok (text s) := rfl

@[simp] theorem portable_int (n : Int) : portable (int n) = .ok (int n) := rfl

@[simp] theorem portable_bool (b : Bool) : portable (bool b) = .ok (bool b) := rfl

end ExtensionProbe.Data
