import ExtensionProbe.Data.Display
import ExtensionProbe.Number.Places

/-!
# Fields of a template

A field says how one value is written: as a text, a whole number, a double or a character, in how many
columns, with how many places, and with what before and after it.

* `length_setOut`: a field takes at least its width.
-/

namespace ExtensionProbe.Template

/-- Why a template is not filled. -/
inductive Fault where
  /-- A field ends before it says how its value is written. -/
  | incomplete
  /-- The name in a field is not closed. -/
  | openName
  /-- No value is written in the way that this character stands for. -/
  | conversion (c : Code) (index : Nat)
  /-- The width or the number of places is out of all bounds. -/
  | width
  | places
  /-- A value that is taken for the width, or for the number of places, is out of all bounds. -/
  | takenWidth
  | takenPlaces
  /-- A field is left without a value. -/
  | tooFewValues
  /-- A value is left without a field. -/
  | tooManyValues
  /-- A field has a name, and the values have none. -/
  | unnamed
  /-- No value has the name of a field. -/
  | missing (name : Text)
  /-- A whole number is to be written in too many places. -/
  | tooManyPlaces
  /-- There is no room for the width of a field. -/
  | noRoom
  /-- A value is of another kind than its field asks for. -/
  | kind
  /-- A double that is not finite is to be written as a whole number. -/
  | notFinite (isNumber : Bool)
  /-- A whole number is too great for a double. -/
  | tooGreat
  /-- A number is no code point. -/
  | codePoint
  /-- A value is not shown. -/
  | shown (e : Data.DisplayError)
deriving DecidableEq, Repr

/-- The wording of a fault. -/
def Fault.message : Fault → Text
  | .incomplete => "incomplete format"
  | .openName => "incomplete format key"
  | .conversion c index =>
    let shown : Code := if 31 ≤ c.value && c.value ≤ 126 then c else '?'
    "unsupported format character '" ++ [shown] ++ "' (0x"
      ++ String.ofList (Nat.toDigits 16 c.value) ++ ") at index " ++ toString index
  | .width => "width too big"
  | .places => "precision too big"
  | .takenWidth => "Python int too large to convert to C ssize_t"
  | .takenPlaces => "Python int too large to convert to C int"
  | .tooFewValues => "not enough arguments for format string"
  | .tooManyValues => "not all arguments converted during string formatting"
  | .unnamed => "format requires a mapping"
  | .missing name => name
  | .tooManyPlaces => "precision too large"
  | .noRoom => ""
  | .kind => "a value of another kind is required"
  | .notFinite true => "cannot convert float infinity to integer"
  | .notFinite false => "cannot convert float NaN to integer"
  | .tooGreat => "int too large to convert to float"
  | .codePoint => "%c arg not in range(0x110000)"
  | .shown e => e.message

/-- How a value is written. -/
structure Field where
  /-- Blanks stand after the value and not before it. -/
  left : Bool := false
  /-- A number that is not negative has a plus, or a blank, for its sign. -/
  plus : Bool := false
  blank : Bool := false
  /-- A whole number has the mark of its base, a double its point. -/
  alternate : Bool := false
  /-- A number is filled up with zeros. -/
  zeros : Bool := false
  width : Nat := 0
  places : Option Nat := none
  conversion : Code
  /-- Where the conversion stands in the template. -/
  index : Nat

/-- A value in writing: what stands before the zeros that fill it up, and the rest. -/
structure Written where
  sign : List Char := []
  mark : List Char := []
  body : Text
  isNumber : Bool := false

/-- A value in writing, set out in the width of a field. -/
def Field.setOut (f : Field) (w : Written) : Text :=
  let before := Text.ofChars (w.sign ++ w.mark)
  let missing := f.width - (before ++ w.body).length
  if f.left then before ++ w.body ++ List.replicate missing (Code.char ' ')
  else if f.zeros && w.isNumber then before ++ List.replicate missing (Code.char '0') ++ w.body
  else List.replicate missing (Code.char ' ') ++ before ++ w.body

theorem length_setOut (f : Field) (w : Written) : f.width ≤ (f.setOut w).length := by
  unfold Field.setOut
  split
  · simp; omega
  · split <;> simp <;> omega

/-- The sign of a number. -/
def Field.sign (f : Field) (negative : Bool) : List Char :=
  if negative then ['-'] else if f.plus then ['+'] else if f.blank then [' '] else []

/-- A character, escaped if it is not ASCII. -/
def asciiChar (c : Char) : List Char :=
  if c.toNat < 0x80 then [c]
  else if c.toNat < 0x100 then '\\' :: 'x' :: Text.Hex.fixed 2 c.toNat
  else if c.toNat < 0x10000 then '\\' :: 'u' :: Text.Hex.fixed 4 c.toNat
  else '\\' :: 'U' :: Text.Hex.fixed 8 c.toNat

/-- A text with as many characters as a field has places for. -/
def Field.text (f : Field) (s : Text) : Written :=
  { body := match f.places with
      | some n => s.take n
      | none => s }

/-- A whole number in the digits of a base. -/
def Field.whole (f : Field) (mark : List Char) (negative : Bool) (digits : List Char) : Written :=
  { sign := f.sign negative
    mark := if f.alternate then mark else []
    body := Text.ofChars (Binary64.padLeft (f.places.getD 0) '0' digits)
    isNumber := true }

/-- The whole part of a value. -/
def wholePart : Data → Except Fault Int
  | .int n => .ok n
  | .bool b => .ok (if b then 1 else 0)
  | .float x =>
    match x.truncate?, x with
    | some n, _ => .ok n
    | none, .nan => .error (.notFinite false)
    | none, _ => .error (.notFinite true)
  | _ => .error .kind

/-- A value that is a whole number. -/
def wholeNumber : Data → Except Fault Int
  | .int n => .ok n
  | .bool b => .ok (if b then 1 else 0)
  | _ => .error .kind

/-- A value as a double. -/
def double : Data → Except Fault Binary64
  | .float x => .ok x
  | d => do
    let n ← wholeNumber d
    match Binary64.ofInt n with
    | .infinite _ => .error .tooGreat
    | x => .ok x

/-- A finite double without its sign, as the small form of a conversion writes it. -/
def Field.places10 (f : Field) (num den : Nat) : List Char :=
  let places := f.places.getD 6
  match f.conversion.char?.map Char.toLower with
  | some 'f' => Binary64.fixedPlaces f.alternate num den places
  | some 'e' => Binary64.exponentPlaces f.alternate num den places
  | _ => Binary64.generalPlaces f.alternate num den places

/-- A double. -/
def Field.real (f : Field) (x : Binary64) : Written :=
  let body :=
    match x with
    | .nan => ['n', 'a', 'n']
    | .infinite _ => ['i', 'n', 'f']
    | .finite _ mantissa exponent =>
      let (num, den) := Binary64.magnitude mantissa exponent
      f.places10 num den
  { sign := f.sign x.isNegative
    body := Text.ofChars (if f.conversion.is Char.isUpper then body.map Char.toUpper else body)
    isNumber := true }

/-- A character, by itself or by its code point. -/
def character : Data → Except Fault Text
  | .text s => if s.length = 1 then .ok s else .error .kind
  | d => do
    let n ← wholeNumber d
    if 0 ≤ n ∧ n < 0x110000 then .ok [.ofNat n.toNat] else .error .codePoint

/-- The places that a whole number may be written in. -/
def maxPlaces : Nat := Nat.pow 2 31 - 4

/-- A whole number, unless it is to be written in too many places. -/
def Field.number (f : Field) (read : Data → Except Fault Int) (d : Data) : Except Fault Int := do
  let _ ← wholeOrReal d
  if f.places.any (maxPlaces < ·) then .error .tooManyPlaces
  read d
where
  /-- What counts as a number at all. -/
  wholeOrReal : Data → Except Fault Unit
    | .float _ => .ok ()
    | d => (fun _ => ()) <$> wholeNumber d

/-- A value in the form that a field asks for. -/
def Field.write (f : Field) (d : Data) : Except Fault Written := do
  match f.conversion with
  | .char 's' => pure (f.text (← d.display.mapError .shown))
  | .char 'r' => pure (f.text (← d.literal.mapError .shown))
  | .char 'a' =>
    pure (f.text (Text.ofChars ((← d.literal.mapError .shown).toList.flatMap asciiChar)))
  | .char 'c' => pure { body := ← character d }
  | .char 'd' | .char 'i' | .char 'u' =>
    let n ← f.number wholePart d
    pure (f.whole [] (n < 0) (← (Decimal.write n.natAbs).mapError fun e => .shown (.number e)).toList)
  | .char 'o' =>
    let n ← f.number wholeNumber d
    pure (f.whole ['0', 'o'] (n < 0) (Nat.toDigits 8 n.natAbs))
  | .char 'x' =>
    let n ← f.number wholeNumber d
    pure (f.whole ['0', 'x'] (n < 0) (Nat.toDigits 16 n.natAbs))
  | .char 'X' =>
    let n ← f.number wholeNumber d
    pure (f.whole ['0', 'X'] (n < 0) ((Nat.toDigits 16 n.natAbs).map Char.toUpper))
  | .char 'e' | .char 'E' | .char 'f' | .char 'F' | .char 'g' | .char 'G' =>
    pure (f.real (← double d))
  | c => .error (.conversion c f.index)

end ExtensionProbe.Template
