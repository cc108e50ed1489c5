import ExtensionProbe.Data.Display
import ExtensionProbe.Text.Base64
import ExtensionProbe.Text.Case
import ExtensionProbe.Yaml.Tag
import ExtensionProbe.Yaml.Fault

/-!
# Values of YAML scalars

A scalar has a value by its tag: a word, a number, a date, bytes or its text.
-/

namespace ExtensionProbe.Yaml

/-- A text without underscores. -/
def ungrouped (s : List Char) : List Char := s.filter (· != '_')

/-- The pieces of a text between its colons. -/
def pieces : List Char → List (List Char)
  | [] => [[]]
  | c :: rest =>
    if c == ':' then [] :: pieces rest
    else
      match pieces rest with
      | first :: more => (c :: first) :: more
      | [] => [[c]]

/-- A whole number in a base. -/
def integerIn (base : Nat) (s : List Char) : Except Fault Int :=
  (Literal.integer base s).mapError .integer

/-- The whole number that a text writes: in base two, eight or sixteen by the marks at its start, in
base sixty if it has colons, and else in base ten. -/
def integerValue (text : List Char) : Except Fault Int :=
  let s := ungrouped text
  match s with
  | [] => .error .noNumber
  | first :: _ =>
    let signed (n : Int) : Int := if first == '-' then -n else n
    match dropSign s with
    | [] => .error .noNumber
    | ['0'] => .ok 0
    | '0' :: 'b' :: digits => signed <$> integerIn 2 digits
    | '0' :: 'x' :: digits => signed <$> integerIn 16 digits
    | '0' :: digits => signed <$> integerIn 8 ('0' :: digits)
    | unsigned =>
      if unsigned.contains ':' then do
        let places ← (pieces unsigned).mapM (integerIn 10)
        pure (signed (places.foldl (fun n d => n * 60 + d) 0))
      else signed <$> integerIn 10 unsigned

/-- A number with perhaps a fraction and an exponent. -/
def doubleIn (s : List Char) : Except Fault Binary64 :=
  match Literal.double? s with
  | some x => .ok x
  | none => .error (.number (Text.quote (Text.ofChars s)))

/-- The sum of places in base sixty, the lowest one first, the next of which counts `base` times. -/
def sixties (sum : Binary64) (base : Nat) : List Binary64 → Except Fault Binary64
  | [] => .ok sum
  | x :: rest =>
    match Binary64.ofInt base with
    | .infinite _ => .error .overflow
    | factor => sixties (sum.add (x.mul factor)) (base * 60) rest

/-- The number that a text writes, in base sixty if it has colons. -/
def floatValue (text : List Char) : Except Fault Binary64 :=
  let s := Text.lowerChars (ungrouped text)
  match s with
  | [] => .error .noNumber
  | first :: _ =>
    let signed (x : Binary64) : Binary64 := if first == '-' then x.neg else x
    let unsigned := dropSign s
    if unsigned == ".inf".toList then .ok (.infinite (first == '-'))
    else if unsigned == ".nan".toList then .ok .nan
    else if unsigned.contains ':' then do
      let places ← (pieces unsigned).mapM doubleIn
      signed <$> sixties (Binary64.zero false) 1 places.reverse
    else signed <$> doubleIn unsigned

/-- The boolean that a word stands for, in letters of any size. -/
def booleanValue (text : List Char) : Except Fault Bool :=
  let word := String.ofList (Text.lowerChars text)
  if ["yes", "true", "on"].contains word then .ok true
  else if ["no", "false", "off"].contains word then .ok false
  else .error (.boolean word)

/-- The microseconds of a fraction's digits; digits beyond the sixth are left out. -/
def microseconds (digits : List Char) : Nat :=
  let six := digits.take 6
  digitsValue (six ++ List.replicate (6 - six.length) '0')

/-- The date or the time that a text writes. -/
def timestampValue (text : List Char) : Except Fault Data :=
  match stampText? (dropLineEnd text) with
  | none => .error .timestamp
  | some t =>
    let date := Date.ofParts (digitsValue t.year) (digitsValue t.month) (digitsValue t.day)
    match t.clock with
    | none => Data.date <$> date.mapError .calendar
    | some c =>
      Except.mapError Fault.calendar do
        let offset ← c.offset.mapM Timestamp.checkOffset
        let d ← date
        let time ←
          TimeOfDay.ofParts (digitsValue c.hour) (digitsValue c.minute) (digitsValue c.second)
            (microseconds c.fraction)
        pure (.timestamp ⟨d, time, offset⟩)

/-- The bytes that a text writes. -/
def binaryValue (text : Text) : Except Fault Data :=
  match text.chars?.filter (·.all Literal.isAscii) with
  | none => .error .malformed
  | some s =>
    match Text.Base64.decode? s with
    | some b => .ok (.bytes b)
    | none => .error .malformed

/-- The value of a text with a tag for scalars, which is the node's own, or else the plain value of a
mapping. -/
def scalarValue (t : Tag) (own : Bool) (text : Text) : Except Fault Data :=
  match t, text.chars? with
  | .null, _ => .ok .null
  | .text, _ => .ok (.text text)
  | .binary, _ => binaryValue text
  | .timestamp, some s => if own then timestampValue s else .error .indirectTimestamp
  | .timestamp, none => .error (if own then .timestamp else .indirectTimestamp)
  | .boolean, some s => .bool <$> booleanValue s
  | .integer, some s => .int <$> integerValue s
  | .float, some s => .float <$> floatValue s
  | .boolean, none => .error (.boolean text.lower)
  | .integer, none => .error (.integer (.invalid 10 text.quote))
  | .float, none => .error (.number text.quote)
  | _, _ => .error .malformed

end ExtensionProbe.Yaml
