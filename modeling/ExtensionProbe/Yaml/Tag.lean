import ExtensionProbe.Calendar
import ExtensionProbe.Text.Hex

/-!
# Tags

A tag says what a node stands for. A plain scalar without a tag gets one by its text: some words, the
forms of numbers, and the forms of dates and times have tags of their own.
-/

namespace ExtensionProbe.Yaml

/-- What a node stands for. -/
inductive Tag where
  | null | boolean | integer | float | text | binary | timestamp
  | sequence | mapping | set | orderedMapping | pairs
  /-- A key that takes in the entries of other mappings. -/
  | merge
  /-- A key for the plain value of a mapping. -/
  | value
  | unknown
deriving DecidableEq, Repr

namespace Tag

/-- What the names of known tags start with. -/
def base : String := "tag:yaml.org,2002:"

/-- The known tags and the ends of their names. -/
def names : List (String × Tag) :=
  [("null", .null), ("bool", .boolean), ("int", .integer), ("float", .float), ("str", .text),
    ("binary", .binary), ("timestamp", .timestamp), ("seq", .sequence), ("map", .mapping),
    ("set", .set), ("omap", .orderedMapping), ("pairs", .pairs), ("merge", .merge),
    ("value", .value)]

/-- The tag with a name. -/
def ofName (name : String) : Tag :=
  ((names.find? fun n => base ++ n.1 == name).map Prod.snd).getD .unknown

end Tag

/-! ## Words and numbers -/

/-- The words for true and false. -/
def booleanWords : List String :=
  ["yes", "Yes", "YES", "no", "No", "NO", "true", "True", "TRUE", "false", "False", "FALSE", "on",
    "On", "ON", "off", "Off", "OFF"]

/-- The words for nothing. -/
def nullWords : List String := ["~", "null", "Null", "NULL", ""]

/-- The marks that a plain scalar cannot start with. A scalar in quotes that is read as a plain one can be
such a mark, and no value has its tag. -/
def markWords : List String := ["!", "&", "*"]

/-- A text without a sign at its start. -/
def dropSign : List Char → List Char
  | '-' :: rest => rest
  | '+' :: rest => rest
  | rest => rest

/-- Whether a text is characters of a kind, at least one. -/
def isRun (p : Char → Bool) (s : List Char) : Bool := !s.isEmpty && s.all p

/-- A digit or an underscore. -/
def isDigitOrLine (c : Char) : Bool := c.isDigit || c == '_'

/-- A digit from 1 on. -/
def isNonzeroDigit (c : Char) : Bool := c.isDigit && c != '0'

/-- Whether a text is further places of a number in base sixty, at least one, each after a colon, up to
an ending. -/
def isSixties (ending : List Char → Bool) : List Char → Bool
  | ':' :: a :: b :: rest =>
    if b.isDigit then
      '0' ≤ a && a ≤ '5' && (ending rest || isSixties ending rest)
    else a.isDigit && (ending (b :: rest) || isSixties ending (b :: rest))
  | [':', a] => a.isDigit && ending []
  | _ => false

/-- Whether a text has the form of a whole number. -/
def isInteger (s : List Char) : Bool :=
  match dropSign s with
  | ['0'] => true
  | '0' :: 'b' :: rest => isRun (fun c => c == '0' || c == '1' || c == '_') rest
  | '0' :: 'x' :: rest => isRun (fun c => (Text.Hex.value? c).isSome || c == '_') rest
  | '0' :: rest => isRun (fun c => ('0' ≤ c && c ≤ '7') || c == '_') rest
  | c :: rest =>
    isNonzeroDigit c
      && (rest.all isDigitOrLine || isSixties List.isEmpty (rest.dropWhile isDigitOrLine))
  | [] => false

/-- Whether a text is an exponent, or is empty. The sign must not be left out. -/
def isExponentOrEmpty : List Char → Bool
  | [] => true
  | e :: sign :: digits =>
    (e == 'e' || e == 'E') && (sign == '-' || sign == '+') && isRun Char.isDigit digits
  | _ => false

/-- Whether a text is a point and digits. -/
def isFraction : List Char → Bool
  | '.' :: rest => rest.all isDigitOrLine
  | _ => false

/-- Whether a text has the form of a number with a point. -/
def isFloat (s : List Char) : Bool :=
  [".nan", ".NaN", ".NAN"].any (·.toList == s)
    || (match s with
      | '.' :: c :: rest => c.isDigit && isExponentOrEmpty (rest.dropWhile isDigitOrLine)
      | _ => false)
    || (match dropSign s with
      | '.' :: word => ["inf", "Inf", "INF"].any (·.toList == word)
      | c :: rest =>
        c.isDigit
          && (match rest.dropWhile isDigitOrLine with
            | '.' :: fraction => isExponentOrEmpty (fraction.dropWhile isDigitOrLine)
            | sixties => isSixties isFraction sixties)
      | [] => false)

/-! ## Dates and times -/

/-- The time of day and the distance from universal time in a timestamp. -/
structure ClockText where
  hour : List Char
  minute : List Char
  second : List Char
  /-- The digits of the fraction. -/
  fraction : List Char := []
  /-- The distance in minutes. -/
  offset : Option Int := none
deriving DecidableEq, Repr

/-- The parts of a timestamp. -/
structure StampText where
  year : List Char
  month : List Char
  day : List Char
  clock : Option ClockText := none
deriving DecidableEq, Repr

/-- At most two digits at the start of a text, at least one, and the rest. -/
def upToTwoDigits? : List Char → Option (List Char × List Char)
  | a :: b :: rest =>
    if a.isDigit then if b.isDigit then some ([a, b], rest) else some ([a], b :: rest) else none
  | [a] => if a.isDigit then some ([a], []) else none
  | [] => none

/-- The number that ASCII digits write. -/
def digitsValue (ds : List Char) : Nat := Nat.ofDigitChars 10 ds 0

/-- The distance from universal time that a text is. -/
def zone? : List Char → Option Int
  | ['Z'] => some 0
  | sign :: rest =>
    if sign == '-' || sign == '+' then
      let signed (n : Nat) : Int := if sign == '-' then -(n : Int) else n
      match upToTwoDigits? rest with
      | some (hours, []) => some (signed (60 * digitsValue hours))
      | some (hours, [':', a, b]) =>
        if a.isDigit && b.isDigit then some (signed (60 * digitsValue hours + digitsValue [a, b]))
        else none
      | _ => none
    else none
  | [] => none

/-- The time of day that a text is. -/
def clockText? (s : List Char) : Option ClockText :=
  match upToTwoDigits? s with
  | some (hour, ':' :: a :: b :: ':' :: c :: d :: rest) =>
    if [a, b, c, d].all Char.isDigit then
      let (fraction, rest) :=
        match rest with
        | '.' :: r => (r.takeWhile Char.isDigit, r.dropWhile Char.isDigit)
        | r => ([], r)
      if rest.isEmpty then some ⟨hour, [a, b], [c, d], fraction, none⟩
      else
        (zone? (rest.dropWhile fun x => x == ' ' || x == '\t')).map fun z =>
          ⟨hour, [a, b], [c, d], fraction, some z⟩
    else none
  | _ => none

/-- The timestamp that a text is. -/
def stampText? (s : List Char) : Option StampText :=
  match s with
  | a :: b :: c :: d :: '-' :: rest =>
    if [a, b, c, d].all Char.isDigit then
      match upToTwoDigits? rest with
      | some (month, '-' :: rest) =>
        match upToTwoDigits? rest with
        | some (day, []) => some ⟨[a, b, c, d], month, day, none⟩
        | some (day, x :: rest) =>
          let isBlank (y : Char) : Bool := y == ' ' || y == '\t'
          let time :=
            if x == 'T' || x == 't' then clockText? rest
            else if isBlank x then clockText? (rest.dropWhile isBlank)
            else none
          time.map fun t => ⟨[a, b, c, d], month, day, some t⟩
        | none => none
      | _ => none
    else none
  | _ => none

/-- Whether a text has the form of a timestamp. A date without a time has two digits for each part. -/
def isTimestamp (s : List Char) : Bool :=
  match stampText? s with
  | some t => t.clock.isSome || s.length == 10
  | none => false

/-- A text without the line end at its end, if it is more than that. -/
def dropLineEnd (s : List Char) : List Char :=
  if 1 < s.length && s.getLast? == some '\n' then s.dropLast else s

/-- The tag of a plain scalar. -/
def Tag.ofPlain (text : List Char) : Tag :=
  let s := dropLineEnd text
  if nullWords.any (·.toList == s) then .null
  else if booleanWords.any (·.toList == s) then .boolean
  else if isFloat s then .float
  else if isInteger s then .integer
  else if s == ['<', '<'] then .merge
  else if isTimestamp s then .timestamp
  else if s == ['='] then .value
  else if markWords.any (·.toList == s) then .unknown
  else .text

end ExtensionProbe.Yaml
