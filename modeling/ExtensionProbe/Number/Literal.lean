import ExtensionProbe.Number.Binary64
import ExtensionProbe.Number.Decimal
import ExtensionProbe.Text.Blank
import ExtensionProbe.Text.Digit
import ExtensionProbe.Text.Quoted

/-!
# Numbers as people type them

A whole number may have a sign, blanks around it, single underscores between its digits, and digits of
any script. A number with a fraction or an exponent may also be one of the words for the doubles that
are not finite.
-/

namespace ExtensionProbe.Literal

/-- Why a text is no whole number. -/
inductive IntegerError where
  /-- The text is no number in a base. -/
  | invalid (base : Nat) (quoted : String)
  /-- The number has too many digits. -/
  | limit (e : Decimal.LimitError)
deriving DecidableEq, Repr

/-- The wording for a text that is no whole number; of a long text only the start is shown. -/
def IntegerError.message : IntegerError → String
  | .invalid base quoted =>
    "invalid literal for int() with base " ++ toString base ++ ": "
      ++ String.ofList (quoted.toList.take 200)
  | .limit e => e.message

/-- Whether a character is ASCII. -/
def isAscii (c : Char) : Bool := c.toNat < 0x80

/-- Whether a character is one of the blanks of ASCII. -/
def isAsciiBlank (c : Char) : Bool := c == ' ' || (9 ≤ c.toNat && c.toNat ≤ 13)

/-- A character as an ASCII one: digits of other scripts as ASCII digits, other blanks as spaces. -/
def plainChar (c : Char) : Char :=
  if isAscii c then c
  else if Text.isBlank c then ' '
  else
    match Text.digitValue? c with
    | some n => Char.ofNat (48 + n)
    | none => '?'

/-- A text in ASCII characters. -/
def plain (s : List Char) : List Char := s.map plainChar

/-- A text without ASCII blanks at its ends. -/
def trim (s : List Char) : List Char :=
  ((s.dropWhile isAsciiBlank).reverse.dropWhile isAsciiBlank).reverse

/-- A sign, and the rest. -/
def cutSign : List Char → Bool × List Char
  | '-' :: rest => (true, rest)
  | '+' :: rest => (false, rest)
  | rest => (false, rest)

/-- The value of a digit in a base of at most sixteen. -/
def digit? (base : Nat) (c : Char) : Option Nat :=
  (Text.Hex.value? c).filter (· < base)

/-- The digits at the start of a text without the single underscores between them, and the rest; no
digits if an underscore stands anywhere else. -/
def cutDigits (base : Nat) : List Char → Option (List Nat × List Char)
  | [] => none
  | c :: rest =>
    match digit? base c with
    | none => none
    | some n =>
      match rest with
      | '_' :: more => (cutDigits base more).map fun r => (n :: r.1, r.2)
      | [] => some ([n], [])
      | d :: more =>
        if (digit? base d).isSome then (cutDigits base (d :: more)).map fun r => (n :: r.1, r.2)
        else some ([n], d :: more)

/-- The letter that marks the digits of a base. -/
def mark? : Nat → Option Char
  | 2 => some 'b'
  | 8 => some 'o'
  | 16 => some 'x'
  | _ => none

/-- A text without the zero and the letter that mark its base, and one underscore after them. -/
def dropMark (base : Nat) (s : List Char) : List Char :=
  match s with
  | '0' :: c :: rest =>
    if mark? base == some c.toLower then
      match rest with
      | '_' :: more => more
      | _ => rest
    else s
  | _ => s

/-- The number that digits write in a base. -/
def valueOf (base : Nat) (digits : List Nat) : Nat :=
  digits.foldl (fun n d => base * n + d) 0

/-- A whole number in a base. Only decimal digits are limited in their number. -/
def integer (base : Nat) (s : List Char) : Except IntegerError Int :=
  let refused : Except IntegerError Int :=
    .error (.invalid base (Text.quote (Text.ofChars s)))
  let (negative, unsigned) := cutSign ((plain s).dropWhile isAsciiBlank)
  match cutDigits base (dropMark base unsigned) with
  | none => refused
  | some (digits, rest) =>
    if base = 10 && Decimal.maxDigits < digits.length then
      .error (.limit (.reading digits.length))
    else if rest.all isAsciiBlank then
      let n : Int := valueOf base digits
      .ok (if negative then -n else n)
    else refused

/-- The exponent that is all of a text; zero if the text is empty. -/
def exponent? (s : List Char) : Option Int :=
  match s with
  | [] => some 0
  | e :: rest =>
    if e == 'e' || e == 'E' then
      let (negative, ds) := cutSign rest
      if !ds.isEmpty && ds.all Char.isDigit then
        let n : Int := Nat.ofDigitChars 10 ds 0
        some (if negative then -n else n)
      else none
    else none

/-- A number with a sign and perhaps a fraction and an exponent, all of a text. -/
def double? (s : List Char) : Option Binary64 :=
  let (negative, unsigned) := cutSign (trim (plain s))
  let word := unsigned.map Char.toLower
  if word == "inf".toList || word == "infinity".toList then some (.infinite negative)
  else if word == "nan".toList then some .nan
  else
    let (whole, afterWhole) := Decimal.span unsigned
    let (fraction, rest) :=
      match afterWhole with
      | '.' :: r => Decimal.span r
      | r => ([], r)
    if whole.isEmpty && fraction.isEmpty then none
    else
      (exponent? rest).map fun e =>
        Binary64.ofDecimal negative (Nat.ofDigitChars 10 (whole ++ fraction) 0)
          (e - fraction.length)

end ExtensionProbe.Literal
