/-!
# Whole numbers in decimal digits

Reading and writing stop at 4300 digits.

* `read_eq_ok_iff`: digits are read as the number they write, up to the limit.
* `write_eq_ok_iff`: a number is written as its digits, up to the limit.
* `read_write`: what is written is read back.
-/

namespace ExtensionProbe.Decimal

/-- The greatest number of digits that is read or written. -/
def maxDigits : Nat := 4300

/-- A number has more digits than the limit. -/
inductive LimitError where
  /-- A text to read has this many digits. -/
  | reading (count : Nat)
  /-- A number to write has too many digits. -/
  | writing
deriving DecidableEq, Repr

/-- The wording of the limit. -/
def LimitError.message : LimitError → String
  | .reading count =>
    "Exceeds the limit (4300 digits) for integer string conversion: value has "
      ++ toString count ++ " digits; use sys.set_int_max_str_digits() to increase the limit"
  | .writing =>
    "Exceeds the limit (4300 digits) for integer string conversion; "
      ++ "use sys.set_int_max_str_digits() to increase the limit"

/-- The digits at the start of a text, and the rest. -/
def span (s : List Char) : List Char × List Char :=
  (s.takeWhile Char.isDigit, s.dropWhile Char.isDigit)

theorem length_span (s : List Char) : (span s).1.length + (span s).2.length = s.length := by
  rw [span, ← List.length_append, List.takeWhile_append_dropWhile]

/-- The number that a list of digits writes. -/
def read (digits : List Char) : Except LimitError Nat :=
  if digits.length ≤ maxDigits then .ok (Nat.ofDigitChars 10 digits 0)
  else .error (.reading digits.length)

/-- The digits of a number. -/
def write (n : Nat) : Except LimitError String :=
  let digits := Nat.toDigits 10 n
  if digits.length ≤ maxDigits then .ok (String.ofList digits) else .error .writing

/-- The digits of a number, with a minus sign before those of a negative one. -/
def writeInt : Int → Except LimitError String
  | .ofNat n => write n
  | .negSucc n => ("-" ++ ·) <$> write (n + 1)

theorem read_eq_ok_iff {digits : List Char} {n : Nat} :
    read digits = .ok n ↔ digits.length ≤ maxDigits ∧ n = Nat.ofDigitChars 10 digits 0 := by
  by_cases h : digits.length ≤ maxDigits <;> simp [read, h, eq_comm]

theorem write_eq_ok_iff {n : Nat} {s : String} :
    write n = .ok s ↔
      (Nat.toDigits 10 n).length ≤ maxDigits ∧ s = String.ofList (Nat.toDigits 10 n) := by
  by_cases h : (Nat.toDigits 10 n).length ≤ maxDigits <;> simp [write, h, eq_comm]

theorem read_write {n : Nat} {s : String} (h : write n = .ok s) : read s.toList = .ok n := by
  obtain ⟨hlen, rfl⟩ := write_eq_ok_iff.1 h
  simp [read, hlen]

/-- A number in at least `width` digits, with zeros before it. -/
def padded (width n : Nat) : String :=
  let digits := toString n
  String.ofList (List.replicate (width - digits.length) '0') ++ digits

end ExtensionProbe.Decimal
