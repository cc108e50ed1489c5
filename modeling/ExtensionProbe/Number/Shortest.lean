import ExtensionProbe.Number.Binary64

/-!
# Doubles in decimal digits

The shortest digits of a double are the fewest that read back as it, the nearest to it among those.
A `Layout` says how digits and an exponent are written.

* `ofDecimal_shortest`: the shortest digits, where they are found, read back.
-/

namespace ExtensionProbe.Binary64

/-- The greatest `k` with `10 ^ k` at most the quotient of two positive numbers. -/
def decimalExponent (num den : Nat) : Int :=
  if den ≤ num then ((Nat.toDigits 10 (num / den)).length : Int) - 1
  else
    let size := (Nat.toDigits 10 (den / num)).length
    if den ≤ num * Nat.pow 10 (size - 1) then -((size : Int) - 1) else -size

/-- A quotient of numbers, divided by a power of ten. -/
def scaleTen (num den : Nat) (exponent : Int) : Nat × Nat :=
  if 0 ≤ exponent then (num, den * Nat.pow 10 exponent.toNat)
  else (num * Nat.pow 10 (-exponent).toNat, den)

/-- Digits as a whole number, and the exponent of ten of the last one. -/
structure Digits where
  value : Nat
  exponent : Int
deriving DecidableEq, Repr

/-- The double that digits read as. -/
def Digits.read (d : Digits) : Binary64 := ofDecimal false d.value d.exponent

/-- The digits on the grid of `count` significant places next to a positive double that read back as
it, the nearer ones first. -/
def onGrid (x : Binary64) (num den : Nat) (count : Nat) : Option Digits :=
  let exponent := decimalExponent num den - count + 1
  let (n, d) := scaleTen num den exponent
  let below := n / d
  let nearest := roundDiv n d
  let other := if nearest = below then below + 1 else below
  [nearest, other].map (⟨·, exponent⟩) |>.find? fun c => c.read == x

/-- The fewest digits that read back as a positive double. -/
def shortest (mantissa : Nat) (exponent : Int) : Option Digits :=
  let x : Binary64 := .finite false mantissa exponent
  let (num, den) := magnitude mantissa exponent
  (List.range 17).findSome? fun i => onGrid x num den (i + 1)

theorem ofDecimal_shortest {mantissa : Nat} {exponent : Int} {d : Digits}
    (h : shortest mantissa exponent = some d) : d.read = .finite false mantissa exponent := by
  obtain ⟨i, -, hi⟩ := List.exists_of_findSome?_eq_some h
  have := List.find?_some hi
  simpa using this

/-- How a number is written: between which exponents of its first digit all its places are written out,
the marks, and the least digits of an exponent. -/
structure Layout where
  least : Int
  most : Int
  mark : String
  exponentDigits : Nat
  wholeSuffix : String
  infinity : String
  notANumber : String

/-- Numbers are written out below `10 ^ 16` and down to `10 ^ -4`, and a whole one ends in `.0`. -/
def Layout.plain : Layout := ⟨-4, 15, "e", 2, ".0", "inf", "nan"⟩

/-- The digits of a whole number with those zeros at its end left out that its exponent can take. -/
def stripZeros (digits : List Char) : List Char :=
  (digits.reverse.dropWhile (· == '0')).reverse

/-- An exponent with its sign and at least the given number of digits. -/
def exponentText (least : Nat) (e : Int) : String :=
  let digits := toString e.natAbs
  (if e < 0 then "-" else "+") ++ String.ofList (List.replicate (least - digits.length) '0') ++ digits

/-- Digits with the point after the first `whole` of them; `whole` may lie outside the digits. -/
def withPoint (digits : List Char) (whole : Int) (suffix : String) : String :=
  if whole ≤ 0 then
    "0." ++ String.ofList (List.replicate (-whole).toNat '0' ++ digits)
  else if (digits.length : Int) ≤ whole then
    String.ofList (digits ++ List.replicate (whole - digits.length).toNat '0') ++ suffix
  else
    String.ofList (digits.take whole.toNat) ++ "." ++ String.ofList (digits.drop whole.toNat)

/-- Digits and the exponent of the first one in a layout. -/
def Layout.write (layout : Layout) (digits : List Char) (first : Int) : String :=
  if layout.least ≤ first && first ≤ layout.most then
    withPoint digits (first + 1) layout.wholeSuffix
  else
    let head := String.ofList (digits.take 1)
    let tail := digits.drop 1
    head ++ (if tail.isEmpty then "" else "." ++ String.ofList tail) ++ layout.mark
      ++ exponentText layout.exponentDigits first

/-- A double in a layout, with its shortest digits. -/
def textIn (layout : Layout) : Binary64 → String
  | .nan => layout.notANumber
  | .infinite negative => sign negative ++ layout.infinity
  | .finite negative mantissa exponent =>
    if mantissa = 0 then sign negative ++ "0" ++ layout.wholeSuffix
    else
      match shortest mantissa exponent with
      | none => layout.notANumber
      | some d =>
        let all := Nat.toDigits 10 d.value
        sign negative ++ layout.write (stripZeros all) (d.exponent + all.length - 1)
where
  /-- The sign of a negative number. -/
  sign (negative : Bool) : String := if negative then "-" else ""

/-- A double in its usual writing. -/
def text (x : Binary64) : String := textIn .plain x

end ExtensionProbe.Binary64
