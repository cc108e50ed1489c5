import ExtensionProbe.Number.Shortest

/-!
# Doubles with a given number of places

A double is written with a given number of digits: after the point, in all with an exponent, or in the
shorter of the two. The digits are those of the exact value, rounded once. No double has more than
`exactPlaces` digits that are not zero, neither after its point nor in all, so the digits beyond are zeros.

* `length_padLeft`: a padded text has at least the length asked for.
-/

namespace ExtensionProbe.Binary64

/-- A text with characters put before it until it has a length. -/
def padLeft (length : Nat) (c : Char) (s : List Char) : List Char :=
  List.replicate (length - s.length) c ++ s

theorem length_padLeft (length : Nat) (c : Char) (s : List Char) :
    (padLeft length c s).length = max length s.length := by
  simp [padLeft]; omega

/-- A point before the digits of a fraction; without digits only if it is asked for. -/
def pointed (keepPoint : Bool) (fraction : List Char) : List Char :=
  if fraction.isEmpty && !keepPoint then [] else '.' :: fraction

/-- The places after which the digits of a double are zeros. -/
def exactPlaces : Nat := 1100

/-- The size of a double as a quotient with so many digits after the point. -/
def fixedPlaces (keepPoint : Bool) (num den places : Nat) : List Char :=
  let exact := min places exactPlaces
  let digits := padLeft (exact + 1) '0' (Nat.toDigits 10 (roundDiv (num * Nat.pow 10 exact) den))
  let whole := digits.length - exact
  digits.take whole ++ pointed keepPoint (digits.drop whole ++ List.replicate (places - exact) '0')

/-- The first `count` digits of the size of a double, rounded, and the exponent of the first one. -/
def leading (num den count : Nat) : List Char × Int :=
  if num = 0 then (List.replicate count '0', 0)
  else
    let exact := min count exactPlaces
    let exponent := decimalExponent num den
    let (n, d) := scaleTen num den (exponent - exact + 1)
    let digits := Nat.toDigits 10 (roundDiv n d)
    (digits.take exact ++ List.replicate (count - exact) '0',
      if exact < digits.length then exponent + 1 else exponent)

/-- Digits as one, a point and the rest, with an exponent. -/
def withExponent (keepPoint : Bool) (digits : List Char) (exponent : Int) : List Char :=
  digits.take 1 ++ pointed keepPoint (digits.drop 1) ++ 'e' :: (exponentText 2 exponent).toList

/-- The size of a double with so many digits after the first one, and an exponent. -/
def exponentPlaces (keepPoint : Bool) (num den places : Nat) : List Char :=
  let (digits, exponent) := leading num den (places + 1)
  withExponent keepPoint digits exponent

/-- The size of a double with so many digits at most: with an exponent if it is below `10 ^ -4`, or if its whole
part has more digits. Zeros at the end are written only if they are asked for. -/
def generalPlaces (keepZeros : Bool) (num den places : Nat) : List Char :=
  let count := max places 1
  let (all, exponent) := leading num den (if keepZeros then count else min count exactPlaces)
  if exponent < -4 || (count : Int) ≤ exponent then
    withExponent keepZeros (if keepZeros then all else all.take 1 ++ stripZeros (all.drop 1)) exponent
  else if exponent < 0 then
    let fraction := List.replicate (-exponent - 1).toNat '0' ++ (if keepZeros then all else stripZeros all)
    '0' :: pointed keepZeros fraction
  else
    let whole := exponent.toNat + 1
    let fraction := all.drop whole
    all.take whole ++ pointed keepZeros (if keepZeros then fraction else stripZeros fraction)

end ExtensionProbe.Binary64
