/-!
# Double precision numbers

A finite double is a whole number below `2 ^ 53` times a power of two. Every operation computes in
whole numbers and rounds once, to the nearest double, a tie to the even mantissa.

* `two_mul_roundDiv_le`, `le_two_mul_roundDiv`: a rounded quotient is at most half a unit off.
-/

namespace ExtensionProbe

/-- A double: a sign, a mantissa and the exponent of two of its last place, or one of the values that
are not finite. -/
inductive Binary64 where
  | finite (negative : Bool) (mantissa : Nat) (exponent : Int)
  | infinite (negative : Bool)
  | nan
deriving DecidableEq, Repr

/-- The whole number nearest to a quotient; a tie goes to the even one. -/
def roundDiv (num den : Nat) : Nat :=
  let q := num / den
  let r := num % den
  if 2 * r < den then q
  else if den < 2 * r then q + 1
  else if q % 2 = 0 then q else q + 1

theorem two_mul_roundDiv_le {num den : Nat} (h : 0 < den) :
    2 * (roundDiv num den * den) ≤ 2 * num + den := by
  have hd := Nat.div_add_mod num den
  have hm := Nat.mod_lt num h
  rw [Nat.mul_comm] at hd
  simp only [roundDiv]
  split
  · omega
  · split
    · rw [Nat.add_mul]; omega
    · split
      · omega
      · rw [Nat.add_mul]; omega

theorem le_two_mul_roundDiv {num den : Nat} (h : 0 < den) :
    2 * num ≤ 2 * (roundDiv num den * den) + den := by
  have hd := Nat.div_add_mod num den
  have hm := Nat.mod_lt num h
  rw [Nat.mul_comm] at hd
  simp only [roundDiv]
  split
  · omega
  · split
    · rw [Nat.add_mul]; omega
    · split
      · omega
      · rw [Nat.add_mul]; omega

namespace Binary64

/-- The exponent of the smallest doubles. -/
def minExponent : Int := -1074

/-- The exponent of the greatest doubles. -/
def maxExponent : Int := 971

/-- Zero with a sign. -/
def zero (negative : Bool) : Binary64 := .finite negative 0 minExponent

/-- A quotient with its denominator scaled by a power of two. -/
def scale (num den : Nat) (exponent : Int) : Nat × Nat :=
  if 0 ≤ exponent then (num, den * Nat.pow 2 exponent.toNat)
  else (num * Nat.pow 2 (-exponent).toNat, den)

/-- The double nearest to a quotient. -/
def ofRatio (negative : Bool) (num den : Nat) : Binary64 :=
  if num = 0 then zero negative
  else
    let low : Int := max ((num.log2 : Int) - den.log2 - 53) minExponent
    let (n, d) := scale num den low
    let exponent := if n / d < Nat.pow 2 53 then low else low + 1
    let (n, d) := scale num den exponent
    let mantissa := roundDiv n d
    let (mantissa, exponent) :=
      if mantissa = Nat.pow 2 53 then (Nat.pow 2 52, exponent + 1) else (mantissa, exponent)
    if maxExponent < exponent then .infinite negative else .finite negative mantissa exponent

/-- The double nearest to a whole number times a power of ten. Beyond any double the power of ten is
not computed. -/
def ofDecimal (negative : Bool) (digits : Nat) (exponent : Int) : Binary64 :=
  let size : Int := (Nat.toDigits 10 digits).length + exponent
  if digits = 0 then zero negative
  else if 400 < size then .infinite negative
  else if size < -400 then zero negative
  else if 0 ≤ exponent then ofRatio negative (digits * Nat.pow 10 exponent.toNat) 1
  else ofRatio negative digits (Nat.pow 10 (-exponent).toNat)

/-- The double nearest to a whole number. -/
def ofInt (n : Int) : Binary64 :=
  ofRatio (n < 0) n.natAbs 1

/-- The size of a finite double as a quotient. -/
def magnitude (mantissa : Nat) (exponent : Int) : Nat × Nat :=
  if 0 ≤ exponent then (mantissa * Nat.pow 2 exponent.toNat, 1)
  else (mantissa, Nat.pow 2 (-exponent).toNat)

/-- Whether the sign is a minus. -/
def isNegative : Binary64 → Bool
  | .finite negative _ _ => negative
  | .infinite negative => negative
  | .nan => false

/-- The whole number that a double is, if it is one. -/
def toInt? : Binary64 → Option Int
  | .finite negative mantissa exponent =>
    let (num, den) := magnitude mantissa exponent
    if num % den = 0 then some (if negative then -(num / den : Nat) else (num / den : Nat)) else none
  | _ => none

/-- The whole part of a finite double. -/
def truncate? : Binary64 → Option Int
  | .finite negative mantissa exponent =>
    let (num, den) := magnitude mantissa exponent
    some (if negative then -(num / den : Nat) else (num / den : Nat))
  | _ => none

/-- The double of the other sign. -/
def neg : Binary64 → Binary64
  | .finite negative mantissa exponent => .finite (!negative) mantissa exponent
  | .infinite negative => .infinite (!negative)
  | .nan => .nan

/-- A product. -/
def mul : Binary64 → Binary64 → Binary64
  | .finite s m e, .finite t n f =>
    let (a, b) := magnitude (m * n) (e + f)
    ofRatio (s != t) a b
  | .nan, _ => .nan
  | _, .nan => .nan
  | x, y =>
    if isZero x || isZero y then .nan else .infinite (x.isNegative != y.isNegative)
where
  /-- Whether a double is a zero. -/
  isZero : Binary64 → Bool
    | .finite _ m _ => m = 0
    | _ => false

/-- A sum. -/
def add : Binary64 → Binary64 → Binary64
  | .finite s m e, .finite t n f =>
    let low := min e f
    let signed (negative : Bool) (k : Nat) : Int := if negative then -(k : Int) else k
    let total := signed s (m * Nat.pow 2 (e - low).toNat) + signed t (n * Nat.pow 2 (f - low).toNat)
    if total = 0 then zero (s && t)
    else
      let (a, b) := magnitude total.natAbs low
      ofRatio (total < 0) a b
  | .nan, _ => .nan
  | _, .nan => .nan
  | .infinite s, .infinite t => if s = t then .infinite s else .nan
  | .infinite s, _ => .infinite s
  | _, .infinite t => .infinite t

/-- Whether two doubles are the same number; the two zeros are, and a value that is no number is the
same as nothing. -/
def sameNumber : Binary64 → Binary64 → Bool
  | .finite s m e, .finite t n f => (m = n && e = f && s = t) || (m = 0 && n = 0)
  | .infinite s, .infinite t => s = t
  | _, _ => false

/-- Whether a double is the given whole number. -/
def isInt (x : Binary64) (n : Int) : Bool :=
  x.toInt? == some n

end Binary64

end ExtensionProbe
