/-!
# Hexadecimal digits

Code points and bytes are written with a fixed number of small hexadecimal digits.

* `length_fixed`: the number of digits is the one asked for.
* `value?_digit`: the digit of a number below sixteen has that number as its value.
-/

namespace ExtensionProbe.Text.Hex

/-- The small digit of a number below sixteen. -/
def digit (n : Nat) : Char :=
  if n < 10 then Char.ofNat (48 + n) else Char.ofNat (87 + n)

/-- The value of a digit, small or capital. -/
def value? (c : Char) : Option Nat :=
  let n := c.toNat
  if 48 ≤ n ∧ n ≤ 57 then some (n - 48)
  else if 97 ≤ n ∧ n ≤ 102 then some (n - 87)
  else if 65 ≤ n ∧ n ≤ 70 then some (n - 55)
  else none

theorem value?_digit : ∀ n < 16, value? (digit n) = some n := by decide

/-- The last `count` digits of a number. -/
def fixed : (count : Nat) → (n : Nat) → List Char
  | 0, _ => []
  | count + 1, n => fixed count (n / 16) ++ [digit (n % 16)]

@[simp] theorem length_fixed (count n : Nat) : (fixed count n).length = count := by
  induction count generalizing n with
  | zero => rfl
  | succ count ih => simp [fixed, ih]

/-- The number that a list of digits writes, if all of them are digits. -/
def number? (s : List Char) : Option Nat :=
  s.foldl (fun acc c => do some (16 * (← acc) + (← value? c))) (some 0)

end ExtensionProbe.Text.Hex
