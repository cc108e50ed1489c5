import ExtensionProbe.Text

/-!
# Texts in code units

A text in a data file may be written in code units. Two surrogates that are a pair are one character; any
other surrogate is a half that stands alone.

* `joinPairs_of_no_high`: without a first half there is nothing to join.
-/

namespace ExtensionProbe.Text

/-- Whether a code unit is the first of a pair. -/
def isHigh (n : Nat) : Bool := 0xD800 ≤ n && n ≤ 0xDBFF

/-- Whether a code unit is the second of a pair. -/
def isLow (n : Nat) : Bool := 0xDC00 ≤ n && n ≤ 0xDFFF

/-- Joins the pairs among code units. -/
def joinPairs : List Nat → List Nat
  | [] => []
  | [n] => [n]
  | a :: b :: rest =>
    if isHigh a && isLow b then (0x10000 + (a - 0xD800) * 0x400 + (b - 0xDC00)) :: joinPairs rest
    else a :: joinPairs (b :: rest)

/-- A text from code units. -/
def ofUnits (units : List Nat) : Text := ofNumbers (joinPairs units)

theorem joinPairs_of_no_high {units : List Nat} (h : ∀ n ∈ units, isHigh n = false) :
    joinPairs units = units := by
  fun_induction joinPairs units with
  | case1 => rfl
  | case2 n => rfl
  | case3 a b rest hab ih => simp [h a (by simp)] at hab
  | case4 a b rest hab ih => rw [ih fun n hn => h n (List.mem_cons_of_mem _ hn)]

end ExtensionProbe.Text
