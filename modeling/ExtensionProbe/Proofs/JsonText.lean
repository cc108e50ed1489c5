import ExtensionProbe.Json.Reader
import ExtensionProbe.Json.Writer
import Mathlib.Algebra.Ring.Nat
import Mathlib.Tactic.SplitIfs

/-!
# Texts through JSON

A text between quotes is written in code units, and read in code units. What comes back is the text with its
pairs of halves joined: a text without halves comes back as it was.

* `Hex.number?_fixed`: a number within its digits is read back.
* `textUnits_escape`: one code point, whichever of its escapes is used.
* `textUnits_quoted`: a whole text, up to its closing quote.
* `rejoined_ofString`: what has no halves has nothing to be joined.
-/

namespace ExtensionProbe

namespace Text

theorem Hex.number?_append (s : List Char) (c : Char) :
    Hex.number? (s ++ [c]) = (Hex.number? s).bind fun n => (Hex.value? c).map (16 * n + ·) := by
  unfold Hex.number?
  rw [List.foldl_append]
  cases s.foldl _ (some 0) with
  | none => rfl
  | some n => cases h : Hex.value? c <;> simp [h]

theorem Hex.number?_fixed {count n : Nat} (h : n < 16 ^ count) :
    Hex.number? (Hex.fixed count n) = some n := by
  induction count generalizing n with
  | zero =>
    obtain rfl : n = 0 := by omega
    rfl
  | succ count ih =>
    have hdiv : n / 16 < 16 ^ count := by rw [Nat.pow_succ] at h; omega
    rw [Hex.fixed, Hex.number?_append, ih hdiv, Hex.value?_digit _ (Nat.mod_lt _ (by decide))]
    simp only [Option.bind_some, Option.map_some, Option.some.injEq]
    omega

/-! ## Code units -/

/-- The code units of a code point by its number: one, or the two of a pair. -/
def unitsOf (n : Nat) : List Nat :=
  if n < 0x10000 then [n] else [0xD800 + (n - 0x10000) / 0x400, 0xDC00 + (n - 0x10000) % 0x400]

/-- The code units of a text. -/
def units (t : Text) : List Nat := t.flatMap fun c => unitsOf c.value

/-- A text with its pairs of halves joined. -/
def rejoined (t : Text) : Text := ofUnits (units t)

theorem value_lt (c : Code) : c.value < 0x110000 := by
  cases c with
  | char c =>
    have : c.toNat.isValidChar := c.valid
    unfold Nat.isValidChar at this
    simp only [Code.value]
    omega
  | half place => simp only [Code.value, Code.firstHalf]; omega

theorem ofNat_toNat (c : Char) : Code.ofNat c.toNat = .char c := by
  have h : c.toNat.isValidChar := c.valid
  unfold Nat.isValidChar at h
  unfold Code.ofNat
  rw [dif_neg (by simp only [Code.firstHalf]; omega), Char.ofNat_toNat]

theorem ofNat_value (c : Code) : Code.ofNat c.value = c := by
  cases c with
  | char c => exact ofNat_toNat c
  | half place =>
    have hrange : Code.firstHalf ≤ Code.firstHalf + place.val ∧
        Code.firstHalf + place.val < Code.firstHalf + 2048 := by omega
    exact (dif_pos hrange).trans (congrArg Code.half (Fin.ext (Nat.add_sub_cancel_left ..)))

/-- The units of a character are joined to it again, whatever follows. -/
theorem joinPairs_unitsOf {n : Nat} (h : n.isValidChar) (rest : List Nat) :
    joinPairs (unitsOf n ++ rest) = n :: joinPairs rest := by
  unfold Nat.isValidChar at h
  unfold unitsOf
  by_cases hsmall : n < 0x10000
  · -- one unit, which is no first half
    have hhigh : isHigh n = false := by
      simp only [isHigh, Bool.and_eq_false_iff, decide_eq_false_iff_not]
      omega
    rw [if_pos hsmall]
    cases rest with
    | nil => rfl
    | cons b more => simp [joinPairs, hhigh]
  · rw [if_neg hsmall]
    have hhigh : isHigh (0xD800 + (n - 0x10000) / 0x400) = true := by
      simp only [isHigh, Bool.and_eq_true, decide_eq_true_eq]
      omega
    have hlow : isLow (0xDC00 + (n - 0x10000) % 0x400) = true := by
      simp only [isLow, Bool.and_eq_true, decide_eq_true_eq]
      omega
    have hjoin : 0x10000 + (0xD800 + (n - 0x10000) / 0x400 - 0xD800) * 0x400
        + (0xDC00 + (n - 0x10000) % 0x400 - 0xDC00) = n := by omega
    simp only [List.cons_append, List.nil_append, joinPairs, hhigh, hlow, Bool.and_self, if_true, hjoin]

theorem rejoined_ofChars (cs : List Char) : rejoined (ofChars cs) = ofChars cs := by
  have hjoin : joinPairs (units (ofChars cs)) = cs.map Char.toNat := by
    induction cs with
    | nil => rfl
    | cons c rest ih => exact (joinPairs_unitsOf c.valid _).trans (congrArg (c.toNat :: ·) ih)
  unfold rejoined ofUnits ofNumbers
  rw [hjoin, List.map_map, ofChars]
  exact List.map_congr_left fun c _ => ofNat_toNat c

theorem rejoined_ofString (s : String) : rejoined (ofString s) = ofString s := rejoined_ofChars s.toList

/-- Different names are different texts. -/
theorem nodup_map_ofString {names : List String} (h : names.Nodup) : (names.map ofString).Nodup :=
  List.Pairwise.map _ (fun _ _ hne heq => hne (ofString_inj.1 heq)) h

end Text

namespace Json

open Text

/-- A unit that is written by its number is read as that number. -/
theorem textUnits_unitEscape {n : Nat} (h : n < 0x10000) (read : List Nat) (rest : List Char) :
    textUnits read (unitEscape n ++ rest) = textUnits (n :: read) rest := by
  have hnumber : Hex.number? (Hex.fixed 4 n) = some n := Hex.number?_fixed h
  have hdigits : Hex.fixed 4 n = [Hex.digit (n / 16 / 16 / 16 % 16), Hex.digit (n / 16 / 16 % 16),
      Hex.digit (n / 16 % 16), Hex.digit (n % 16)] := rfl
  rw [hdigits] at hnumber
  unfold unitEscape
  rw [hdigits]
  simp only [List.cons_append, List.nil_append, textUnits, hnumber]

/-- A printable character that is no escape is read as it is. -/
theorem textUnits_letter {n : Nat} (hlow : 0x20 ≤ n) (hhigh : n ≤ 0x7E) (hquote : n ≠ 0x22)
    (hslash : n ≠ 0x5C) (read : List Nat) (rest : List Char) :
    textUnits read (Char.ofNat n :: rest) = textUnits (n :: read) rest := by
  have toNat : ∀ m < 0x7F, (Char.ofNat m).toNat = m := by decide
  have hn : (Char.ofNat n).toNat = n := toNat n (by omega)
  have hne : Char.ofNat n ≠ '"' ∧ Char.ofNat n ≠ '\\' := by
    constructor <;> intro h <;> rw [h] at hn
    · exact hquote hn.symm
    · exact hslash hn.symm
  generalize Char.ofNat n = c at hn hne
  rw [textUnits]
  · rw [if_neg (by omega), hn]
  · exact hne.1
  all_goals
    intros
    exact hne.2 ‹_›

/-- One code point within quotes, whichever of its escapes is used. -/
theorem textUnits_escape {n : Nat} (h : n < 0x110000) (read : List Nat) (rest : List Char) :
    textUnits read (escapeCode n ++ rest) = textUnits ((unitsOf n).reverse ++ read) rest := by
  have small (hn : n < 0x10000) : unitsOf n = [n] := if_pos hn
  unfold escapeCode
  split_ifs with h1 h2 h3 h4 h5 h6 h7 hplain hunit
  iterate 7
    · subst n
      simp [textUnits, escaped?, small]
  · rw [small (by omega)]
    exact textUnits_letter hplain.1 hplain.2 h1 h2 read rest
  · rw [small hunit]
    exact textUnits_unitEscape hunit read rest
  · rw [List.append_assoc, textUnits_unitEscape (by omega), textUnits_unitEscape (by omega), unitsOf,
      if_neg hunit]
    rfl

/-- A text up to its closing quote. -/
theorem textUnits_quoted (s : Text) (read : List Nat) (rest : List Char) :
    textUnits read (s.flatMap (fun c => escapeCode c.value) ++ '"' :: rest) =
      some (read.reverse ++ units s, rest) := by
  induction s generalizing read with
  | nil => simp [textUnits, units]
  | cons c more ih =>
    rw [List.flatMap_cons, List.append_assoc, textUnits_escape (value_lt c), ih]
    simp [units]

end Json

end ExtensionProbe
