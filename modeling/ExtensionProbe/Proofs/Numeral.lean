import ExtensionProbe.Data.Decode
import Mathlib.Data.List.DropRight

/-!
# Whole numbers in writing

A whole number is written with a sign and digits, a single underscore between any two characters of them, zeros
before it and a fraction of zeros after it. It is read in steps: the blanks around it, a plus sign and the
zeros at its start are left out, then the fraction, then the underscores, and what is left are a sign and
digits. The zeros at the start are a run of zeros and underscores, so underscores may stand side by side there,
and a minus sign may come after them.

* `signed?_eq_some_iff`, `ungroup_bind_iff`, `dropZeroFraction_bind_iff`, `exists_dropZeros_iff`: what is
  read from the last step on, from the one before it on, and so back to the first.
* `integerText_eq_ok_iff`: **what is read as a whole number is written as one.**
-/

namespace ExtensionProbe.Decode

open Checked

variable {s t u w x zeros rest lead fraction : List Char} {c last : Char} {n : Int}

/-- Digits that write a number, with or without a sign before them. There may be many of them only if the
number is small. -/
structure Digits (ds : List Char) (n : Int) : Prop where
  nonempty : ds ≠ []
  digits : ∀ c ∈ ds, c.isDigit = true
  size : isWord n = true ∨ ds.length ≤ Decimal.maxDigits

/-- A whole number as digits, perhaps with a minus sign before them. -/
inductive SignedDigits : List Char → Int → Prop
  | plain {ds : List Char} (h : Digits ds (Nat.ofDigitChars 10 ds 0)) :
      SignedDigits ds (Nat.ofDigitChars 10 ds 0)
  | minus {ds : List Char} (h : Digits ds (-(Nat.ofDigitChars 10 ds 0 : Int))) :
      SignedDigits ('-' :: ds) (-(Nat.ofDigitChars 10 ds 0 : Int))

/-- Characters with at most one underscore between any two of them. -/
inductive Grouped : List Char → List Char → Prop
  | last {c : Char} (h : c ≠ '_') : Grouped [c] [c]
  | next {c : Char} {w x : List Char} (h : c ≠ '_') (hw : Grouped w x) : Grouped (c :: w) (c :: x)
  | apart {c : Char} {w x : List Char} (h : c ≠ '_') (hw : Grouped w x) :
      Grouped (c :: '_' :: w) (c :: x)

/-- Nothing, or a point and zeros. -/
def ZeroFraction (s : List Char) : Prop :=
  s = [] ∨ ∃ zeros, zeros ≠ [] ∧ (∀ c ∈ zeros, c = '0') ∧ s = '.' :: zeros

/-- Nothing but zeros and underscores. -/
def ZeroRun (s : List Char) : Prop := ∀ c ∈ s, c = '0' ∨ c = '_'

/-- A number starts with a minus sign or with a digit that is no zero. -/
def StartsNumber (s : List Char) : Prop :=
  ∃ c rest, s = c :: rest ∧ (c = '-' ∨ c.isDigit = true) ∧ c ≠ '0'

/-- A number with underscores in it and perhaps a fraction of zeros after it. -/
def WholeNumber (s : List Char) (n : Int) : Prop :=
  ∃ w x fraction, s = w ++ fraction ∧ Grouped w x ∧ SignedDigits x n ∧ ZeroFraction fraction

/-- A whole number in writing without a plus sign: a number that does not start with a zero; such a number
behind a zero and a run of zeros; or a zero at the end of such a run, with perhaps a fraction of zeros. -/
inductive Numeral : List Char → Int → Prop
  | bare {s : List Char} {n : Int} (hstart : StartsNumber s) (hs : WholeNumber s n) : Numeral s n
  | afterZeros {zeros s : List Char} {n : Int} (hzeros : ZeroRun zeros) (hstart : StartsNumber s)
      (hs : WholeNumber s n) : Numeral ('0' :: (zeros ++ s)) n
  | zero {zeros fraction : List Char} (hzeros : ZeroRun zeros) (hlast : zeros.getLastD '0' = '0')
      (hfraction : ZeroFraction fraction) : Numeral ('0' :: (zeros ++ fraction)) 0

/-- A numeral, perhaps with a plus sign that no other sign follows. -/
def SignedNumeral (s : List Char) (n : Int) : Prop :=
  Numeral s n ∨ ∃ rest, s = '+' :: rest ∧ rest.head? ≠ some '-' ∧ Numeral rest n

/-- A whole number in writing, with blanks around it. It must not start right away with too many digits. -/
structure WrittenInteger (s : List Char) (n : Int) : Prop where
  short : startsTooLong s = false
  numeral : ∃ before body after, s = before ++ (body ++ after) ∧ (∀ c ∈ before, isSpace c = true) ∧
    (∀ c ∈ after, isSpace c = true) ∧ SignedNumeral body n

/-! ## Signs, digits and underscores -/

theorem signed?_minus (ds : List Char) :
    signed? ('-' :: ds) =
      if ds.isEmpty || !ds.all Char.isDigit then none
      else if isWord (-(Nat.ofDigitChars 10 ds 0 : Int)) || ds.length ≤ Decimal.maxDigits then
        some (-(Nat.ofDigitChars 10 ds 0 : Int)) else none := rfl

theorem signed?_of_head (h : x.head? ≠ some '-') :
    signed? x =
      if x.isEmpty || !x.all Char.isDigit then none
      else if isWord (Nat.ofDigitChars 10 x 0) || x.length ≤ Decimal.maxDigits then
        some (Nat.ofDigitChars 10 x 0 : Int) else none := by
  unfold signed?
  split
  next negative digits hx =>
    split at hx
    · exact absurd rfl h
    · cases hx
      rfl

theorem Digits.head_ne_minus {ds : List Char} (h : Digits ds n) : ds.head? ≠ some '-' := by
  intro hhead
  cases h.digits '-' (List.mem_of_head? hhead)

/-- The tests on digits, for a number that is made of them. -/
theorem ite_digits_iff {ds : List Char} {m : Int} :
    (if ds.isEmpty || !ds.all Char.isDigit then none
      else if isWord m || ds.length ≤ Decimal.maxDigits then some m else none) = some n ↔
      Digits ds m ∧ m = n := by
  by_cases hempty : ds = []
  · subst hempty
    exact iff_of_false (by simp) fun h => h.1.nonempty rfl
  by_cases hall : ds.all Char.isDigit = true
  swap
  · refine iff_of_false (by simp [hall]) fun h => hall ?_
    exact List.all_eq_true.2 h.1.digits
  rw [if_neg (by simp [hempty, hall])]
  by_cases hsize : isWord m = true ∨ ds.length ≤ Decimal.maxDigits
  · rw [if_pos (by simpa using hsize), Option.some.injEq]
    exact ⟨fun h => ⟨⟨hempty, List.all_eq_true.1 hall, hsize⟩, h⟩, fun h => h.2⟩
  · rw [if_neg (by simpa using hsize)]
    exact iff_of_false nofun fun h => hsize h.1.size

theorem signed?_eq_some_iff : signed? x = some n ↔ SignedDigits x n := by
  constructor
  · intro h
    by_cases hhead : x.head? = some '-'
    · obtain ⟨ds, rfl⟩ := List.head?_eq_some_iff.1 hhead
      rw [signed?_minus, ite_digits_iff] at h
      obtain ⟨hds, rfl⟩ := h
      exact .minus hds
    · rw [signed?_of_head hhead, ite_digits_iff] at h
      obtain ⟨hds, rfl⟩ := h
      exact .plain hds
  · rintro (h | h)
    · rw [signed?_of_head h.head_ne_minus, ite_digits_iff]
      exact ⟨h, rfl⟩
    · rw [signed?_minus, ite_digits_iff]
      exact ⟨h, rfl⟩

/-- Characters with underscores between them start with a character that is none. -/
theorem Grouped.exists_cons (h : Grouped w x) : ∃ c v y, w = c :: v ∧ x = c :: y ∧ c ≠ '_' := by
  cases h with
  | last h => exact ⟨_, _, _, rfl, rfl, h⟩
  | next h _ => exact ⟨_, _, _, rfl, rfl, h⟩
  | apart h _ => exact ⟨_, _, _, rfl, rfl, h⟩

theorem ungroup_of_grouped (h : Grouped w x) : ungroup w = some x := by
  induction h with
  | last h => rw [ungroup]; exact h
  | @next c w x h hw ih =>
    obtain ⟨d, v, y, rfl, rfl, hd⟩ := hw.exists_cons
    rw [ungroup, ih, Option.map_some] <;> simp [h, hd]
  | @apart c w x h hw ih =>
    obtain ⟨d, v, y, rfl, rfl, hd⟩ := hw.exists_cons
    rw [ungroup, ih, Option.map_some]
    exact h

theorem grouped_of_ungroup (h : ungroup w = some x) (hne : w ≠ []) : Grouped w x := by
  -- the cases of `ungroup`: an underscore is left out where a character stands before and behind it
  fun_induction ungroup w generalizing x with
  | case1 => exact absurd rfl hne
  | case2 => cases h
  | case3 c hc =>
    cases h
    exact .last hc
  | case4 c d rest hc ih =>
    obtain ⟨y, hy, rfl⟩ := Option.map_eq_some_iff.1 h
    exact .apart hc (ih hy nofun)
  | case5 => cases h
  | case6 c rest hc hrest _ _ ih =>
    obtain ⟨y, hy, rfl⟩ := Option.map_eq_some_iff.1 h
    exact .next hc (ih hy hrest)

/-- What is left without underscores is a number exactly if its characters have single ones between them. -/
theorem ungroup_bind_iff :
    (ungroup w).bind signed? = some n ↔ ∃ x, Grouped w x ∧ SignedDigits x n := by
  rw [Option.bind_eq_some_iff]
  constructor
  · rintro ⟨x, hx, hn⟩
    have hne : w ≠ [] := by
      rintro rfl
      cases hx
      cases hn
    exact ⟨x, grouped_of_ungroup hx hne, signed?_eq_some_iff.1 hn⟩
  · rintro ⟨x, hx, hn⟩
    exact ⟨x, ungroup_of_grouped hx, signed?_eq_some_iff.2 hn⟩

/-! ## Fractions of zeros -/

theorem dropZeroFraction_of_no_point (h : ∀ c ∈ w, c ≠ '.') (hfraction : ZeroFraction fraction) :
    dropZeroFraction (w ++ fraction) = some w := by
  have hw : ∀ c ∈ w, (c != '.') = true := fun c hc => bne_iff_ne.2 (h c hc)
  unfold dropZeroFraction
  rcases hfraction with rfl | ⟨zeros, hne, hzeros, rfl⟩
  · rw [List.append_nil, List.dropWhile_eq_nil_iff.2 hw]
  · rw [List.dropWhile_append_of_pos hw, List.takeWhile_append_of_pos hw]
    have hall : zeros.all (· == '0') = true := by
      simpa using hzeros
    simp [hne, hall]

/-- What is taken from the end of a text is a fraction of zeros. -/
theorem exists_fraction_of_dropZeroFraction (h : dropZeroFraction s = some w) :
    ∃ fraction, ZeroFraction fraction ∧ s = w ++ fraction := by
  have hsplit := List.takeWhile_append_dropWhile (p := (· != '.')) (l := s)
  unfold dropZeroFraction at h
  split at h
  · cases h
    exact ⟨[], .inl rfl, (List.append_nil s).symm⟩
  · next point zeros hcons =>
    split at h
    · next hzeros =>
      cases h
      simp only [Bool.and_eq_true, Bool.not_eq_true', List.isEmpty_eq_false_iff, List.all_eq_true,
        beq_iff_eq] at hzeros
      have hpoint : point = '.' := by
        have hhead := List.head?_dropWhile_not (· != '.') s
        rw [hcons] at hhead
        simpa using hhead
      subst hpoint
      exact ⟨_, .inr ⟨zeros, hzeros.1, hzeros.2, rfl⟩, by rw [← hcons, hsplit]⟩
    · cases h

theorem Grouped.mem (h : Grouped w x) : ∀ c ∈ w, c = '_' ∨ c ∈ x := by
  induction h with
  | last h => exact fun c hc => .inr hc
  | next h hw ih =>
    intro c hc
    rcases List.mem_cons.1 hc with rfl | hc
    · exact .inr List.mem_cons_self
    · exact (ih c hc).imp_right (List.mem_cons_of_mem _)
  | apart h hw ih =>
    intro c hc
    rcases List.mem_cons.1 hc with rfl | hc
    · exact .inr List.mem_cons_self
    rcases List.mem_cons.1 hc with rfl | hc
    · exact .inl rfl
    · exact (ih c hc).imp_right (List.mem_cons_of_mem _)

/-- A character of a number: an underscore, a minus sign or a digit. -/
def IsNumeric (c : Char) : Prop := c = '_' ∨ c = '-' ∨ c.isDigit = true

theorem numeric_of_grouped (hw : Grouped w x) (hx : SignedDigits x n) : ∀ c ∈ w, IsNumeric c := by
  intro c hc
  refine (hw.mem c hc).imp_right fun hc => ?_
  cases hx with
  | plain h => exact .inr (h.digits c hc)
  | minus h => exact (List.mem_cons.1 hc).imp_right (h.digits c)

theorem IsNumeric.ne_point (h : IsNumeric c) : c ≠ '.' := by
  rintro rfl
  rcases h with h | h | h <;> cases h

/-- The steps after the zeros at the start read a number with perhaps a fraction of zeros. -/
theorem dropZeroFraction_bind_iff :
    ((dropZeroFraction s).bind fun w => (ungroup w).bind signed?) = some n ↔ WholeNumber s n := by
  rw [Option.bind_eq_some_iff]
  constructor
  · rintro ⟨w, hw, hn⟩
    obtain ⟨fraction, hfraction, rfl⟩ := exists_fraction_of_dropZeroFraction hw
    obtain ⟨x, hx, hn⟩ := ungroup_bind_iff.1 hn
    exact ⟨w, x, fraction, rfl, hx, hn, hfraction⟩
  · rintro ⟨w, x, fraction, rfl, hx, hn, hfraction⟩
    have hpoint : ∀ c ∈ w, c ≠ '.' := fun c hc => (numeric_of_grouped hx hn c hc).ne_point
    exact ⟨w, dropZeroFraction_of_no_point hpoint hfraction, ungroup_bind_iff.2 ⟨x, hx, hn⟩⟩

/-! ## Zeros at the start -/

/-- Leaving out a run of zeros goes on behind it, with the last character of the run in mind. -/
theorem afterZeros_append (hzeros : ZeroRun zeros) :
    afterZeros last (zeros ++ rest) = afterZeros (zeros.getLastD last) rest := by
  induction zeros generalizing last with
  | nil => rfl
  | cons c zeros ih =>
    have hc : (c == '0' || c == '_') = true := by
      simpa using hzeros c List.mem_cons_self
    rw [List.cons_append, afterZeros, if_pos hc, ih fun d hd => hzeros d (List.mem_cons_of_mem _ hd)]
    rw [List.getLastD_cons]

theorem afterZeros_of_number (h : StartsNumber rest) : afterZeros last rest = some rest := by
  obtain ⟨c, rest, rfl, hc, hzero⟩ := h
  have hrun : ¬ (c == '0' || c == '_') = true := by
    rcases hc with rfl | hc
    · decide
    · intro h
      rcases Bool.or_eq_true_iff.1 h with h | h
      · exact hzero (beq_iff_eq.1 h)
      · rw [beq_iff_eq.1 h] at hc
        cases hc
  have hpoint : ¬ (c == '.') = true := by
    rcases hc with rfl | hc
    · decide
    · intro h
      rw [beq_iff_eq.1 h] at hc
      cases hc
  rw [afterZeros, if_neg hrun, if_neg hpoint, if_pos (by simpa using hc)]

theorem afterZeros_of_fraction (h : ZeroFraction fraction) :
    afterZeros last fraction = some (last :: fraction) := by
  rcases h with rfl | ⟨zeros, -, -, rfl⟩ <;> rfl

/-- A text is a run of zeros and what comes after it. -/
theorem exists_zeroRun (s : List Char) :
    ∃ zeros rest, s = zeros ++ rest ∧ ZeroRun zeros ∧ ∀ c ∈ rest.head?, c ≠ '0' ∧ c ≠ '_' := by
  induction s with
  | nil => exact ⟨[], [], rfl, nofun, nofun⟩
  | cons c s ih =>
    by_cases hc : c = '0' ∨ c = '_'
    · obtain ⟨zeros, rest, rfl, hzeros, hrest⟩ := ih
      refine ⟨c :: zeros, rest, rfl, ?_, hrest⟩
      intro d hd
      rcases List.mem_cons.1 hd with rfl | hd
      · exact hc
      · exact hzeros d hd
    · refine ⟨[], c :: s, rfl, nofun, ?_⟩
      rintro d hd
      cases hd
      exact not_or.1 hc

theorem getLastD_of_zeroRun (hzeros : ZeroRun zeros) :
    zeros.getLastD '0' = '0' ∨ zeros.getLastD '0' = '_' := by
  rcases List.eq_nil_or_concat zeros with rfl | ⟨before, c, rfl⟩
  · exact .inl rfl
  · have hc := hzeros c (by simp)
    simpa using hc

theorem wholeNumber_zero (hfraction : ZeroFraction fraction) : WholeNumber ('0' :: fraction) 0 :=
  ⟨['0'], ['0'], fraction, rfl, .last (by decide),
    .plain ⟨nofun, List.all_eq_true.1 rfl, .inr (by decide)⟩, hfraction⟩

/-- What is a number and nothing but one zero or underscore before its end or its point is a zero. -/
theorem eq_zero_of_wholeNumber (hlast : last = '0' ∨ last = '_') (htail : ∀ c ∈ rest.head?, c = '.')
    (h : WholeNumber (last :: rest) n) : last = '0' ∧ n = 0 ∧ ZeroFraction rest := by
  obtain ⟨w, x, fraction, hs, hw, hx, hfraction⟩ := h
  obtain ⟨c, v, y, rfl, rfl, hc⟩ := hw.exists_cons
  obtain ⟨rfl, hrest⟩ := List.cons.inj hs
  -- the number ends before the point, so it is the one character
  have hv : v = [] := by
    cases v with
    | nil => rfl
    | cons d v =>
      have hd := numeric_of_grouped hw hx d (by simp)
      exact absurd (htail d (by rw [hrest]; rfl)) hd.ne_point
  subst hv
  have hzero : last = '0' := hlast.resolve_right hc
  subst hzero
  cases hw with
  | last _ =>
    refine ⟨rfl, ?_, by rwa [hrest]⟩
    cases hx with
    | plain h => rfl
  | next _ hw =>
    obtain ⟨c, v, y, h, -, -⟩ := hw.exists_cons
    cases h

theorem start_zero (s : List Char) : dropZeros.start ('0' :: s) = afterZeros '0' s := rfl

theorem start_of_number (h : StartsNumber s) : dropZeros.start s = some s := by
  obtain ⟨c, rest, rfl, hc, hzero⟩ := h
  rw [dropZeros.start, if_pos (by simpa using hc)]
  exact hzero

/-- Behind a run of zeros stands a number, or the last zero of the run is the number. -/
theorem numeral_of_afterZeros (h : afterZeros '0' t = some s) (hs : WholeNumber s n) :
    Numeral ('0' :: t) n := by
  obtain ⟨zeros, rest, rfl, hzeros, hrest⟩ := exists_zeroRun t
  have hlast := getLastD_of_zeroRun hzeros
  rw [afterZeros_append hzeros] at h
  -- behind the run comes nothing, the point of a fraction or the start of a number
  cases rest with
  | nil =>
    cases h
    obtain ⟨hzero, rfl, hfraction⟩ := eq_zero_of_wholeNumber hlast (by simp) hs
    exact .zero hzeros hzero hfraction
  | cons c rest =>
    obtain ⟨hc, hc'⟩ := hrest c rfl
    rw [afterZeros, if_neg (by simp [hc, hc'])] at h
    split at h
    · next hpoint =>
      cases h
      have hhead : ∀ d ∈ (c :: rest).head?, d = '.' := by
        rintro d hd
        cases hd
        exact beq_iff_eq.1 hpoint
      obtain ⟨hzero, rfl, hfraction⟩ := eq_zero_of_wholeNumber hlast hhead hs
      exact .zero hzeros hzero hfraction
    · split at h
      · next hstart =>
        cases h
        exact .afterZeros hzeros ⟨c, rest, rfl, by simpa using hstart, hc⟩ hs
      · cases h

theorem exists_start_iff : (∃ s, dropZeros.start t = some s ∧ WholeNumber s n) ↔ Numeral t n := by
  constructor
  · rintro ⟨s, h, hs⟩
    cases t with
    | nil => cases h
    | cons c t =>
      by_cases hc : c = '0'
      · subst hc
        exact numeral_of_afterZeros h hs
      · rw [dropZeros.start] at h
        · split at h
          · next hstart =>
            cases h
            exact .bare ⟨c, t, rfl, by simpa using hstart, hc⟩ hs
          · cases h
        · exact hc
  · rintro (⟨hstart, hs⟩ | ⟨hzeros, hstart, hs⟩ | ⟨hzeros, hlast, hfraction⟩)
    · exact ⟨t, start_of_number hstart, hs⟩
    · exact ⟨_, by rw [start_zero, afterZeros_append hzeros, afterZeros_of_number hstart], hs⟩
    · refine ⟨_, ?_, wholeNumber_zero hfraction⟩
      rw [start_zero, afterZeros_append hzeros, hlast, afterZeros_of_fraction hfraction]

/-! ## The sign, the blanks and the length -/

theorem not_numeral_plus (t : List Char) : ¬ Numeral ('+' :: t) n := by
  intro h
  cases h with
  | bare hstart hs =>
    obtain ⟨c, rest, h, hc, -⟩ := hstart
    cases h
    rcases hc with h | h <;> cases h

theorem exists_dropZeros_iff : (∃ s, dropZeros t = some s ∧ WholeNumber s n) ↔ SignedNumeral t n := by
  -- a plus sign is left out unless a minus sign follows, and a text without one is read as it is
  by_cases hplus : t.head? = some '+'
  · obtain ⟨rest, rfl⟩ := List.head?_eq_some_iff.1 hplus
    by_cases hminus : rest.head? = some '-'
    · obtain ⟨rest, rfl⟩ := List.head?_eq_some_iff.1 hminus
      refine iff_of_false nofun ?_
      rintro (h | ⟨_, h, hminus', -⟩)
      · exact not_numeral_plus _ h
      · cases h
        exact hminus' rfl
    · have hstep : dropZeros ('+' :: rest) = dropZeros.start rest := by
        cases rest with
        | nil => rfl
        | cons c rest =>
          rw [dropZeros]
          intro _ h
          cases h
          exact hminus rfl
      rw [hstep, exists_start_iff]
      constructor
      · exact fun h => .inr ⟨rest, rfl, hminus, h⟩
      · rintro (h | ⟨_, h, -, hrest⟩)
        · exact absurd h (not_numeral_plus rest)
        · cases h
          exact hrest
  · have hstep : dropZeros t = dropZeros.start t := by
      cases t with
      | nil => rfl
      | cons c t =>
        rw [dropZeros] <;> intro _ h <;> cases h <;> exact hplus rfl
    rw [hstep, exists_start_iff]
    refine ⟨.inl, ?_⟩
    rintro (h | ⟨_, rfl, -⟩)
    · exact h
    · exact absurd rfl hplus

/-- A text without the blanks around it. -/
def strip (s : List Char) : List Char :=
  ((s.dropWhile isSpace).reverse.dropWhile isSpace).reverse

theorem exists_strip (s : List Char) :
    ∃ before after, s = before ++ (strip s ++ after) ∧ (∀ c ∈ before, isSpace c = true) ∧
      ∀ c ∈ after, isSpace c = true := by
  refine ⟨s.takeWhile isSpace, ((s.dropWhile isSpace).reverse.takeWhile isSpace).reverse, ?_, ?_, ?_⟩
  · have hend := List.takeWhile_append_dropWhile (p := isSpace) (l := (s.dropWhile isSpace).reverse)
    have hmiddle := congrArg List.reverse hend
    rw [List.reverse_append, List.reverse_reverse] at hmiddle
    rw [strip, hmiddle, List.takeWhile_append_dropWhile]
  · exact fun c hc => List.mem_takeWhile_imp hc
  · exact fun c hc => List.mem_takeWhile_imp (List.mem_reverse.1 hc)

theorem strip_append {before after : List Char} (hbefore : ∀ c ∈ before, isSpace c = true)
    (hafter : ∀ c ∈ after, isSpace c = true) (hs : ∀ c ∈ s, isSpace c = false) (hne : s ≠ []) :
    strip (before ++ (s ++ after)) = s := by
  have hfirst : (s ++ after).dropWhile isSpace = s ++ after := by
    obtain ⟨c, s, rfl⟩ := List.exists_cons_of_ne_nil hne
    exact List.dropWhile_cons_of_neg (by simp [hs c List.mem_cons_self])
  have hlast : s.reverse.dropWhile isSpace = s.reverse := by
    obtain ⟨c, t, ht⟩ := List.exists_cons_of_ne_nil (List.reverse_ne_nil_iff.2 hne)
    have hc : c ∈ s := List.mem_reverse.1 (ht ▸ List.mem_cons_self)
    rw [ht]
    exact List.dropWhile_cons_of_neg (by simp [hs c hc])
  rw [strip, List.dropWhile_append_of_pos hbefore, hfirst, List.reverse_append,
    List.dropWhile_append_of_pos fun c hc => hafter c (List.mem_reverse.1 hc), hlast, List.reverse_reverse]

theorem not_space_of_digit (h : c.isDigit = true) : isSpace c = false := by
  simp only [Char.isDigit, Bool.and_eq_true, decide_eq_true_eq] at h
  have hlow : 48 ≤ c.toNat := UInt32.le_iff_toNat_le.1 h.1
  have hhigh : c.toNat ≤ 57 := UInt32.le_iff_toNat_le.1 h.2
  simp only [isSpace, Text.isBlank, Bool.and_eq_false_iff, Bool.or_eq_false_iff, decide_eq_false_iff_not,
    beq_eq_false_iff_ne, ne_eq]
  omega

theorem not_space_of_zeroRun (hzeros : ZeroRun zeros) : ∀ c ∈ zeros, isSpace c = false := by
  intro c hc
  rcases hzeros c hc with rfl | rfl <;> rfl

theorem not_space_of_zeroFraction (hfraction : ZeroFraction fraction) :
    ∀ c ∈ fraction, isSpace c = false := by
  rcases hfraction with rfl | ⟨zeros, -, hzeros, rfl⟩
  · exact nofun
  · intro c hc
    rcases List.mem_cons.1 hc with rfl | hc
    · rfl
    · rw [hzeros c hc]
      rfl

theorem not_space_of_wholeNumber (h : WholeNumber s n) : ∀ c ∈ s, isSpace c = false := by
  obtain ⟨w, x, fraction, rfl, hw, hx, hfraction⟩ := h
  intro c hc
  rcases List.mem_append.1 hc with hc | hc
  · rcases numeric_of_grouped hw hx c hc with rfl | rfl | hc
    · rfl
    · rfl
    · exact not_space_of_digit hc
  · exact not_space_of_zeroFraction hfraction c hc

theorem not_space_of_numeral (h : Numeral s n) : s ≠ [] ∧ ∀ c ∈ s, isSpace c = false := by
  have hzero {zeros t : List Char} (hzeros : ZeroRun zeros) (ht : ∀ c ∈ t, isSpace c = false) :
      ∀ c ∈ '0' :: (zeros ++ t), isSpace c = false := by
    intro c hc
    rcases List.mem_cons.1 hc with rfl | hc
    · rfl
    · exact (List.mem_append.1 hc).elim (not_space_of_zeroRun hzeros c) (ht c)
  cases h with
  | bare hstart hs =>
    obtain ⟨c, rest, rfl, -⟩ := hstart
    exact ⟨nofun, not_space_of_wholeNumber hs⟩
  | afterZeros hzeros _ hs => exact ⟨nofun, hzero hzeros (not_space_of_wholeNumber hs)⟩
  | zero hzeros _ hfraction => exact ⟨nofun, hzero hzeros (not_space_of_zeroFraction hfraction)⟩

theorem strip_of_signedNumeral {before after : List Char} (h : SignedNumeral s n)
    (hbefore : ∀ c ∈ before, isSpace c = true) (hafter : ∀ c ∈ after, isSpace c = true) :
    strip (before ++ (s ++ after)) = s := by
  rcases h with h | ⟨rest, rfl, -, h⟩
  · exact strip_append hbefore hafter (not_space_of_numeral h).2 (not_space_of_numeral h).1
  · refine strip_append hbefore hafter ?_ nofun
    intro c hc
    rcases List.mem_cons.1 hc with rfl | hc
    · rfl
    · exact (not_space_of_numeral h).2 c hc

/-- The steps of reading a text without blanks around it. -/
theorem read_bind_iff :
    (((dropZeros s).bind dropZeroFraction).bind ungroup).bind signed? = some n ↔ SignedNumeral s n := by
  rw [← exists_dropZeros_iff, Option.bind_assoc, Option.bind_assoc, Option.bind_eq_some_iff]
  exact exists_congr fun t => and_congr_right fun _ => dropZeroFraction_bind_iff

/-- **What is read as a whole number is written as one.** -/
theorem integerText_eq_ok_iff {t : String} : integerText t = .ok n ↔ WrittenInteger t.toList n := by
  rw [integerText]
  by_cases hlong : startsTooLong t.toList = true
  · rw [if_pos hlong]
    constructor
    · intro h
      cases h
    · intro h
      exact absurd (h.short.symm.trans hlong) Bool.false_ne_true
  rw [if_neg hlong]
  dsimp only
  constructor
  · intro h
    split at h
    · cases h
    · next m hm =>
      cases h
      obtain ⟨before, after, ht, hbefore, hafter⟩ := exists_strip t.toList
      exact ⟨Bool.eq_false_iff.2 hlong, before, _, after, ht, hbefore, hafter, read_bind_iff.1 hm⟩
  · rintro ⟨-, before, body, after, ht, hbefore, hafter, hbody⟩
    have hread := read_bind_iff.2 hbody
    rw [← strip_of_signedNumeral hbody hbefore hafter, ← ht] at hread
    split
    · next hnone => cases hread.symm.trans hnone
    · next m hm =>
      cases hread.symm.trans hm
      rfl

end ExtensionProbe.Decode
