import ExtensionProbe.Proofs.Grammar

/-!
# Versions written and read again

A version is written with a point between its numbers and a dash before its qualifier. Read again it has the
same numbers, because no numeral holds a separator, and the same qualifier but for the blanks at its end,
because the text starts with a digit, so that only its end can be trimmed. A version that was read has no
such blanks, so what is written of it is one normal form for all its spellings.

* `written_words`: what trimming leaves of a version in words is how the settled version is written.
* `settled_of_parse`: a version that was read is settled.
* `parse_text_settles`: **writing and reading settles a version, and each version has one normal form.**
-/

namespace ExtensionProbe.Version

variable {s t a b : Text} {v w : Version} {n : Nat}

/-- A version without the blanks at the end of its qualifier; a qualifier of blanks only is none. -/
def settled (v : Version) : Version :=
  { v with qualifier := v.qualifier.bind fun q =>
      if Text.trimEnd q = [] then none else some (Text.trimEnd q) }

/-- The text of the version that a text is read as. -/
def normalForm (s : Text) : Option Text :=
  (parse (some s)).toOption.bind fun v => v.text.toOption

/-! ## Numerals -/

/-- A number in decimal digits. -/
def numeral (n : Nat) : Text := Text.ofChars (Nat.toDigits 10 n)

theorem ofString_toString (n : Nat) : Text.ofString (toString n) = numeral n := by
  rw [numeral, Text.ofString, Nat.toString_eq_ofList_toDigits, String.toList_ofList]

theorem number_numeral (n : Nat) : number (numeral n) = n := by
  rw [numeral, number_ofChars, Nat.ofDigitChars_ten_toDigits]

theorem isDigits_numeral (n : Nat) : IsDigits (numeral n) := by
  refine ⟨fun hnil => Nat.toDigits_ne_nil (List.map_eq_nil_iff.1 hnil), ?_⟩
  intro c hc
  rw [← ofString_toString] at hc
  exact Decimal.isDigit_of_mem hc

/-- A number that can be written is written as a numeral that can be read. -/
theorem readable_numeral (h : Decimal.Writable n) : Readable (numeral n) := by
  refine ⟨isDigits_numeral n, ?_⟩
  rw [numeral, Text.ofChars, List.length_map]
  exact h

theorem not_blank_of_digit {c : Code} (h : c.is Char.isDigit = true) : c.is Text.isBlank = false := by
  cases c with
  | half place => rfl
  | char c =>
    have hd : c.isDigit = true := h
    simp only [Char.isDigit, Bool.and_eq_true, decide_eq_true_eq] at hd
    have hlo : 48 ≤ c.toNat := UInt32.le_iff_toNat_le.1 hd.1
    have hhi : c.toNat ≤ 57 := UInt32.le_iff_toNat_le.1 hd.2
    simp only [Code.is_char, Text.isBlank, Bool.or_eq_false_iff, Bool.and_eq_false_iff,
      decide_eq_false_iff_not, beq_eq_false_iff_ne]
    omega

theorem IsDigits.first (h : IsDigits a) (rest : Text) :
    ∀ c, (a ++ rest).head? = some c → c.is Text.isBlank = false := by
  intro c hc
  obtain ⟨hne, hdigits⟩ := h
  cases a with
  | nil => exact absurd rfl hne
  | cons d ds =>
    rw [List.cons_append, List.head?_cons, Option.some.injEq] at hc
    rw [← hc]
    exact not_blank_of_digit (hdigits d List.mem_cons_self)

theorem IsDigits.last (h : IsDigits b) : ∀ c, b.getLast? = some c → c.is Text.isBlank = false :=
  fun c hc => not_blank_of_digit (h.2 c (List.mem_of_getLast? hc))

/-! ## Versions in words -/

theorem isSeparator_point : isSeparator (.char '.') = true := rfl

theorem isSeparator_dash : isSeparator (.char '-') = true := rfl

theorem getLast?_append_cons (a : Text) (c : Code) (r : Text) :
    (a ++ c :: r).getLast? = some (r.getLast?.getD c) := by
  rw [List.getLast?_append, List.getLast?_cons]
  rfl

/-- A text ends with no blank if it ends in a text that ends with none, or in a separator. -/
theorem last_append_cons {sep : Code} {r : Text} (hsep : isSeparator sep = true)
    (hr : ∀ c, r.getLast? = some c → c.is Text.isBlank = false) :
    ∀ c, (a ++ sep :: r).getLast? = some c → c.is Text.isBlank = false := by
  intro c hc
  rw [getLast?_append_cons, Option.some.injEq] at hc
  cases hl : r.getLast? with
  | some d =>
    rw [hl] at hc
    exact hr c (hl.trans (congrArg some hc))
  | none =>
    rw [hl, Option.getD_none] at hc
    rw [← hc]
    simp only [isSeparator, Bool.or_eq_true, beq_iff_eq] at hsep
    rcases hsep with rfl | rfl <;> rfl

/-- Trimming a text that starts with a digit takes off the blanks after what ends with none. -/
theorem trim_of_digits {rest after : Text} (ha : IsDigits a)
    (hlast : ∀ c, (a ++ rest).getLast? = some c → c.is Text.isBlank = false)
    (hafter : Text.AllBlank after) : Text.trim (a ++ rest ++ after) = a ++ rest :=
  Text.eq_trim_of_stripped ⟨⟨[], after, rfl, nofun, hafter⟩, ha.first rest, hlast⟩

theorem words_of_plain (hq : v.qualifier = none ∨ v.qualifier = some []) :
    v.words = numeral v.major ++ .char '.' :: numeral v.minor := by
  rw [← ofString_toString, ← ofString_toString]
  unfold words
  rcases hq with hq | hq
  · rw [hq, List.append_nil, List.append_assoc]
    rfl
  · rw [hq, List.append_nil, List.append_assoc]
    rfl

theorem words_of_qualified {c : Code} {q : Text} (hq : v.qualifier = some (c :: q)) :
    v.words = numeral v.major ++ .char '.' :: (numeral v.minor ++ .char '-' :: (c :: q)) := by
  rw [← ofString_toString, ← ofString_toString]
  unfold words
  rw [hq, List.append_assoc, List.append_assoc]
  rfl

theorem settled_of_plain (hq : v.qualifier = none ∨ v.qualifier = some []) :
    v.settled = ⟨v.major, v.minor, none⟩ := by
  unfold settled
  rcases hq with hq | hq
  · rw [hq]
    rfl
  · rw [hq]
    rfl

theorem settled_of_qualified {q : Text} (hq : v.qualifier = some q) :
    v.settled = ⟨v.major, v.minor, if Text.trimEnd q = [] then none else some (Text.trimEnd q)⟩ := by
  unfold settled
  rw [hq]
  rfl

theorem written_words_of_plain (hv : v.Writable) (hq : v.qualifier = none ∨ v.qualifier = some []) :
    Written (Text.trim v.words) v.settled := by
  have hmajor := readable_numeral hv.1
  have hminor := readable_numeral hv.2
  have htrim : Text.trim v.words = numeral v.major ++ .char '.' :: numeral v.minor := by
    have hlast := last_append_cons (a := numeral v.major) isSeparator_point hminor.digits.last
    have h := trim_of_digits hmajor.digits hlast Text.allBlank_nil
    rw [List.append_nil] at h
    rw [words_of_plain hq]
    exact h
  have hw := Written.plain hmajor isSeparator_point hminor
  rw [number_numeral, number_numeral] at hw
  rw [htrim, settled_of_plain hq]
  exact hw

/-- **What trimming leaves of a version in words** is how the settled version is written. -/
theorem written_words (hv : v.Writable) : Written (Text.trim v.words) v.settled := by
  rcases hq : v.qualifier with _ | _ | ⟨c, q⟩
  · exact written_words_of_plain hv (.inl hq)
  · exact written_words_of_plain hv (.inr hq)
  have hmajor := readable_numeral hv.1
  have hminor := readable_numeral hv.2
  -- the blanks at the end of the qualifier are the ones at the end of the text
  obtain ⟨after, hqa, hafter⟩ := Text.exists_append_trimEnd (c :: q)
  have hlast := last_append_cons (a := numeral v.major) isSeparator_point
    (last_append_cons (a := numeral v.minor) isSeparator_dash (Text.last_trimEnd (c :: q)))
  have htrim : Text.trim v.words =
      numeral v.major ++ .char '.' :: (numeral v.minor ++ .char '-' :: Text.trimEnd (c :: q)) := by
    have h := trim_of_digits hmajor.digits hlast hafter
    rw [List.append_assoc, List.cons_append, List.append_assoc, List.cons_append, ← hqa,
      ← words_of_qualified hq] at h
    exact h
  have hw := Written.qualified (r := Text.trimEnd (c :: q)) hmajor isSeparator_point hminor
    isSeparator_dash
  rw [number_numeral, number_numeral] at hw
  rw [htrim, settled_of_qualified hq]
  exact hw

theorem parse_words (hv : v.Writable) : parse (some v.words) = .ok v.settled :=
  parse_of_written (written_words hv)

/-- **A version that was read is settled:** its qualifier ends where the trimmed text ends. -/
theorem settled_of_parse (h : parse (some s) = .ok v) : v.settled = v := by
  have hw := written_of_parse h
  have hlast := (Text.stripped_trim s).last
  generalize Text.trim s = t at hw hlast
  cases hw with
  | plain => rfl
  | @qualified a b r sep sep' =>
    by_cases hr : r = []
    · rw [hr]
      rfl
    · have hrlast : ∀ c, r.getLast? = some c → c.is Text.isBlank = false := by
        intro c hc
        refine hlast c ?_
        rw [getLast?_append_cons, getLast?_append_cons, hc]
        rfl
      rw [settled_of_qualified (if_neg hr), Text.trimEnd_of_last hrlast]

theorem parse_words_of_parse (h : parse (some s) = .ok v) : parse (some v.words) = .ok v := by
  rw [parse_words (writable_of_parse h), settled_of_parse h]

theorem normalForm_of_parse (h : parse (some s) = .ok v) : normalForm s = some v.words := by
  unfold normalForm
  rw [h]
  exact congrArg Except.toOption (text_of_writable (writable_of_parse h))

/-- **Writing and reading settles a version.** Every version that can be written is read again with its
numbers and with its qualifier but for blanks at the end. A version that was read is read again as it is. So
every text that is a version has a normal form, which is its own normal form, and two texts have the same one
exactly if they are read as the same version. -/
theorem parse_text_settles :
    (∀ v : Version, v.Writable → ∃ t, v.text = .ok t ∧ parse (some t) = .ok v.settled) ∧
    (∀ s v, parse (some s) = .ok v → ∃ t, v.text = .ok t ∧ parse (some t) = .ok v) ∧
    (∀ s v, parse (some s) = .ok v → ∃ t, normalForm s = some t ∧ normalForm t = some t) ∧
    ∀ s s' v v', parse (some s) = .ok v → parse (some s') = .ok v' →
      (normalForm s = normalForm s' ↔ v = v') := by
  refine ⟨?_, ?_, ?_, ?_⟩
  · intro v hv
    exact ⟨v.words, text_of_writable hv, parse_words hv⟩
  · intro s v h
    exact ⟨v.words, text_of_writable (writable_of_parse h), parse_words_of_parse h⟩
  · intro s v h
    exact ⟨v.words, normalForm_of_parse h, normalForm_of_parse (parse_words_of_parse h)⟩
  · intro s s' v v' h h'
    rw [normalForm_of_parse h, normalForm_of_parse h']
    constructor
    · intro hwords
      -- the words are read as the version, so versions with the same words are the same
      have hv := parse_words_of_parse h
      rw [Option.some.inj hwords, parse_words_of_parse h'] at hv
      exact (Except.ok.inj hv).symm
    · rintro rfl
      rfl

/-- A qualifier with separators in it and a line break at its end, and two spellings of one version. -/
theorem parse_text_settles_line_break :
    Writable ⟨2, 530, some " rc.1-\n"⟩ ∧
      (∃ t, text ⟨2, 530, some " rc.1-\n"⟩ = .ok t ∧
        parse (some t) = .ok ⟨2, 530, some " rc.1-"⟩) ∧
      parse (some " 02-530.x ") = .ok ⟨2, 530, some "x"⟩ ∧
      parse (some "2.0530-x") = .ok ⟨2, 530, some "x"⟩ ∧
      (∃ t, normalForm " 02-530.x " = some t ∧ normalForm t = some t) ∧
      normalForm " 02-530.x " = normalForm "2.0530-x" := by
  obtain ⟨hwrite, -, hnormal, hsame⟩ := parse_text_settles
  have hw : Writable ⟨2, 530, some " rc.1-\n"⟩ := by decide
  have h : parse (some " 02-530.x ") = .ok ⟨2, 530, some "x"⟩ := by rfl
  have h' : parse (some "2.0530-x") = .ok ⟨2, 530, some "x"⟩ := by rfl
  refine ⟨hw, ?_, h, h', hnormal _ _ h, (hsame _ _ _ _ h h').2 rfl⟩
  obtain ⟨t, ht, hparse⟩ := hwrite _ hw
  exact ⟨t, ht, hparse.trans (by rfl)⟩

end ExtensionProbe.Version
