import ExtensionProbe.Proofs.Spelling
import ExtensionProbe.Proofs.Stripped
import Mathlib.Data.Nat.Digits.Defs

/-!
# The grammar of versions

Without the blanks at its ends, a version is a numeral, a separator and a numeral, and then nothing, or a
separator and a qualifier. What is no version fails by the first thing that is wrong with it, in the order of
the text; the length of the numerals is looked at last.

* `written_or_refused`: a text is written as a version or refused for a reason.
* `parse_of_written`, `parse_of_refused`: reading gives that version, or fails for that reason.
* `parse_reads_grammar`: **reading accepts exactly the grammar, and otherwise names the first fault.**
-/

namespace ExtensionProbe.Version

variable {s t a b tail : Text} {sep : Code}

/-- No character of a text is a separator. -/
def Unseparated (t : Text) : Prop := ∀ c ∈ t, isSeparator c = false

/-- A text is a run of ASCII digits. -/
def IsDigits (t : Text) : Prop := t ≠ [] ∧ ∀ c ∈ t, c.is Char.isDigit = true

/-- The number that digits stand for in decimal notation, the first digit being the highest. -/
def number (digits : Text) : Nat := Nat.ofDigits 10 (digits.reverse.map fun c => c.value - 48)

/-- A run of ASCII digits that is not too long to be read. -/
structure Readable (t : Text) : Prop where
  digits : IsDigits t
  length : t.length ≤ Decimal.maxDigits

/-- What may come after the second part: nothing, or a separator and any text. -/
def EndsPart (tail : Text) : Prop := tail = [] ∨ ∃ sep r, isSeparator sep = true ∧ tail = sep :: r

/-- How a version is written, without blanks at the ends. -/
inductive Written : Text → Version → Prop
  /-- Two numerals with a separator between them. -/
  | plain {a b : Text} {sep : Code} (ha : Readable a) (hsep : isSeparator sep = true) (hb : Readable b) :
    Written (a ++ sep :: b) ⟨number a, number b, none⟩
  /-- The same with a separator and a qualifier after it; an empty one is none. -/
  | qualified {a b r : Text} {sep sep' : Code} (ha : Readable a) (hsep : isSeparator sep = true)
      (hb : Readable b) (hsep' : isSeparator sep' = true) :
    Written (a ++ sep :: (b ++ sep' :: r)) ⟨number a, number b, if r = [] then none else some r⟩

/-- Why a text is no version. `given` is the text as it was given, which the failure carries. -/
inductive Refused (given : Text) : Text → Failure → Prop
  | unseparated {t : Text} (h : Unseparated t) :
    Refused given t (.rejected ⟨some given, .missingSegment⟩)
  | major {a rest : Text} {sep : Code} (hu : Unseparated a) (hsep : isSeparator sep = true)
      (ha : ¬ IsDigits a) :
    Refused given (a ++ sep :: rest) (.rejected ⟨some given, .notNumeric .major a⟩)
  | minor {a b tail : Text} {sep : Code} (ha : IsDigits a) (hsep : isSeparator sep = true)
      (hu : Unseparated b) (htail : EndsPart tail) (hb : ¬ IsDigits b) :
    Refused given (a ++ sep :: (b ++ tail)) (.rejected ⟨some given, .notNumeric .minor b⟩)
  | longMajor {a b tail : Text} {sep : Code} (ha : IsDigits a) (hsep : isSeparator sep = true)
      (hb : IsDigits b) (htail : EndsPart tail) (hlong : Decimal.maxDigits < a.length) :
    Refused given (a ++ sep :: (b ++ tail)) (.tooLong (.reading a.length))
  | longMinor {a b tail : Text} {sep : Code} (ha : Readable a) (hsep : isSeparator sep = true)
      (hb : IsDigits b) (htail : EndsPart tail) (hlong : Decimal.maxDigits < b.length) :
    Refused given (a ++ sep :: (b ++ tail)) (.tooLong (.reading b.length))

/-! ## Digits -/

theorem digits?_of_isDigits (h : IsDigits t) : ∃ ds, digits? t = some ds ∧ t = Text.ofChars ds := by
  obtain ⟨hne, hdigits⟩ := h
  -- a digit is a character, so the text has no halves
  have hchars : ∃ ds, t = Text.ofChars ds := by
    clear hne
    induction t with
    | nil => exact ⟨[], rfl⟩
    | cons c rest ih =>
      obtain ⟨ds, hds⟩ := ih fun d hd => hdigits d (List.mem_cons_of_mem _ hd)
      cases c with
      | half place => exact absurd (hdigits _ List.mem_cons_self) nofun
      | char c => exact ⟨c :: ds, by rw [hds]; rfl⟩
  obtain ⟨ds, rfl⟩ := hchars
  refine ⟨ds, digits?_eq_some_iff.2 ⟨rfl, ?_, ?_⟩, rfl⟩
  · rintro rfl
    exact hne rfl
  · intro c hc
    exact hdigits (.char c) (List.mem_map_of_mem hc)

theorem isDigits_of_digits? {ds : List Char} (h : digits? t = some ds) : IsDigits t := by
  obtain ⟨rfl, hne, hdigits⟩ := digits?_eq_some_iff.1 h
  refine ⟨fun hnil => hne (List.map_eq_nil_iff.1 hnil), ?_⟩
  intro c hc
  obtain ⟨d, hd, rfl⟩ := List.mem_map.1 hc
  exact hdigits d hd

theorem digits?_of_not_isDigits (h : ¬ IsDigits t) : digits? t = none := by
  cases hd : digits? t with
  | none => rfl
  | some ds => exact absurd (isDigits_of_digits? hd) h

theorem IsDigits.unseparated (h : IsDigits t) : Unseparated t := by
  intro c hc
  cases c with
  | half place => rfl
  | char c => exact not_separator_of_digit (h.2 _ hc)

theorem number_ofChars (ds : List Char) : number (Text.ofChars ds) = Nat.ofDigitChars 10 ds 0 := by
  unfold number
  induction ds with
  | nil => rfl
  | cons c rest ih =>
    rw [Nat.ofDigitChars_cons, Nat.ofDigitChars_eq_ofDigitChars_zero, ← ih]
    simp only [Text.ofChars, List.map_cons, List.reverse_cons, List.map_append, Nat.ofDigits_append,
      List.length_map, List.length_reverse, List.map_nil, Nat.ofDigits_singleton]
    simp only [Code.value, Nat.mul_zero, Nat.zero_add]
    exact Nat.add_comm _ _

/-- Digits are read as their number, or not at all if there are too many of them. -/
theorem read_of_isDigits (h : IsDigits t) :
    ∃ ds, digits? t = some ds ∧
      Decimal.read ds =
        if t.length ≤ Decimal.maxDigits then .ok (number t) else .error (.reading t.length) := by
  obtain ⟨ds, hds, rfl⟩ := digits?_of_isDigits h
  refine ⟨ds, hds, ?_⟩
  unfold Decimal.read
  rw [number_ofChars]
  simp only [Text.ofChars, List.length_map]

/-! ## Parts -/

theorem EndsPart.nil : EndsPart [] := .inl rfl

theorem EndsPart.cons {sep : Code} (h : isSeparator sep = true) (r : Text) : EndsPart (sep :: r) :=
  .inr ⟨sep, r, h, rfl⟩

/-- The part before the first separator, if there is one, and what comes from there on. -/
theorem exists_part (t : Text) : ∃ a tail, t = a ++ tail ∧ Unseparated a ∧ EndsPart tail := by
  induction t with
  | nil => exact ⟨[], [], rfl, nofun, .nil⟩
  | cons c rest ih =>
    by_cases hc : isSeparator c = true
    · exact ⟨[], c :: rest, rfl, nofun, .cons hc rest⟩
    · obtain ⟨a, tail, rfl, ha, htail⟩ := ih
      refine ⟨c :: a, tail, rfl, ?_, htail⟩
      intro d hd
      rcases List.mem_cons.1 hd with rfl | hd
      · exact Bool.eq_false_iff.2 hc
      · exact ha d hd

theorem cut_part (ha : Unseparated a) (htail : EndsPart tail) : cut (a ++ tail) = (a, tail.tail?) := by
  rcases htail with rfl | ⟨sep, r, hsep, rfl⟩
  · rw [List.append_nil]
    exact cut_of_no_separator ha
  · exact cut_append ha hsep

/-! ## Reading -/

/-- A text is written as a version, or is refused. -/
theorem written_or_refused (given t : Text) : (∃ v, Written t v) ∨ ∃ f, Refused given t f := by
  obtain ⟨a, tail, rfl, ha, rfl | ⟨sep, rest, hsep, rfl⟩⟩ := exists_part t
  · rw [List.append_nil]
    exact .inr ⟨_, .unseparated ha⟩
  by_cases hda : IsDigits a
  swap
  · exact .inr ⟨_, .major ha hsep hda⟩
  obtain ⟨b, tail, rfl, hb, htail⟩ := exists_part rest
  by_cases hdb : IsDigits b
  swap
  · exact .inr ⟨_, .minor hda hsep hb htail hdb⟩
  -- two runs of digits: only their lengths can be wrong, the first one's before the second one's
  by_cases hla : a.length ≤ Decimal.maxDigits
  swap
  · exact .inr ⟨_, .longMajor hda hsep hdb htail (Nat.lt_of_not_le hla)⟩
  by_cases hlb : b.length ≤ Decimal.maxDigits
  swap
  · exact .inr ⟨_, .longMinor ⟨hda, hla⟩ hsep hdb htail (Nat.lt_of_not_le hlb)⟩
  rcases htail with rfl | ⟨sep', r, hsep', rfl⟩
  · rw [List.append_nil]
    exact .inl ⟨_, .plain ⟨hda, hla⟩ hsep ⟨hdb, hlb⟩⟩
  · exact .inl ⟨_, .qualified ⟨hda, hla⟩ hsep ⟨hdb, hlb⟩ hsep'⟩

theorem parse_of_unseparated (ht : Text.trim s = t) (h : Unseparated t) :
    parse (some s) = .error (.rejected ⟨some s, .missingSegment⟩) := by
  unfold parse
  simp only [ht, cut_of_no_separator h]
  rfl

/-- Reading a text whose parts are known. -/
theorem parse_of_parts (ht : Text.trim s = a ++ sep :: (b ++ tail)) (ha : Unseparated a)
    (hsep : isSeparator sep = true) (hb : Unseparated b) (htail : EndsPart tail) :
    parse (some s) =
      match digits? a, digits? b with
      | none, _ => .error (.rejected ⟨some s, .notNumeric .major a⟩)
      | some _, none => .error (.rejected ⟨some s, .notNumeric .minor b⟩)
      | some ds, some es =>
        (Decimal.read ds).mapError .tooLong >>= fun major =>
          (Decimal.read es).mapError .tooLong >>= fun minor =>
            pure ⟨major, minor, parse.qualifier tail.tail?⟩ := by
  unfold parse
  simp only [ht, cut_append ha hsep, cut_part hb htail]
  cases digits? a with
  | none => rfl
  | some ds => cases digits? b <;> rfl

/-- Reading two runs of digits. -/
theorem parse_of_digits (ht : Text.trim s = a ++ sep :: (b ++ tail)) (ha : IsDigits a)
    (hsep : isSeparator sep = true) (hb : IsDigits b) (htail : EndsPart tail) :
    parse (some s) =
      if a.length ≤ Decimal.maxDigits then
        if b.length ≤ Decimal.maxDigits then
          .ok ⟨number a, number b, parse.qualifier tail.tail?⟩
        else .error (.tooLong (.reading b.length))
      else .error (.tooLong (.reading a.length)) := by
  obtain ⟨ds, hds, hra⟩ := read_of_isDigits ha
  obtain ⟨es, hes, hrb⟩ := read_of_isDigits hb
  rw [parse_of_parts ht ha.unseparated hsep hb.unseparated htail]
  simp only [hds, hes, hra, hrb]
  by_cases hla : a.length ≤ Decimal.maxDigits
  · by_cases hlb : b.length ≤ Decimal.maxDigits
    · simp only [hla, hlb, if_true]
      rfl
    · simp only [hla, hlb, if_true, if_false]
      rfl
  · simp only [hla, if_false]
    rfl

theorem qualifier_some (r : Text) : parse.qualifier (some r) = if r = [] then none else some r := by
  cases r <;> rfl

theorem parse_of_written {v : Version} (h : Written (Text.trim s) v) : parse (some s) = .ok v := by
  generalize ht : Text.trim s = t at h
  cases h with
  | plain ha hsep hb =>
    rw [← List.append_nil (_ :: _)] at ht
    rw [parse_of_digits ht ha.digits hsep hb.digits .nil, if_pos ha.length, if_pos hb.length]
    rfl
  | qualified ha hsep hb hsep' =>
    rw [parse_of_digits ht ha.digits hsep hb.digits (.cons hsep' _), if_pos ha.length,
      if_pos hb.length, List.tail?_cons, qualifier_some]

theorem parse_of_refused {f : Failure} (h : Refused s (Text.trim s) f) : parse (some s) = .error f := by
  generalize ht : Text.trim s = t at h
  cases h with
  | unseparated hu => exact parse_of_unseparated ht hu
  | @major a rest sep hu hsep ha =>
    -- the text after the first separator plays no part, but it has a first part of its own
    obtain ⟨b, tail, rfl, hb, htail⟩ := exists_part rest
    rw [parse_of_parts ht hu hsep hb htail, digits?_of_not_isDigits ha]
  | minor ha hsep hu htail hb =>
    obtain ⟨ds, hds, -⟩ := digits?_of_isDigits ha
    rw [parse_of_parts ht ha.unseparated hsep hu htail, hds, digits?_of_not_isDigits hb]
  | longMajor ha hsep hb htail hlong =>
    rw [parse_of_digits ht ha hsep hb htail, if_neg (Nat.not_le_of_lt hlong)]
  | longMinor ha hsep hb htail hlong =>
    rw [parse_of_digits ht ha.digits hsep hb htail, if_pos ha.length,
      if_neg (Nat.not_le_of_lt hlong)]

theorem written_of_parse {v : Version} (h : parse (some s) = .ok v) : Written (Text.trim s) v := by
  rcases written_or_refused s (Text.trim s) with ⟨w, hw⟩ | ⟨f, hf⟩
  · have := (parse_of_written hw).symm.trans h
    cases this
    exact hw
  · cases (parse_of_refused hf).symm.trans h

theorem refused_of_parse {f : Failure} (h : parse (some s) = .error f) :
    Refused s (Text.trim s) f := by
  rcases written_or_refused s (Text.trim s) with ⟨w, hw⟩ | ⟨g, hg⟩
  · cases (parse_of_written hw).symm.trans h
  · have := (parse_of_refused hg).symm.trans h
    cases this
    exact hg

/-- **Reading accepts exactly the grammar.** A version that is not given is refused as such. Of a text that
is given, the part between the blanks at its ends decides: it is read as a version exactly if that is how
the version is written, and fails exactly as the first fault in the part says. -/
theorem parse_reads_grammar :
    parse none = .error (.rejected ⟨none, .notGiven⟩) ∧
      ∀ s, Text.Stripped s (Text.trim s) ∧
        (∀ v, parse (some s) = .ok v ↔ Written (Text.trim s) v) ∧
        ∀ f, parse (some s) = .error f ↔ Refused s (Text.trim s) f := by
  refine ⟨rfl, fun s => ⟨Text.stripped_trim s, fun v => ?_, fun f => ?_⟩⟩
  · exact ⟨written_of_parse, parse_of_written⟩
  · exact ⟨refused_of_parse, parse_of_refused⟩

end ExtensionProbe.Version
