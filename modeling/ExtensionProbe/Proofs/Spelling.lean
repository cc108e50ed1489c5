import ExtensionProbe.Proofs.Words

/-!
# Spellings of a version

The numbers of a version may be written with zeros before them, with a point or a dash between them, with
blanks around the text and with any qualifier after it. None of that is seen in the numbers that are read.

* `parse_of_spells`: every spelling of two numbers is read as a version with these numbers.
* `writable_of_parse`: the numbers of a version that was read can be written.
-/

namespace ExtensionProbe.Version

/-- A run of ASCII digits within the limit, and its value. -/
structure Numeral (ds : List Char) (n : Nat) : Prop where
  nonempty : ds ≠ []
  digits : ∀ c ∈ ds, c.isDigit = true
  value : Decimal.read ds = .ok n

/-- A text spells two numbers: without the blanks at its ends it is a numeral, a separator and a numeral,
and then nothing, or a separator and any text. -/
def Spells (s : Text) (major minor : Nat) : Prop :=
  ∃ ds sep es tail, Text.trim s = Text.ofChars ds ++ sep :: (Text.ofChars es ++ tail) ∧
    isSeparator sep = true ∧ Numeral ds major ∧ Numeral es minor ∧
    (tail = [] ∨ ∃ c rest, isSeparator c = true ∧ tail = c :: rest)

theorem not_separator_of_digit {c : Char} (h : c.isDigit = true) : isSeparator c = false := by
  simp only [isSeparator, Bool.or_eq_false_iff, beq_eq_false_iff_ne, ne_eq, Code.char.injEq]
  constructor
  · rintro rfl; cases h
  · rintro rfl; cases h

theorem cut_append {s rest : Text} {sep : Code} (hs : ∀ c ∈ s, isSeparator c = false)
    (hsep : isSeparator sep = true) : cut (s ++ sep :: rest) = (s, some rest) := by
  induction s with
  | nil => simp [cut, hsep]
  | cons c tail ih =>
    have hc := hs c List.mem_cons_self
    have := ih fun d hd => hs d (List.mem_cons_of_mem _ hd)
    simp [cut, hc, this]

theorem cut_of_no_separator {s : Text} (hs : ∀ c ∈ s, isSeparator c = false) : cut s = (s, none) := by
  induction s with
  | nil => rfl
  | cons c tail ih =>
    have hc := hs c List.mem_cons_self
    have := ih fun d hd => hs d (List.mem_cons_of_mem _ hd)
    simp [cut, hc, this]

namespace Numeral

variable {ds : List Char} {n : Nat}

theorem no_separator (h : Numeral ds n) : ∀ c ∈ Text.ofChars ds, isSeparator c = false := by
  intro c hc
  obtain ⟨d, hd, rfl⟩ := List.mem_map.1 hc
  exact not_separator_of_digit (h.digits d hd)

theorem digits?_eq (h : Numeral ds n) : digits? (Text.ofChars ds) = some ds :=
  digits?_eq_some_iff.2 ⟨rfl, h.nonempty, h.digits⟩

end Numeral

/-- **Every spelling is read as its numbers.** -/
theorem parse_of_spells {s : Text} {major minor : Nat} (h : Spells s major minor) :
    ∃ v, parse (some s) = .ok v ∧ v.major = major ∧ v.minor = minor := by
  obtain ⟨ds, sep, es, tail, htrim, hsep, hds, hes, htail⟩ := h
  have hcut : cut (Text.trim s) = (Text.ofChars ds, some (Text.ofChars es ++ tail)) := by
    rw [htrim]
    exact cut_append hds.no_separator hsep
  -- the second cut ends at a separator or at the end of the text
  have hcut' : ∃ q, cut (Text.ofChars es ++ tail) = (Text.ofChars es, q) := by
    rcases htail with rfl | ⟨c, rest, hc, rfl⟩
    · exact ⟨none, by rw [List.append_nil]; exact cut_of_no_separator hes.no_separator⟩
    · exact ⟨some rest, cut_append hes.no_separator hc⟩
  obtain ⟨q, hq⟩ := hcut'
  refine ⟨⟨major, minor, parse.qualifier q⟩, ?_, rfl, rfl⟩
  unfold parse
  simp only [hcut, hq, hds.digits?_eq, hes.digits?_eq, hds.value, hes.value]
  rfl

/-- A version that was read has numerals for its numbers. -/
theorem numerals_of_parse {raw : Option Text} {v : Version} (h : parse raw = .ok v) :
    ∃ ds es, Numeral ds v.major ∧ Numeral es v.minor := by
  cases raw with
  | none => cases h
  | some given =>
    unfold parse at h
    rcases hc : cut (Text.trim given) with ⟨major, _ | rest⟩
    · simp only [hc] at h
      cases h
    rcases hr : cut rest with ⟨minor, tail⟩
    simp only [hc, hr] at h
    cases hd : digits? major with
    | none => rw [hd] at h; cases h
    | some ds =>
      cases he : digits? minor with
      | none => rw [hd, he] at h; cases h
      | some es =>
        obtain ⟨-, hne, hdigits⟩ := digits?_eq_some_iff.1 hd
        obtain ⟨-, hne', hdigits'⟩ := digits?_eq_some_iff.1 he
        rw [hd, he] at h
        obtain ⟨a, ha, h⟩ := exists_of_bind_eq_ok h
        obtain ⟨b, hb, h⟩ := exists_of_bind_eq_ok h
        cases h
        exact ⟨ds, es, ⟨hne, hdigits, eq_ok_of_mapError ha⟩, ⟨hne', hdigits', eq_ok_of_mapError hb⟩⟩

theorem writable_of_parse {raw : Option Text} {v : Version} (h : parse raw = .ok v) : v.Writable := by
  obtain ⟨ds, es, hd, he⟩ := numerals_of_parse h
  exact ⟨Decimal.writable_of_read hd.digits hd.value, Decimal.writable_of_read he.digits he.value⟩

end ExtensionProbe.Version
