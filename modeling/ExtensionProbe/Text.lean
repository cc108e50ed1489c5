/-!
# Texts

A text is a row of code points. Nearly all of them are characters; a half of a surrogate pair may stand
alone, because the escapes of data files can name one. A text without halves is a string.

* `value_ofNat`: a number below the limit is the number of its code point.
* `toString?_ofString`: a string as a text is still that string.
* `ofString_append`: joined strings are joined texts.
* `occursIn_iff`: a text occurs in another one exactly if that is some text around it.
-/

namespace ExtensionProbe

/-- A code point: a character, or a half of a surrogate pair by its place among the halves. -/
inductive Code where
  | char (c : Char)
  | half (place : Fin 2048)
deriving DecidableEq, Repr, Inhabited

namespace Code

/-- The first number of a half. -/
def firstHalf : Nat := 0xD800

/-- The number of a code point. -/
def value : Code → Nat
  | char c => c.toNat
  | half place => firstHalf + place.val

/-- The code point with a number. -/
def ofNat (n : Nat) : Code :=
  if h : firstHalf ≤ n ∧ n < firstHalf + 2048 then half ⟨n - firstHalf, by omega⟩
  else char (Char.ofNat n)

instance : Coe Char Code := ⟨char⟩

/-- The character that a code point is, unless it is a half. -/
def char? : Code → Option Char
  | char c => some c
  | half _ => none

/-- The half that a code point is, unless it is a character. -/
def half? : Code → Option (Fin 2048)
  | char _ => none
  | half place => some place

/-- Whether a code point is a character with a property. -/
def is (p : Char → Bool) : Code → Bool
  | char c => p c
  | half _ => false

@[simp] theorem is_char (p : Char → Bool) (c : Char) : (char c).is p = p c := rfl

/-- Code points go by their numbers. -/
instance : LT Code := ⟨fun a b => a.value < b.value⟩

instance : DecidableLT Code := fun a b => inferInstanceAs (Decidable (a.value < b.value))

theorem value_ofNat {n : Nat} (h : n < 0x110000) : (ofNat n).value = n := by
  unfold ofNat
  split
  · next hn => simp only [value]; omega
  · next hn =>
    have hv : n.isValidChar := by
      unfold Nat.isValidChar
      simp only [firstHalf] at hn
      omega
    rw [show Char.ofNat n = Char.ofNatAux n hv from dif_pos hv]
    rfl

end Code

/-- A row of code points. -/
abbrev Text := List Code

namespace Text

/-- Characters as a text. -/
def ofChars (cs : List Char) : Text := cs.map .char

/-- A string as a text. -/
def ofString (s : String) : Text := ofChars s.toList

instance : Coe String Text := ⟨ofString⟩

/-- The text of code points by their numbers. -/
def ofNumbers (codes : List Nat) : Text := codes.map Code.ofNat

/-- The characters of a text, if it has no halves. -/
def chars? : Text → Option (List Char)
  | [] => some []
  | .char c :: rest => (chars? rest).map (c :: ·)
  | .half _ :: _ => none

/-- The string that a text is, if it has no halves. -/
def toString? (t : Text) : Option String := (chars? t).map String.ofList

/-- An empty text counts as none given. -/
def given (s : Option Text) : Option Text := s.filter fun s => !s.isEmpty

/-- Whether a text occurs in another one. -/
def occursIn (part : Text) : Text → Bool
  | [] => part.isEmpty
  | c :: rest => part.isPrefixOf (c :: rest) || occursIn part rest

/-- Texts one after another with a text between them. -/
def join (between : Text) (ts : List Text) : Text := between.intercalate ts

@[simp] theorem chars?_ofChars (cs : List Char) : chars? (ofChars cs) = some cs := by
  induction cs with
  | nil => rfl
  | cons c rest ih =>
    rw [ofChars] at ih
    simp [ofChars, chars?, ih]

@[simp] theorem toString?_ofString (s : String) : toString? (ofString s) = some s := by
  simp [toString?, ofString]

theorem eq_ofChars_of_chars? {t : Text} {cs : List Char} (h : chars? t = some cs) :
    t = ofChars cs := by
  induction t generalizing cs with
  | nil =>
    simp only [chars?, Option.some.injEq] at h
    subst h
    rfl
  | cons c rest ih =>
    cases c with
    | half place => simp [chars?] at h
    | char c =>
      simp only [chars?, Option.map_eq_some_iff] at h
      obtain ⟨ds, hd, rfl⟩ := h
      simp [ofChars, ih hd]

theorem toString?_eq_some_iff {t : Text} {s : String} : toString? t = some s ↔ t = ofString s := by
  constructor
  · intro h
    simp only [toString?, Option.map_eq_some_iff] at h
    obtain ⟨cs, hc, rfl⟩ := h
    simp [ofString, eq_ofChars_of_chars? hc]
  · rintro rfl
    exact toString?_ofString s

theorem ofString_append (s t : String) : ofString (s ++ t) = ofString s ++ ofString t := by
  simp [ofString, ofChars]

theorem ofString_inj {s t : String} : ofString s = ofString t ↔ s = t := by
  constructor
  · intro h
    have := congrArg toString? h
    simpa using this
  · exact congrArg ofString

@[simp] theorem ofString_beq (s t : String) : (ofString s == ofString t) = (s == t) := by
  rw [Bool.eq_iff_iff, beq_iff_eq, beq_iff_eq, ofString_inj]

theorem occursIn_iff {part s : Text} :
    occursIn part s = true ↔ ∃ before after, s = before ++ part ++ after := by
  induction s with
  | nil =>
    simp only [occursIn, List.isEmpty_iff]
    constructor
    · rintro rfl
      exact ⟨[], [], rfl⟩
    · rintro ⟨before, after, h⟩
      have := congrArg List.length h
      simp only [List.length_nil, List.length_append] at this
      exact List.eq_nil_of_length_eq_zero (by omega)
  | cons c rest ih =>
    simp only [occursIn, Bool.or_eq_true, ih, List.isPrefixOf_iff_prefix]
    constructor
    · rintro (⟨after, h⟩ | ⟨before, after, h⟩)
      · exact ⟨[], after, by simp [h]⟩
      · exact ⟨c :: before, after, by simp [h]⟩
    · rintro ⟨before, after, h⟩
      cases before with
      | nil => exact .inl ⟨after, by simpa using h.symm⟩
      | cons b before =>
        simp only [List.cons_append, List.cons.injEq] at h
        exact .inr ⟨before, after, by simpa using h.2⟩

end Text

end ExtensionProbe
