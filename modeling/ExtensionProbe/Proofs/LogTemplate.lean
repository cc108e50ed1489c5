import ExtensionProbe.Command.Execute
import Mathlib.Data.List.TakeWhile

/-!
# Templates of the lines of a log

The lines of a log are written by a text that has a field with a name in it. What counts as such a field is a
name in brackets, flags, a width, places and a conversion, one after another.

* `startsWithField_iff`: a text is read as a field exactly if it starts with one.
* `isTemplate_iff`: **a text is a template of lines exactly if there is a named field somewhere in it.**
-/

namespace ExtensionProbe.Log.Layout

/-- A star, or digits: a width, or a number of places. -/
inductive Count : Text → Prop
  | star : Count [.char '*']
  | digits {s : Text} (hne : s ≠ []) (hs : ∀ c ∈ s, c.is Text.isDecimal = true) : Count s

/-- Nothing, or a count. -/
def Width (s : Text) : Prop := s = [] ∨ Count s

/-- Nothing, or a point and a count. -/
def Places (s : Text) : Prop := s = [] ∨ ∃ count, s = .char '.' :: count ∧ Count count

/-- A field with a name: after a percent sign the name in brackets, and then flags, a width, places and a
conversion. -/
inductive NamedField : Text → Prop
  | mk {name flags width places : Text} {conversion : Code} (hne : name ≠ [])
      (hname : ∀ c ∈ name, c.is Text.isWordChar = true) (hflags : ∀ c ∈ flags, Template.isFlag c = true)
      (hwidth : Width width) (hplaces : Places places) (hconversion : conversion.is isConversion = true) :
      NamedField (.char '%' :: .char '(' ::
        (name ++ .char ')' :: (flags ++ (width ++ (places ++ [conversion])))))

/-- There is a named field somewhere in a text. -/
def HasField (s : Text) : Prop := ∃ before field after, s = before ++ (field ++ after) ∧ NamedField field

variable {s rest count width places flags name : Text} {c : Code} {d : Char}

/-! ## Characters -/

/-- The zeros of the scripts are that of ASCII and later ones. -/
theorem zero_bounds : ∀ z ∈ Text.zeros, z = 48 ∨ 1632 ≤ z := by decide

theorem digit_bounds (h : Text.isDecimal d = true) : 48 ≤ d.toNat ∧ d.toNat ≤ 57 ∨ 1632 ≤ d.toNat := by
  unfold Text.isDecimal Text.digitValue? at h
  split at h
  · next hd =>
    simp only [Char.isDigit, Bool.and_eq_true, decide_eq_true_eq] at hd
    exact .inl ⟨UInt32.le_iff_toNat_le.1 hd.1, UInt32.le_iff_toNat_le.1 hd.2⟩
  · rw [Option.isSome_map] at h
    obtain ⟨z, hz⟩ := Option.isSome_iff_exists.1 h
    have hrange := List.find?_some hz
    simp only [Bool.and_eq_true, decide_eq_true_eq] at hrange
    rcases zero_bounds z (List.mem_of_find?_eq_some hz) with rfl | hlate
    · exact .inl ⟨hrange.1, by omega⟩
    · exact .inr (by omega)

theorem toLower_of_not_capital (h : ¬ (65 ≤ d.toNat ∧ d.toNat ≤ 90)) : d.toLower = d := by
  refine dif_neg fun hd => h ?_
  have hlow := UInt32.le_iff_toNat_le.1 hd.1
  have hhigh := UInt32.le_iff_toNat_le.1 hd.2
  exact ⟨hlow, hhigh⟩

theorem letter_bounds (h : d ∈ "diouxefgcrsa%".toList) :
    d.toNat = 37 ∨ 65 ≤ d.toNat ∧ d.toNat < 1632 := by
  have hall : "diouxefgcrsa%".toList.all (fun d => d.toNat = 37 ∨ 65 ≤ d.toNat ∧ d.toNat < 1632) = true := by
    decide
  exact of_decide_eq_true (List.all_eq_true.1 hall d h)

/-- A conversion is a percent sign or a letter before the digits of other scripts. -/
theorem conversion_bounds (h : isConversion d = true) :
    d.toNat = 37 ∨ 65 ≤ d.toNat ∧ d.toNat < 1632 := by
  unfold isConversion at h
  simp only [Bool.or_eq_true, decide_eq_true_eq, List.contains_iff_mem] at h
  rcases h with ((h | rfl) | rfl) | rfl
  · by_cases hcapital : 65 ≤ d.toNat ∧ d.toNat ≤ 90
    · exact .inr ⟨hcapital.1, by omega⟩
    · rw [toLower_of_not_capital hcapital] at h
      exact letter_bounds h
  · exact .inr (by decide)
  · exact .inr (by decide)
  · exact .inr (by decide)

/-- A character that ends a run of flags and a count: it is neither of these. -/
structure Stops (c : Code) : Prop where
  no_flag : Template.isFlag c = false
  no_digit : c.is Text.isDecimal = false
  no_star : c ≠ .char '*'

theorem stops_point : Stops (.char '.') := ⟨by decide, by decide, by decide⟩

theorem stops_of_conversion (h : c.is isConversion = true) : Stops c ∧ c ≠ .char '.' := by
  obtain ⟨d⟩ | _ := c
  · have hbounds := conversion_bounds h
    -- none of the flags, the star and the point has the number of a conversion
    have hne : ∀ x : Char, x.toNat ≠ 37 → x.toNat < 65 → Code.char d ≠ .char x := by
      rintro x h37 h65 ⟨⟩
      omega
    refine ⟨⟨?_, ?_, hne _ (by decide) (by decide)⟩, hne _ (by decide) (by decide)⟩
    · simp only [Template.isFlag, Bool.or_eq_false_iff, beq_eq_false_iff_ne]
      exact ⟨⟨⟨⟨hne _ (by decide) (by decide), hne _ (by decide) (by decide)⟩,
        hne _ (by decide) (by decide)⟩, hne _ (by decide) (by decide)⟩, hne _ (by decide) (by decide)⟩
    · refine Bool.eq_false_iff.2 fun hd => ?_
      have := digit_bounds hd
      omega
  · cases h

/-! ## Counts -/

theorem dropCount_of_stops (h : Stops c) : dropCount (c :: rest) = c :: rest := by
  unfold dropCount
  split
  · next heq => exact absurd (List.cons.inj heq).1 h.no_star
  · exact List.dropWhile_cons_of_neg (by simp [h.no_digit])

theorem dropCount_digits (hs : ∀ x ∈ s, x.is Text.isDecimal = true) (h : Stops c) :
    dropCount (s ++ c :: rest) = c :: rest := by
  unfold dropCount
  split
  · next heq =>
    -- a star is no digit, and no stop either
    cases s with
    | nil => exact absurd (List.cons.inj heq).1 h.no_star
    | cons x s =>
      cases (List.cons.inj heq).1
      exact absurd (hs _ List.mem_cons_self) (by decide)
  · rw [List.dropWhile_append_of_pos hs, List.dropWhile_cons_of_neg (by simp [h.no_digit])]

theorem dropCount_append (hcount : Count count) (h : Stops c) :
    dropCount (count ++ c :: rest) = c :: rest := by
  cases hcount with
  | star => rfl
  | digits _ hs => exact dropCount_digits hs h

theorem exists_dropCount (s : Text) : ∃ width, s = width ++ dropCount s ∧ Width width := by
  unfold dropCount
  split
  · next rest => exact ⟨[.char '*'], rfl, .inr .star⟩
  · refine ⟨s.takeWhile (Code.is Text.isDecimal), List.takeWhile_append_dropWhile.symm, ?_⟩
    by_cases hnil : s.takeWhile (Code.is Text.isDecimal) = []
    · exact .inl hnil
    · exact .inr (.digits hnil fun c hc => List.mem_takeWhile_imp hc)

/-- What is left after flags and a width. A width that starts with zeros loses them to the flags, which does
not matter for what is left. -/
theorem dropCount_dropWhile_append (hflags : ∀ x ∈ flags, Template.isFlag x = true) (hwidth : Width width)
    (h : Stops c) : dropCount ((flags ++ (width ++ c :: rest)).dropWhile Template.isFlag) = c :: rest := by
  rw [List.dropWhile_append_of_pos hflags]
  rcases hwidth with rfl | hstar | ⟨-, hs⟩
  · rw [List.nil_append, List.dropWhile_cons_of_neg (by simp [h.no_flag])]
    exact dropCount_of_stops h
  · rfl
  · rw [List.dropWhile_append]
    split
    · rw [List.dropWhile_cons_of_neg (by simp [h.no_flag])]
      exact dropCount_of_stops h
    · exact dropCount_digits (fun x hx => hs x ((List.dropWhile_sublist _).subset hx)) h

/-! ## Places -/

/-- A text without the places at its start. -/
def dropPlaces (s : Text) : Text :=
  match s with
  | .char '.' :: rest =>
    let after := dropCount rest
    if after.length < rest.length then after else s
  | s => s

theorem dropPlaces_append (hplaces : Places places) (h : Stops c) (hpoint : c ≠ .char '.') :
    dropPlaces (places ++ c :: rest) = c :: rest := by
  rcases hplaces with rfl | ⟨count, rfl, hcount⟩
  · unfold dropPlaces
    split
    · next heq => exact absurd (List.cons.inj heq).1 hpoint
    · rfl
  · have hlength : (c :: rest).length < (count ++ c :: rest).length := by
      rw [List.length_append]
      have : 0 < count.length := by
        cases hcount with
        | star => exact Nat.one_pos
        | digits hne _ => exact List.length_pos_iff.2 hne
      omega
    unfold dropPlaces
    simp only [List.cons_append, dropCount_append hcount h, if_pos hlength]

theorem exists_dropPlaces (s : Text) : ∃ places, s = places ++ dropPlaces s ∧ Places places := by
  unfold dropPlaces
  split
  · next rest =>
    obtain ⟨width, hrest, hwidth⟩ := exists_dropCount rest
    simp only
    split
    · next hless =>
      refine ⟨.char '.' :: width, by rw [List.cons_append, ← hrest], ?_⟩
      rcases hwidth with rfl | hcount
      · -- without a count nothing was left out
        rw [List.nil_append] at hrest
        rw [← hrest] at hless
        exact absurd hless (Nat.lt_irrefl _)
      · exact .inr ⟨width, rfl, hcount⟩
    · exact ⟨[], rfl, .inl rfl⟩
  · exact ⟨[], rfl, .inl rfl⟩

/-! ## Fields -/

/-- Whether a text starts with what follows a name in brackets: flags, a width, places and a conversion. -/
def startsWithConversion (s : Text) : Bool :=
  match dropPlaces (dropCount (s.dropWhile Template.isFlag)) with
  | c :: _ => c.is isConversion
  | [] => false

theorem startsWithConversion_iff :
    startsWithConversion s = true ↔ ∃ flags width places conversion after,
      s = flags ++ (width ++ (places ++ conversion :: after)) ∧ (∀ c ∈ flags, Template.isFlag c = true) ∧
        Width width ∧ Places places ∧ conversion.is isConversion = true := by
  constructor
  · intro h
    unfold startsWithConversion at h
    obtain ⟨width, hs, hwidth⟩ := exists_dropCount (s.dropWhile Template.isFlag)
    obtain ⟨places, hrest, hplaces⟩ := exists_dropPlaces (dropCount (s.dropWhile Template.isFlag))
    split at h
    · next c after heq =>
      rw [heq] at hrest
      refine ⟨s.takeWhile Template.isFlag, width, places, c, after, ?_,
        fun c hc => List.mem_takeWhile_imp hc, hwidth, hplaces, h⟩
      rw [← hrest, ← hs, List.takeWhile_append_dropWhile]
    · cases h
  · rintro ⟨flags, width, places, c, after, rfl, hflags, hwidth, hplaces, hc⟩
    obtain ⟨hstops, hpoint⟩ := stops_of_conversion hc
    -- the places start with a point, which ends the width just as a conversion does
    have hdrop : dropCount ((flags ++ (width ++ (places ++ c :: after))).dropWhile Template.isFlag) =
        places ++ c :: after := by
      rcases hplaces with rfl | ⟨count, rfl, -⟩
      · exact dropCount_dropWhile_append hflags hwidth hstops
      · exact dropCount_dropWhile_append hflags hwidth stops_point
    unfold startsWithConversion
    rw [hdrop, dropPlaces_append hplaces hstops hpoint]
    exact hc

theorem startsWithField_of_name (hne : name ≠ []) (hname : ∀ c ∈ name, c.is Text.isWordChar = true) :
    startsWithField (.char '%' :: .char '(' :: (name ++ .char ')' :: rest)) = startsWithConversion rest := by
  obtain ⟨first, more, rfl⟩ := List.exists_cons_of_ne_nil hne
  have hbracket : (Code.char ')').is Text.isWordChar = false := by decide
  have htake : (first :: more ++ .char ')' :: rest).takeWhile (Code.is Text.isWordChar) = first :: more := by
    rw [List.takeWhile_append_of_pos hname, List.takeWhile_cons_of_neg (by simp [hbracket]), List.append_nil]
  have hdrop : (first :: more ++ .char ')' :: rest).dropWhile (Code.is Text.isWordChar) =
      .char ')' :: rest := by
    rw [List.dropWhile_append_of_pos hname, List.dropWhile_cons_of_neg (by simp [hbracket])]
  unfold startsWithField
  simp only [htake, hdrop]
  rfl

/-- A text that is read as a field has a name in brackets first. -/
theorem exists_name_of_startsWithField (h : startsWithField s = true) :
    ∃ name rest, s = .char '%' :: .char '(' :: (name ++ .char ')' :: rest) ∧ name ≠ [] ∧
      ∀ c ∈ name, c.is Text.isWordChar = true := by
  unfold startsWithField at h
  split at h
  · next s =>
    split at h
    · next first more rest htake hdrop =>
      refine ⟨first :: more, rest, ?_, List.cons_ne_nil _ _, ?_⟩
      · rw [← htake, ← hdrop, List.takeWhile_append_dropWhile]
      · rw [← htake]
        exact fun c hc => List.mem_takeWhile_imp hc
    · cases h
  · cases h

theorem startsWithField_iff :
    startsWithField s = true ↔ ∃ field after, s = field ++ after ∧ NamedField field := by
  constructor
  · intro h
    obtain ⟨name, rest, rfl, hne, hname⟩ := exists_name_of_startsWithField h
    rw [startsWithField_of_name hne hname] at h
    obtain ⟨flags, width, places, c, after, rfl, hflags, hwidth, hplaces, hc⟩ := startsWithConversion_iff.1 h
    exact ⟨_, after, by simp, .mk hne hname hflags hwidth hplaces hc⟩
  · rintro ⟨_, after, rfl, @⟨name, flags, width, places, c, hne, hname, hflags, hwidth, hplaces, hc⟩⟩
    have hconversion : startsWithConversion (flags ++ (width ++ (places ++ c :: after))) = true :=
      startsWithConversion_iff.2 ⟨flags, width, places, c, after, rfl, hflags, hwidth, hplaces, hc⟩
    rw [← startsWithField_of_name hne hname] at hconversion
    simpa using hconversion

/-- **A text is a template of lines exactly if there is a named field in it.** -/
theorem isTemplate_iff : isTemplate s = true ↔ HasField s := by
  induction s with
  | nil =>
    refine iff_of_false Bool.false_ne_true ?_
    rintro ⟨before, _, after, hs, ⟨hne, hname, hflags, hwidth, hplaces, hc⟩⟩
    cases before <;> cases hs
  | cons c s ih =>
    rw [isTemplate, Bool.or_eq_true, startsWithField_iff, ih]
    constructor
    · rintro (⟨field, after, hs, hfield⟩ | ⟨before, field, after, rfl, hfield⟩)
      · exact ⟨[], field, after, hs, hfield⟩
      · exact ⟨c :: before, field, after, rfl, hfield⟩
    · rintro ⟨_ | ⟨x, before⟩, field, after, hs, hfield⟩
      · exact .inl ⟨field, after, hs, hfield⟩
      · obtain ⟨rfl, rfl⟩ := List.cons.inj hs
        exact .inr ⟨before, field, after, rfl, hfield⟩

end ExtensionProbe.Log.Layout
