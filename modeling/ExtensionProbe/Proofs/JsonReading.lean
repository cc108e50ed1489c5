import ExtensionProbe.Proofs.JsonText
import ExtensionProbe.Proofs.Words

/-!
# Rules for reading JSON

The reader carries with each value a proof that the text has become shorter, so its equations are awkward to
rewrite with. Here each of its successes is a rule about texts alone: what a text starts with, what is read of
it, and what is left.

* `number_toDigits`: the digits of a number, before a text that does not go on with it, are read as it.
* `Reads`, `ReadsElements`, `ReadsMembers`: what is read of a text, with one rule a form of values.
* `Reads.starts`: what starts a value.
-/

namespace ExtensionProbe.Json

open Text

variable {depth n : Nat} {c : Char} {s rest after next : List Char} {d : Data} {ds : List Data}
  {es read : List (Data × Data)} {us : List Nat}

/-! ## Numbers -/

/-- A text that does not go on with a number that stands before it. -/
def EndsNumber (rest : List Char) : Prop :=
  ∀ c ∈ rest.head?, c.isDigit = false ∧ c ≠ '.' ∧ c ≠ 'e' ∧ c ≠ 'E'

theorem toDigits_head_ne_zero {ds : List Char} (h : Nat.toDigits 10 n = c :: ds) (hn : n ≠ 0) :
    c ≠ '0' := by
  rintro rfl
  have hdigits : ∀ d ∈ ds, d.isDigit = true := fun d hd =>
    Nat.isDigit_of_mem_toDigits (by decide) (by decide) (h ▸ List.mem_cons_of_mem _ hd)
  -- the zero adds nothing, so the number stays below the power of the digits after it
  have hvalue : Nat.ofDigitChars 10 ds 0 = n := by
    have := Nat.ofDigitChars_ten_toDigits (n := n)
    rwa [h, Nat.ofDigitChars_cons] at this
  have hlt := Decimal.ofDigitChars_lt hdigits
  rw [hvalue] at hlt
  cases ds with
  | nil => exact hn hvalue.symm
  | cons d more =>
    have hlen := (Nat.length_toDigits_le_iff (b := 10) (n := n) (by decide)
      (Nat.succ_pos more.length)).2 hlt
    rw [h] at hlen
    simp only [List.length_cons] at hlen
    omega

theorem span_append {ds : List Char} (hd : ∀ d ∈ ds, d.isDigit = true) (h : EndsNumber rest) :
    Decimal.span (ds ++ rest) = (ds, rest) := by
  unfold Decimal.span
  have hstop : rest.takeWhile Char.isDigit = [] ∧ rest.dropWhile Char.isDigit = rest := by
    cases rest with
    | nil => exact ⟨rfl, rfl⟩
    | cons c more =>
      have := (h c rfl).1
      simp [this]
  rw [List.takeWhile_append_of_pos hd, List.dropWhile_append_of_pos hd, hstop.1, hstop.2,
    List.append_nil]

theorem whole_toDigits (h : EndsNumber rest) :
    whole (Nat.toDigits 10 n ++ rest) = (Nat.toDigits 10 n, rest) := by
  have hdigits : ∀ d ∈ Nat.toDigits 10 n, d.isDigit = true := fun d hd =>
    Nat.isDigit_of_mem_toDigits (by decide) (by decide) hd
  by_cases hn : n = 0
  · subst hn
    rfl
  · rw [← span_append hdigits h]
    unfold whole
    split
    · next after hzero =>
      cases hds : Nat.toDigits 10 n with
      | nil => exact absurd hds Nat.toDigits_ne_nil
      | cons d more =>
        rw [hds, List.cons_append] at hzero
        exact absurd (List.cons.inj hzero).1 (toDigits_head_ne_zero hds hn)
    · rfl

theorem number_toDigits (negative : Bool) (hn : Decimal.Writable n) (h : EndsNumber rest) :
    number negative (Nat.toDigits 10 n ++ rest) =
      .ok (.int (if negative then -(n : Int) else n), rest) := by
  have hread : Decimal.read (Nat.toDigits 10 n) = .ok n :=
    Decimal.read_eq_ok_iff.2 ⟨hn, Nat.ofDigitChars_ten_toDigits.symm⟩
  have hne : (Nat.toDigits 10 n).isEmpty = false :=
    List.isEmpty_eq_false_iff.2 Nat.toDigits_ne_nil
  have hfraction : fraction rest = ([], rest) := by
    unfold fraction
    split
    · next after => exact absurd rfl (h '.' rfl).2.1
    · rfl
  have hexponent : exponent rest = (none, rest) := by
    unfold exponent
    split
    · next c after =>
      obtain ⟨-, -, he, hE⟩ := h c rfl
      rw [if_neg (by simp [he, hE])]
    · rfl
  unfold number
  simp only [whole_toDigits h, hfraction, hexponent, hne, hread]
  rfl

theorem endsNumber_cons {c : Char} (h : c.isDigit = false ∧ c ≠ '.' ∧ c ≠ 'e' ∧ c ≠ 'E') :
    EndsNumber (c :: rest) := by
  rintro d ⟨⟩
  exact h

/-- A digit starts no name, nor does a minus sign but before an infinity. -/
theorem not_named (h : c = '-' ∧ (∀ d ∈ s.head?, d ≠ 'I') ∨ c.isDigit = true) :
    named? (c :: s) = none := by
  unfold named?
  refine List.findSome?_eq_none_iff.2 fun entry hentry => if_neg ?_
  intro hp
  obtain ⟨tail, ht⟩ := List.isPrefixOf_iff_prefix.1 hp
  simp only [names, List.mem_cons, List.not_mem_nil, or_false] at hentry
  rcases h with ⟨rfl, hI⟩ | hd
  · rcases hentry with rfl | rfl | rfl | rfl | rfl | rfl
    case inr.inr.inr.inr.inr =>
      have htail := (List.cons.inj ht).2
      exact hI 'I' (by rw [← htail]; rfl) rfl
    all_goals exact absurd (List.cons.inj ht).1 (by decide)
  · have hc := fun c' more (h' : entry.1 = c' :: more) =>
      (List.cons.inj ((congrArg (· ++ tail) h').symm.trans ht)).1
    rcases hentry with rfl | rfl | rfl | rfl | rfl | rfl
    all_goals
      rw [← hc _ _ rfl] at hd
      exact absurd hd (by decide)

theorem exists_toDigits_cons (n : Nat) : ∃ d ds, Nat.toDigits 10 n = d :: ds ∧ d.isDigit = true := by
  cases hds : Nat.toDigits 10 n with
  | nil => exact absurd hds Nat.toDigits_ne_nil
  | cons d ds =>
    have hd : d ∈ Nat.toDigits 10 n := hds ▸ List.mem_cons_self
    exact ⟨d, ds, rfl, Nat.isDigit_of_mem_toDigits (by decide) (by decide) hd⟩

theorem atom_natural (hn : Decimal.Writable n) (hrest : EndsNumber rest) :
    atom (Nat.toDigits 10 n ++ rest) = .ok (.int n, rest) := by
  obtain ⟨d, ds, hds, hd⟩ := exists_toDigits_cons n
  have hnumber := number_toDigits false hn hrest
  rw [hds] at hnumber ⊢
  unfold atom
  rw [List.cons_append, not_named (.inr hd)]
  simp only
  split
  · next after hminus =>
    rw [(List.cons.inj hminus).1] at hd
    cases hd
  · exact hnumber

theorem atom_negative (hn : Decimal.Writable n) (hrest : EndsNumber rest) :
    atom ('-' :: (Nat.toDigits 10 n ++ rest)) = .ok (.int (-(n : Int)), rest) := by
  obtain ⟨d, ds, hds, hd⟩ := exists_toDigits_cons n
  have hhead : ∀ c ∈ (Nat.toDigits 10 n ++ rest).head?, c ≠ 'I' := by
    rw [hds]
    rintro c ⟨⟩ rfl
    cases hd
  unfold atom
  rw [not_named (.inl ⟨rfl, hhead⟩)]
  exact number_toDigits true hn hrest

/-- A whole number is read as it, whatever follows that does not go on with it. -/
theorem atom_int {z : Int} {t : String} (h : Decimal.writeInt z = .ok t) (hrest : EndsNumber rest) :
    atom (t.toList ++ rest) = .ok (.int z, rest) ∧
      ∀ c ∈ (t.toList ++ rest).head?, c.isDigit = true ∨ c = '-' := by
  cases z with
  | ofNat n =>
    obtain ⟨hn, rfl⟩ := Decimal.write_eq_ok_iff.1 h
    rw [String.toList_ofList]
    refine ⟨atom_natural hn hrest, ?_⟩
    obtain ⟨d, ds, hds, hd⟩ := exists_toDigits_cons n
    rw [hds]
    rintro c ⟨⟩
    exact .inl hd
  | negSucc n =>
    obtain ⟨u, hu, rfl⟩ := exists_of_map_eq_ok h
    obtain ⟨hn, rfl⟩ := Decimal.write_eq_ok_iff.1 hu
    have hlist : ("-" ++ String.ofList (Nat.toDigits 10 (n + 1))).toList ++ rest =
        '-' :: (Nat.toDigits 10 (n + 1) ++ rest) := by simp
    rw [hlist]
    refine ⟨atom_negative hn hrest, ?_⟩
    rintro c ⟨⟩
    exact .inr rfl

/-! ## Rules of the reader -/

/-- A value is read at the start of a text, with so many levels of nesting left. -/
def Reads (depth : Nat) (s : List Char) (d : Data) (rest : List Char) : Prop :=
  ∃ h, value depth s = .ok ⟨d, rest, h⟩

/-- The elements of an array are read, up to its closing bracket. -/
def ReadsElements (depth : Nat) (s : List Char) (ds : List Data) (rest : List Char) : Prop :=
  ∃ h, elements depth s = .ok ⟨ds, rest, h⟩

/-- The members of an object are read onto those before, up to its closing brace. -/
def ReadsMembers (depth : Nat) (read : List (Data × Data)) (s : List Char)
    (es : List (Data × Data)) (rest : List Char) : Prop :=
  ∃ h, members depth read s = .ok ⟨es, rest, h⟩

theorem readText_eq (h : textUnits [] s = some (us, rest)) :
    readText s = .ok ⟨.text (ofUnits us), rest, textUnits_shorter h⟩ := by
  unfold readText
  split
  · next us' rest' h' => cases h.symm.trans h'; rfl
  · next h' => cases h.symm.trans h'

theorem Reads.text (h : textUnits [] s = some (us, rest)) :
    Reads depth ('"' :: s) (.text (ofUnits us)) rest := by
  refine ⟨?_, ?_⟩
  · have hlt := textUnits_shorter h
    rw [List.length_cons]
    omega
  · rw [value, readText_eq h]

theorem Reads.emptyList (h : skip s = ']' :: rest) : Reads (depth + 1) ('[' :: s) (.list []) rest := by
  refine ⟨?_, ?_⟩
  · have hs := length_skip_le s
    rw [h] at hs
    simp only [List.length_cons] at hs ⊢
    omega
  · rw [value, if_neg (Nat.succ_ne_zero depth)]
    split
    · next after h' => cases h.symm.trans h'; rfl
    · next h' => exact absurd h (h' _)

theorem Reads.list (h : ∀ after, skip s ≠ ']' :: after) (he : ReadsElements depth (skip s) ds rest) :
    Reads (depth + 1) ('[' :: s) (.list ds) rest := by
  obtain ⟨hlt, he⟩ := he
  refine ⟨?_, ?_⟩
  · have hs := length_skip_le s
    rw [List.length_cons]
    omega
  · rw [value, if_neg (Nat.succ_ne_zero depth)]
    split
    · next after h' => exact absurd h' (h _)
    · simp only [Nat.add_sub_cancel, he]

theorem ReadsElements.last (hd : Reads depth s d after) (h : skip after = ']' :: rest) :
    ReadsElements depth s [d] rest := by
  obtain ⟨hlt, hd⟩ := hd
  refine ⟨?_, ?_⟩
  · have hafter := length_skip_le after
    rw [h, List.length_cons] at hafter
    omega
  · rw [elements, hd]
    simp only
    split
    · next a h' => cases h.symm.trans h'; rfl
    · next a h' => cases h.symm.trans h'
    · next h1 h2 => exact absurd h (h1 _)

theorem ReadsElements.more (hd : Reads depth s d after) (h : skip after = ',' :: next)
    (hds : ReadsElements depth (skip next) ds rest) : ReadsElements depth s (d :: ds) rest := by
  obtain ⟨hlt, hd⟩ := hd
  obtain ⟨hlt', hds⟩ := hds
  refine ⟨?_, ?_⟩
  · have hafter := length_skip_le after
    have hnext := length_skip_le next
    simp only [h, List.length_cons] at *
    omega
  · rw [elements, hd]
    simp only
    split
    · next a h' => cases h.symm.trans h'
    · next a h' => cases h.symm.trans h'; simp only [hds]
    · next h1 h2 => exact absurd h (h2 _)

theorem Reads.emptyMap (h : skip s = '}' :: rest) : Reads (depth + 1) ('{' :: s) (.map []) rest := by
  refine ⟨?_, ?_⟩
  · have hs := length_skip_le s
    rw [h] at hs
    simp only [List.length_cons] at hs ⊢
    omega
  · rw [value, if_neg (Nat.succ_ne_zero depth)]
    split
    · next after h' => cases h.symm.trans h'; rfl
    · next h' => exact absurd h (h' _)

theorem Reads.map (h : ∀ after, skip s ≠ '}' :: after)
    (he : ReadsMembers depth [] (skip s) es rest) : Reads (depth + 1) ('{' :: s) (.map es) rest := by
  obtain ⟨hlt, he⟩ := he
  refine ⟨?_, ?_⟩
  · have hs := length_skip_le s
    rw [List.length_cons]
    omega
  · rw [value, if_neg (Nat.succ_ne_zero depth)]
    split
    · next after h' => exact absurd h' (h _)
    · simp only [Nat.add_sub_cancel, he]

theorem ReadsMembers.last {colon : List Char} (hkey : textUnits [] s = some (us, after))
    (hcolon : skip after = ':' :: colon) (hd : Reads depth (skip colon) d next)
    (h : skip next = '}' :: rest) :
    ReadsMembers depth read ('"' :: s) (Data.put read (.text (ofUnits us)) d) rest := by
  obtain ⟨hlt, hd⟩ := hd
  refine ⟨?_, ?_⟩
  · have hkeyLt := textUnits_shorter hkey
    have hafter := length_skip_le after
    have hcolonLe := length_skip_le colon
    have hnext := length_skip_le next
    simp only [hcolon, h, List.length_cons] at *
    omega
  · rw [members, readText_eq hkey]
    simp only
    split
    · next a h' =>
      cases hcolon.symm.trans h'
      rw [hd]
      simp only
      split
      · next b hb => cases h.symm.trans hb; rfl
      · next b hb => cases h.symm.trans hb
      · next h1 h2 => exact absurd h (h1 _)
    · next h1 => exact absurd hcolon (h1 _)

theorem ReadsMembers.more {colon last : List Char} (hkey : textUnits [] s = some (us, after))
    (hcolon : skip after = ':' :: colon) (hd : Reads depth (skip colon) d next)
    (h : skip next = ',' :: last)
    (hes : ReadsMembers depth (Data.put read (.text (ofUnits us)) d) (skip last) es rest) :
    ReadsMembers depth read ('"' :: s) es rest := by
  obtain ⟨hlt, hd⟩ := hd
  obtain ⟨hlt', hes⟩ := hes
  refine ⟨?_, ?_⟩
  · have hkeyLt := textUnits_shorter hkey
    have hafter := length_skip_le after
    have hcolonLe := length_skip_le colon
    have hnext := length_skip_le next
    have hlast := length_skip_le last
    simp only [hcolon, h, List.length_cons] at *
    omega
  · rw [members, readText_eq hkey]
    simp only
    split
    · next a h' =>
      cases hcolon.symm.trans h'
      rw [hd]
      simp only
      split
      · next b hb => cases h.symm.trans hb
      · next b hb => cases h.symm.trans hb; simp only [hes]
      · next h1 h2 => exact absurd h (h2 _)
    · next h1 => exact absurd hcolon (h1 _)

theorem Reads.plain (hs : ∀ c ∈ s.head?, c ≠ '"' ∧ c ≠ '[' ∧ c ≠ '{')
    (h : atom s = .ok (d, rest)) :
    Reads depth s d rest := by
  refine ⟨atom_shorter h, ?_⟩
  unfold value
  split
  · exact absurd rfl (hs _ rfl).1
  · exact absurd rfl (hs _ rfl).2.1
  · exact absurd rfl (hs _ rfl).2.2
  · split
    · next h' => cases h.symm.trans h'
    · next h' => cases h.symm.trans h'; rfl

/-- What starts a value: no blank, and no bracket that closes one. -/
def Starts (s : List Char) : Prop :=
  ∃ c more, s = c :: more ∧ isBlank c = false ∧ c ≠ ']' ∧ c ≠ '}'

theorem ReadsMembers.quote (h : ReadsMembers depth read s es rest) :
    ∃ more, s = '"' :: more := by
  obtain ⟨hlt, h⟩ := h
  unfold members at h
  split at h
  · exact ⟨_, rfl⟩
  · cases h

/-- A value starts with no blank and with no bracket that closes one. -/
theorem Reads.starts (h : Reads depth s d rest) : Starts s := by
  obtain ⟨hlt, h⟩ := h
  have bare : ∀ s' d' rest', atom s' = .ok (d', rest') → Starts s' := by
    intro s' d' rest' h
    cases s' with
    | nil => simp [atom, named?, names, number, whole, Decimal.span] at h
    | cons c more =>
      by_cases hc : c ∈ [' ', '\t', '\n', '\r', ']', '}']
      · simp only [List.mem_cons, List.not_mem_nil, or_false] at hc
        rcases hc with rfl | rfl | rfl | rfl | rfl | rfl <;>
          simp [atom, named?, names, number, whole, Decimal.span] at h
      · refine ⟨c, more, rfl, ?_⟩
        simp only [List.mem_cons, List.not_mem_nil, or_false, not_or] at hc
        simp [isBlank, hc]
  unfold value at h
  split at h
  · exact ⟨_, _, rfl, by decide⟩
  · exact ⟨_, _, rfl, by decide⟩
  · exact ⟨_, _, rfl, by decide⟩
  · split at h
    · cases h
    · next h' => exact bare _ _ _ h'

theorem skip_of_starts (h : Starts s) : skip s = s := by
  obtain ⟨c, more, rfl, hc, -⟩ := h
  simp [skip, hc]

/-- A document is a value with blanks around it. -/
theorem read_of_reads (h : Reads depth (skip s) d rest) (hrest : skip rest = []) :
    Json.read depth s = .ok d := by
  obtain ⟨hlt, hvalue⟩ := h
  unfold Json.read
  rw [hvalue]
  simp only [hrest]
  rfl

end ExtensionProbe.Json
