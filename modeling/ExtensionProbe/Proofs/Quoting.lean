import ExtensionProbe.Proofs.JsonText
import ExtensionProbe.Text.Quoted

/-!
# Reading quoted texts

What stands between quotes is read one code point at a time, whichever of its escapes is used. So no escape is
the start of another one, and a quoted text stands for one text alone. A line feed is always escaped.

* `unescape?_escape`: one code point, up to what follows it.
* `escape_append_inj`: the first code points of equal texts between quotes are equal.
* `quote_inj`: **different texts are quoted differently.**
* `newline_not_mem_quote`: a quoted text is on one line.
-/

namespace ExtensionProbe.Text

variable {q : Char} {c d : Code} {s t : Text} {cs ds : List Char}

theorem quoteFor_cases (s : Text) : quoteFor s = '\'' ∨ quoteFor s = '"' := by
  unfold quoteFor
  split
  · exact .inr rfl
  · exact .inl rfl

/-! ## One code point -/

/-- The code point that digits at the start of a text name, and the rest. -/
def named? (count : Nat) (s : List Char) : Option (Code × List Char) :=
  (Hex.number? (s.take count)).map fun n => (Code.ofNat n, s.drop count)

/-- The first code point of what stands between quotes, and the rest. -/
def unescape? : List Char → Option (Code × List Char)
  | '\\' :: 'n' :: rest => some (.char '\n', rest)
  | '\\' :: 'r' :: rest => some (.char '\r', rest)
  | '\\' :: 't' :: rest => some (.char '\t', rest)
  | '\\' :: 'x' :: rest => named? 2 rest
  | '\\' :: 'u' :: rest => named? 4 rest
  | '\\' :: 'U' :: rest => named? 8 rest
  | '\\' :: c :: rest => some (.char c, rest)
  | c :: rest => some (.char c, rest)
  | [] => none

theorem named?_fixed {count : Nat} (h : c.value < 16 ^ count) (rest : List Char) :
    named? count (Hex.fixed count c.value ++ rest) = some (c, rest) := by
  have hlength : (Hex.fixed count c.value).length = count := Hex.length_fixed count c.value
  rw [named?, List.take_left' hlength, List.drop_left' hlength, Hex.number?_fixed h, Option.map_some, ofNat_value]

/-- A character that is no backslash stands for itself. -/
theorem unescape?_letter {c : Char} (h : c ≠ '\\') (rest : List Char) :
    unescape? (c :: rest) = some (.char c, rest) := by
  unfold unescape?
  split <;> simp_all

/-- A code point is read up to what follows it, whichever of its escapes is used. -/
theorem unescape?_escape (hq : q = '\'' ∨ q = '"') (c : Code) (rest : List Char) :
    unescape? (escape q c ++ rest) = some (c, rest) := by
  have hvalue : c.value < 0x110000 := value_lt c
  cases c with
  | half place =>
    have hdigits : (Code.half place).value < 16 ^ 4 := by
      simp only [Code.value, Code.firstHalf]
      omega
    exact named?_fixed hdigits rest
  | char c =>
    simp only [escape, escapeChar, Bool.or_eq_true, beq_iff_eq]
    split_ifs with hself hn hr ht hprint hbyte hunit
    · rcases hself with rfl | rfl
      · rcases hq with rfl | rfl <;> rfl
      · rfl
    · subst hn
      rfl
    · subst hr
      rfl
    · subst ht
      rfl
    · exact unescape?_letter (fun h => hself (.inr h)) rest
    · have hdigits : (Code.char c).value < 16 ^ 2 := hbyte
      exact named?_fixed hdigits rest
    · have hdigits : (Code.char c).value < 16 ^ 4 := hunit
      exact named?_fixed hdigits rest
    · have hdigits : (Code.char c).value < 16 ^ 8 := by omega
      exact named?_fixed hdigits rest

/-- No escape is the start of another one. -/
theorem escape_append_inj (hq : q = '\'' ∨ q = '"') (h : escape q c ++ cs = escape q d ++ ds) :
    c = d ∧ cs = ds := by
  have hread := congrArg unescape? h
  rw [unescape?_escape hq, unescape?_escape hq] at hread
  exact Prod.mk.inj (Option.some.inj hread)

theorem escape_ne_nil (hq : q = '\'' ∨ q = '"') (c : Code) : escape q c ≠ [] := by
  intro h
  have hread := unescape?_escape hq c []
  rw [h] at hread
  cases hread

/-! ## Whole texts -/

theorem flatMap_escape_inj (hq : q = '\'' ∨ q = '"') :
    s.flatMap (escape q) = t.flatMap (escape q) ↔ s = t := by
  refine ⟨fun h => ?_, congrArg (List.flatMap (escape q))⟩
  induction s generalizing t with
  | nil =>
    cases t with
    | nil => rfl
    | cons d more => exact absurd (List.append_eq_nil_iff.1 h.symm).1 (escape_ne_nil hq d)
  | cons c rest ih =>
    cases t with
    | nil => exact absurd (List.append_eq_nil_iff.1 h).1 (escape_ne_nil hq c)
    | cons d more =>
      obtain ⟨rfl, hrest⟩ := escape_append_inj hq h
      rw [ih hrest]

/-- **Different texts are quoted differently**, halves of pairs and the choice of the quote included. -/
theorem quote_inj : quote s = quote t ↔ s = t := by
  refine ⟨fun h => ?_, congrArg quote⟩
  have hchars := congrArg String.toList h
  rw [quote_eq, quote_eq, List.cons_append, List.cons_append, List.cons.injEq] at hchars
  obtain ⟨hquote, hrest⟩ := hchars
  rw [hquote] at hrest
  exact (flatMap_escape_inj (quoteFor_cases t)).1 (List.append_cancel_right hrest)

theorem newline_not_mem_fixed (count n : Nat) : '\n' ∉ Hex.fixed count n := fun h =>
  absurd (List.all_eq_true.1 (Json.fixed_plain count n) _ h) (by decide)

theorem newline_not_mem_escape (hq : q = '\'' ∨ q = '"') (c : Code) : '\n' ∉ escape q c := by
  have hdigits : ∀ (mark : Char) (count n : Nat), '\n' ≠ mark → '\n' ∉ '\\' :: mark :: Hex.fixed count n := by
    intro mark count n hmark h
    simp only [List.mem_cons, hmark, newline_not_mem_fixed, or_self, or_false] at h
    cases h
  cases c with
  | half place => exact hdigits 'u' 4 _ (by decide)
  | char c =>
    simp only [escape, escapeChar, Bool.or_eq_true, beq_iff_eq]
    split_ifs with hself hn hr ht hprint hbyte hunit
    · rcases hself with rfl | rfl
      · rcases hq with rfl | rfl <;> decide
      · decide
    · decide
    · decide
    · decide
    · exact fun h => hn (List.mem_singleton.1 h).symm
    · exact hdigits 'x' 2 _ (by decide)
    · exact hdigits 'u' 4 _ (by decide)
    · exact hdigits 'U' 8 _ (by decide)

/-- A line feed is always escaped, so a quoted text is on one line. -/
theorem newline_not_mem_quote (s : Text) : '\n' ∉ (quote s).toList := by
  have hquote : '\n' ≠ quoteFor s := by
    rcases quoteFor_cases s with h | h <;> rw [h] <;> decide
  rw [quote_eq]
  simp only [List.cons_append, List.mem_cons, List.mem_append, List.mem_flatMap, List.not_mem_nil, or_false,
    hquote, false_or, not_exists, not_and]
  exact fun c _ => newline_not_mem_escape (quoteFor_cases s) c

end ExtensionProbe.Text
