import ExtensionProbe.Text.Blank
import Mathlib.Data.List.DropRight

/-!
# What is left without the blanks at the ends

A text without the blanks at its ends is the part of it that stands between blanks and has none at its own
ends. There is exactly one such part, and trimming finds it.

* `eq_trim_of_stripped`, `stripped_trim`: **trimming gives the one part that stands between blanks.**
* `exists_append_trimEnd`, `last_trimEnd`: what trimming the end alone takes away, and what it leaves.
-/

namespace ExtensionProbe.Text

/-- Every character of a text is blank. -/
def AllBlank (s : Text) : Prop := ∀ c ∈ s, c.is isBlank = true

/-- A text is what another one is without the blanks at its ends: it stands there between blanks, and
neither starts nor ends with one. -/
structure Stripped (s t : Text) : Prop where
  between : ∃ before after, s = before ++ t ++ after ∧ AllBlank before ∧ AllBlank after
  first : ∀ c, t.head? = some c → c.is isBlank = false
  last : ∀ c, t.getLast? = some c → c.is isBlank = false

variable {s t before after : Text}

theorem allBlank_nil : AllBlank [] := nofun

theorem trimStart_append (h : AllBlank before) (s : Text) : trimStart (before ++ s) = trimStart s :=
  List.dropWhile_append_of_pos h

theorem trimEnd_append (s : Text) (h : AllBlank after) : trimEnd (s ++ after) = trimEnd s := by
  have hrev : ∀ c ∈ after.reverse, c.is isBlank = true := fun c hc => h c (List.mem_reverse.1 hc)
  unfold trimEnd
  rw [List.reverse_append, List.dropWhile_append_of_pos hrev]

theorem trimEnd_of_last (h : ∀ c, s.getLast? = some c → c.is isBlank = false) : trimEnd s = s := by
  rcases List.eq_nil_or_concat s with rfl | ⟨init, c, rfl⟩
  · rfl
  · rw [List.concat_eq_append] at h ⊢
    exact trimEnd_append_of_not_blank (h c List.getLast?_concat)

theorem trimEnd_eq_rdropWhile (s : Text) : trimEnd s = s.rdropWhile (·.is isBlank) := rfl

theorem exists_append_trimEnd (s : Text) : ∃ after, s = trimEnd s ++ after ∧ AllBlank after := by
  refine ⟨s.rtakeWhile (·.is isBlank), ?_, fun c hc => List.mem_rtakeWhile_imp hc⟩
  rw [trimEnd_eq_rdropWhile, List.rdropWhile_append_rtakeWhile]

theorem last_trimEnd (s : Text) : ∀ c, (trimEnd s).getLast? = some c → c.is isBlank = false := by
  intro c hc
  rw [trimEnd_eq_rdropWhile] at hc
  obtain ⟨hne, rfl⟩ := List.mem_getLast?_eq_getLast (Option.mem_def.2 hc)
  exact Bool.eq_false_iff.2 (List.rdropWhile_last_not _ s hne)

theorem first_trimStart (s : Text) : ∀ c, (trimStart s).head? = some c → c.is isBlank = false := by
  intro c hc
  have h := List.head?_dropWhile_not (·.is isBlank) s
  unfold trimStart at hc
  rw [hc] at h
  exact h

/-- **The part between blanks is what trimming gives.** -/
theorem eq_trim_of_stripped (h : Stripped s t) : trim s = t := by
  obtain ⟨⟨before, after, rfl, hb, ha⟩, hfirst, hlast⟩ := h
  unfold trim
  rw [List.append_assoc, trimStart_append hb]
  cases t with
  | nil =>
    -- nothing but blanks: all of them go at the start
    have hnil : trimStart after = [] := by
      have := trimStart_append ha []
      rwa [List.append_nil] at this
    rw [List.nil_append, hnil]
    rfl
  | cons c rest =>
    have hstart : trimStart (c :: rest ++ after) = c :: rest ++ after :=
      trimStart_cons_of_not_blank (hfirst c rfl)
    rw [hstart, trimEnd_append _ ha, trimEnd_of_last hlast]

/-- **Every text has such a part.** -/
theorem stripped_trim (s : Text) : Stripped s (trim s) := by
  obtain ⟨after, hs, ha⟩ := exists_append_trimEnd (trimStart s)
  refine ⟨⟨s.takeWhile (·.is isBlank), after, ?_, fun c hc => List.mem_takeWhile_imp hc, ha⟩, ?_,
    last_trimEnd _⟩
  · rw [List.append_assoc]
    unfold trim
    rw [← hs]
    exact List.takeWhile_append_dropWhile.symm
  · -- the start of what is left is the start of the text without its first blanks
    intro c hc
    refine first_trimStart s c ?_
    rw [hs]
    unfold trim at hc
    rw [List.head?_append, hc]
    rfl

end ExtensionProbe.Text
