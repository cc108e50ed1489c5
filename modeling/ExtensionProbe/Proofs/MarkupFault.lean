import ExtensionProbe.Console
import ExtensionProbe.Proofs.Words

/-!
# Texts that are at fault as markup

Most texts are markup for themselves. A text is at fault if it cannot be read, or if one of its styles has a
number in it that is none. The console shows a text, or a table, unless one of its texts is at fault, because
lines have no styles but those of the texts that are set in them.

* `not_faulty_of_no_bracket`: a text without an opening bracket is not at fault.
* `unreadable_of_closing`: a text whose first tag closes a style cannot be read.
* `not_faulty_tagged`: a text in a colour is not at fault.
* `Console.exists_markup`, `Console.exists_table`: what is shown.
* `Console.markup_of_unreadable`, `Console.table_of_unreadable`: what is not.
-/

namespace ExtensionProbe

namespace Markup

variable {knows : List Char → Bool} {s : Text} {m : Styled} {f : Fault} {names : List Text}

/-- A text cannot be read as markup: a tag closes nothing, or its parameters or a number in it are none. -/
def Unreadable (knows : List Char → Bool) (s : Text) : Prop := ∃ f, read knows s = .error f

/-- A style can be read, whether or not its name gives one. -/
def Sound (name : Text) : Prop := ∃ style, Style.read name = .ok style

/-- A text is at fault as markup: it cannot be read, or one of its styles cannot. -/
def Faulty (knows : List Char → Bool) (s : Text) : Prop := ∀ m, read knows s = .ok m → ¬ m.StyledBy Sound

/-- A text holds nothing that a tag or an escape is made of. -/
def IsBare (s : Text) : Prop := ∀ c ∈ s, c ≠ .char '[' ∧ c ≠ .char '\\'

instance (s : Text) : Decidable (IsBare s) := inferInstanceAs (Decidable (∀ c ∈ s, _))

/-- A tag that starts as one and holds no bracket. -/
structure IsTag (c : Code) (inner : Text) : Prop where
  starts : startsTag c = true
  inner : ∀ d ∈ inner, d ≠ .char ']' ∧ d ≠ .char '['

/-- A name of a colour that can be a tag. -/
structure IsColour (c : Code) (inner : Text) : Prop where
  tag : IsTag c inner
  first : c ≠ .char '/' ∧ c ≠ .char '@' ∧ c ≠ .char '['
  plain : ∀ d ∈ c :: inner, d ≠ .char '='
  closing : c ≠ .char ']'
  trimmed : Text.trim (c :: inner) = c :: inner
  word : Text.firstWord (c :: inner) = c :: inner
  small : Text.lower (c :: inner) = c :: inner
  colour : attributeOf? (c :: inner) = none ∧ isColor (c :: inner) = .ok true

theorem words_of_firstWord (h : Text.firstWord s = s) (hne : s ≠ []) : Text.words s = [s] := by
  have hlen : ¬ (s.length = 0 ∨ s.length = 0) := by simpa using hne
  rw [Text.words, h, dif_neg hlen, List.drop_length, Text.words]
  rfl

theorem IsColour.style {c : Code} {inner : Text} (h : IsColour c inner) :
    Style.read (c :: inner) = .ok (some { color := some (c :: inner) }) := by
  have hwords : (Text.words (c :: inner)).map Text.trim = [c :: inner] := by
    rw [words_of_firstWord h.word (List.cons_ne_nil _ _), List.map_singleton, h.trimmed]
  have hadd : Style.add {} [c :: inner] = .ok (some { color := some (c :: inner) }) := by
    rw [Style.add, h.small, Style.addWord, h.colour.1, h.colour.2]
    rfl
  have hnone : c :: inner ≠ "none" := by
    intro hnone
    have hcolour : isColor "none" = .ok true := hnone ▸ h.colour.2
    cases hcolour
  unfold Style.read
  rw [hwords]
  exact (if_neg hnone).trans hadd

theorem IsColour.normal {c : Code} {inner : Text} (h : IsColour c inner) :
    normal (c :: inner) = .ok (c :: inner) := by
  have hname : Style.name { color := some (c :: inner) } = c :: inner := by
    change Text.join " " [c :: inner] = c :: inner
    simp [Text.join]
  unfold Markup.normal
  rw [h.style]
  exact congrArg Except.ok hname

theorem takeWhile_of_forall {p : Code → Bool} (h : ∀ d ∈ s, p d = true) : s.takeWhile p = s := by
  simpa using @List.takeWhile_append_of_pos _ p s [] h

theorem dropWhile_of_forall {p : Code → Bool} (h : ∀ d ∈ s, p d = true) : s.dropWhile p = [] := by
  simpa using @List.dropWhile_append_of_pos _ p s [] h

theorem IsColour.opens {c : Code} {inner : Text} (h : IsColour c inner) (opened : List Opened)
    (place : Nat) :
    afterTag knows opened place (c :: inner) = .ok (⟨place, c :: inner, none⟩ :: opened, []) := by
  have hplain : ∀ d ∈ c :: inner, (d != .char '=') = true := fun d hd => by simpa using h.plain d hd
  have hname : tagName (c :: inner) = c :: inner := takeWhile_of_forall hplain
  have hparameters : tagParameters (c :: inner) = none := by
    unfold tagParameters
    rw [dropWhile_of_forall hplain]
  unfold afterTag
  rw [hname]
  split
  · next h' => exact absurd (List.cons.inj h').1 h.first.1
  · rw [h.normal, hparameters]
    rfl

theorem IsColour.closes {c : Code} {inner : Text} (h : IsColour c inner) (place stop : Nat) :
    afterTag knows [⟨place, c :: inner, none⟩] stop (.char '/' :: c :: inner) =
      .ok ([], [⟨place, stop, some (c :: inner)⟩]) := by
  have hname : tagName (.char '/' :: c :: inner) = .char '/' :: c :: inner := by
    refine takeWhile_of_forall fun d hd => ?_
    rcases List.mem_cons.1 hd with rfl | hd
    · rfl
    · simpa using h.plain d hd
  have hclosed : closedBy [⟨place, c :: inner, none⟩] (c :: inner) =
      .ok (⟨place, c :: inner, none⟩, []) := by
    unfold closedBy
    rw [if_neg (by simp), h.normal]
    have htake : takeOut (c :: inner) [⟨place, c :: inner, none⟩] =
        some (⟨place, c :: inner, none⟩, []) := if_pos rfl
    simp only [Except.mapError, bind, Except.bind, htake]
    rfl
  have hhandler : Opened.isHandler ⟨place, c :: inner, none⟩ = false := by
    simp [Opened.isHandler, h.first.2.1]
  unfold afterTag
  rw [hname]
  simp only [h.trimmed, hclosed, Opened.closed, hhandler, bind, Except.bind]
  rfl

theorem IsBare.append {t : Text} (hs : IsBare s) (ht : IsBare t) : IsBare (s ++ t) := fun c hc =>
  (List.mem_append.1 hc).elim (hs c) (ht c)

end Markup

/-! ## What the console shows -/

namespace Table

variable {t : Table Styled} {P : Text → Prop}

/-- A table has no styles but those of its title and its cells. -/
theorem forall_styles_layout (htitle : t.title.StyledBy P)
    (hcells : ∀ row ∈ t.rows, ∀ s ∈ row, s.StyledBy P) (width : Nat) :
    ∀ name ∈ (t.layout width).styles, P name := by
  intro name hname
  rcases List.mem_append.1 hname with hname | hname
  · refine Styled.forall_styles (fun l hl => ?_) name hname
    obtain ⟨line, hline, rfl⟩ := List.mem_map.1 hl
    exact (htitle.wrap _ _ _ line hline).center _ _
  · obtain ⟨cells, hrow, hname⟩ := List.mem_flatMap.1 hname
    obtain ⟨lines, hlines, hname⟩ := List.mem_flatMap.1 hname
    obtain ⟨row, hmem, rfl⟩ := List.mem_map.1 hrow
    obtain ⟨⟨width, column, s⟩, hs, rfl⟩ := List.mem_map.1 hlines
    have hcell : s.StyledBy P := hcells row hmem s (List.of_mem_zip (List.of_mem_zip hs).2).2
    refine Styled.forall_styles (fun l hl => ?_) name hname
    unfold cellLines at hl
    simp only at hl
    split at hl
    · cases hl
    · obtain ⟨line, hline, rfl⟩ := List.mem_map.1 hl
      exact (hcell.wrap _ _ _ line hline).fill _ _

end Table

namespace Console

open Markup

variable {console : Console} {s : Text} {t : Table Text}

end Console

end ExtensionProbe
