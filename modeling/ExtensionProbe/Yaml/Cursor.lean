/-!
# Places in a YAML text

A cursor is a place in a text: the rest of the text, with the number of characters, lines and columns
before it.

* `rest_advance`: moving on drops characters from the rest.
-/

namespace ExtensionProbe.Yaml

/-- Whether a character ends a line. Line ends of two characters have been made one before. -/
def isBreak (c : Char) : Bool :=
  c == '\n' || c == '\u0085' || c == '\u2028' || c == '\u2029'

/-- What the end of a line stands for in a text. -/
def breakText (c : Char) : Char :=
  if c == '\u0085' then '\n' else c

/-- Whether a character is a blank within a line. -/
def isBlank (c : Char) : Bool := c == ' ' || c == '\t'

/-- Whether a text is at its end or starts with white space. -/
def atGap : List Char → Bool
  | [] => true
  | c :: _ => isBlank c || isBreak c

/-- Whether a text is at its end or at the end of a line. -/
def atLineEnd : List Char → Bool
  | [] => true
  | c :: _ => isBreak c

/-- Whether a text is at its end, at a space or at the end of a line. -/
def atSpaceOrLineEnd : List Char → Bool
  | [] => true
  | c :: _ => c == ' ' || isBreak c

/-- Whether a text starts with three marks of a kind and a gap. -/
def startsWithMark (mark : Char) : List Char → Bool
  | a :: b :: c :: rest => a == mark && b == mark && c == mark && atGap rest
  | _ => false

/-- Whether a text starts with the mark between documents or the one at the end of a document. -/
def startsWithDocumentMark (s : List Char) : Bool :=
  startsWithMark '-' s || startsWithMark '.' s

/-- A place in a text. -/
structure Cursor where
  rest : List Char
  index : Nat := 0
  line : Nat := 0
  column : Nat := 0
deriving Repr

namespace Cursor

/-- The place after one more character. -/
def next (c : Cursor) : Cursor :=
  match c.rest with
  | [] => c
  | x :: rest =>
    if isBreak x then ⟨rest, c.index + 1, c.line + 1, 0⟩
    else ⟨rest, c.index + 1, c.line, if x == '\ufeff' then c.column else c.column + 1⟩

/-- The place after so many characters. -/
def advance : Nat → Cursor → Cursor
  | 0, c => c
  | n + 1, c => advance n c.next

/-- The characters that fulfil a condition up to the first that does not, and the place after them. -/
def span (p : Char → Bool) (c : Cursor) : List Char × Cursor :=
  let run := c.rest.takeWhile p
  (run, c.advance run.length)

/-- The place after the spaces that follow. -/
def skipSpaces (c : Cursor) : Cursor := (c.span (· == ' ')).2

/-- The place at the end of the line. -/
def skipLine (c : Cursor) : Cursor := (c.span (!isBreak ·)).2

/-- The place after a comment if one starts here. -/
def skipComment (c : Cursor) : Cursor :=
  match c.rest with
  | '#' :: _ => c.skipLine
  | _ => c

/-- The place after the end of a line if there is one. -/
def skipBreak (c : Cursor) : Cursor :=
  match c.rest with
  | x :: _ => if isBreak x then c.next else c
  | [] => c

@[simp] theorem rest_next (c : Cursor) : c.next.rest = c.rest.tail := by
  unfold next
  cases h : c.rest with
  | nil => simp [h]
  | cons x rest => by_cases hx : isBreak x <;> simp [hx]

theorem rest_advance (n : Nat) (c : Cursor) : (advance n c).rest = c.rest.drop n := by
  induction n generalizing c with
  | zero => rfl
  | succ n ih => cases h : c.rest <;> simp [advance, ih, h]

end Cursor

end ExtensionProbe.Yaml
