import ExtensionProbe.Yaml.Cursor
import ExtensionProbe.Yaml.Fault

/-!
# Texts of scalars

A scalar is written plainly, between quotes, or as a block of lines. Line ends within it are folded: a
single one becomes a space, and of more the first is dropped. An escape may name a code point that is no
character.
-/

namespace ExtensionProbe.Yaml

/-- The text of folded line ends: the first one, and those after it. -/
def foldBreaks (first : Char) (more : List Char) : List Char :=
  if breakText first != '\n' then breakText first :: more
  else if more.isEmpty then [' ']
  else more

/-! ## Plain scalars -/

/-- Whether a plain scalar ends before a text. In a flow collection more characters end it. -/
def plainEnds (flow : Bool) : List Char → Bool
  | [] => true
  | c :: rest =>
    isBlank c || isBreak c
      || (c == ':' && (atGap rest || (flow && (rest.head?.any fun d => ",[]\x7b\x7d".toList.contains d))))
      || (flow && ",?[]\x7b\x7d".toList.contains c)

/-- The start of a text up to where a plain scalar ends. -/
def plainRun (flow : Bool) : List Char → List Char
  | [] => []
  | c :: rest => if plainEnds flow (c :: rest) then [] else c :: plainRun flow rest

/-- The line ends among spaces and line ends, the place after them, and whether a mark between
documents was met. -/
def breaksAndSpaces (c : Cursor) : List Char × Cursor × Bool :=
  match _h : c.rest with
  | [] => ([], c, false)
  | x :: _ =>
    if x == ' ' then breaksAndSpaces c.next
    else if isBreak x then
      if startsWithDocumentMark c.next.rest then ([breakText x], c.next, true)
      else
        let r := breaksAndSpaces c.next
        (breakText x :: r.1, r.2)
    else ([], c, false)
termination_by c.rest.length
decreasing_by all_goals simp [_h]

/-- What stands between two runs of a plain scalar. -/
structure Between where
  /-- The text that it stands for; nothing if the scalar ends. -/
  text : List Char
  /-- The place after it. -/
  after : Cursor
  /-- Whether a line ended. -/
  crossed : Bool

/-- What follows a run of a plain scalar. -/
def betweenRuns (c : Cursor) : Between :=
  let (blanks, c) := c.span (· == ' ')
  match c.rest with
  | [] => ⟨blanks, c, false⟩
  | x :: _ =>
    if isBreak x then
      if startsWithDocumentMark c.next.rest then ⟨[], c.next, true⟩
      else
        match breaksAndSpaces c.next with
        | (_, after, true) => ⟨[], after, true⟩
        | (more, after, false) => ⟨foldBreaks x more, after, true⟩
    else ⟨blanks, c, false⟩

/-- Whether a comment starts at a place. -/
def atComment (c : Cursor) : Bool :=
  match c.rest with
  | '#' :: _ => true
  | _ => false

/-- A plain scalar whose further lines are at least so far in, after the pieces read before, in reverse,
and what stands between them and the next run. Each turn takes a run that is not empty, so the rest gets
shorter. -/
def plainFrom (flow : Bool) (indent : Int) (read : List (List Char)) (between : List Char)
    (crossed : Bool) (c : Cursor) : List Char × Cursor × Bool :=
  let run := plainRun flow c.rest
  if atComment c || run.isEmpty then (read.reverse.flatten, c, crossed)
  else
    let read := run :: between :: read
    let b := betweenRuns (c.advance run.length)
    if b.text.isEmpty || atComment b.after || (!flow && b.after.column < indent) then
      (read.reverse.flatten, b.after, b.crossed)
    else if b.after.rest.length < c.rest.length then
      plainFrom flow indent read b.text b.crossed b.after
    else (read.reverse.flatten, b.after, b.crossed)
termination_by c.rest.length

/-- A plain scalar, the place after it, and whether a line ended after its last run. -/
def plainScalar (flow : Bool) (indent : Int) (c : Cursor) : List Char × Cursor × Bool :=
  plainFrom flow indent [] [] false c

/-! ## Quoted scalars -/

/-- The line ends among blanks and line ends, and the place after them; a mark between documents must
not stand at the start of a line. -/
def quotedBreaks (read : List Char) (c : Cursor) : Except Fault (List Char × Cursor) :=
  if startsWithDocumentMark c.rest then .error .malformed
  else
    let c' := (c.span isBlank).2
    match c'.rest with
    | x :: _ =>
      if isBreak x then
        if _h : c'.next.rest.length < c.rest.length then quotedBreaks (breakText x :: read) c'.next
        else .error .malformed
      else .ok (read.reverse, c')
    | [] => .ok (read.reverse, c')
termination_by c.rest.length
decreasing_by exact _h

/-- The code point that a letter after a backslash stands for. -/
def escaped? : Char → Option Nat
  | '0' => some 0
  | 'a' => some 7
  | 'b' => some 8
  | 't' => some 9
  | '\t' => some 9
  | 'n' => some 10
  | 'v' => some 11
  | 'f' => some 12
  | 'r' => some 13
  | 'e' => some 27
  | ' ' => some 32
  | '"' => some 34
  | '\\' => some 92
  | '/' => some 47
  | 'N' => some 0x85
  | '_' => some 0xA0
  | 'L' => some 0x2028
  | 'P' => some 0x2029
  | _ => none

/-- The number of digits of the code point that a letter after a backslash announces. -/
def escapeDigits? : Char → Option Nat
  | 'x' => some 2
  | 'u' => some 4
  | 'U' => some 8
  | _ => none

/-- The text of an escape, and the place after it. -/
def escape (c : Cursor) : Except Fault (Text × Cursor) :=
  match c.rest with
  | '\\' :: x :: rest =>
    match escaped? x, escapeDigits? x with
    | some n, _ => .ok ([.ofNat n], c.advance 2)
    | none, some count =>
      let digits := rest.take count
      match Text.Hex.number? digits with
      | some n =>
        if digits.length < count then .error .malformed
        else if n < 0x110000 then .ok ([.ofNat n], c.advance (2 + count))
        else .error (.codePoint n)
      | none => .error .malformed
    | none, none =>
      if isBreak x then (fun r => (Text.ofChars r.1, r.2)) <$> quotedBreaks [] (c.advance 2)
      else .error .malformed
  | _ => .error .malformed

/-- Blanks and line ends within quotes, and the place after them. -/
def quotedSpaces (c : Cursor) : Except Fault (Text × Cursor) :=
  let (blanks, c) := c.span isBlank
  match c.rest with
  | [] => .error .malformed
  | x :: _ =>
    if isBreak x then (fun r => (Text.ofChars (foldBreaks x r.1), r.2)) <$> quotedBreaks [] c.next
    else .ok (Text.ofChars blanks, c)

/-- One piece of a quoted scalar, and the place after it; nothing at the closing quote. -/
def quotedPiece (double : Bool) (c : Cursor) : Except Fault (Option Text × Cursor) :=
  match c.rest with
  | [] => .error .malformed
  | '"' :: _ => .ok (if double then (none, c.next) else (some ['"'], c.next))
  | '\'' :: '\'' :: _ => .ok (if double then (some ['\''], c.next) else (some ['\''], c.advance 2))
  | '\'' :: _ => .ok (if double then (some ['\''], c.next) else (none, c.next))
  | x :: _ =>
    if x == '\\' && double then (fun r => (some r.1, r.2)) <$> escape c
    else if isBlank x || isBreak x then (fun r => (some r.1, r.2)) <$> quotedSpaces c
    else .ok (some [x], c.next)

/-- A quoted scalar after its opening quote and the text read before, in reverse. -/
def quotedFrom (double : Bool) (read : Text) (fuel : Nat) (c : Cursor) :
    Except Fault (Text × Cursor) :=
  match fuel with
  | 0 => .error .malformed
  | fuel + 1 =>
    match quotedPiece double c with
    | .error e => .error e
    | .ok (none, after) => .ok (read.reverse, after)
    | .ok (some piece, after) => quotedFrom double (piece.reverse ++ read) fuel after

/-- A quoted scalar, and the place after its closing quote. Each piece takes a character, so there are
no more pieces than characters. -/
def quotedScalar (c : Cursor) : Except Fault (Text × Cursor) :=
  match c.rest with
  | '"' :: rest => quotedFrom true [] (rest.length + 1) c.next
  | '\'' :: rest => quotedFrom false [] (rest.length + 1) c.next
  | _ => .error .malformed

/-! ## Blocks of lines -/

/-- How line ends at the end of a block are kept: the first one, none, or all. -/
inductive Chomping where
  | clip | strip | keep
deriving DecidableEq, Repr

/-- The chomping that a sign asks for. -/
def chomping? : Char → Option Chomping
  | '+' => some .keep
  | '-' => some .strip
  | _ => none

/-- The depth that a digit asks for. -/
def depth? (x : Char) : Option Nat :=
  if x.isDigit then some (x.toNat - 48) else none

/-- The depth and the chomping in the head of a block, in either order, and the characters they take. -/
def blockHead (s : List Char) : Except Fault (Chomping × Option Nat × Nat) :=
  match s with
  | x :: rest =>
    match chomping? x, depth? x with
    | some k, _ =>
      match rest.head?.bind depth? with
      | some 0 => .error .malformed
      | some n => .ok (k, some n, 2)
      | none => .ok (k, none, 1)
    | none, some 0 => .error .malformed
    | none, some n =>
      match rest.head?.bind chomping? with
      | some k => .ok (k, some n, 2)
      | none => .ok (.clip, some n, 1)
    | none, none => .ok (.clip, none, 0)
  | [] => .ok (.clip, none, 0)

/-- The place after the rest of a line that holds at most a comment. -/
def endOfLine (c : Cursor) : Except Fault Cursor :=
  let c := c.skipSpaces.skipComment
  if atLineEnd c.rest then .ok c.skipBreak else .error .malformed

/-- The place after at most so many columns of spaces. -/
def skipIndent (indent : Nat) (c : Cursor) : Cursor :=
  let spaces := c.rest.takeWhile (· == ' ')
  c.advance (min spaces.length (indent - c.column))

/-- The line ends before the next line of a block at a depth, and the place after them. -/
def blockBreaks (indent : Nat) (read : List Char) (c : Cursor) : List Char × Cursor :=
  let c' := skipIndent indent c
  match c'.rest with
  | x :: _ =>
    if _h : isBreak x = true ∧ c'.next.rest.length < c.rest.length then
      blockBreaks indent (breakText x :: read) c'.next
    else (read.reverse, c')
  | [] => (read.reverse, c')
termination_by c.rest.length
decreasing_by exact _h.2

/-- The line ends before the first line of a block, the greatest depth of the lines, and the place
after them. -/
def firstBreaks (deepest : Nat) (read : List Char) (c : Cursor) : List Char × Nat × Cursor :=
  match _h : c.rest with
  | x :: _ =>
    if x == ' ' then firstBreaks (max deepest c.next.column) read c.next
    else if isBreak x then firstBreaks deepest (breakText x :: read) c.next
    else (read.reverse, deepest, c)
  | [] => (read.reverse, deepest, c)
termination_by c.rest.length
decreasing_by all_goals simp [_h]

/-- The lines of a block read so far, in reverse, the end of the last one, and the line ends after it. -/
structure Lines where
  read : List (List Char)
  lineEnd : List Char
  breaks : List Char
  after : Cursor

/-- The lines of a block at a depth. Each turn takes a line, so the rest gets shorter. -/
def blockLines (folded : Bool) (indent : Nat) (l : Lines) : Lines :=
  let c := l.after
  if c.column != indent || c.rest.isEmpty then l
  else
    let opensBlank := c.rest.head?.any isBlank
    let (line, c1) := c.span (!isBreak ·)
    let lineEnd := (c1.rest.head?.map breakText).toList
    let (breaks, c2) := blockBreaks indent [] c1.skipBreak
    let read := line :: l.breaks :: l.read
    if c2.column == indent && !c2.rest.isEmpty then
      let joint :=
        if folded && lineEnd == ['\n'] && !opensBlank && !(c2.rest.head?.any isBlank) then
          if breaks.isEmpty then [' '] else []
        else lineEnd
      if c2.rest.length < l.after.rest.length then
        blockLines folded indent ⟨joint :: read, lineEnd, breaks, c2⟩
      else ⟨joint :: read, lineEnd, breaks, c2⟩
    else ⟨read, lineEnd, breaks, c2⟩
termination_by l.after.rest.length

/-- A block of lines in a collection at a depth, and the place after it. -/
def blockScalar (parent : Int) (c : Cursor) : Except Fault (List Char × Cursor) :=
  match c.rest with
  | style :: rest =>
    match blockHead rest with
    | .error e => .error e
    | .ok (chomping, depth, count) =>
      let c := c.advance (1 + count)
      if !atSpaceOrLineEnd c.rest then .error .malformed
      else
        match endOfLine c with
        | .error e => .error e
        | .ok c =>
          let least := (max (parent + 1) 1).toNat
          let (indent, breaks, c) :=
            match depth with
            | none =>
              let (breaks, deepest, c) := firstBreaks 0 [] c
              (max least deepest, breaks, c)
            | some n =>
              let indent := least + n - 1
              let (breaks, c) := blockBreaks indent [] c
              (indent, breaks, c)
          let l := blockLines (style == '>') indent ⟨[], [], breaks, c⟩
          let body := l.read.reverse.flatten
          let text :=
            match chomping with
            | .strip => body
            | .clip => body ++ l.lineEnd
            | .keep => body ++ l.lineEnd ++ l.breaks
          .ok (text, l.after)
  | [] => .error .malformed

end ExtensionProbe.Yaml
