import ExtensionProbe.Markup.Parameters
import ExtensionProbe.Markup.Style
import ExtensionProbe.Markup.Symbol
import ExtensionProbe.Text.Styled

/-!
# Markup

A text may hold tags in square brackets, which open and close styles, and names of symbols between colons.
What is read is the text outside of the tags, with the styles of its parts; a tag that closes nothing is
a fault, and so is a style that cannot be read or a handler whose parameters are no literal. Literals may
name characters, and `knows` tells which names there are.

* `read_of_no_bracket`: a text without brackets is read as it is, but for its symbols.
-/

namespace ExtensionProbe.Markup

/-- Why markup is not shown. -/
inductive Fault where
  /-- A tag closes what is not open. -/
  | unmatched
  /-- The parameters of a handler are no literal. -/
  | parameters
  /-- A part of a colour is no number. -/
  | number (e : Literal.IntegerError)
deriving DecidableEq, Repr

/-- A part of a text: a character outside of tags, a tag that is text, or what stands in the brackets of
a tag. -/
inductive Piece where
  | letter (c : Code)
  | text (s : Text)
  | tag (s : Text)
deriving DecidableEq, Repr

/-- Whether a tag can start with a character. -/
def startsTag : Code → Bool :=
  Code.is fun c => ('a' ≤ c && c ≤ 'z') || c == '#' || c == '/' || c == '@'

/-- The tag at the start of a text without its brackets, if one is there. -/
def tagAt? (s : Text) : Option Text :=
  match s with
  | .char '[' :: c :: rest =>
    if startsTag c then
      let inner : Text := rest.takeWhile fun (d : Code) => d != ']' && d != '['
      match rest.drop inner.length with
      | .char ']' :: _ => some (c :: inner)
      | _ => none
    else none
  | _ => none

/-- The backslashes at the start of a text. -/
def backslashes (s : Text) : Nat := (s.takeWhile fun (c : Code) => c == '\\').length

/-- The pieces of a text. Backslashes before a tag stand for half as many, and an odd one makes the tag a
text. -/
def pieces : Text → List Piece
  | [] => []
  | c :: rest =>
    let n := backslashes (c :: rest)
    match tagAt? ((c :: rest).drop n) with
    | some inner =>
      let after := (c :: rest).drop (n + inner.length + 2)
      let half := Piece.text (List.replicate (n / 2) (.char '\\'))
      let last := if n % 2 = 0 then Piece.tag inner else .text ("[" ++ inner ++ "]")
      half :: last :: pieces after
    | none =>
      if c = '\\' ∧ rest.head? = some (.char '[') then .letter '[' :: pieces rest.tail
      else .letter c :: pieces rest
termination_by s => s.length
decreasing_by
  all_goals simp only [List.length_cons, List.length_drop, List.length_tail]
  all_goals omega

/-- The part of a tag before its parameters. -/
def tagName (tag : Text) : Text := tag.takeWhile fun (c : Code) => c != '='

/-- The parameters of a tag, if it has any. -/
def tagParameters (tag : Text) : Option Text :=
  match tag.dropWhile fun (c : Code) => c != '=' with
  | [] => none
  | _ :: rest => some rest

/-- A style that is open: where it starts, its one name, and its parameters. -/
structure Opened where
  start : Nat
  name : Text
  parameters : Option Text

namespace Opened

/-- Whether a handler is open instead of a style. -/
def isHandler (o : Opened) : Bool := o.name.head? == some (.char '@')

/-- The style in writing, with its parameters. -/
def style (o : Opened) : Text :=
  match o.parameters with
  | none => o.name
  | some p => o.name ++ " " ++ p

/-- What an open style holds that is not closed until the end. -/
def unclosed (stop : Nat) (o : Opened) : Span := ⟨o.start, stop, some o.style⟩

/-- What an open style or handler holds that is closed at a place. -/
def closed (knows : List Char → Bool) (stop : Nat) (o : Opened) : Except Fault Span :=
  if !o.isHandler then .ok ⟨o.start, stop, some o.style⟩
  else
    match o.parameters with
    | none | some [] => .ok ⟨o.start, stop, none⟩
    | some p => if Parameters.accepted knows p then .ok ⟨o.start, stop, none⟩ else .error .parameters

end Opened

/-- Takes the last style of a name out of those that are open, the last one first. -/
def takeOut (name : Text) : List Opened → Option (Opened × List Opened)
  | [] => none
  | o :: rest =>
    if o.name = name then some (o, rest)
    else (takeOut name rest).map fun found => (found.1, o :: found.2)

/-- The style that a tag closes, and those that stay open. The name stands after the slash. -/
def closedBy (opened : List Opened) (name : Text) : Except Fault (Opened × List Opened) :=
  if name.isEmpty then
    match opened with
    | [] => .error .unmatched
    | o :: rest => .ok (o, rest)
  else do
    match takeOut (← (normal name).mapError .number) opened with
    | some found => pure found
    | none => throw .unmatched

/-- The open styles after a tag at a place, the last one first, and what the tag closes. -/
def afterTag (knows : List Char → Bool) (opened : List Opened) (place : Nat) (tag : Text) :
    Except Fault (List Opened × List Span) :=
  match tagName tag with
  | .char '/' :: rest => do
    let (o, opened) ← closedBy opened (Text.trim rest)
    pure (opened, [← o.closed knows place])
  | name => do
    let name ← (normal name).mapError .number
    pure (⟨place, name, tagParameters tag⟩ :: opened, [])

/-- A run of characters as it is seen. -/
def seen (s : Text) : Text := Text.withoutMoves (Symbol.replace s)

/-- What is read of pieces after a run of characters, the last one first. Symbols are named within one
run or one piece of text. The spans stand in the order in which they are closed. -/
def readPieces (knows : List Char → Bool) (opened : List Opened) (run : Text) (place : Nat) :
    List Piece → Except Fault Styled
  | [] =>
    let s := seen run.reverse
    .ok ⟨s, opened.map (·.unclosed (place + s.length))⟩
  | .letter c :: rest => readPieces knows opened (c :: run) place rest
  | .text t :: rest => do
    let s := seen run.reverse ++ seen t
    let more ← readPieces knows opened [] (place + s.length) rest
    pure ⟨s ++ more.text, more.spans⟩
  | .tag t :: rest => do
    let s := seen run.reverse
    let (opened, spans) ← afterTag knows opened (place + s.length) t
    let more ← readPieces knows opened [] (place + s.length) rest
    pure ⟨s ++ more.text, spans ++ more.spans⟩

/-- What is read of a text without tags. -/
def plain (s : Text) : Styled := { text := seen s }

/-- What is read of markup. The spans stand in the order of their starts; of those that start at one place
the last one to be closed is the first. -/
def read (knows : List Char → Bool) (s : Text) : Except Fault Styled :=
  if s.contains '[' then do
    let m ← readPieces knows [] [] 0 (pieces s)
    pure { m with spans := m.spans.reverse.mergeSort fun a b => a.start ≤ b.start }
  else .ok (plain s)

/-- Reads the styles of lines, each by its name; only a number that is none is a fault. -/
def checkStyles : List Text → Except Fault Unit
  | [] => .ok ()
  | name :: rest =>
    match Style.read name with
    | .ok _ => checkStyles rest
    | .error e => .error (.number e)

/-- A text with a backslash more before each tag, and twice as many as there were. -/
def escapeTags : Text → Text
  | [] => []
  | c :: rest =>
    let n := backslashes (c :: rest)
    match tagAt? ((c :: rest).drop n) with
    | some inner =>
      let after := (c :: rest).drop (n + inner.length + 2)
      List.replicate (2 * n + 1) (Code.char '\\') ++ "[" ++ inner ++ "]" ++ escapeTags after
    | none => c :: escapeTags rest
termination_by s => s.length
decreasing_by
  all_goals simp only [List.length_cons, List.length_drop]
  all_goals omega

/-- A text that is seen as it is within markup. A single backslash at its end is doubled, so that it does
not take effect on what follows. -/
def escape (s : Text) : Text :=
  let escaped := escapeTags s
  if backslashes escaped.reverse = 1 then escaped ++ "\\" else escaped

theorem read_of_no_bracket {s : Text} (knows : List Char → Bool) (h : ('[' : Code) ∉ s) :
    read knows s = .ok (plain s) := by
  simp [read, h]

end ExtensionProbe.Markup
