import ExtensionProbe.Yaml.Scalar

/-!
# Tokens of a YAML text

A text is cut into tokens. Indentation shows in tokens for the start and the end of block collections. A
key on one line is known only by the colon after it, so its token is put in before those of the key.
-/

namespace ExtensionProbe.Yaml

/-- What a line that starts with a percent sign says. -/
inductive Directive where
  | version (major : Nat)
  | tag (handle : String) (meaning : String)
  | other
deriving DecidableEq, Repr

/-- A token. -/
inductive Token where
  | directive (d : Directive)
  | documentStart
  | documentEnd
  | blockSequenceStart
  | blockMappingStart
  | blockEnd
  | flowSequenceStart
  | flowSequenceEnd
  | flowMappingStart
  | flowMappingEnd
  | blockEntry
  | flowEntry
  | key
  | value
  | alias (name : String)
  | anchor (name : String)
  | tag (handle : Option String) (suffix : String)
  | scalar (text : Text) (isPlain : Bool)
  /-- The place from which on the text is at fault. -/
  | fault (e : Fault)
deriving DecidableEq, Repr

/-! ## Names and tags -/

/-- Whether a character may stand in the name of an anchor, a directive or a handle. -/
def isNameChar (c : Char) : Bool := c.isAlphanum || c == '-' || c == '_'

/-- Whether a character may stand in a tag. -/
def isTagChar (c : Char) : Bool :=
  c.isAlphanum || "-;/?:@&=+$,_.!~*'()[]%".toList.contains c

/-- The bytes of escapes with percent signs, and the place after them. -/
def percentBytes (read : List UInt8) (fuel : Nat) (c : Cursor) : Except Fault (List UInt8 × Cursor) :=
  match fuel, c.rest with
  | fuel + 1, '%' :: a :: b :: _ =>
    match Text.Hex.number? [a, b] with
    | some n => percentBytes (UInt8.ofNat n :: read) fuel (c.advance 3)
    | none => .error .malformed
  | _, '%' :: _ => .error .malformed
  | _, _ => .ok (read.reverse, c)

/-- The text of a tag after the characters read so far, in reverse, and the place after it. -/
def tagTextFrom (read : List Char) (fuel : Nat) (c : Cursor) : Except Fault (List Char × Cursor) :=
  match fuel, c.rest with
  | fuel + 1, '%' :: rest =>
    match percentBytes [] (rest.length + 1) c with
    | .error e => .error e
    | .ok (bytes, after) =>
      match String.fromUTF8? ⟨bytes.toArray⟩ with
      | some s => tagTextFrom (s.toList.reverse ++ read) fuel after
      | none => .error .malformed
  | fuel + 1, x :: _ =>
    if isTagChar x then tagTextFrom (x :: read) fuel c.next else .ok (read.reverse, c)
  | _, _ => .ok (read.reverse, c)

/-- The text of a tag, which is not empty, and the place after it. -/
def tagText (c : Cursor) : Except Fault (String × Cursor) :=
  match tagTextFrom [] (c.rest.length + 1) c with
  | .error e => .error e
  | .ok ([], _) => .error .malformed
  | .ok (text, after) => .ok (String.ofList text, after)

/-- The handle of a tag, from one exclamation mark to the next, and the place after it. A single mark
before a space is a handle too. -/
def tagHandle (c : Cursor) : Except Fault (String × Cursor) :=
  match c.rest with
  | '!' :: ' ' :: _ => .ok ("!", c.next)
  | '!' :: rest =>
    let name := rest.takeWhile isNameChar
    match rest.drop name.length with
    | '!' :: _ => .ok (String.ofList ('!' :: name ++ ['!']), c.advance (name.length + 2))
    | _ => .error .malformed
  | _ => .error .malformed

/-- A tag, and the place after it. -/
def readTag (c : Cursor) : Except Fault (Token × Cursor) := do
  let (token, after) ←
    match c.rest with
    | _ :: '<' :: _ =>
      let (text, after) ← tagText (c.advance 2)
      match after.rest with
      | '>' :: _ => pure (Token.tag none text, after.next)
      | _ => .error .malformed
    | _ :: rest =>
      if atGap rest then pure (Token.tag none "!", c.next)
      else
        let word := rest.takeWhile fun x => x != ' ' && !isBreak x
        let (handle, start) ← if word.contains '!' then tagHandle c else pure ("!", c.next)
        let (text, after) ← tagText start
        pure (Token.tag (some handle) text, after)
    | [] => .error .malformed
  if atSpaceOrLineEnd after.rest then pure (token, after) else .error .malformed

/-- The name after an anchor's or an alias's sign, and the place after it. -/
def readName (c : Cursor) : Except Fault (String × Cursor) :=
  let (name, after) := c.next.span isNameChar
  let ends := atGap after.rest || (after.rest.head?.any fun x => "?:,]\x7d%@`".toList.contains x)
  if name.isEmpty || !ends then .error .malformed else .ok (String.ofList name, after)

/-! ## Directives -/

/-- Decimal digits, at least one, and the place after them. -/
def readDigits (c : Cursor) : Except Fault (Nat × Cursor) :=
  let (digits, after) := c.span Char.isDigit
  if digits.isEmpty then .error .malformed
  else
    match Decimal.read digits with
    | .ok n => .ok (n, after)
    | .error e => .error (.integer (.limit e))

/-- A directive, and the place after its line. -/
def readDirective (c : Cursor) : Except Fault (Token × Cursor) := do
  let (name, after) := c.next.span isNameChar
  if name.isEmpty || !atSpaceOrLineEnd after.rest then .error .malformed
  else
    let (directive, after) ←
      if name == "YAML".toList then do
        let (major, point) ← readDigits after.skipSpaces
        match point.rest with
        | '.' :: _ =>
          let (_, last) ← readDigits point.next
          if atSpaceOrLineEnd last.rest then pure (Directive.version major, last)
          else .error .malformed
        | _ => .error .malformed
      else if name == "TAG".toList then do
        let (handle, space) ← tagHandle after.skipSpaces
        match space.rest with
        | ' ' :: _ =>
          let (text, last) ← tagText space.skipSpaces
          if atSpaceOrLineEnd last.rest then pure (Directive.tag handle text, last)
          else .error .malformed
        | _ => .error .malformed
      else pure (Directive.other, after.skipLine)
    let next ← endOfLine after
    pure (Token.directive directive, next)

/-! ## Indentation and keys -/

/-- A place where a key on one line may have started. -/
structure OpenKey where
  /-- The number of tokens before it. -/
  token : Nat
  /-- Whether nothing but a key can stand there. -/
  required : Bool
  index : Nat
  line : Nat
  column : Nat
deriving Repr

/-- A text on its way into tokens. -/
structure Cutting where
  place : Cursor
  /-- The tokens so far, the last one first. -/
  tokens : List Token := []
  count : Nat := 0
  /-- The number of flow collections around the place. -/
  flow : Nat := 0
  /-- The column of the block around the place; -1 outside of every block. -/
  indent : Int := -1
  /-- The columns of the blocks around that one. -/
  outer : List Int := []
  /-- Whether a key on one line may start at the place. -/
  keyAllowed : Bool := true
  /-- Where keys may have started, by the number of flow collections around. -/
  keys : List (Nat × OpenKey) := []

namespace Cutting

/-- Adds a token at the end. -/
def push (s : Cutting) (t : Token) : Cutting :=
  { s with tokens := t :: s.tokens, count := s.count + 1 }

/-- Puts a token in after the first `position` ones. -/
def insert (s : Cutting) (position : Nat) (t : Token) : Cutting :=
  let back := s.count - position
  { s with tokens := s.tokens.take back ++ t :: s.tokens.drop back, count := s.count + 1 }

/-- Adds a token at the end and goes on behind it. -/
def pushTo (s : Cutting) (t : Token) (place : Cursor) : Cutting :=
  { s.push t with place }

/-- Where a key may have started at this depth of flow collections. -/
def openKey? (s : Cutting) : Option OpenKey :=
  (s.keys.find? (·.1 == s.flow)).map Prod.snd

/-- Forgets where a key may have started at this depth of flow collections. -/
def forgetKey (s : Cutting) : Cutting :=
  { s with keys := s.keys.filter (·.1 != s.flow) }

/-- Gives up a key at this depth of flow collections; one that is required must not be given up. -/
def dropKey (s : Cutting) : Except Fault Cutting :=
  match s.openKey? with
  | some k => if k.required then .error .malformed else .ok s.forgetKey
  | none => .ok s

/-- Whether a key that started somewhere can still end here: it is on one line and not too long. -/
def isAlive (s : Cutting) (k : OpenKey) : Bool :=
  k.line == s.place.line && s.place.index - k.index ≤ 1024

/-- Gives up the keys that can no longer end. -/
def dropStaleKeys (s : Cutting) : Except Fault Cutting :=
  if s.keys.any fun k => !s.isAlive k.2 && k.2.required then .error .malformed
  else .ok { s with keys := s.keys.filter fun k => s.isAlive k.2 }

/-- Notes that a key may start here. -/
def saveKey (s : Cutting) : Except Fault Cutting :=
  if s.keyAllowed then do
    let required := s.flow == 0 && s.indent == s.place.column
    let s ← s.dropKey
    let k : OpenKey := ⟨s.count, required, s.place.index, s.place.line, s.place.column⟩
    pure { s with keys := (s.flow, k) :: s.keys }
  else pure s

/-- Ends the blocks that are further in than a column. -/
def closeTo (column : Int) (s : Cutting) : List Int → Cutting
  | [] => s
  | next :: rest =>
    if column < s.indent then closeTo column { s.push .blockEnd with indent := next, outer := rest } rest
    else s

/-- Ends the blocks that are further in than a column; within a flow collection columns say nothing. -/
def closeBlocks (s : Cutting) (column : Int) : Cutting :=
  if s.flow = 0 then closeTo column s s.outer else s

/-- Opens a block at a column that is further in: its start is put in after the first `position`
tokens. -/
def openBlock (s : Cutting) (column : Nat) (position : Nat) (t : Token) : Cutting :=
  if s.indent < column then
    { s.insert position t with indent := column, outer := s.indent :: s.outer }
  else s

/-! ## One token -/

/-- Goes over spaces, comments and line ends. -/
def skipGap (s : Cutting) : Nat → Cutting
  | 0 => s
  | fuel + 1 =>
    let c := s.place.skipSpaces.skipComment
    match c.rest with
    | x :: _ =>
      if isBreak x then
        skipGap { s with place := c.next, keyAllowed := s.keyAllowed || s.flow == 0 } fuel
      else { s with place := c }
    | [] => { s with place := c }

/-- Ends every block and every key that has not ended. -/
def closeAll (s : Cutting) : Except Fault Cutting := do
  let s ← (s.closeBlocks (-1)).dropKey
  pure { s with keyAllowed := false }

/-- The token of a flow collection's start. -/
def openFlow (s : Cutting) (t : Token) : Except Fault Cutting := do
  let s ← s.saveKey
  pure { s.pushTo t s.place.next with flow := s.flow + 1, keyAllowed := true }

/-- The token of a flow collection's end. -/
def closeFlow (s : Cutting) (t : Token) : Except Fault Cutting := do
  let s ← s.dropKey
  if s.flow = 0 then .error .malformed
  else pure { s.pushTo t s.place.next with flow := s.flow - 1, keyAllowed := false }

/-- The token between two entries of a flow collection. -/
def flowEntry (s : Cutting) : Except Fault Cutting := do
  let s ← s.dropKey
  pure { s.pushTo .flowEntry s.place.next with keyAllowed := true }

/-- The token of an entry of a block sequence. -/
def blockEntry (s : Cutting) : Except Fault Cutting :=
  if s.flow = 0 && !s.keyAllowed then .error .malformed
  else do
    let s := if s.flow = 0 then s.openBlock s.place.column s.count .blockSequenceStart else s
    let s ← s.dropKey
    pure { s.pushTo .blockEntry s.place.next with keyAllowed := true }

/-- The token of a key with a sign of its own. -/
def explicitKey (s : Cutting) : Except Fault Cutting :=
  if s.flow = 0 && !s.keyAllowed then .error .malformed
  else do
    let s := if s.flow = 0 then s.openBlock s.place.column s.count .blockMappingStart else s
    let s ← s.dropKey
    pure { s.pushTo .key s.place.next with keyAllowed := s.flow == 0 }

/-- The token of a value, and before it that of its key. -/
def value (s : Cutting) : Except Fault Cutting :=
  match s.openKey? with
  | some k =>
    let s := s.forgetKey.insert k.token .key
    let s := if s.flow = 0 then s.openBlock k.column k.token .blockMappingStart else s
    .ok { s.pushTo .value s.place.next with keyAllowed := false }
  | none =>
    if s.flow = 0 && !s.keyAllowed then .error .malformed
    else do
      let s := if s.flow = 0 then s.openBlock s.place.column s.count .blockMappingStart else s
      let s ← s.dropKey
      pure { s.pushTo .value s.place.next with keyAllowed := s.flow == 0 }

/-- A token that may be the start of a key. -/
def keyStart (s : Cutting) (read : Cursor → Except Fault (Token × Cursor)) :
    Except Fault Cutting := do
  let s ← s.saveKey
  let (t, after) ← read s.place
  pure { s.pushTo t after with keyAllowed := false }

/-- The token of a plain scalar. -/
def plain (s : Cutting) : Except Fault Cutting := do
  let s ← s.saveKey
  let (text, after, crossed) := plainScalar (s.flow != 0) (s.indent + 1) s.place
  pure { s.pushTo (.scalar (Text.ofChars text) true) after with keyAllowed := crossed }

/-- The token of a block of lines. -/
def block (s : Cutting) : Except Fault Cutting := do
  let s ← s.dropKey
  let (text, after) ← blockScalar s.indent s.place
  pure { s.pushTo (.scalar (Text.ofChars text) false) after with keyAllowed := true }

/-- The characters that no plain scalar starts with, unless what follows allows it. -/
def isIndicator (c : Char) : Bool :=
  "-?:,[]\x7b\x7d#&*!|>'\"%@`".toList.contains c

/-- Whether a plain scalar starts with a character before a text. -/
def startsPlain (flow : Bool) (c : Char) (rest : List Char) : Bool :=
  !(isBlank c || isBreak c || isIndicator c)
    || (!atGap rest && (c == '-' || (!flow && (c == '?' || c == ':'))))

/-- The next token, at a place that is not at the end of the text. -/
def step (s : Cutting) (c : Char) (rest : List Char) : Except Fault Cutting :=
  let first := s.place.column == 0
  let inFlow := s.flow != 0
  if c == '%' && first then do
    let s ← s.closeAll
    let (t, after) ← readDirective s.place
    pure (s.pushTo t after)
  else if first && startsWithMark '-' (c :: rest) then do
    let s ← s.closeAll
    pure (s.pushTo .documentStart (s.place.advance 3))
  else if first && startsWithMark '.' (c :: rest) then do
    let s ← s.closeAll
    pure (s.pushTo .documentEnd (s.place.advance 3))
  else if c == '[' then s.openFlow .flowSequenceStart
  else if c == '\x7b' then s.openFlow .flowMappingStart
  else if c == ']' then s.closeFlow .flowSequenceEnd
  else if c == '\x7d' then s.closeFlow .flowMappingEnd
  else if c == ',' then s.flowEntry
  else if c == '-' && atGap rest then s.blockEntry
  else if c == '?' && (inFlow || atGap rest) then s.explicitKey
  else if c == ':' && (inFlow || atGap rest) then s.value
  else if c == '*' then s.keyStart fun p => (fun r => (.alias r.1, r.2)) <$> readName p
  else if c == '&' then s.keyStart fun p => (fun r => (.anchor r.1, r.2)) <$> readName p
  else if c == '!' then s.keyStart readTag
  else if (c == '|' || c == '>') && !inFlow then s.block
  else if c == '\'' || c == '"' then
    s.keyStart fun p => (fun r => (.scalar r.1 false, r.2)) <$> quotedScalar p
  else if startsPlain inFlow c rest then s.plain
  else .error .malformed

/-- The number of tokens before the first place where a key may still have started. Those after it are
not given out before it is known whether they belong to a key. -/
def settled (s : Cutting) : Nat :=
  (s.keys.filter fun k => s.isAlive k.2).foldl (fun n k => min n k.2.token) s.count

/-- The tokens that are given out before a fault, and the fault. -/
def stopAt (s : Cutting) (e : Fault) : List Token :=
  s.tokens.reverse.take s.settled ++ [.fault e]

/-- One turn: goes to the next token, ends the blocks before it, and takes it; and whether there was one
to take. -/
def turn (stop : Option Fault) (fuel : Nat) (s : Cutting) : Except Fault (Cutting × Bool) := do
  let s := s.skipGap fuel
  reach s
  let s ← s.dropStaleKeys
  let s := s.closeBlocks s.place.column
  match s.place.rest with
  | [] => do
    let s ← s.closeAll
    pure (s, false)
  | c :: rest => do
    let s ← s.step c rest
    reach s
    pure (s, true)
where
  /-- A text that stops with a fault must not be read up to its last character. -/
  reach (s : Cutting) : Except Fault Unit :=
    match stop, s.place.rest with
    | some e, [] => .error e
    | some e, [_] => .error e
    | _, _ => .ok ()

/-- The tokens from a place on. Each turn takes a character, so there are no more turns than
characters. -/
def run (stop : Option Fault) (s : Cutting) : Nat → List Token
  | 0 => s.stopAt .malformed
  | fuel + 1 =>
    match s.turn stop (fuel + 1) with
    | .error e => s.stopAt e
    | .ok (s, false) => s.tokens.reverse
    | .ok (s, true) => s.run stop fuel

end Cutting

/-- Whether a character may stand in a text. -/
def isAllowed (c : Char) : Bool :=
  let n := c.toNat
  n == 0x9 || n == 0xA || n == 0xD || (0x20 ≤ n && n ≤ 0x7E) || n == 0x85
    || (0xA0 ≤ n && n ≤ 0xD7FF) || (0xE000 ≤ n && n ≤ 0xFFFD) || 0x10000 ≤ n

/-- A text of which perhaps only the start is there, and the fault that stops its reader then. -/
structure Source where
  text : List Char
  stop : Option Fault := none

/-- The number of characters that are looked at together. -/
def pageSize : Nat := 4096

/-- A text up to the page with the first character that may not stand in it. -/
def Source.checked (s : Source) : Source :=
  let clean := (s.text.takeWhile isAllowed).length
  if clean = s.text.length then s
  else { text := s.text.take (clean / pageSize * pageSize), stop := some .malformed }

/-- The tokens of a text; if it is at fault, those before the fault and then the fault. A byte order
mark at the start is left out. -/
def Token.ofSource (source : Source) : List Token :=
  let s := source.checked
  match s.text, s.stop with
  | [], some e => [.fault e]
  | text, stop =>
    let start : Cursor := { rest := text }
    let start := match text with
      | '\ufeff' :: _ => start.next
      | _ => start
    Cutting.run stop { place := start } (text.length + 2)

end ExtensionProbe.Yaml
