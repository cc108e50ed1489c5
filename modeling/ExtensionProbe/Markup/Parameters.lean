import ExtensionProbe.Number.Literal
import ExtensionProbe.Text.Alphanumeric
import ExtensionProbe.Text.Newline

/-!
# Parameters of tags

A tag that names a handler may give it parameters: a literal, or a name with a literal in brackets. A
literal is a number, a text, bytes, a named constant, or a row, a mapping or a set of literals. It is only
looked at whether the parameters have this form. A text may name a character; which names there are is
known to the surroundings.
-/

namespace ExtensionProbe.Markup.Parameters

/-- A word of a literal. -/
inductive Token where
  | number (imaginary : Bool)
  | text (isBytes : Bool)
  | constant
  | setName
  | sign
  | opens
  | closes
  | opensBrace
  | closesBrace
  | comma
  | colon
  | newline
deriving DecidableEq, Repr

/-! ## Words -/

/-- Whether a character may go on a name or a number. -/
def goesOn (c : Char) : Bool := Text.isWordChar c || !Literal.isAscii c

/-- A text that no name goes on with. -/
def ended (rest : List Char) : Option (List Char) :=
  if rest.head?.any goesOn then none else some rest

/-- The rest after the exponent of a number, if it has one, and whether it has. -/
def exponent (s : List Char) : Option (Bool × List Char) :=
  match s with
  | e :: rest =>
    if e == 'e' || e == 'E' then
      let unsigned := if rest.head?.any fun c => c == '+' || c == '-' then rest.tail else rest
      (Literal.cutDigits 10 unsigned).map fun r => (true, r.2)
    else some (false, s)
  | [] => some (false, s)

/-- The rest after the digits of a fraction, of which there may be none. -/
def fraction (s : List Char) : Option (List Char) :=
  if s.head?.any Char.isDigit then (Literal.cutDigits 10 s).map (·.2) else some s

/-- A number after its whole digits; whole digits alone are limited in their number, and do not start with
a zero unless all are zeros. -/
def numberAfter (digits : List Nat) (rest : List Char) : Option (Token × List Char) := do
  let (hasPoint, rest) ←
    match rest with
    | '.' :: more => (fun r => (true, r)) <$> fraction more
    | _ => some (false, rest)
  let (hasExponent, rest) ← exponent rest
  match rest with
  | c :: more =>
    if c == 'j' || c == 'J' then (fun r => (.number true, r)) <$> ended more
    else whole (hasPoint || hasExponent) rest
  | [] => whole (hasPoint || hasExponent) []
where
  /-- A number that is not imaginary. -/
  whole (isDouble : Bool) (rest : List Char) : Option (Token × List Char) :=
    if !isDouble && ((digits.head? == some 0 && digits.any (· != 0))
        || Decimal.maxDigits < digits.length) then none
    else (fun r => (.number false, r)) <$> ended rest

/-- The base that a mark after a zero stands for. -/
def baseOf? (c : Char) : Option Nat :=
  [2, 8, 16].find? fun base => Literal.mark? base == some c.toLower

/-- A number at the start of a text. -/
def number? (s : List Char) : Option (Token × List Char) :=
  match s with
  | '.' :: rest => numberAfter [] ('.' :: rest)
  | '0' :: c :: rest =>
    match baseOf? c with
    | some base => do
      let digits := if rest.head? == some '_' then rest.tail else rest
      let r ← Literal.cutDigits base digits
      (fun r => (.number false, r)) <$> ended r.2
    | none => decimal
  | _ => decimal
where
  /-- A number of decimal digits. -/
  decimal : Option (Token × List Char) :=
    (Literal.cutDigits 10 s).bind fun r => numberAfter r.1 r.2

/-- The number of digits after a letter that escapes a character by its number. -/
def escapeDigits? (isBytes : Bool) (c : Char) : Option Nat :=
  match c with
  | 'x' => some 2
  | 'u' => if isBytes then none else some 4
  | 'U' => if isBytes then none else some 8
  | _ => none

/-- Whether digits are all there and name a code point. -/
def isEscape (count : Nat) (s : List Char) : Bool :=
  let digits := s.take count
  digits.length == count && (Text.Hex.number? digits).any (· < 0x110000)

/-- The text after braces, if what stands in them is a name of a character. -/
def afterName? (knows : List Char → Bool) (s : List Char) : Option (List Char) :=
  match s with
  | '\x7b' :: rest =>
    let name := rest.takeWhile (· != '\x7d')
    match rest.drop name.length with
    | _ :: more => if !name.isEmpty && knows name then some more else none
    | [] => none
  | _ => none

/-- How a text is written: its quote, whether there are three of it, whether backslashes stand for
themselves, and whether the text is one of bytes. -/
structure Quoting where
  quote : Char
  triple : Bool
  raw : Bool
  isBytes : Bool

/-- What is left after the closing quote of a text. -/
def Quoting.close (knows : List Char → Bool) (q : Quoting) : Nat → List Char → Option (List Char)
  | 0, _ => none
  | fuel + 1, s =>
    match s with
    | [] => none
    | '\\' :: [] => none
    | '\\' :: c :: rest =>
      if q.isBytes && !Literal.isAscii c then none
      else if q.raw then q.close knows fuel rest
      else if c == 'N' && !q.isBytes then (afterName? knows rest).bind (q.close knows fuel)
      else
        match escapeDigits? q.isBytes c with
        | some count => if isEscape count rest then q.close knows fuel (rest.drop count) else none
        | none => q.close knows fuel rest
    | c :: rest =>
      if c == q.quote then
        if !q.triple then some rest
        else if rest.take 2 == [q.quote, q.quote] then some (rest.drop 2)
        else q.close knows fuel rest
      else if (c == '\n' && !q.triple) || (q.isBytes && !Literal.isAscii c) then none
      else q.close knows fuel rest

/-- A text or bytes at the start of a text, after the letters that mark them. -/
def quoted? (knows : List Char → Bool) (marks s : List Char) : Option (Token × List Char) :=
  let marks := marks.map Char.toLower
  if !([[], ['r'], ['u'], ['b'], ['b', 'r'], ['r', 'b']].contains marks) then none
  else
    match s with
    | [] => none
    | q :: rest =>
      let isBytes := marks.contains 'b'
      let triple := rest.take 2 == [q, q]
      let body := if triple then rest.drop 2 else rest
      (Quoting.close knows ⟨q, triple, marks.contains 'r', isBytes⟩ (body.length + 1) body).map
        fun after => (.text isBytes, after)

/-- Whether a character is a quote. -/
def isQuote (c : Char) : Bool := c == '\'' || c == '"'

/-- A name or a marked text at the start of a text. -/
def named? (knows : List Char → Bool) (s : List Char) : Option (Token × List Char) :=
  let name := s.takeWhile goesOn
  let rest := s.drop name.length
  if rest.head?.any isQuote then quoted? knows name rest
  else
    match String.ofList name with
    | "True" | "False" | "None" => some (.constant, rest)
    | "set" => some (.setName, rest)
    | _ => none

/-- The word at the start of a text that does not start with a blank. -/
def token? (knows : List Char → Bool) (s : List Char) : Option (Token × List Char) :=
  match s with
  | '(' :: rest => some (.opens, rest)
  | ')' :: rest => some (.closes, rest)
  | '\x7b' :: rest => some (.opensBrace, rest)
  | '\x7d' :: rest => some (.closesBrace, rest)
  | ',' :: rest => some (.comma, rest)
  | ':' :: rest => some (.colon, rest)
  | '+' :: rest => some (.sign, rest)
  | '-' :: rest => some (.sign, rest)
  | '.' :: '.' :: '.' :: rest => some (.constant, rest)
  | '.' :: c :: rest => if c.isDigit then number? ('.' :: c :: rest) else none
  | c :: rest =>
    if isQuote c then quoted? knows [] (c :: rest)
    else if c.isDigit then number? (c :: rest)
    else named? knows (c :: rest)
  | [] => none

/-- The nesting of brackets that a literal may have, whatever they are around. -/
def maxDepth : Nat := 200

/-- The nesting of brackets after a word, if it is not too deep. -/
def depthAfter (depth : Nat) : Token → Option Nat
  | .opens | .opensBrace => if depth < maxDepth then some (depth + 1) else none
  | .closes | .closesBrace => if depth = 0 then none else some (depth - 1)
  | _ => some depth

/-- What is left from the end of a line on. -/
def nextLine (s : List Char) : List Char := s.dropWhile (· != '\n')

theorem length_nextLine_le (s : List Char) : (nextLine s).length ≤ s.length :=
  (List.dropWhile_suffix _).length_le

/-- The words of a literal. The end of a line counts only outside of brackets. -/
def tokens (knows : List Char → Bool) (depth : Nat) (s : List Char) : Option (List Token) :=
  match _h : s with
  | [] => some []
  | c :: rest =>
    if c = ' ' ∨ c = '\t' ∨ c = '\x0c' then tokens knows depth rest
    else if c = '\n' then
      if depth = 0 then (.newline :: ·) <$> tokens knows depth rest else tokens knows depth rest
    else if c = '#' then tokens knows depth (nextLine rest)
    else if c = '\\' then if rest.head? = some '\n' then tokens knows depth rest.tail else none
    else
      match token? knows (c :: rest) with
      | none => none
      | some (t, after) =>
        match depthAfter depth t with
        | none => none
        | some depth =>
          if after.length ≤ rest.length then (t :: ·) <$> tokens knows depth after else none
termination_by s.length
decreasing_by
  all_goals subst _h
  all_goals simp only [List.length_cons, List.length_tail]
  all_goals have := length_nextLine_le rest
  all_goals omega

/-- What is left from the first word on, whose line must not be set in; blank lines and comments before it
do not count. A line that goes on after a backslash is set in as far as its first part, if that is. -/
def start (column continued : Nat) (s : List Char) : Option (List Char) :=
  match _h : s with
  | [] => none
  | c :: rest =>
    if c = ' ' then start (column + 1) continued rest
    else if c = '\t' then start ((column / 8 + 1) * 8) continued rest
    else if c = '\x0c' then start 0 continued rest
    else if c = '\n' then start 0 0 rest
    else if c = '#' then start 0 0 (nextLine rest)
    else if c = '\\' then
      if rest.head? = some '\n' then start column (setIn column continued) rest.tail else none
    else if setIn column continued = 0 then some (c :: rest)
    else none
termination_by s.length
decreasing_by
  all_goals subst _h
  all_goals simp only [List.length_cons, List.length_tail]
  all_goals have := length_nextLine_le rest
  all_goals omega
where
  /-- How far a line is set in. -/
  setIn (column continued : Nat) : Nat := if continued = 0 then column else continued

/-! ## Literals -/

/-- What a literal is, as far as that counts for what stands around it. -/
inductive Form where
  /-- A number without a sign. -/
  | number (imaginary : Bool)
  /-- A number with a sign. -/
  | signed (imaginary : Bool)
  /-- Another value, which may or may not be a key. -/
  | value (isKey : Bool)
deriving DecidableEq, Repr

/-- Whether a literal may be a key, or a member of a set. -/
def Form.isKey : Form → Bool
  | .value isKey => isKey
  | _ => true

/-- A literal after a sign: only a number takes one. -/
def Form.sign : Form → Option Form
  | .number imaginary => some (.signed imaginary)
  | _ => none

/-- Two literals with a sign between them: a complex number. -/
def Form.add : Form → Form → Option Form
  | .number false, .number true => some (.value true)
  | .signed false, .number true => some (.value true)
  | _, _ => none

/-- What values in brackets are: a row, or a single one by itself. -/
def Form.group (items : List Form) (hasComma : Bool) : Form :=
  match items, hasComma with
  | [item], false => item
  | items, _ => .value (items.all Form.isKey)

/-- What is left after texts that follow each other, if all are of one kind. -/
def textsAfter (isBytes : Bool) : List Token → Option (List Token)
  | .text b :: rest => if b = isBytes then textsAfter isBytes rest else none
  | rest => some rest

/-- What is left after the name of sets, which may stand in brackets. -/
def afterSetName : List Token → Option (List Token)
  | .setName :: rest => some rest
  | .opens :: rest =>
    match afterSetName rest with
    | some (.closes :: rest) => some rest
    | _ => none
  | _ => none

mutual

/-- A literal at the start of words. -/
def form : Nat → List Token → Option (Form × List Token)
  | 0, _ => none
  | fuel + 1, ts => do
    let (a, rest) ← operand fuel ts
    match rest with
    | .sign :: rest =>
      let (b, rest) ← operand fuel rest
      (fun f => (f, rest)) <$> a.add b
    | _ => pure (a, rest)

/-- A literal that is no sum. -/
def operand : Nat → List Token → Option (Form × List Token)
  | 0, _ => none
  | fuel + 1, ts =>
    match ts with
    | .sign :: rest => do
      let (a, rest) ← operand fuel rest
      (fun f => (f, rest)) <$> a.sign
    | .number imaginary :: rest => some (.number imaginary, rest)
    | .text isBytes :: rest => (fun r => (.value true, r)) <$> textsAfter isBytes rest
    | .constant :: rest => some (.value true, rest)
    | .setName :: .opens :: .closes :: rest => some (.value false, rest)
    | .opens :: .closes :: rest => some (.value true, rest)
    | .opens :: rest =>
      match afterSetName (.opens :: rest) with
      | some (.opens :: .closes :: rest) => some (.value false, rest)
      | _ => do
        let (items, hasComma, rest) ← forms fuel rest
        match rest with
        | .closes :: rest => pure (.group items hasComma, rest)
        | _ => none
    | .opensBrace :: .closesBrace :: rest => some (.value false, rest)
    | .opensBrace :: rest => do
      let rest ← members fuel none rest
      pure (.value false, rest)
    | _ => none

/-- Literals with commas between them, and whether there is a comma after one. -/
def forms : Nat → List Token → Option (List Form × Bool × List Token)
  | 0, _ => none
  | fuel + 1, ts => do
    let (a, rest) ← form fuel ts
    match rest with
    | .comma :: rest =>
      match rest with
      | [] | .closes :: _ | .newline :: _ => pure ([a], true, rest)
      | _ => do
        let (more, _, rest) ← forms fuel rest
        pure (a :: more, true, rest)
    | _ => pure ([a], false, rest)

/-- What is left after the members of a mapping or a set and the brace that closes it; the first member
tells which of the two it is. -/
def members : Nat → Option Bool → List Token → Option (List Token)
  | 0, _, _ => none
  | fuel + 1, isMap, ts => do
    let (key, rest) ← form fuel ts
    if !key.isKey then none
    let hasValue := rest.head? == some .colon
    if isMap.any (· != hasValue) then none
    let rest ← if hasValue then (·.2) <$> form fuel rest.tail else some rest
    match rest with
    | .closesBrace :: rest => pure rest
    | .comma :: .closesBrace :: rest => pure rest
    | .comma :: rest => members fuel (some hasValue) rest
    | _ => none

end

/-- Whether characters are a literal. -/
def isLiteral (knows : List Char → Bool) (s : List Char) : Bool :=
  if s.contains '\x00' then false
  else
    match (start 0 0 (Text.unify (s.dropWhile fun c => c == ' ' || c == '\t'))).bind (tokens knows 0) with
    | none => false
    | some ts =>
      match forms (3 * ts.length + 3) ts with
      | some (_, _, rest) => rest.all (· == .newline)
      | none => false

/-- Whether a character may stand in the name of a handler. -/
def isNameChar (c : Char) : Bool := Text.isWordChar c || c == '.'

/-- The literal in parameters: what stands in brackets after a name, nothing after a name alone, and
otherwise all of them. -/
def literalOf (s : List Char) : List Char :=
  match s.dropWhile isNameChar with
  | [] => ['(', ')']
  | '(' :: rest =>
    if rest.getLast? == some ')' && !rest.contains '\n' then '(' :: rest else s
  | _ => s

/-- Whether parameters have the form of a literal, or of a name with one in brackets. -/
def accepted (knows : List Char → Bool) (parameters : Text) : Bool :=
  match Text.chars? (Text.trim parameters) with
  | none => false
  | some s => isLiteral knows (literalOf s)

end ExtensionProbe.Markup.Parameters
