import ExtensionProbe.Template.Field

/-!
# Templates

A template is a text with fields, each of which a percent sign starts. It is filled with values in their
order, or with those of a mapping by their names.

* `fill_plain`: a template without fields is its own text if there are no values.
-/

namespace ExtensionProbe.Template

/-- The values to fill a template with: those that are still to be used in order, the entries that names
lead to, and whether every value must be used. -/
structure Supply where
  next : List Data
  named : Option (List (Data × Data)) := none
  strict : Bool := true

namespace Supply

/-- The values in a row, or one value; the entries of a mapping go by their names. -/
def ofData : Data → Supply
  | .tuple items => { next := items }
  | .map es => { next := [.map es], named := some es, strict := false }
  | .list items => { next := [.list items], strict := false }
  | .bytes b => { next := [.bytes b], strict := false }
  | d => { next := [d] }

/-- The next value, and what is left. -/
def take (s : Supply) : Except Fault (Data × Supply) :=
  match s.next with
  | [] => .error .tooFewValues
  | d :: rest => .ok (d, { s with next := rest })

/-- The value with a name becomes the only one in order. -/
def select (s : Supply) (es : List (Data × Data)) (name : Text) : Except Fault Supply :=
  match Data.lookup es name with
  | none => .error (.missing name)
  | some d => .ok { s with next := [d] }

end Supply

/-- The text up to the bracket that closes as many as are open, and the rest. -/
def closing (depth : Nat) : Text → Option (Text × Text)
  | [] => none
  | c :: rest =>
    if c = ')' && depth = 0 then some ([], rest)
    else
      let depth := if c = ')' then depth - 1 else if c = '(' then depth + 1 else depth
      (closing depth rest).map fun r => (c :: r.1, r.2)

/-- Reads the name of a field, if it has one. -/
def readName (supply : Supply) (s : Text) : Except Fault (Supply × Text) :=
  match s with
  | .char '(' :: rest =>
    match supply.named, closing 0 rest with
    | none, _ => .error .unnamed
    | some _, none => .error .openName
    | some es, some (name, rest) => do
      let supply ← supply.select es name
      pure (supply, rest)
  | _ => .ok (supply, s)

/-- Whether a character is a flag of a field. -/
def isFlag (c : Code) : Bool := c == '-' || c == '+' || c == ' ' || c == '#' || c == '0'

/-- The digits at the start of a text. -/
def leadingDigits : Text → List Char
  | .char c :: rest => if c.isDigit then c :: leadingDigits rest else []
  | _ => []

/-- A number in a field that a value gives must be below a bound on both sides. -/
def bounded (bound : Nat) (fault : Fault) (n : Int) : Except Fault Int :=
  if -(bound : Int) ≤ n ∧ n < bound then .ok n else .error fault

/-- Reads a number in a field: its digits, or a star for the next value; nothing counts as none. Digits
and values have a fault each for what is out of bounds. -/
def readCount (bound : Nat) (fault taken : Fault) (supply : Supply) (s : Text) :
    Except Fault (Option Int × Supply × Text) :=
  match s with
  | .char '*' :: rest => do
    let (d, supply) ← supply.take
    let n ← bounded bound taken (← wholeNumber d)
    pure (some n, supply, rest)
  | _ => do
    let digits := leadingDigits s
    if digits.isEmpty then pure (none, supply, s)
    else
      let n ← bounded bound fault (Nat.ofDigitChars 10 digits 0)
      pure (some n, supply, s.drop digits.length)

/-- Reads the number of places of a field, if it has a point; without a number it is zero, and so is a
negative one. -/
def readPlaces (supply : Supply) (s : Text) :
    Except Fault (Option Nat × Supply × Text) :=
  match s with
  | .char '.' :: rest => do
    let (n, supply, rest) ← readCount (Nat.pow 2 31) .places .takenPlaces supply rest
    pure (some (n.getD 0).toNat, supply, rest)
  | _ => .ok (none, supply, s)

/-- The text without the letter for the size of a number, which says nothing here. -/
def dropSize : Text → Text
  | c :: rest => if c = 'h' || c = 'l' || c = 'L' then rest else c :: rest
  | [] => []

/-- Reads a field after its percent sign. Its place is known by what is left of the template. -/
def readField (size : Nat) (supply : Supply) (s : Text) :
    Except Fault (Field × Supply × Text) := do
  let (supply, s) ← readName supply s
  let flags := s.takeWhile isFlag
  let (width, supply, s) ← readCount (Nat.pow 2 63) .width .takenWidth supply (s.drop flags.length)
  let width := width.getD 0
  let (places, supply, s) ← readPlaces supply s
  match dropSize s with
  | [] => .error .incomplete
  | c :: rest =>
    let field : Field :=
      { left := flags.contains (.char '-') || width < 0
        plus := flags.contains (.char '+')
        blank := flags.contains (.char ' ')
        alternate := flags.contains (.char '#')
        zeros := flags.contains (.char '0')
        width := width.natAbs
        places
        conversion := c
        index := size - rest.length - 1 }
    pure (field, supply, rest)

/-- The width that there is room for. -/
def maxWidth : Nat := Nat.pow 2 31

/-- The text of a field, and the values left after it. -/
def fillField (field : Field) (supply : Supply) : Except Fault (Text × Supply) := do
  let (d, supply) ← supply.take
  let written ← field.write d
  if maxWidth < field.width then .error .noRoom
  pure (field.setOut written, supply)

/-- Fills what is left of a template of the given size. Two percent signs stand for one. -/
def fillFrom (size : Nat) (supply : Supply) : Text → Except Fault Text
  | [] => if supply.strict && !supply.next.isEmpty then .error .tooManyValues else .ok []
  | c :: rest =>
    if c ≠ '%' then (c :: ·) <$> fillFrom size supply rest
    else if rest.head? = some '%' then (c :: ·) <$> fillFrom size supply rest.tail
    else
      match readField size supply rest with
      | .error e => .error e
      | .ok (field, supply, after) =>
        match fillField field supply with
        | .error e => .error e
        | .ok (s, supply) =>
          (s ++ ·) <$> fillFrom size supply (rest.drop (rest.length - after.length))
termination_by s => s.length
decreasing_by
  all_goals simp only [List.length_cons, List.length_drop, List.length_tail]
  all_goals omega

/-- Fills a template with a value, with the values of a row, or with those of a mapping. -/
def fill (template : Text) (values : Data) : Except Fault Text :=
  fillFrom template.length (.ofData values) template

theorem fill_plain {template : Text} (h : Code.char '%' ∉ template) :
    fill template (.tuple []) = .ok template := by
  have main : ∀ (s : Text) (n : Nat), Code.char '%' ∉ s → fillFrom n { next := [] } s = .ok s := by
    intro s n hs
    induction s with
    | nil => rw [fillFrom]; rfl
    | cons c rest ih =>
      rw [List.mem_cons, not_or] at hs
      rw [fillFrom, if_pos (fun e => hs.1 e.symm), ih hs.2]
      rfl
  simp [fill, Supply.ofData, main _ _ h]

end ExtensionProbe.Template
