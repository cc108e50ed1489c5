import ExtensionProbe.Data
import ExtensionProbe.Number.Shortest
import ExtensionProbe.Text.Quoted

/-!
# Values in messages

A value in a message is written the way it would be typed in: texts between quotes, containers with
their members. A text that is the whole message stands without quotes (`display`).

* `display_text`: a text is shown as itself.
-/

namespace ExtensionProbe.Data

/-- A byte between quotes `q`. -/
def escapeByte (q : Char) (b : UInt8) : List Char :=
  let c := Char.ofNat b.toNat
  if c == q || c == '\\' then ['\\', c]
  else if c == '\n' then ['\\', 'n']
  else if c == '\r' then ['\\', 'r']
  else if c == '\t' then ['\\', 't']
  else if 0x20 ≤ b.toNat && b.toNat < 0x7F then [c]
  else '\\' :: 'x' :: Text.Hex.fixed 2 b.toNat

/-- Bytes in writing. -/
def bytesLiteral (b : List UInt8) : String :=
  let q := Text.quoteFor (Text.ofNumbers (b.map UInt8.toNat))
  String.ofList ('b' :: q :: b.flatMap (escapeByte q) ++ [q])

/-- A day in writing. -/
def dateLiteral (d : Date) : String :=
  s!"datetime.date({d.year}, {d.month}, {d.day})"

/-- A timestamp in writing. -/
def timestampLiteral (t : Timestamp) : String :=
  let small :=
    if t.time.microsecond ≠ 0 then [t.time.second, t.time.microsecond]
    else if t.time.second ≠ 0 then [t.time.second]
    else []
  let parts := [t.date.year, t.date.month, t.date.day, t.time.hour, t.time.minute] ++ small
  let zone :=
    match t.offset with
    | none => []
    | some 0 => ["tzinfo=datetime.timezone.utc"]
    | some m => ["tzinfo=datetime.timezone(" ++ CalendarError.offsetParts m ++ ")"]
  "datetime.datetime(" ++ ", ".intercalate (parts.map toString ++ zone) ++ ")"

/-- Members between brackets. -/
def between (opening closing : String) (members : List String) : String :=
  opening ++ ", ".intercalate members ++ closing

/-- Why a value is not shown. -/
inductive DisplayError where
  /-- A whole number has too many digits. -/
  | number (e : Decimal.LimitError)
  /-- Values are nested too deeply. -/
  | depth
deriving DecidableEq, Repr

/-- The wording of an error. -/
def DisplayError.message : DisplayError → String
  | .number e => e.message
  | .depth => "maximum recursion depth exceeded while getting the repr of an object"

/-- The levels of nesting that are shown: of the thousand calls that may be within one another, ten are left to
what asks for the text. -/
def maxShownDepth : Nat := 990

mutual

/-- A value at a level of nesting, the way it would be typed in. -/
def literalAt (level : Nat) (d : Data) : Except DisplayError String :=
  if maxShownDepth ≤ level then .error .depth
  else
    match d with
    | null => pure "None"
    | bool b => pure (if b then "True" else "False")
    | int n => (Decimal.writeInt n).mapError .number
    | float x => pure x.text
    | text s => pure (Text.quote s)
    | bytes b => pure (bytesLiteral b)
    | date d => pure (dateLiteral d)
    | timestamp t => pure (timestampLiteral t)
    | path s => pure ("PosixPath(" ++ Text.quote s ++ ")")
    | list items => between "[" "]" <$> literalsAt (level + 1) items
    | tuple [item] => (fun s => "(" ++ s ++ ",)") <$> literalAt (level + 1) item
    | tuple items => between "(" ")" <$> literalsAt (level + 1) items
    | set [] => pure "set()"
    | set items => between "\x7b" "\x7d" <$> literalsAt (level + 1) items
    | map entries => between "\x7b" "\x7d" <$> entriesAt (level + 1) entries
    | failureKind name => pure ("<class '" ++ name ++ "'>")
    | failure kind arguments => between (kind ++ "(") ")" <$> literalsAt (level + 1) arguments

/-- Members at a level of nesting. -/
def literalsAt (level : Nat) : List Data → Except DisplayError (List String)
  | [] => pure []
  | item :: rest => do
    let s ← literalAt level item
    let more ← literalsAt level rest
    pure (s :: more)

/-- Entries of a mapping at a level of nesting. -/
def entriesAt (level : Nat) : List (Data × Data) → Except DisplayError (List String)
  | [] => pure []
  | (k, v) :: rest => do
    let key ← literalAt level k
    let value ← literalAt level v
    let more ← entriesAt level rest
    pure ((key ++ ": " ++ value) :: more)

end

/-- A value the way it would be typed in. -/
def literal (d : Data) : Except DisplayError String := literalAt 0 d

/-- A value as a message of its own. -/
def display : Data → Except DisplayError Text
  | text s => pure s
  | date d => pure d.text
  | timestamp t => pure (t.textWith " ")
  | path s => pure s
  | x => Text.ofString <$> literal x

@[simp] theorem display_text (s : Text) : display (text s) = .ok s := rfl

end ExtensionProbe.Data
