import ExtensionProbe.Data.Display
import ExtensionProbe.Text.Codes

/-!
# Writing JSON

A value is written on one line or with one member a line. Only printable ASCII characters are written; a
character beyond them is escaped, as two code units if it needs two. A value that JSON has no form for is
written as the text that it is shown as.

* `escapeCode_ascii`: an escape is made of printable ASCII characters.
-/

namespace ExtensionProbe.Json

/-- Why a value is not written. -/
inductive WriteError where
  /-- A key of this kind has no form as a text. -/
  | key (kind : String)
  /-- A whole number has too many digits. -/
  | number (e : Decimal.LimitError)
  /-- Values are nested too deeply. -/
  | depth
deriving DecidableEq, Repr

/-- The wording of an error, as far as it has one of its own. -/
def WriteError.message : WriteError → String
  | .key _ => ""
  | .number e => e.message
  | .depth => "maximum recursion depth exceeded while encoding a JSON object"

/-- How the members of a value are set out: on one line, or on lines of their own, further in by so
many blanks at each level. -/
inductive Style where
  | line
  | indented (step : Nat)
deriving DecidableEq, Repr

/-- The start of a new line at a level. -/
def Style.newline (step level : Nat) : List Char := '\n' :: List.replicate (step * level) ' '

/-- What stands before the first member at a level. -/
def Style.before (s : Style) (level : Nat) : List Char :=
  match s with
  | .line => []
  | .indented step => newline step level

/-- What stands between two members at a level. -/
def Style.between (s : Style) (level : Nat) : List Char :=
  match s with
  | .line => [',', ' ']
  | .indented step => ',' :: newline step level

/-- A code unit by its number. -/
def unitEscape (n : Nat) : List Char := '\\' :: 'u' :: Text.Hex.fixed 4 n

/-- A code point within quotes. -/
def escapeCode (n : Nat) : List Char :=
  if n = 0x22 then ['\\', '"']
  else if n = 0x5C then ['\\', '\\']
  else if n = 0xA then ['\\', 'n']
  else if n = 0xD then ['\\', 'r']
  else if n = 0x9 then ['\\', 't']
  else if n = 0xC then ['\\', 'f']
  else if n = 0x8 then ['\\', 'b']
  else if 0x20 ≤ n ∧ n ≤ 0x7E then [Char.ofNat n]
  else if n < 0x10000 then unitEscape n
  else
    unitEscape (0xD800 + (n - 0x10000) / 0x400) ++ unitEscape (0xDC00 + (n - 0x10000) % 0x400)

/-- A text between quotes. -/
def quoted (s : Text) : List Char := '"' :: s.flatMap (fun c => escapeCode c.value) ++ ['"']

/-- A double; the three that are not finite go by their names. -/
def floatText (x : Binary64) : String :=
  match x with
  | .finite .. => x.text
  | .infinite false => "Infinity"
  | .infinite true => "-Infinity"
  | .nan => "NaN"

/-- A key as a text. -/
def keyText : Data → Except WriteError Text
  | .text s => .ok s
  | .float x => .ok (floatText x)
  | .bool b => .ok (Text.ofString (if b then "true" else "false"))
  | .null => .ok "null"
  | .int n => (Text.ofString <$> Decimal.writeInt n).mapError .number
  | d => .error (.key d.kindName)

mutual

/-- A value at a level of nesting, of which there is room for so many. -/
def writeAt (limit : Nat) (style : Style) (level : Nat) : Data → Except WriteError (List Char)
  | .null => .ok ['n', 'u', 'l', 'l']
  | .bool true => .ok ['t', 'r', 'u', 'e']
  | .bool false => .ok ['f', 'a', 'l', 's', 'e']
  | .int n => (String.toList <$> Decimal.writeInt n).mapError .number
  | .float x => .ok (floatText x).toList
  | .text s => .ok (quoted s)
  | .list items => writeArray limit style level items
  | .tuple items => writeArray limit style level items
  | .map [] => if level < limit then .ok ['{', '}'] else .error .depth
  | .map (e :: entries) => do
    if limit ≤ level then .error .depth
    let inner ← writeEntries limit style (level + 1) (e :: entries)
    .ok ('{' :: style.before (level + 1) ++ inner ++ style.before level ++ ['}'])
  | .set items => shown (.set items)
  | .bytes b => shown (.bytes b)
  | .date d => shown (.date d)
  | .timestamp t => shown (.timestamp t)
  | .path s => shown (.path s)
  | .failureKind name => shown (.failureKind name)
  | .failure kind arguments => shown (.failure kind arguments)
where
  /-- A value without a form of its own. -/
  shown (d : Data) : Except WriteError (List Char) :=
    (quoted <$> d.display).mapError fun e =>
      match e with
      | .number e => .number e
      | .depth => .depth

/-- A row of values at a level of nesting. -/
def writeArray (limit : Nat) (style : Style) (level : Nat) : List Data → Except WriteError (List Char)
  | [] => if level < limit then .ok ['[', ']'] else .error .depth
  | item :: rest => do
    if limit ≤ level then .error .depth
    let inner ← writeItems limit style (level + 1) (item :: rest)
    .ok ('[' :: style.before (level + 1) ++ inner ++ style.before level ++ [']'])

/-- Values with separators between them. -/
def writeItems (limit : Nat) (style : Style) (level : Nat) : List Data → Except WriteError (List Char)
  | [] => .ok []
  | [item] => writeAt limit style level item
  | item :: rest => do
    let first ← writeAt limit style level item
    let more ← writeItems limit style level rest
    .ok (first ++ style.between level ++ more)

/-- Entries with separators between them. -/
def writeEntries (limit : Nat) (style : Style) (level : Nat) :
    List (Data × Data) → Except WriteError (List Char)
  | [] => .ok []
  | [(k, v)] => do
    let key ← keyText k
    let value ← writeAt limit style level v
    .ok (quoted key ++ [':', ' '] ++ value)
  | (k, v) :: rest => do
    let key ← keyText k
    let value ← writeAt limit style level v
    let more ← writeEntries limit style level rest
    .ok (quoted key ++ [':', ' '] ++ value ++ style.between level ++ more)

end

/-- A value as a document with at most so many levels of nesting. -/
def write (limit : Nat) (style : Style) (d : Data) : Except WriteError String :=
  String.ofList <$> writeAt limit style 0 d

/-- Whether a character is printable ASCII. -/
def isPlain (c : Char) : Bool := 0x20 ≤ c.toNat && c.toNat ≤ 0x7E

theorem digit_plain (n : Nat) (h : n < 16) : isPlain (Text.Hex.digit n) := by
  revert n; decide

theorem fixed_plain (count n : Nat) : (Text.Hex.fixed count n).all isPlain := by
  induction count generalizing n with
  | zero => rfl
  | succ count ih =>
    simp [Text.Hex.fixed, ih, digit_plain (n % 16) (Nat.mod_lt _ (by decide))]

theorem unitEscape_plain (n : Nat) : (unitEscape n).all isPlain := by
  simp only [unitEscape, List.all_cons, fixed_plain]
  decide

theorem ofNat_plain : ∀ n, 0x20 ≤ n → n ≤ 0x7E → isPlain (Char.ofNat n) := by
  intro n h1 h2
  have : ∀ m < 0x7F, 0x20 ≤ m → isPlain (Char.ofNat m) := by decide
  exact this n (by omega) h1

theorem escapeCode_ascii (n : Nat) : (escapeCode n).all isPlain := by
  unfold escapeCode
  repeat' split
  all_goals first | decide | skip
  · next h => simp [ofNat_plain n h.1 h.2]
  · exact unitEscape_plain n
  · rw [List.all_append, unitEscape_plain, unitEscape_plain]; rfl

end ExtensionProbe.Json
