import ExtensionProbe.Number.Literal

/-!
# Arguments of a command

The words after a command are options, values, and a separator after which all are values. An option may
be shortened as long as it stays the only one that starts so, and its value may follow an equals sign. A
word that the command has no use for is noted, and refused at the end.

* `classify_value`: a word that does not start with a dash is a value.
-/

namespace ExtensionProbe.Usage

/-- What an option takes: nothing, a text, or a whole number. -/
inductive Kind where
  | mark | text | number
deriving DecidableEq, Repr

/-- An option: its name after two dashes, and what it takes. -/
structure Flag where
  name : String
  kind : Kind
deriving DecidableEq, Repr

/-- What a command takes: its options, and whether it has a value that belongs to no option. -/
structure Spec where
  flags : List Flag
  hasOperand : Bool
deriving Repr

/-- How a command line ends without a command being run. -/
inductive Ending where
  /-- Help is shown. -/
  | help
  /-- The words are none of a command. -/
  | misuse
deriving DecidableEq, Repr

/-- The option that asks for help; one dash and its first letter ask for it too. -/
def help : Flag := ⟨"help", .mark⟩

/-- What a word is. An option may bring its value, and may be written with one dash. -/
inductive Word where
  | value (s : Text)
  | separator
  | unknown
  | flag (f : Flag) (short : Bool) (value : Option Text)
deriving DecidableEq, Repr

/-- Whether a word is a negative number, whole or with places. -/
def isNegativeNumber (s : Text) : Bool :=
  match s with
  | .char '-' :: rest =>
    let number := if rest.getLast? == some (.char '\n') then rest.dropLast else rest
    let whole := number.takeWhile (Code.is Text.isDecimal)
    match number.drop whole.length with
    | [] => !whole.isEmpty
    | .char '.' :: places => !places.isEmpty && places.all (Code.is Text.isDecimal)
    | _ => false
  | _ => false

/-- A word in two, before and after its first equals sign. -/
def cutValue (s : Text) : Text × Option Text :=
  let name : Text := s.takeWhile fun (c : Code) => c != '='
  match s.drop name.length with
  | [] => (s, none)
  | _ :: value => (name, some value)

/-- The options of a command that a word with two dashes may stand for. -/
def candidates (spec : Spec) (name : Text) : List Flag :=
  (help :: spec.flags).filter fun f => name.isPrefixOf (Text.ofString f.name)

/-- The option of a command with a name. -/
def named? (spec : Spec) (name : Text) : Option Flag :=
  (help :: spec.flags).find? fun f => Text.ofString f.name == name

/-- A word that is no option of a command: it may look like a value all the same. -/
def otherWord (s : Text) : Word :=
  if isNegativeNumber s || s.contains ' ' then .value s else .unknown

/-- What a word of a command line is. -/
def classify (spec : Spec) (s : Text) : Except Ending Word :=
  match s with
  | .char '-' :: .char '-' :: rest =>
    let (name, value) := cutValue rest
    match named? spec rest, named? spec name with
    | some f, _ => .ok (.flag f false none)
    | none, some f => .ok (.flag f false value)
    | none, none =>
      match candidates spec name with
      | [] => .ok (otherWord s)
      | [f] => .ok (.flag f false value)
      | _ => .error .misuse
  | [.char '-', .char 'h'] => .ok (.flag help true none)
  | .char '-' :: .char 'h' :: .char '=' :: value => .ok (.flag help true (some value))
  | .char '-' :: .char 'h' :: rest => .ok (.flag help true (some rest))
  | [.char '-'] => .ok (.value s)
  | .char '-' :: _ => .ok (otherWord s)
  | _ => .ok (.value s)

/-- The word that stands before values only. -/
def separator : Text := "--"

/-- What the words of a command line are; after the separator all are values. -/
def classifyAll (spec : Spec) : List Text → Except Ending (List Word)
  | [] => .ok []
  | s :: rest =>
    if s == separator then .ok (.separator :: rest.map .value)
    else do
      let w ← classify spec s
      let more ← classifyAll spec rest
      pure (w :: more)

/-- The whole number that a word stands for. -/
def integer? (s : Text) : Option Int :=
  (Text.chars? s).bind fun cs => (Literal.integer 10 cs).toOption

/-- What the words of a command line give: options with their values, the value that belongs to no
option, and whether there are words without a use. -/
structure Given where
  flags : List (String × Text) := []
  operand : Option Text := none
  surplus : Bool := false
deriving Repr

namespace Given

/-- The value of the last option with a name. -/
def value? (g : Given) (name : String) : Option Text := g.flags.lookup name

/-- Whether an option is given. -/
def has (g : Given) (name : String) : Bool := (g.value? name).isSome

/-- The number that the last option with a name gives. -/
def number? (g : Given) (name : String) : Option Int := (g.value? name).bind integer?

end Given

/-- Adds an option with its value. -/
def addValue (f : Flag) (value : Text) (g : Given) : Except Ending Given :=
  let g := { g with flags := (f.name, value) :: g.flags }
  match f.kind with
  | .number => if (integer? value).isSome then .ok g else .error .misuse
  | _ => .ok g

/-- An option without a value at the end of its word. -/
def addMark (f : Flag) (g : Given) : Except Ending Given :=
  if f = help then .error .help else addValue f [] g

/-- An option that brings its value. Letters after one dash may be further options without a value; the
one for help is the only one. -/
def addAttached (f : Flag) (short : Bool) (value : Text) (g : Given) : Except Ending Given :=
  if f.kind ≠ .mark then addValue f value g
  else if short && !value.isEmpty && value.all (· == .char 'h') then .error .help
  else .error .misuse

/-- Takes a value that belongs to no option, if the command has one and it is not given yet. -/
def addOperand (spec : Spec) (value : Text) (g : Given) : Given :=
  if spec.hasOperand && g.operand.isNone then { g with operand := some value }
  else { g with surplus := true }

/-- Takes words in order. A separator beside the value that belongs to no option goes with it. -/
def take (spec : Spec) (g : Given) : List Word → Except Ending Given
  | [] => .ok g
  | .unknown :: rest => take spec { g with surplus := true } rest
  | .flag f short (some value) :: rest => do
    let g ← addAttached f short value g
    take spec g rest
  | .flag f _ none :: rest =>
    if f.kind = .mark then do
      let g ← addMark f g
      take spec g rest
    else
      match rest with
      | .value s :: rest => do
        let g ← addValue f s g
        take spec g rest
      | _ => .error .misuse
  | .value s :: .separator :: rest =>
    if spec.hasOperand && g.operand.isNone then take spec { g with operand := some s } rest
    else take spec { g with surplus := true } rest
  | .value s :: rest => take spec (addOperand spec s g) rest
  | .separator :: .value s :: rest =>
    if spec.hasOperand && g.operand.isNone then take spec { g with operand := some s } rest
    else take spec { g with surplus := true } rest
  | .separator :: rest => take spec { g with surplus := true } rest

/-- Reads the words of a command line. -/
def read (spec : Spec) (words : List Text) : Except Ending Given := do
  let ws ← classifyAll spec words
  take spec {} ws

end ExtensionProbe.Usage
