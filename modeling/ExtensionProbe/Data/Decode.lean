import ExtensionProbe.Data.Issue

/-!
# Checking values

The coercions that every record shares: texts, whole numbers, booleans, rows and the fields of records.

* `text_text`, `integer_int`, `boolean_bool`: a value of the right kind is taken as it is.
* `required_eq_ok_iff`: a field that must be there is accepted exactly if it is there and accepted.
* `closed_eq_ok_iff`: a record is accepted exactly if its parts are and it has no other names.
-/

namespace ExtensionProbe.Decode

open Checked

/-- A text, or bytes that are one in UTF-8. -/
def text : Data → Checked Text
  | .text s => .ok s
  | .bytes b =>
    match String.fromUTF8? ⟨b.toArray⟩ with
    | some s => .ok s
    | none => issue .notUnicode
  | _ => issue .notText

@[simp] theorem text_text (s : Text) : text (.text s) = .ok s := rfl

/-- A text without halves. -/
def string (d : Data) : Checked String := do
  match (← text d).toString? with
  | some s => .ok s
  | none => issue .notUnicode

@[simp] theorem string_text (s : String) : string (.text s) = .ok s := by
  simp [string, bind, Except.bind]

/-- A string with something in it. -/
def nonEmptyText (d : Data) : Checked String := do
  let s ← string d
  if s.isEmpty then issue .tooShort else .ok s

/-- Nothing, or a value. -/
def orNull {α : Type} (decode : Data → Checked α) : Data → Checked (Option α)
  | .null => .ok none
  | d => some <$> decode d

/-- White space around a number. -/
def isSpace (c : Char) : Bool :=
  Text.isBlank c && !(0x1C ≤ c.toNat && c.toNat ≤ 0x1F)

/-- A text without its underscores, each of which stands between two other characters. -/
def ungroup : List Char → Option (List Char)
  | [] => some []
  | '_' :: _ => none
  | [c] => some [c]
  | c :: '_' :: d :: rest => (ungroup (d :: rest)).map (c :: ·)
  | [_, '_'] => none
  | c :: rest => (ungroup rest).map (c :: ·)

/-- The text of a number without a fraction of zeros. -/
def dropZeroFraction (s : List Char) : Option (List Char) :=
  match s.dropWhile (· != '.') with
  | [] => some s
  | _ :: zeros =>
    if !zeros.isEmpty && zeros.all (· == '0') then some (s.takeWhile (· != '.')) else none

/-- A text from its first digit on that is no zero, or from a sign on; `last` is the character before.
Zeros and underscores before it are left out, but for the last of them where nothing else is left or a
point follows. -/
def afterZeros (last : Char) : List Char → Option (List Char)
  | [] => some [last]
  | c :: rest =>
    if c == '0' || c == '_' then afterZeros c rest
    else if c == '.' then some (last :: c :: rest)
    else if c == '-' || c.isDigit then some (c :: rest)
    else none

/-- The text of a number without a plus sign and without zeros at its start. -/
def dropZeros : List Char → Option (List Char)
  | '+' :: '-' :: _ => none
  | '+' :: rest => start rest
  | s => start s
where
  /-- The text of a number without zeros at its start. -/
  start : List Char → Option (List Char)
    | '0' :: rest => afterZeros '0' rest
    | c :: rest => if c == '-' || c.isDigit then some (c :: rest) else none
    | [] => none

/-- Whether a number is one of 64 bits with a sign. -/
def isWord (n : Int) : Bool := decide (-Nat.pow 2 63 ≤ n) && decide (n < Nat.pow 2 63)

/-- Whether a whole double lies within the numbers of 64 bits with a sign. The least of these is left
out, as the number beyond the greatest is the next double. -/
def fitsWord (n : Int) : Bool := decide (n.natAbs < Nat.pow 2 63)

/-- Whether a text starts with a number of too many digits, zeros at the start aside. -/
def startsTooLong (s : List Char) : Bool :=
  let digits := match s with
    | '-' :: rest => rest
    | rest => rest
  digits.head? != some '0'
    && Decimal.maxDigits < (digits.takeWhile Char.isDigit).length + (s.length - digits.length)

/-- The number of a text that has a sign and digits only. A number of more than 64 bits must not have
too many digits. -/
def signed? (s : List Char) : Option Int :=
  let (negative, digits) := match s with
    | '-' :: rest => (true, rest)
    | rest => (false, rest)
  if digits.isEmpty || !digits.all Char.isDigit then none
  else
    let n : Int := Nat.ofDigitChars 10 digits 0
    let n := if negative then -n else n
    if isWord n || digits.length ≤ Decimal.maxDigits then some n else none

/-- A whole number in writing: a sign, grouped digits and a fraction of zeros, blanks around. -/
def integerText (s : String) : Checked Int :=
  if startsTooLong s.toList then issue .integerSize
  else
    let body := ((s.toList.dropWhile isSpace).reverse.dropWhile isSpace).reverse
    match (((dropZeros body).bind dropZeroFraction).bind ungroup).bind signed? with
    | none => issue .integerSyntax
    | some n => .ok n

/-- A whole number, or what can be read as one. -/
def integer : Data → Checked Int
  | .int n => .ok n
  | .bool b => .ok (if b then 1 else 0)
  | .float (.finite s m e) =>
    match (Binary64.finite s m e).toInt? with
    | some n => if fitsWord n then .ok n else issue .integerSize
    | none => issue .fraction
  | .float _ => issue .notFinite
  | .text t =>
    match t.toString? with
    | some s => integerText s
    | none => issue .notUnicode
  | .bytes b =>
    match String.fromUTF8? ⟨b.toArray⟩ with
    | some s => integerText s
    | none => issue .integerSyntax
  | _ => issue .notInteger

@[simp] theorem integer_int (n : Int) : integer (.int n) = .ok n := rfl

/-- A whole number that is not below a bound. -/
def integerFrom (bound : Int) (d : Data) : Checked Int := do
  let n ← integer d
  if n < bound then issue .tooSmall else .ok n

/-- A number of things. -/
def natural (d : Data) : Checked Nat :=
  Int.toNat <$> integerFrom 0 d

theorem natural_int (n : Nat) : natural (.int n) = .ok n := by
  simp [natural, integerFrom, bind, Except.bind, Functor.map, Except.map,
    show ¬ ((n : Int) < 0) by omega]

/-- The words for true and false. -/
def booleanText (s : String) : Checked Bool :=
  let word := String.ofList (s.toList.map Char.toLower)
  if ["0", "off", "f", "false", "n", "no"].contains word then .ok false
  else if ["1", "on", "t", "true", "y", "yes"].contains word then .ok true
  else issue .booleanSyntax

/-- The boolean that a whole number stands for. Another number that fits into 64 bits is none; one
that does not is no candidate. -/
def booleanNumber (fits : Bool) (n : Int) : Checked Bool :=
  if n = 0 then .ok false
  else if n = 1 then .ok true
  else if fits then issue .booleanSyntax
  else issue .notBoolean

/-- A boolean, or what can be read as one. -/
def boolean : Data → Checked Bool
  | .bool b => .ok b
  | .int n => booleanNumber (isWord n) n
  | .float x =>
    match x.toInt? with
    | some n => booleanNumber (fitsWord n) n
    | none => issue .notBoolean
  | .text t =>
    match t.toString? with
    | some s => booleanText s
    | none => issue .notUnicode
  | .bytes b =>
    match String.fromUTF8? ⟨b.toArray⟩ with
    | some s => booleanText s
    | none => issue .booleanSyntax
  | _ => issue .notBoolean

@[simp] theorem boolean_bool (b : Bool) : boolean (.bool b) = .ok b := rfl

/-- The members of a row of any kind, or an issue. -/
def items (otherwise : IssueKind) : Data → Checked (List Data)
  | .list xs => .ok xs
  | .tuple xs => .ok xs
  | .set xs => .ok xs
  | _ => issue otherwise

/-- A row of checked members. -/
def row {α : Type} (otherwise : IssueKind) (decode : Data → Checked α) (d : Data) :
    Checked (List α) :=
  match items otherwise d with
  | .ok xs => each decode xs
  | .error es => .error es

/-- The entries of a record. -/
def entries : Data → Checked (List (Data × Data))
  | .map es => .ok es
  | _ => issue .notRecord

/-- A field that must be there. -/
def required {α : Type} (es : List (Data × Data)) (name : String) (decode : Data → Checked α) :
    Checked α :=
  match Data.lookup es name with
  | some d => under (.field name) (decode d)
  | none => under (.field name) (issue .missing)

/-- A field with a default. -/
def withDefault {α : Type} (es : List (Data × Data)) (name : String) (default : α)
    (decode : Data → Checked α) : Checked α :=
  match Data.lookup es name with
  | some d => under (.field name) (decode d)
  | none => .ok default

theorem required_eq_ok_iff {α : Type} {es : List (Data × Data)} {name : String}
    {decode : Data → Checked α} {x : α} :
    required es name decode = .ok x ↔ ∃ d, Data.lookup es name = some d ∧ decode d = .ok x := by
  unfold required
  cases Data.lookup es name <;> simp [under_eq_ok_iff, issue]

theorem withDefault_eq_ok_iff {α : Type} {es : List (Data × Data)} {name : String} {default x : α}
    {decode : Data → Checked α} :
    withDefault es name default decode = .ok x ↔
      (Data.lookup es name = none ∧ default = x) ∨
        ∃ d, Data.lookup es name = some d ∧ decode d = .ok x := by
  unfold withDefault
  cases Data.lookup es name <;> simp [under_eq_ok_iff]

/-- The name by which a key that is not a text is reported. -/
def keyName (key : Data) : String :=
  match key with
  | .bool b => if b then "1" else "0"
  | _ =>
    match key.literal with
    | .ok s => s
    | .error _ => "<unprintable " ++ key.kindName ++ " object>"

/-- What is wrong with one entry of a record that has only the given fields. -/
def checkKey (names : List String) : Data → Checked Unit
  | .text t =>
    match t.toString? with
    | some s => if names.contains s then .ok () else under (.field s) (issue .unknownField)
    | none => issue .notUnicode
  | key => under (.field (keyName key)) (issue .keyNotText)

/-- A record with no fields but the given ones. -/
def onlyFields (names : List String) : List (Data × Data) → Checked Unit
  | [] => .ok ()
  | (key, _) :: rest => (fun _ => ()) <$> both (checkKey names key) (onlyFields names rest)

/-- Whether a key is a text with halves. -/
def isTorn : Data → Bool
  | .text t => t.toString?.isNone
  | _ => false

/-- A record of checked parts with no fields but the given ones. A name with halves is all that is told of
a record. -/
def closed {α : Type} (names : List String) (es : List (Data × Data)) (parts : Checked α) : Checked α :=
  if es.any (isTorn ·.1) then issue .notUnicode else whileKeeping parts (onlyFields names es)

theorem closed_eq_ok_iff {α : Type} {names : List String} {es : List (Data × Data)}
    {parts : Checked α} {x : α} :
    closed names es parts = .ok x ↔
      (∀ e ∈ es, isTorn e.1 = false) ∧ parts = .ok x ∧ onlyFields names es = .ok () := by
  unfold closed
  by_cases h : es.any (isTorn ·.1) = true
  · simp only [h, if_true, issue]
    constructor
    · intro h'; cases h'
    · rintro ⟨h', _⟩
      obtain ⟨e, he, ht⟩ := List.any_eq_true.mp h
      rw [h' e he] at ht
      cases ht
  · rw [if_neg h, whileKeeping_eq_ok_iff]
    simp only [List.any_eq_true, not_exists, not_and, Bool.not_eq_true] at h
    exact ⟨fun h' => ⟨fun e he => h e he, h'⟩, fun h' => h'.2⟩

end ExtensionProbe.Decode
