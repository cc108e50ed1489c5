import ExtensionProbe.Markup.Symbol.Names
import ExtensionProbe.Text.Blank
import ExtensionProbe.Text.Case
import ExtensionProbe.Text.Hex

/-!
# Symbols by name

A name between colons stands for a symbol. After a dash the name may say in which form the symbol is
wanted, as `text` or as `emoji`. A name that no symbol goes by stays as it is.

* `replace_of_no_colon`: a text without colons is seen as it is.
-/

namespace ExtensionProbe.Markup.Symbol

/-- The text that a row of code points in hexadecimal digits stands for. -/
def decode (points : String) : Text :=
  Text.ofChars ((points.splitOn ".").map fun p =>
    Char.ofNat (p.toList.foldl (fun n d => 16 * n + (Text.Hex.value? d).getD 0) 0))

/-- The names of symbols with the digits of their code points. -/
def entries : List (String × String) :=
  ((symbolNames.splitOn "\n").flatMap (·.splitOn " ")).filterMap fun e =>
    match e.splitOn "=" with
    | [name, points] => some (name, points)
    | _ => none

/-- The symbol that goes by a name, in capitals or small letters. -/
def find? (name : Text) : Option Text := do
  let small ← name.lower.toString?
  let points ← entries.lookup small
  pure (decode points)

/-- The forms of a symbol that a name may ask for, with the characters that select them. -/
def forms : List (Text × Char) := [("-emoji", '\uFE0F'), ("-text", '\uFE0E')]

/-- A name without the form it asks for, and the character that selects the form. -/
def cutForm (name : Text) : Text × Text :=
  match forms.find? fun f => f.1.isSuffixOf name with
  | some f => (name.take (name.length - f.1.length), [.char f.2])
  | none => (name, [])

/-- What is seen of a name between colons. -/
def shown (name : Text) : Text :=
  let (base, form) := cutForm name
  match find? base with
  | some symbol => symbol ++ form
  | none => ":" ++ name ++ ":"

/-- A text with symbols for their names. -/
def replace : Text → Text
  | [] => []
  | c :: rest =>
    if c = ':' then
      let name : Text := rest.takeWhile fun (d : Code) => d != ':' && !d.is Text.isBlank
      match rest.drop name.length with
      | .char ':' :: _ => shown name ++ replace (rest.drop (name.length + 1))
      | _ => c :: replace rest
    else c :: replace rest
termination_by s => s.length
decreasing_by
  all_goals simp only [List.length_cons, List.length_drop]
  all_goals omega

end ExtensionProbe.Markup.Symbol
