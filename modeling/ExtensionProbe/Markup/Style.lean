import ExtensionProbe.Number.Literal
import ExtensionProbe.Text.Case
import ExtensionProbe.Text.Wrap

/-!
# Styles

A style is named by words: attributes with their abbreviations, a colour, a colour for the ground, and a
link. Two names that give the same style are the same name in `normal`; a name that gives no style is its
own in small letters. A colour of three parts may have a part that is no number, which is a fault of its
own.
-/

namespace ExtensionProbe.Markup

/-- The colours that have names. -/
def colorNames : List String :=
  ["default", "black", "red", "green", "yellow", "blue", "magenta", "cyan", "white",
    "bright_black", "bright_red", "bright_green", "bright_yellow", "bright_blue", "bright_magenta",
    "bright_cyan", "bright_white", "grey0", "gray0", "navy_blue", "dark_blue", "blue3", "blue1",
    "dark_green", "deep_sky_blue4", "dodger_blue3", "dodger_blue2", "green4", "spring_green4",
    "turquoise4", "deep_sky_blue3", "dodger_blue1", "green3", "spring_green3", "dark_cyan",
    "light_sea_green", "deep_sky_blue2", "deep_sky_blue1", "spring_green2", "cyan3",
    "dark_turquoise", "turquoise2", "green1", "spring_green1", "medium_spring_green", "cyan2",
    "cyan1", "dark_red", "deep_pink4", "purple4", "purple3", "blue_violet", "orange4", "grey37",
    "gray37", "medium_purple4", "slate_blue3", "royal_blue1", "chartreuse4", "dark_sea_green4",
    "pale_turquoise4", "steel_blue", "steel_blue3", "cornflower_blue", "chartreuse3", "cadet_blue",
    "sky_blue3", "steel_blue1", "pale_green3", "sea_green3", "aquamarine3", "medium_turquoise",
    "chartreuse2", "sea_green2", "sea_green1", "aquamarine1", "dark_slate_gray2", "dark_magenta",
    "dark_violet", "purple", "light_pink4", "plum4", "medium_purple3", "slate_blue1", "yellow4",
    "wheat4", "grey53", "gray53", "light_slate_grey", "light_slate_gray", "medium_purple",
    "light_slate_blue", "dark_olive_green3", "dark_sea_green", "light_sky_blue3", "sky_blue2",
    "dark_sea_green3", "dark_slate_gray3", "sky_blue1", "chartreuse1", "light_green",
    "pale_green1", "dark_slate_gray1", "red3", "medium_violet_red", "magenta3", "dark_orange3",
    "indian_red", "hot_pink3", "medium_orchid3", "medium_orchid", "medium_purple2",
    "dark_goldenrod", "light_salmon3", "rosy_brown", "grey63", "gray63", "medium_purple1", "gold3",
    "dark_khaki", "navajo_white3", "grey69", "gray69", "light_steel_blue3", "light_steel_blue",
    "yellow3", "dark_sea_green2", "light_cyan3", "light_sky_blue1", "green_yellow",
    "dark_olive_green2", "dark_sea_green1", "pale_turquoise1", "deep_pink3", "magenta2",
    "hot_pink2", "orchid", "medium_orchid1", "orange3", "light_pink3", "pink3", "plum3", "violet",
    "light_goldenrod3", "tan", "misty_rose3", "thistle3", "plum2", "khaki3", "light_goldenrod2",
    "light_yellow3", "grey84", "gray84", "light_steel_blue1", "yellow2", "dark_olive_green1",
    "honeydew2", "light_cyan1", "red1", "deep_pink2", "deep_pink1", "magenta1", "orange_red1",
    "indian_red1", "hot_pink", "dark_orange", "salmon1", "light_coral", "pale_violet_red1",
    "orchid2", "orchid1", "orange1", "sandy_brown", "light_salmon1", "light_pink1", "pink1",
    "plum1", "gold1", "navajo_white1", "misty_rose1", "thistle1", "yellow1", "light_goldenrod1",
    "khaki1", "wheat1", "cornsilk1", "grey100", "gray100", "grey3", "gray3", "grey7", "gray7",
    "grey11", "gray11", "grey15", "gray15", "grey19", "gray19", "grey23", "gray23", "grey27",
    "gray27", "grey30", "gray30", "grey35", "gray35", "grey39", "gray39", "grey42", "gray42",
    "grey46", "gray46", "grey50", "gray50", "grey54", "gray54", "grey58", "gray58", "grey62",
    "gray62", "grey66", "gray66", "grey70", "gray70", "grey74", "gray74", "grey78", "gray78",
    "grey82", "gray82", "grey85", "gray85", "grey89", "gray89", "grey93", "gray93"]

/-- Attributes in the order in which a style names them. -/
def attributeNames : List String :=
  ["bold", "dim", "italic", "underline", "blink", "blink2", "reverse", "conceal", "strike",
    "underline2", "frame", "encircle", "overline"]

/-- The attribute that a word or an abbreviation stands for. -/
def attribute? (word : String) : Option String :=
  match word with
  | "b" => some "bold"
  | "d" => some "dim"
  | "i" => some "italic"
  | "u" => some "underline"
  | "uu" => some "underline2"
  | "r" => some "reverse"
  | "c" => some "conceal"
  | "s" => some "strike"
  | "o" => some "overline"
  | _ => if attributeNames.contains word then some word else none

/-- The text between an opening and the closing bracket that ends a word. -/
def inBrackets? (opening word : List Char) : Option (List Char) :=
  if opening.isPrefixOf word && word.getLast? == some ')' then
    some (word.drop opening.length).dropLast
  else none

/-- Whether characters are one of the six digits, or a number, that give a colour. -/
def isPlainColor (word : List Char) : Bool :=
  let isHex (c : Char) : Bool := c.isDigit || ('a' ≤ c && c ≤ 'f')
  colorNames.contains (String.ofList word)
    || (match word with
        | '#' :: ds => ds.length == 6 && ds.all isHex
        | _ => false)
    || (match inBrackets? "color(".toList word with
        | some ds =>
          !ds.isEmpty && ds.length ≤ 3 && ds.all Char.isDigit && Nat.ofDigitChars 10 ds 0 ≤ 255
        | none => false)

/-- Whether three parts with commas between them are a colour; a part that is no number is a fault. -/
def isMixedColor (inner : List Char) : Except Literal.IntegerError Bool :=
  let isPartChar (c : Char) : Bool := (Text.digitValue? c).isSome || Text.isBlank c || c == ','
  let parts := (String.ofList inner).splitOn ","
  if inner.isEmpty || !inner.all isPartChar || parts.length != 3 then .ok false
  else do
    let values ← parts.mapM fun part => Literal.integer 10 part.toList
    pure (values.all (· ≤ 255))

/-- Whether a word in small letters is a colour: a name, six digits, a number, or three parts. -/
def isColor (word : Text) : Except Literal.IntegerError Bool :=
  match word.chars? with
  | none => .ok false
  | some cs =>
    if isPlainColor cs then .ok true
    else
      match inBrackets? "rgb(".toList cs with
      | some inner => isMixedColor inner
      | none => .ok false

/-- A style: the attributes that are set or unset, the colours and the link. -/
structure Style where
  attributes : List (String × Bool) := []
  color : Option Text := none
  ground : Option Text := none
  link : Option Text := none

/-- A style with an attribute set or unset. -/
def Style.set (s : Style) (name : String) (value : Bool) : Style :=
  { s with attributes := (name, value) :: s.attributes }

/-- What a reading gives: a style if the words name one, unless they are at fault. -/
abbrev Style.Reading := Except Literal.IntegerError (Option Style)

/-- The attribute that a text stands for. -/
def attributeOf? (word : Text) : Option String := word.toString?.bind attribute?

/-- Adds a word that needs no other one to a style, if it gives one. -/
def Style.addWord (s : Style) (word : Text) : Reading :=
  match attributeOf? word with
  | some a => .ok (some (s.set a true))
  | none => do
    if ← isColor word then pure (some { s with color := some word }) else pure none

/-- Adds the words of a name to a style, if they give one. -/
def Style.add (s : Style) : List Text → Reading
  | [] => .ok (some s)
  | [word] => s.addWord word.lower
  | word :: next :: rest =>
    if word.lower = "on" then do
      if ← isColor next.lower then Style.add { s with ground := some next.lower } rest
      else pure none
    else if word.lower = "not" then
      match attributeOf? next with
      | some a => (s.set a false).add rest
      | none => .ok none
    else if word.lower = "link" then Style.add { s with link := some next } rest
    else do
      match ← s.addWord word.lower with
      | some s => s.add (next :: rest)
      | none => pure none
termination_by words => words.length

/-- The one name of a style. -/
def Style.name (s : Style) : Text :=
  let attributes : List Text := attributeNames.filterMap fun a =>
    (s.attributes.lookup a).map fun value => Text.ofString (if value then a else "not " ++ a)
  let words : List Text := attributes ++ s.color.toList
    ++ (s.ground.toList.flatMap fun c => [("on" : Text), c])
    ++ (s.link.toList.flatMap fun l => [("link" : Text), l])
  if words.isEmpty then "none" else Text.join " " words

/-- The style that a name gives, if it gives one. -/
def Style.read (name : Text) : Reading :=
  match (Text.words name).map Text.trim with
  | [word] => if word = "none" then .ok (some {}) else Style.add {} [word]
  | words => Style.add {} words

/-- The one name of the style that a name gives. -/
def normal (name : Text) : Except Literal.IntegerError Text :=
  return match ← Style.read name with
    | some s => s.name
    | none => (Text.trim name).lower

end ExtensionProbe.Markup
