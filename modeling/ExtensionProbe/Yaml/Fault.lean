import ExtensionProbe.Calendar
import ExtensionProbe.Number.Literal

/-!
# Why a YAML document is not read

Most faults are of the document's form. A value with a tag may also be none of its tag's values, which is
told in words of its own.
-/

namespace ExtensionProbe.Yaml

/-- Why a document is not read. -/
inductive Fault where
  /-- The text is not YAML, or not of the tags that are known. -/
  | malformed
  /-- The bytes are not UTF-8 where the text would go on. -/
  | encoding
  /-- An escape is beyond every character. -/
  | codePoint (n : Nat)
  /-- Values are nested too deeply. -/
  | depth
  /-- A text is no whole number. -/
  | integer (e : Literal.IntegerError)
  /-- A text is no number. -/
  | number (quoted : String)
  /-- A number is an empty text. -/
  | noNumber
  /-- A text is none of the words for true and false. -/
  | boolean (word : Text)
  /-- A text is no date and no time. -/
  | timestamp
  /-- A date or a time is given as the plain value of a mapping. -/
  | indirectTimestamp
  /-- A place of a number in base sixty is beyond every double. -/
  | overflow
  /-- A date or a time is not in the calendar. -/
  | calendar (e : CalendarError)
deriving DecidableEq, Repr

/-- The greatest number that still counts as an escape of a character beyond every one. -/
def greatestEscape : Nat := 0x7FFFFFFF

/-- The wording of a fault, for those that have one of their own. -/
def Fault.message : Fault → Text
  | .malformed => ""
  | .encoding => ""
  | .codePoint n =>
    if n ≤ greatestEscape then "chr() arg not in range(0x110000)"
    else "Python int too large to convert to C int"
  | .depth => "maximum recursion depth exceeded"
  | .integer e => e.message
  | .number quoted => "could not convert string to float: " ++ quoted
  | .noNumber => "string index out of range"
  | .boolean word => word
  | .timestamp => ""
  | .indirectTimestamp => ""
  | .overflow => "int too large to convert to float"
  | .calendar e => e.message

end ExtensionProbe.Yaml
