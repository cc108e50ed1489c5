import ExtensionProbe.Text

/-!
# Blank characters

The white space of every script, and texts without it at their ends.

* `isBlank_of_isWhitespace`: the white space that the core library knows is blank.
* `trimStart_cons_of_not_blank`: a text that starts with a character that is not blank keeps its start.
-/

namespace ExtensionProbe.Text

/-- Whether a character is white space of some script. -/
def isBlank (c : Char) : Bool :=
  let n := c.toNat
  (0x9 ≤ n && n ≤ 0xD) || (0x1C ≤ n && n ≤ 0x20) || n == 0x85 || n == 0xA0 || n == 0x1680
    || (0x2000 ≤ n && n ≤ 0x200A) || n == 0x2028 || n == 0x2029 || n == 0x202F || n == 0x205F
    || n == 0x3000

theorem isBlank_of_isWhitespace {c : Char} (h : c.isWhitespace = true) : isBlank c = true := by
  simp only [Char.isWhitespace, Bool.or_eq_true, decide_eq_true_eq] at h
  rcases h with ((rfl | rfl) | rfl) | rfl <;> rfl

/-- A text without the blanks at its start. -/
def trimStart (s : Text) : Text :=
  s.dropWhile (·.is isBlank)

/-- A text without the blanks at its end. -/
def trimEnd (s : Text) : Text :=
  (s.reverse.dropWhile (·.is isBlank)).reverse

/-- A text without the blanks at both ends. -/
def trim (s : Text) : Text :=
  trimEnd (trimStart s)

theorem trimStart_cons_of_not_blank {c : Code} {s : Text} (h : c.is isBlank = false) :
    trimStart (c :: s) = c :: s := by
  simp [trimStart, h]

theorem trimEnd_append_of_not_blank {c : Code} {s : Text} (h : c.is isBlank = false) :
    trimEnd (s ++ [c]) = s ++ [c] := by
  simp [trimEnd, h]

end ExtensionProbe.Text
