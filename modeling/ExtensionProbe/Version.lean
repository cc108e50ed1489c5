import ExtensionProbe.Log.Event
import ExtensionProbe.Number.Decimal
import ExtensionProbe.Text.Blank
import ExtensionProbe.Text.Quoted

/-!
# Host versions

A host version is a major and a minor number with an optional qualifier, as in `2.530-SNAPSHOT`. Only
the two numbers take part in comparisons; the qualifier is information.

* `cut_eq_none_iff`: a text cannot be cut exactly if it has no separator.
* `eq_append_of_cut`: a cut text is its two parts with the separator between them.
* `digits?_eq_some_iff`: a number is a run of ASCII digits.
* `agrees_iff`, `precedes_iff`, `atMost_iff`, `follows_iff`, `reaches_iff`, `atLeast_iff`: comparing is
  comparing the pairs of numbers.
-/

namespace ExtensionProbe

/-- The version of a host. -/
structure Version where
  major : Nat
  minor : Nat
  qualifier : Option Text := none
deriving DecidableEq, Repr

namespace Version

/-- The numbers of a version, by which it is compared. -/
def numbers (v : Version) : Nat × Nat := (v.major, v.minor)

/-- The hash of a version: that of its numbers, where `mix` hashes pairs of numbers. -/
def hashBy (mix : Nat × Nat → UInt64) (v : Version) : UInt64 := mix v.numbers

/-- Whether two versions have the same numbers. -/
def agrees (a b : Version) : Bool :=
  a.major == b.major && a.minor == b.minor

/-- Whether two versions have different numbers. -/
def differs (a b : Version) : Bool := !a.agrees b

/-- Whether a version is older than another one. -/
def precedes (a b : Version) : Bool :=
  a.major < b.major || (a.major == b.major && a.minor < b.minor)

/-- Whether a version is the same as another one or older. -/
def atMost (a b : Version) : Bool :=
  a.major < b.major || (a.major == b.major && a.minor ≤ b.minor)

/-- Whether a version is newer than another one. -/
def follows (a b : Version) : Bool :=
  b.major < a.major || (a.major == b.major && b.minor < a.minor)

/-- Whether a version is the same as another one or newer. -/
def reaches (a b : Version) : Bool :=
  b.major < a.major || (a.major == b.major && b.minor ≤ a.minor)

/-- Whether a version is at least the given numbers, which may be negative. -/
def atLeast (v : Version) (major minor : Int) : Bool :=
  major < v.major || (major == v.major && minor ≤ v.minor)

theorem agrees_iff {a b : Version} :
    a.agrees b = true ↔ a.major = b.major ∧ a.minor = b.minor := by
  simp [agrees]

theorem precedes_iff {a b : Version} :
    a.precedes b = true ↔ a.major < b.major ∨ a.major = b.major ∧ a.minor < b.minor := by
  simp [precedes]

theorem atMost_iff {a b : Version} :
    a.atMost b = true ↔ a.major < b.major ∨ a.major = b.major ∧ a.minor ≤ b.minor := by
  simp [atMost]

theorem follows_iff {a b : Version} :
    a.follows b = true ↔ b.major < a.major ∨ a.major = b.major ∧ b.minor < a.minor := by
  simp [follows]

theorem reaches_iff {a b : Version} :
    a.reaches b = true ↔ b.major < a.major ∨ a.major = b.major ∧ b.minor ≤ a.minor := by
  simp [reaches]

theorem atLeast_iff {v : Version} {major minor : Int} :
    v.atLeast major minor = true ↔ major < v.major ∨ major = v.major ∧ minor ≤ v.minor := by
  simp [atLeast]

/-- A version in writing: the numbers with a point between them, then a dash and the qualifier if
there is one. -/
def text (v : Version) : Except Decimal.LimitError Text := do
  let major ← Decimal.write v.major
  let minor ← Decimal.write v.minor
  match v.qualifier with
  | some q =>
    if q.isEmpty then pure (major ++ "." ++ minor) else pure (major ++ "." ++ minor ++ "-" ++ q)
  | none => pure (major ++ "." ++ minor)

/-- The two numbers of a version. -/
inductive Segment where
  | major | minor
deriving DecidableEq, Repr

/-- The name of a number in messages. -/
def Segment.name : Segment → String
  | .major => "major"
  | .minor => "minor"

/-- Why a text is not a version. -/
inductive Reason where
  | notGiven
  | missingSegment
  | notNumeric (segment : Segment) (text : Text)
deriving DecidableEq, Repr

/-- The wording of a reason. -/
def Reason.message : Reason → String
  | .notGiven => "no version given"
  | .missingSegment => "expected at least major and minor segments"
  | .notNumeric segment text =>
    segment.name ++ " segment " ++ Text.quote text ++ " is not a non-negative integer"

/-- A text as given that is not a version, and why. -/
structure Rejection where
  raw : Option Text
  reason : Reason
deriving DecidableEq, Repr

/-- The wording of a rejection. -/
def Rejection.message (r : Rejection) : String :=
  "Cannot parse version " ++ (r.raw.map Text.quote).getD "None" ++ ": " ++ r.reason.message

/-- How reading a version fails: the text is not a version, or one of its numbers is too long. -/
inductive Failure where
  | rejected (r : Rejection)
  | tooLong (e : Decimal.LimitError)
deriving DecidableEq, Repr

/-- The wording of a failure. -/
def Failure.message : Failure → String
  | .rejected r => r.message
  | .tooLong e => e.message

/-- The characters between the parts of a version. -/
def isSeparator (c : Code) : Bool :=
  c == '.' || c == '-'

/-- The text before the first separator, and the text after it if there is one. -/
def cut : Text → Text × Option Text
  | [] => ([], none)
  | c :: rest =>
    if isSeparator c then ([], some rest)
    else ((c :: (cut rest).1), (cut rest).2)

theorem cut_eq_none_iff {s : Text} : (cut s).2 = none ↔ ∀ c ∈ s, isSeparator c = false := by
  induction s with
  | nil => simp [cut]
  | cons c rest ih => by_cases h : isSeparator c <;> simp [cut, h, ih]

theorem eq_append_of_cut {s rest : Text} (h : (cut s).2 = some rest) :
    ∃ c, isSeparator c = true ∧ s = (cut s).1 ++ c :: rest := by
  induction s with
  | nil => simp [cut] at h
  | cons c tail ih =>
    by_cases hc : isSeparator c
    · simp only [cut, hc, if_true, Option.some.injEq] at h
      exact ⟨c, hc, by simp [cut, hc, h]⟩
    · simp only [cut, hc, Bool.false_eq_true, if_false] at h
      obtain ⟨d, hd, hs⟩ := ih h
      refine ⟨d, hd, ?_⟩
      simp only [cut, hc, Bool.false_eq_true, if_false, List.cons_append]
      rw [← hs]

/-- The ASCII digits that a text is a run of, if it is one. -/
def digits? (s : Text) : Option (List Char) :=
  s.chars?.filter fun ds => !ds.isEmpty && ds.all Char.isDigit

theorem digits?_eq_some_iff {s : Text} {ds : List Char} :
    digits? s = some ds ↔ s = Text.ofChars ds ∧ ds ≠ [] ∧ ∀ c ∈ ds, c.isDigit = true := by
  simp only [digits?, Option.filter_eq_some_iff, Bool.and_eq_true, Bool.not_eq_true',
    List.isEmpty_eq_false_iff, List.all_eq_true]
  constructor
  · rintro ⟨h, h'⟩
    exact ⟨Text.eq_ofChars_of_chars? h, h'⟩
  · rintro ⟨rfl, h'⟩
    exact ⟨Text.chars?_ofChars ds, h'⟩

/-- Reads a version. The text without blanks at its ends is cut at its first two separators, a point
or a dash each; the first two parts are the numbers, and the rest is the qualifier. -/
def parse (raw : Option Text) : Except Failure Version :=
  match raw with
  | none => reject .notGiven
  | some given =>
    match cut (Text.trim given) with
    | (_, none) => reject .missingSegment
    | (major, some rest) =>
      let (minor, tail) := cut rest
      match digits? major, digits? minor with
      | none, _ => reject (.notNumeric .major major)
      | _, none => reject (.notNumeric .minor minor)
      | some majorDigits, some minorDigits => do
        let majorValue ← (Decimal.read majorDigits).mapError .tooLong
        let minorValue ← (Decimal.read minorDigits).mapError .tooLong
        pure ⟨majorValue, minorValue, qualifier tail⟩
where
  /-- The failure of the text as given. -/
  reject (reason : Reason) : Except Failure Version := .error (.rejected ⟨raw, reason⟩)
  /-- An empty rest is no qualifier. -/
  qualifier : Option Text → Option Text
    | none => none
    | some [] => none
    | some (c :: rest) => some (c :: rest)

/-- Where the events of this module come from. -/
def source : String := "strategyprobe.core.version"

/-- Reads a version, and reports a text that is none as an unknown version. A number that is too long
still fails. -/
def parseLenient (raw : Option Text) : Log.Logged Decimal.LimitError (Option Version) :=
  match parse raw with
  | .ok v => pure (some v)
  | .error (.tooLong e) => .fail e
  | .error (.rejected r) => do
    .emit ⟨.debug, source, "Host version treated as unknown: " ++ r.message, none⟩
    pure none

end Version

end ExtensionProbe
