import ExtensionProbe.Data
import ExtensionProbe.Number.Decimal
import ExtensionProbe.Text.Codes
import ExtensionProbe.Text.Hex

/-!
# Reading JSON

A reader for JSON that also takes the three numbers that are not finite. Of two members of one name the
last one counts, in the place of the first. Values nest up to a limit.

* `read_nothing`: an empty text is no document.
-/

namespace ExtensionProbe.Json

/-- Why a text is not read. -/
inductive ReadError where
  /-- The text is not JSON. -/
  | malformed
  /-- A whole number has too many digits. -/
  | number (e : Decimal.LimitError)
  /-- Arrays or objects are nested too deeply. -/
  | depth (inObject : Bool)
deriving DecidableEq, Repr

/-- Something read from the start of a text, and the rest, which is shorter. -/
structure Parsed (α : Type) (s : List Char) where
  value : α
  rest : List Char
  shorter : rest.length < s.length

/-- Whether a character may stand between the parts of a document. -/
def isBlank (c : Char) : Bool :=
  c == ' ' || c == '\t' || c == '\n' || c == '\r'

/-- A text without the blanks at its start. -/
def skip (s : List Char) : List Char := s.dropWhile isBlank

theorem length_skip_le (s : List Char) : (skip s).length ≤ s.length :=
  (List.dropWhile_suffix isBlank).length_le

/-- The code unit that a letter after a backslash stands for. -/
def escaped? : Char → Option Nat
  | '"' => some 0x22
  | '\\' => some 0x5C
  | '/' => some 0x2F
  | 'b' => some 0x8
  | 'f' => some 0xC
  | 'n' => some 0xA
  | 'r' => some 0xD
  | 't' => some 0x9
  | _ => none

/-- The code units of a text after its opening quote; those read before come first, in reverse. -/
def textUnits (read : List Nat) : (s : List Char) → Option (List Nat × List Char)
  | [] => none
  | '"' :: rest => some (read.reverse, rest)
  | '\\' :: 'u' :: a :: b :: c :: d :: rest =>
    match Text.Hex.number? [a, b, c, d] with
    | some n => textUnits (n :: read) rest
    | none => none
  | '\\' :: c :: rest =>
    match escaped? c with
    | some n => textUnits (n :: read) rest
    | none => none
  | c :: rest => if c.toNat < 0x20 then none else textUnits (c.toNat :: read) rest

theorem textUnits_shorter {read : List Nat} {s : List Char} {units : List Nat} {rest : List Char}
    (h : textUnits read s = some (units, rest)) : rest.length < s.length := by
  fun_induction textUnits read s <;> simp_all <;> omega

/-- A text after its opening quote. -/
def readText (s : List Char) : Except ReadError (Parsed Data s) :=
  match h : textUnits [] s with
  | some (units, rest) => .ok ⟨.text (Text.ofUnits units), rest, textUnits_shorter h⟩
  | none => .error .malformed

/-- The digits of a fraction, and the rest; none if there is no fraction. -/
def fraction (s : List Char) : List Char × List Char :=
  match s with
  | '.' :: rest => if (Decimal.span rest).1.isEmpty then ([], s) else Decimal.span rest
  | _ => ([], s)

/-- The exponent of a number, and the rest; none if there is no exponent. -/
def exponent (s : List Char) : Option Int × List Char :=
  match s with
  | e :: rest =>
    if e == 'e' || e == 'E' then
      let (negative, unsigned) :=
        match rest with
        | '-' :: r => (true, r)
        | '+' :: r => (false, r)
        | r => (false, r)
      let (ds, after) := Decimal.span unsigned
      if ds.isEmpty then (none, s)
      else
        let n : Int := Nat.ofDigitChars 10 ds 0
        (some (if negative then -n else n), after)
    else (none, s)
  | [] => (none, s)

/-- The whole digits of a number: a single zero, or digits that do not start with one. -/
def whole (s : List Char) : List Char × List Char :=
  match s with
  | '0' :: rest => (['0'], rest)
  | _ => Decimal.span s

/-- A number without its sign, and the rest. -/
def number (negative : Bool) (s : List Char) : Except ReadError (Data × List Char) :=
  let (ds, afterWhole) := whole s
  if ds.isEmpty then .error .malformed
  else
    let (fs, afterFraction) := fraction afterWhole
    let (e, rest) := exponent afterFraction
    if fs.isEmpty && e.isNone then
      match Decimal.read ds with
      | .ok n => .ok (.int (if negative then -(n : Int) else n), rest)
      | .error e => .error (.number e)
    else
      let value := Nat.ofDigitChars 10 (ds ++ fs) 0
      .ok (.float (Binary64.ofDecimal negative value (e.getD 0 - fs.length)), rest)

/-- The names of values, and the values. -/
def names : List (List Char × Data) :=
  [("null".toList, .null), ("true".toList, .bool true), ("false".toList, .bool false),
    ("NaN".toList, .float .nan), ("Infinity".toList, .float (.infinite false)),
    ("-Infinity".toList, .float (.infinite true))]

/-- A value with a name, and the rest. -/
def named? (s : List Char) : Option (Data × List Char) :=
  names.findSome? fun n => if n.1.isPrefixOf s then some (n.2, s.drop n.1.length) else none

/-- A value without parts: one with a name, or a number. -/
def atom (s : List Char) : Except ReadError (Data × List Char) :=
  match named? s with
  | some r => .ok r
  | none =>
    match s with
    | '-' :: rest => number true rest
    | _ => number false s

theorem length_fraction_le (s : List Char) : (fraction s).2.length ≤ s.length := by
  unfold fraction
  split
  · next rest =>
    have := Decimal.length_span rest
    split <;> simp only [List.length_cons] <;> omega
  · exact Nat.le_refl _

theorem length_exponent_le (s : List Char) : (exponent s).2.length ≤ s.length := by
  have tail (r : List Char) : (Decimal.span r).2.length ≤ r.length := by
    have := Decimal.length_span r
    omega
  unfold exponent
  split
  · next e rest =>
    split
    · split
      all_goals simp only
      all_goals split
      all_goals grind
    · exact Nat.le_refl _
  · exact Nat.le_refl _

theorem length_whole (s : List Char) : (whole s).1.length + (whole s).2.length = s.length := by
  unfold whole
  split
  · simp only [List.length_cons, List.length_nil]; omega
  · exact Decimal.length_span s

theorem number_shorter {negative : Bool} {s rest : List Char} {d : Data}
    (h : number negative s = .ok (d, rest)) : rest.length < s.length := by
  have hw := length_whole s
  have hf := length_fraction_le (whole s).2
  have he := length_exponent_le (fraction (whole s).2).2
  unfold number at h
  simp only at h
  split at h
  · cases h
  · next hd =>
    have : (whole s).1.length ≠ 0 := by simpa using hd
    split at h
    · split at h
      · cases h; omega
      · cases h
    · cases h; omega

theorem atom_shorter {s rest : List Char} {d : Data} (h : atom s = .ok (d, rest)) :
    rest.length < s.length := by
  unfold atom at h
  split at h
  · next r hr =>
    obtain ⟨n, hn, hs⟩ := List.exists_of_findSome?_eq_some hr
    split at hs
    · next hp =>
      have hp := (List.isPrefixOf_iff_prefix.1 hp).length_le
      have : 0 < n.1.length := by
        simp only [names, List.mem_cons, List.not_mem_nil, or_false] at hn
        rcases hn with rfl | rfl | rfl | rfl | rfl | rfl <;> decide
      cases h
      cases hs
      simp only [List.length_drop]
      omega
    · cases hs
  · split at h
    · have := number_shorter h
      simp only [List.length_cons]
      omega
    · exact number_shorter h

mutual

/-- The value at the start of a text, with so many levels of nesting left. -/
def value (depth : Nat) (s : List Char) : Except ReadError (Parsed Data s) :=
  match s with
  | '"' :: rest =>
    match readText rest with
    | .error e => .error e
    | .ok p => .ok ⟨p.value, p.rest, by have := p.shorter; simp only [List.length_cons]; omega⟩
  | '[' :: rest =>
    if depth = 0 then .error (.depth false)
    else
      have hskip := length_skip_le rest
      match h : skip rest with
      | ']' :: after =>
        .ok ⟨.list [], after, by
          rw [h] at hskip; simp only [List.length_cons] at hskip ⊢; omega⟩
      | _ =>
        match elements (depth - 1) (skip rest) with
        | .error e => .error e
        | .ok p =>
          .ok ⟨.list p.value, p.rest, by have := p.shorter; simp only [List.length_cons]; omega⟩
  | '{' :: rest =>
    if depth = 0 then .error (.depth true)
    else
      have hskip := length_skip_le rest
      match h : skip rest with
      | '}' :: after =>
        .ok ⟨.map [], after, by
          rw [h] at hskip; simp only [List.length_cons] at hskip ⊢; omega⟩
      | _ =>
        match members (depth - 1) [] (skip rest) with
        | .error e => .error e
        | .ok p =>
          .ok ⟨.map p.value, p.rest, by have := p.shorter; simp only [List.length_cons]; omega⟩
  | s =>
    match h : atom s with
    | .error e => .error e
    | .ok (d, rest) => .ok ⟨d, rest, atom_shorter h⟩
termination_by (s.length, 0)
decreasing_by
  all_goals
    simp_wf
    have := length_skip_le rest
    try simp_all
    try omega

/-- The elements of an array up to its closing bracket. -/
def elements (depth : Nat) (s : List Char) : Except ReadError (Parsed (List Data) s) :=
  match value depth s with
  | .error e => .error e
  | .ok p =>
    have hp := p.shorter
    have hskip := length_skip_le p.rest
    match h : skip p.rest with
    | ']' :: after =>
      .ok ⟨[p.value], after, by rw [h] at hskip; simp only [List.length_cons] at hskip; omega⟩
    | ',' :: after =>
      have hafter := length_skip_le after
      match elements depth (skip after) with
      | .error e => .error e
      | .ok q =>
        .ok ⟨p.value :: q.value, q.rest, by
          have := q.shorter
          rw [h] at hskip; simp only [List.length_cons] at hskip; omega⟩
    | _ => .error .malformed
termination_by (s.length, 1)
decreasing_by
  · exact Prod.Lex.right _ (by omega)
  · rw [h] at hskip; simp only [List.length_cons] at hskip
    omega

/-- The members of an object up to its closing brace, added to those read before. -/
def members (depth : Nat) (read : List (Data × Data)) (s : List Char) :
    Except ReadError (Parsed (List (Data × Data)) s) :=
  match s with
  | '"' :: start =>
    match readText start with
    | .error e => .error e
    | .ok key =>
      have hkey := key.shorter
      have hskip := length_skip_le key.rest
      match h : skip key.rest with
      | ':' :: after =>
        have hafter := length_skip_le after
        match value depth (skip after) with
        | .error e => .error e
        | .ok p =>
          have hp := p.shorter
          have hskip' := length_skip_le p.rest
          match h' : skip p.rest with
          | '}' :: last =>
            .ok ⟨Data.put read key.value p.value, last, by
              rw [h] at hskip; rw [h'] at hskip'
              simp only [List.length_cons] at hskip hskip' ⊢; omega⟩
          | ',' :: last =>
            have hlast := length_skip_le last
            match members depth (Data.put read key.value p.value) (skip last) with
            | .error e => .error e
            | .ok q =>
              .ok ⟨q.value, q.rest, by
                have := q.shorter
                rw [h] at hskip; rw [h'] at hskip'
                simp only [List.length_cons] at hskip hskip' ⊢; omega⟩
          | _ => .error .malformed
      | _ => .error .malformed
  | _ => .error .malformed
termination_by (s.length, 1)
decreasing_by
  · simp_wf
    rw [h] at hskip; simp only [List.length_cons] at hskip
    omega
  · simp_wf
    rw [h] at hskip; rw [h'] at hskip'
    simp only [List.length_cons] at hskip hskip'
    omega

end

/-- The value of a document with at most so many levels of nesting. -/
def read (depth : Nat) (s : List Char) : Except ReadError Data :=
  match value depth (skip s) with
  | .error e => .error e
  | .ok p => if (skip p.rest).isEmpty then .ok p.value else .error .malformed

theorem read_nothing (depth : Nat) : read depth [] = .error .malformed := by
  have none : atom [] = .error .malformed := by
    simp [atom, named?, names, number, whole, Decimal.span]
  have h : value depth [] = .error .malformed := by
    simp only [value]
    split
    · next e he => rw [none] at he; cases he; rfl
    · next d rest he => rw [none] at he; cases he
  simp [read, skip, h]

end ExtensionProbe.Json
