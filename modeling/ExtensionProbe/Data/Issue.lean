import ExtensionProbe.Data.Display
import ExtensionProbe.Version

/-!
# What is wrong with a value

Checking a value finds every issue in it, each with the way to its place. `Checked α` is a checked value
or the issues found.

* `both_eq_ok_iff`: two parts are accepted together exactly if each of them is.
* `each_eq_ok_iff`: a row is accepted exactly if every member is, and then in order.
-/

namespace ExtensionProbe

/-- A step on the way from a value to a part of it. -/
inductive Step where
  | field (name : String)
  | index (i : Nat)
deriving DecidableEq, Repr

/-- A step in writing. -/
def Step.text : Step → String
  | .field name => name
  | .index i => toString i

/-- A rule of this library that a value breaks. -/
inductive Refusal where
  /-- A gate is given as a number that is not whole. -/
  | gateNumber (x : Binary64)
  /-- A gate is given as a text that is not a version. -/
  | gateText (e : Version.Failure)
  /-- A host version is given as a number that is not whole. -/
  | hostNumber (x : Binary64)
  /-- A host version is given as a number that is too long to write. -/
  | hostLength (e : Decimal.LimitError)
deriving DecidableEq, Repr

/-- The wording of a refusal. -/
def Refusal.message : Refusal → String
  | .gateNumber x => "Version gate must be a quoted string, got number " ++ x.text
  | .gateText e => e.message
  | .hostNumber x =>
    "host_version must be a quoted string (got number " ++ x.text
      ++ "); write it as \"2.530\" in YAML"
  | .hostLength e => e.message

/-- The kinds of issues. -/
inductive IssueKind where
  | missing
  | unknownField
  | keyNotText
  | notRecord
  | notChoice
  | noKind
  | unknownKind
  | wrongKind
  | notText
  | notUnicode
  | tooShort
  | notInteger
  | integerSyntax
  | integerSize
  | fraction
  | notFinite
  | tooSmall
  | notBoolean
  | booleanSyntax
  | notList
  | notTuple
  | notOutcome
  | notLevel
  | frozen
  | noSuchField
  | refused (r : Refusal)
deriving DecidableEq, Repr

/-- The code of an issue in answers. -/
def IssueKind.code : IssueKind → String
  | .missing => "missing"
  | .unknownField => "extra_forbidden"
  | .keyNotText => "invalid_key"
  | .notRecord => "model_type"
  | .notChoice => "model_attributes_type"
  | .noKind => "union_tag_not_found"
  | .unknownKind => "union_tag_invalid"
  | .wrongKind => "literal_error"
  | .notText => "string_type"
  | .notUnicode => "string_unicode"
  | .tooShort => "string_too_short"
  | .notInteger => "int_type"
  | .integerSyntax => "int_parsing"
  | .integerSize => "int_parsing_size"
  | .fraction => "int_from_float"
  | .notFinite => "finite_number"
  | .tooSmall => "greater_than_equal"
  | .notBoolean => "bool_type"
  | .booleanSyntax => "bool_parsing"
  | .notList => "list_type"
  | .notTuple => "tuple_type"
  | .notOutcome => "enum"
  | .notLevel => "string_pattern_mismatch"
  | .frozen => "frozen_instance"
  | .noSuchField => "no_such_attribute"
  | .refused _ => "value_error"

/-- One thing that is wrong, with the way to its place. -/
structure Issue where
  path : List Step
  kind : IssueKind
deriving DecidableEq, Repr

/-- The way to an issue in writing; empty for the value as a whole. -/
def Issue.location (i : Issue) : String :=
  "/".intercalate (i.path.map Step.text)

/-- A checked value, or everything that is wrong with it. -/
abbrev Checked (α : Type) := Except (List Issue) α

namespace Checked

variable {α β γ : Type}

/-- One issue with the value as a whole. -/
def issue (kind : IssueKind) : Checked α := .error [⟨[], kind⟩]

/-- The issues of a part, told from the whole. -/
def under (step : Step) (c : Checked α) : Checked α :=
  c.mapError fun issues => issues.map fun i => { i with path := step :: i.path }

/-- Two parts together; the issues of both are kept. -/
def both (a : Checked α) (b : Checked β) : Checked (α × β) :=
  match a, b with
  | .ok x, .ok y => .ok (x, y)
  | .ok _, .error es => .error es
  | .error es, .ok _ => .error es
  | .error es, .error fs => .error (es ++ fs)

/-- A check that yields nothing beside a value. -/
def whileKeeping (a : Checked α) (b : Checked Unit) : Checked α :=
  Prod.fst <$> both a b

/-- The members of a row, counted from `i`. -/
def eachFrom (decode : Data → Checked α) (i : Nat) : List Data → Checked (List α)
  | [] => .ok []
  | item :: rest =>
    (fun p => p.1 :: p.2) <$> both (under (.index i) (decode item)) (eachFrom decode (i + 1) rest)

/-- The members of a row. -/
def each (decode : Data → Checked α) (items : List Data) : Checked (List α) :=
  eachFrom decode 0 items

theorem both_eq_ok_iff {a : Checked α} {b : Checked β} {p : α × β} :
    both a b = .ok p ↔ a = .ok p.1 ∧ b = .ok p.2 := by
  obtain ⟨x, y⟩ := p
  cases a <;> cases b <;> simp [both]

theorem under_ok (step : Step) (x : α) : under step (.ok x) = .ok x := rfl

theorem under_eq_ok_iff {step : Step} {c : Checked α} {x : α} :
    under step c = .ok x ↔ c = .ok x := by
  cases c with
  | ok y => rfl
  | error is => simp [under]; nofun

theorem map_eq_ok_iff {f : α → β} {c : Checked α} {y : β} :
    f <$> c = .ok y ↔ ∃ x, c = .ok x ∧ f x = y := by
  cases c <;> simp [Functor.map, Except.map]

theorem whileKeeping_eq_ok_iff {a : Checked α} {b : Checked Unit} {x : α} :
    whileKeeping a b = .ok x ↔ a = .ok x ∧ b = .ok () := by
  unfold whileKeeping
  rw [map_eq_ok_iff]
  constructor
  · rintro ⟨p, hp, rfl⟩
    exact both_eq_ok_iff.1 hp
  · intro h
    exact ⟨(x, ()), both_eq_ok_iff.2 h, rfl⟩

theorem eachFrom_eq_ok_iff {decode : Data → Checked α} {i : Nat} {items : List Data} {xs : List α} :
    eachFrom decode i items = .ok xs ↔ items.map decode = xs.map .ok := by
  induction items generalizing i xs with
  | nil => cases xs <;> simp [eachFrom]
  | cons item rest ih =>
    rw [eachFrom, map_eq_ok_iff]
    constructor
    · rintro ⟨⟨y, ys⟩, hp, rfl⟩
      obtain ⟨h1, h2⟩ := both_eq_ok_iff.1 hp
      simp [under_eq_ok_iff.1 h1, ih.1 h2]
    · intro h
      cases xs with
      | nil => simp at h
      | cons y ys =>
        simp only [List.map_cons, List.cons.injEq] at h
        exact ⟨(y, ys), both_eq_ok_iff.2 ⟨under_eq_ok_iff.2 h.1, ih.2 h.2⟩, rfl⟩

theorem each_eq_ok_iff {decode : Data → Checked α} {items : List Data} {xs : List α} :
    each decode items = .ok xs ↔ items.map decode = xs.map .ok :=
  eachFrom_eq_ok_iff

end Checked

end ExtensionProbe
