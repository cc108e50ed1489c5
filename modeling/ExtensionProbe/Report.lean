import ExtensionProbe.Check

/-!
# Results and reports

A probe gives one result a check, and a report with all of them.

* `exitCode_eq_zero_iff`: the exit code is zero exactly if no check failed.
-/

namespace ExtensionProbe

/-- What became of a check. -/
inductive Outcome where
  | pass | fail | skip
deriving DecidableEq, Repr

/-- The name of an outcome. -/
def Outcome.name : Outcome → String
  | .pass => "pass"
  | .fail => "fail"
  | .skip => "skip"

/-- The outcome with a name. -/
def Outcome.ofName? : String → Option Outcome
  | "pass" => some .pass
  | "fail" => some .fail
  | "skip" => some .skip
  | _ => none

/-- What became of a check in one probe: the extension found by one that passed, the whole listing for
one that failed, and the reason of one that was skipped. -/
structure Result where
  label : Text
  outcome : Outcome
  matched : Option Descriptor := none
  observed : List Descriptor := []
  expected : Text := []
  reason : Option Text := none
deriving DecidableEq, Repr

namespace Result

/-- Whether the check failed. -/
def isFailure (r : Result) : Bool := r.outcome == .fail

/-- The result in words; a failure lists every extension that was there. -/
def diagnostic (r : Result) : Text :=
  match r.outcome with
  | .pass => r.label ++ ": found " ++ (r.matched.map Descriptor.displayName).getD "?"
  | .skip =>
    let reason := r.reason.getD []
    let shown : Text := if reason.isEmpty then "gate not satisfied" else reason
    r.label ++ ": skipped (" ++ shown ++ ")"
  | .fail =>
    Text.join "\n"
      ((r.label ++ ": expected an extension with " ++ r.expected ++ ", none found.")
        :: ("Available extensions (" ++ toString r.observed.length ++ "):")
        :: r.observed.map fun d => "  - " ++ d.displayName)

end Result

/-- What one probe found. -/
structure Report where
  capability : Text
  rawHostVersion : Option Text := none
  hostVersion : Option Version := none
  observed : List Descriptor := []
  results : List Result := []
deriving DecidableEq, Repr

namespace Report

/-- The results of the checks that passed. -/
def passed (r : Report) : List Result := r.results.filter (·.outcome == .pass)

/-- The results of the checks that failed. -/
def failed (r : Report) : List Result := r.results.filter (·.isFailure)

/-- The results of the checks that were skipped. -/
def skipped (r : Report) : List Result := r.results.filter (·.outcome == .skip)

/-- Whether no check failed. -/
def success (r : Report) : Bool := r.failed.isEmpty

/-- The exit code that a report stands for. -/
def exitCode (r : Report) : Nat := if r.success then 0 else 1

/-- The result of the first check with a label. -/
def result? (r : Report) (label : Text) : Option Result :=
  r.results.find? (·.label == label)

/-- The wording for a label that no check has. -/
def missingLabel (label : Text) : Text :=
  "Check '" ++ label ++ "' not found in results"

theorem exitCode_eq_zero_iff {r : Report} :
    r.exitCode = 0 ↔ ∀ x ∈ r.results, x.outcome ≠ .fail := by
  simp [exitCode, success, failed, Result.isFailure]

end Report

end ExtensionProbe
