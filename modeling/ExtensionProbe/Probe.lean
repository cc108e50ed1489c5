import ExtensionProbe.Malformed
import ExtensionProbe.Report

/-!
# Probing

A probe asks a registry once for the extensions of a capability and evaluates every check against the
listing it got. What it does is reported as events.

* `probe_eq`: a probe is one query and a judgement of its answer.
* `evaluate_of_not_applies`, `evaluate_of_found`, `evaluate_of_not_found`: the three ways a check ends.
-/

namespace ExtensionProbe

open Log

/-- A registry that is asked for the extensions of a capability; asking may change its state. -/
abbrev Client (σ : Type) := Text → σ → Listing × σ

/-- How a probe fails: the listing is unusable, a number is too long to write, or the least number of
extensions asked for is none. -/
inductive ProbeError where
  | malformed (m : Malformed)
  | unwritable (e : Decimal.LimitError)
  | leastBelowOne (least : Int)
deriving DecidableEq, Repr

namespace Probe

/-- Where the events of a probe come from. -/
def source : String := "strategyprobe.core.probe.runner"

/-- A host version in messages. -/
def hostText (host : Option Version) : Except Decimal.LimitError Text :=
  match host with
  | none => .ok "unknown"
  | some v => v.text

/-- Why a check with a gate is skipped. -/
def skipReason (host : Option Version) (gate : Gate) : Except Decimal.LimitError Text := do
  let hostText ← hostText host
  let gateText ← gate.text
  pure ("host version " ++ hostText ++ " does not satisfy " ++ gateText)

/-- Evaluates a check that is skipped. -/
def skip (c : Check) (host : Option Version) (gate : Gate) : Logged ProbeError Result := do
  let reason ← .ofExcept ((skipReason host gate).mapError .unwritable)
  .emit ⟨.info, source, "- " ++ c.label ++ " skipped: " ++ reason, none⟩
  pure
    { label := c.label, outcome := .skip, expected := c.policy.describe, reason := some reason }

/-- Evaluates a check that applies. -/
def apply (c : Check) (view : List Descriptor) : Logged ProbeError Result := do
  let expected := c.policy.describe
  .emit ⟨.debug, source, "Evaluating check '" ++ c.label ++ "' (" ++ expected ++ ")", none⟩
  match c.policy.find? view with
  | some d =>
    .emit ⟨.info, source, "✓ " ++ c.label ++ ": found " ++ d.simpleName, none⟩
    pure { label := c.label, outcome := .pass, matched := some d, expected }
  | none =>
    .emit ⟨.warning, source,
      "✗ " ++ c.label ++ ": no extension with " ++ expected ++ "; available: "
        ++ Text.join ", " (view.map (·.simpleName)), none⟩
    pure { label := c.label, outcome := .fail, observed := view, expected }

/-- Evaluates a check against a listing on a host. -/
def evaluate (view : List Descriptor) (host : Option Version) (c : Check) :
    Logged ProbeError Result :=
  match c.gate with
  | none => apply c view
  | some gate => if gate.admits host then apply c view else skip c host gate

/-- Evaluates checks in order. -/
def evaluateAll (view : List Descriptor) (host : Option Version) :
    List Check → Logged ProbeError (List Result)
  | [] => pure []
  | c :: rest => do
    let r ← evaluate view host c
    let more ← evaluateAll view host rest
    pure (r :: more)

/-- The descriptors of a usable listing. A least number that is too long for the message of a listing
that falls short of it fails by that. -/
def usable (least : Int) (capability : Option Text) (l : Listing) :
    Except ProbeError (List Descriptor) :=
  match l.view least capability with
  | .ok view => .ok view
  | .error m =>
    match m.flaw, Decimal.writeInt least with
    | .tooFew _ _, .error e => .error (.unwritable e)
    | _, _ => .error (.malformed m)

/-- Evaluates checks against a listing, if that is usable. -/
def run (least : Int) (checks : List Check) (l : Listing) (host : Option Version)
    (capability : Option Text) : Logged ProbeError (List Result) := do
  let view ← .ofExcept (usable least capability l)
  evaluateAll view host checks

/-- A least number of extensions that is none is no basis for a probe. -/
def checkLeast (least : Int) : Except ProbeError Unit :=
  if least < 1 then
    match Decimal.writeInt least with
    | .ok _ => .error (.leastBelowOne least)
    | .error e => .error (.unwritable e)
  else .ok ()

/-- The wording for a least number that is none. -/
def leastMessage (least : Int) : String :=
  "min_extensions must be >= 1, got " ++ toString least

/-- The event that announces a probe. -/
def announcement (checks : List Check) (capability hostText : Text) (l : Listing) : Event :=
  ⟨.debug, source,
    "Probing capability '" ++ capability ++ "' (host version " ++ hostText ++ ", "
      ++ toString ((l.map List.length).getD 0) ++ " extensions, "
      ++ toString checks.length ++ " checks)", some capability⟩

/-- The report that a listing of a malformed registry is found in. -/
def complaint (capability : Text) : ProbeError → List Event
  | .malformed m => [⟨.error, source, "Malformed registry: " ++ m.message, some capability⟩]
  | _ => []

/-- Judges the answer of a registry. -/
def judge (least : Int) (checks : List Check) (capability : Text) (raw : Option Text)
    (host : Option Version) (l : Listing) : Logged ProbeError Report := do
  let hostText ← .ofExcept ((hostText host).mapError .unwritable)
  .emit (announcement checks capability hostText l)
  let evaluation := run least checks l host (some capability)
  match evaluation.outcome with
  | .error e => ⟨evaluation.events ++ complaint capability e, .error e⟩
  | .ok results =>
    ⟨evaluation.events, .ok ⟨capability, raw, host, l.present, results⟩⟩

/-- Reads the host version, asks a registry once and judges its answer. -/
def probe {σ : Type} (least : Int) (client : Client σ) (checks : List Check) (capability : Text)
    (raw : Option Text) (state : σ) : Logged ProbeError Report × σ :=
  let version := (Version.parseLenient raw).mapError ProbeError.unwritable
  match version.outcome with
  | .error e => (⟨version.events, .error e⟩, state)
  | .ok host =>
    let (listing, state) := client capability state
    let judgement := judge least checks capability raw host listing
    (⟨version.events ++ judgement.events, judgement.outcome⟩, state)

theorem probe_eq {σ : Type} {least : Int} {client : Client σ} {checks : List Check}
    {capability : Text} {raw : Option Text} {state : σ} {host : Option Version}
    (h : (Version.parseLenient raw).outcome = .ok host) :
    (probe least client checks capability raw state).1.outcome =
      (judge least checks capability raw host (client capability state).1).outcome := by
  simp [probe, Logged.outcome_mapError_ok h]

theorem evaluate_of_not_applies {view : List Descriptor} {host : Option Version} {c : Check}
    {gate : Gate} (hg : c.gate = some gate) (h : gate.admits host = false) :
    evaluate view host c = skip c host gate := by
  simp [evaluate, hg, h]

theorem evaluate_of_applies {host : Option Version} {c : Check} (h : c.applies host = true)
    (view : List Descriptor) : evaluate view host c = apply c view := by
  unfold evaluate
  cases hg : c.gate with
  | none => rfl
  | some gate => exact if_pos (by simpa [Check.applies, hg] using h)

theorem evaluate_of_found {view : List Descriptor} {host : Option Version} {c : Check}
    {d : Descriptor} (ha : c.applies host = true) (h : c.policy.find? view = some d) :
    (evaluate view host c).outcome =
      .ok { label := c.label, outcome := .pass, matched := some d, expected := c.policy.describe } := by
  rw [evaluate_of_applies ha]
  simp [apply, h, bind, Logged.bind, Logged.emit]

theorem evaluate_of_not_found {view : List Descriptor} {host : Option Version} {c : Check}
    (ha : c.applies host = true) (h : c.policy.find? view = none) :
    (evaluate view host c).outcome =
      .ok { label := c.label, outcome := .fail, observed := view, expected := c.policy.describe } := by
  rw [evaluate_of_applies ha]
  simp [apply, h, bind, Logged.bind, Logged.emit]

end Probe

end ExtensionProbe
