import ExtensionProbe.Proofs.Usable
import ExtensionProbe.Proofs.Words

/-!
# The verdict on a check

What a run makes of a check is fixed by the check, the view and the host: the rest of the run, the other
checks and the place of the check among them do not matter.

* `outcome_run`: a run in closed form. It fails by its listing, or by a number that is too long for the
  reason of a skip; else it gives the verdict on each check, in order.
* `verdict_classified`: which verdict a check gets, and what its result holds.
* `run_classifies`: **every run over a usable listing gives exactly one result a check, classified by the
  gate and by the first descriptor that satisfies the policy.**
-/

namespace ExtensionProbe

open Log

/-! ## Policies and the first match -/

namespace Policy

variable {p : Policy} {view : List Descriptor} {d : Descriptor}

/-- What an extension has if it satisfies a policy: the name, a name around the part, or the marker. -/
def Satisfied (d : Descriptor) : Policy → Prop
  | .exact name => d.simpleName = Text.ofString name
  | .contains part => ∃ before after, d.simpleName = before ++ Text.ofString part ++ after
  | .marker m => Text.ofString m ∈ d.markers

theorem admits_eq_true_iff : p.admits d = true ↔ p.Satisfied d := by
  cases p with
  | exact name => simp [admits, Satisfied]
  | contains part => exact Text.occursIn_iff
  | marker m => simp [admits, Satisfied]

/-- A descriptor is the first of a view that satisfies a policy. -/
def FirstIn (p : Policy) (view : List Descriptor) (d : Descriptor) : Prop :=
  ∃ i : Nat, view[i]? = some d ∧ p.Satisfied d ∧
    ∀ j < i, ∀ e, view[j]? = some e → ¬ p.Satisfied e

theorem firstIn_of_find? (h : p.find? view = some d) : p.FirstIn view d := by
  obtain ⟨hd, i, hi, hid, hbefore⟩ := List.find?_eq_some_iff_getElem.1 h
  refine ⟨i, ?_, admits_eq_true_iff.1 hd, ?_⟩
  · rw [List.getElem?_eq_getElem hi, hid]
  · intro j hj e he hs
    rw [List.getElem?_eq_getElem (by omega)] at he
    have := hbefore j hj
    rw [Option.some.inj he, admits_eq_true_iff.2 hs] at this
    cases this

theorem satisfied_of_find? (h : p.find? view = some d) : d ∈ view ∧ p.Satisfied d :=
  ⟨List.mem_of_find?_eq_some h, admits_eq_true_iff.1 (List.find?_some h)⟩

theorem not_satisfied_of_find? (h : p.find? view = none) : ∀ d ∈ view, ¬ p.Satisfied d := by
  intro d hd hs
  exact List.find?_eq_none.1 h d hd (admits_eq_true_iff.2 hs)

end Policy

namespace Check

variable {c : Check} {host : Option Version} {view : List Descriptor}

/-- A check is skipped on a host that is unknown or below its gate. -/
def SkippedOn (c : Check) (host : Option Version) : Prop :=
  ∃ g, c.gate = some g ∧ ∀ v, host = some v → v.major < g.major ∨ v.major = g.major ∧ v.minor < g.minor

theorem applies_of_gate {g : Gate} (h : c.gate = some g) (host : Option Version) :
    c.applies host = g.admits host := by
  simp [applies, h]

theorem applies_eq_false_iff : c.applies host = false ↔ c.SkippedOn host := by
  unfold applies SkippedOn
  cases c.gate with
  | none => simp
  | some g =>
    cases host with
    | none => simp [Gate.admits]
    | some v =>
      -- a known host is turned down exactly if it is below the gate
      have h : g.admits (some v) = true ↔ _ := Gate.admits_iff
      simp only [Option.some.injEq, exists_eq_left', forall_eq'] at h ⊢
      rw [← Bool.not_eq_true, h]
      omega

theorem applies_eq_true_iff : c.applies host = true ↔ ¬ c.SkippedOn host := by
  rw [← applies_eq_false_iff, Bool.not_eq_false]

/-- The result of a check that applies. -/
def judged (c : Check) (view : List Descriptor) : Result :=
  match c.policy.find? view with
  | some d => { label := c.label, outcome := .pass, matched := some d, expected := c.policy.describe }
  | none => { label := c.label, outcome := .fail, observed := view, expected := c.policy.describe }

/-- The result of a check that is skipped for a reason. -/
def skipped (c : Check) (reason : Text) : Result :=
  { label := c.label, outcome := .skip, expected := c.policy.describe, reason := some reason }

/-- The verdict on a check. -/
def verdict (view : List Descriptor) (host : Option Version) (c : Check) : Result :=
  match c.gate with
  | none => c.judged view
  | some g => if g.admits host then c.judged view else c.skipped (Probe.skipWords host g)

/-- The limit that keeps the reason of a skip from being written. It does not depend on the view. -/
def overlong? (host : Option Version) (c : Check) : Option Decimal.LimitError :=
  match c.gate with
  | none => none
  | some g =>
    if g.admits host then none
    else match Probe.skipReason host g with
      | .ok _ => none
      | .error e => some e

theorem verdict_of_applies (h : c.applies host = true) : c.verdict view host = c.judged view := by
  unfold verdict
  cases hg : c.gate with
  | none => rfl
  | some g => exact if_pos ((applies_of_gate hg host).symm.trans h)

theorem verdict_of_skipped (view : List Descriptor) (h : c.applies host = false) :
    ∃ g, c.gate = some g ∧ c.verdict view host = c.skipped (Probe.skipWords host g) := by
  unfold verdict
  cases hg : c.gate with
  | none => exact absurd ((applies_of_no_gate hg host).symm.trans h) nofun
  | some g =>
    rw [applies_of_gate hg] at h
    exact ⟨g, rfl, if_neg (by rw [h]; nofun)⟩

theorem judged_outcome_ne_skip (c : Check) (view : List Descriptor) :
    (c.judged view).outcome ≠ .skip := by
  unfold judged
  split <;> simp

theorem verdict_skip_iff : (c.verdict view host).outcome = .skip ↔ c.applies host = false := by
  cases h : c.applies host with
  | true =>
    rw [verdict_of_applies h]
    exact iff_of_false (judged_outcome_ne_skip c view) (by simp)
  | false =>
    obtain ⟨g, -, hv⟩ := verdict_of_skipped view h
    simp [hv, skipped]

theorem overlong?_of_applies (h : c.applies host = true) : c.overlong? host = none := by
  unfold overlong?
  cases hg : c.gate with
  | none => rfl
  | some g => exact if_pos ((applies_of_gate hg host).symm.trans h)

theorem overlong?_of_writable (hh : Probe.HostWritable host)
    (hg : ∀ g ∈ c.gate, g.Writable) : c.overlong? host = none := by
  unfold overlong?
  cases hc : c.gate with
  | none => rfl
  | some g =>
    simp only [Probe.skipReason_of_writable hh (hg g hc)]
    exact ite_self _

end Check

/-! ## Runs in closed form -/

namespace Probe

variable {least : Int} {checks : List Check} {l : Listing} {host : Option Version}
  {capability : Option Text} {view : List Descriptor}

theorem outcome_skip (c : Check) (host : Option Version) (g : Gate) :
    (skip c host g).outcome = (c.skipped <$> skipReason host g).mapError .unwritable := by
  unfold skip
  cases skipReason host g with
  | error e => rfl
  | ok reason => rfl

/-- One check in closed form. -/
theorem outcome_evaluate (view : List Descriptor) (host : Option Version) (c : Check) :
    (evaluate view host c).outcome =
      match c.overlong? host with
      | none => .ok (c.verdict view host)
      | some e => .error (.unwritable e) := by
  cases ha : c.applies host with
  | true =>
    rw [Check.overlong?_of_applies ha, Check.verdict_of_applies ha]
    cases hf : c.policy.find? view with
    | some d => simp only [evaluate_of_found ha hf, Check.judged, hf]
    | none => simp only [evaluate_of_not_found ha hf, Check.judged, hf]
  | false =>
    obtain ⟨g, hg, hv⟩ := Check.verdict_of_skipped view ha
    have hadmits : g.admits host = false := (Check.applies_of_gate hg host).symm.trans ha
    rw [evaluate_of_not_applies hg hadmits, outcome_skip, hv]
    simp only [Check.overlong?, hg, hadmits, Bool.false_eq_true, if_false]
    cases hr : skipReason host g with
    | error e => rfl
    | ok reason =>
      -- a reason that was written is the one in words, since its numbers are within the limit
      obtain ⟨hh, hw⟩ := writable_of_skipReason hr
      have := skipReason_of_writable hh hw
      rw [hr] at this
      cases this
      rfl

/-- The first number among checks that is too long for the reason of a skip. -/
def overlong? (host : Option Version) (checks : List Check) : Option Decimal.LimitError :=
  checks.findSome? (Check.overlong? host)

theorem outcome_evaluateAll (view : List Descriptor) (host : Option Version) (checks : List Check) :
    (evaluateAll view host checks).outcome =
      match overlong? host checks with
      | none => .ok (checks.map (Check.verdict view host))
      | some e => .error (.unwritable e) := by
  unfold overlong?
  induction checks with
  | nil => rfl
  | cons c rest ih =>
    have hc := outcome_evaluate view host c
    rw [List.findSome?_cons, evaluateAll]
    cases ho : c.overlong? host with
    | some e =>
      rw [ho] at hc
      exact Logged.outcome_bind_error hc _
    | none =>
      rw [ho] at hc
      rw [Logged.outcome_bind_ok hc]
      -- the rest either stops at a later check or gives its own verdicts
      cases hr : rest.findSome? (Check.overlong? host) with
      | some e =>
        rw [hr] at ih
        exact Logged.outcome_bind_error ih _
      | none =>
        rw [hr] at ih
        rw [Logged.outcome_bind_ok ih]
        rfl

/-- **A run in closed form.** Only the listing and numbers that are too long can end it early. -/
theorem outcome_run (least : Int) (checks : List Check) (l : Listing) (host : Option Version)
    (capability : Option Text) :
    (run least checks l host capability).outcome =
      match usable least capability l with
      | .error e => .error e
      | .ok view =>
        match overlong? host checks with
        | none => .ok (checks.map (Check.verdict view host))
        | some e => .error (.unwritable e) := by
  unfold run
  cases usable least capability l with
  | error e => rfl
  | ok view =>
    rw [Logged.outcome_bind_ok (x := .ofExcept (.ok view)) rfl]
    exact outcome_evaluateAll view host checks

theorem run_of_usable (hl : usable least capability l = .ok view)
    (ho : overlong? host checks = none) :
    (run least checks l host capability).outcome = .ok (checks.map (Check.verdict view host)) := by
  rw [outcome_run, hl, ho]

/-- A run that gave results gave the verdicts over the view of its listing. -/
theorem verdicts_of_run {results : List Result}
    (h : (run least checks l host capability).outcome = .ok results) :
    ∃ view, usable least capability l = .ok view ∧ results = checks.map (Check.verdict view host) := by
  rw [outcome_run] at h
  cases hu : usable least capability l with
  | error e => rw [hu] at h; cases h
  | ok view =>
    rw [hu] at h
    cases ho : overlong? host checks with
    | some e => rw [ho] at h; cases h
    | none =>
      rw [ho] at h
      exact ⟨view, rfl, (Except.ok.inj h).symm⟩

theorem overlong?_of_writable (hh : HostWritable host) (hg : GatesWritable checks) :
    overlong? host checks = none := by
  unfold overlong?
  rw [List.findSome?_eq_none_iff]
  intro c hc
  exact Check.overlong?_of_writable hh (hg c hc)

/-! ## Classification -/

/-- How the result of a check is classified, and what it holds. -/
structure Classified (view : List Descriptor) (host : Option Version) (c : Check) (r : Result) :
    Prop where
  label : r.label = Text.ofString c.label
  expected : r.expected = Text.ofString c.policy.describe
  skip_iff : r.outcome = .skip ↔ c.SkippedOn host
  pass_iff : r.outcome = .pass ↔ ¬ c.SkippedOn host ∧ ∃ d ∈ view, c.policy.Satisfied d
  fail_iff : r.outcome = .fail ↔ ¬ c.SkippedOn host ∧ ∀ d ∈ view, ¬ c.policy.Satisfied d
  of_pass : r.outcome = .pass → ∃ d, c.policy.FirstIn view d ∧ (c.policy.findAll view).head? = some d ∧
    r.matched = some d ∧ r.observed = [] ∧ r.reason = none
  of_fail : r.outcome = .fail → r.matched = none ∧ r.observed = view ∧ r.reason = none
  of_skip : r.outcome = .skip → ∃ g, c.gate = some g ∧ r.matched = none ∧ r.observed = [] ∧
    r.reason = some (skipWords host g)

theorem verdict_classified (view : List Descriptor) (host : Option Version) (c : Check) :
    Classified view host c (c.verdict view host) := by
  cases ha : c.applies host with
  | false =>
    -- the gate alone decides, so neither a pass nor a failure is possible
    have hs := Check.applies_eq_false_iff.1 ha
    obtain ⟨g, hg, hv⟩ := Check.verdict_of_skipped view ha
    rw [hv]
    exact ⟨rfl, rfl, iff_of_true rfl hs, iff_of_false nofun fun h => h.1 hs,
      iff_of_false nofun fun h => h.1 hs, nofun, nofun, fun _ => ⟨g, hg, rfl, rfl, rfl⟩⟩
  | true =>
    have hs := Check.applies_eq_true_iff.1 ha
    rw [Check.verdict_of_applies ha]
    unfold Check.judged
    cases hf : c.policy.find? view with
    | some d =>
      obtain ⟨hd, hsat⟩ := Policy.satisfied_of_find? hf
      have hhead := (c.policy.find?_eq_head?_findAll view).symm.trans hf
      exact ⟨rfl, rfl, iff_of_false nofun hs, iff_of_true rfl ⟨hs, d, hd, hsat⟩,
        iff_of_false nofun fun h => h.2 d hd hsat,
        fun _ => ⟨d, Policy.firstIn_of_find? hf, hhead, rfl, rfl, rfl⟩, nofun, nofun⟩
    | none =>
      have hnone := Policy.not_satisfied_of_find? hf
      exact ⟨rfl, rfl, iff_of_false nofun hs,
        iff_of_false nofun fun ⟨_, d, hd, hsat⟩ => hnone d hd hsat, iff_of_true rfl ⟨hs, hnone⟩,
        nofun, fun _ => ⟨rfl, rfl, rfl⟩, nofun⟩

/-- **Classification of a run.** Over a usable listing, with numbers that can be written, a run gives one
result a check, in order. The result of a check is a function of the check, the view and the host. -/
theorem run_classifies {least : Int} {checks : List Check} {l : Listing} {host : Option Version}
    {capability : Option Text} {view : List Descriptor} (hl : usable least capability l = .ok view)
    (hh : HostWritable host) (hg : GatesWritable checks) :
    l = some (view.map some) ∧
      (run least checks l host capability).outcome = .ok (checks.map (Check.verdict view host)) ∧
      ∀ c ∈ checks, Classified view host c (c.verdict view host) :=
  ⟨(usable_eq_ok_iff.1 hl).1, run_of_usable hl (overlong?_of_writable hh hg),
    fun c _ => verdict_classified view host c⟩

/-- The built-in checks on the first host of the node-delay gate, where only the standard strategy is
registered: the gate is passed at its own numbers. -/
theorem run_classifies_at_gate :
    usable 1 none (some [some ⟨"StandardStrategyImpl", [], []⟩]) = .ok [⟨"StandardStrategyImpl", [], []⟩] ∧
      HostWritable (some ⟨2, 530, some "SNAPSHOT"⟩) ∧ GatesWritable Check.defaults ∧
      ∃ results, (run 1 Check.defaults (some [some ⟨"StandardStrategyImpl", [], []⟩])
        (some ⟨2, 530, some "SNAPSHOT"⟩) none).outcome = .ok results ∧
        results.map Result.outcome = [.pass, .fail, .fail] := by
  have hh : HostWritable (some ⟨2, 530, some "SNAPSHOT"⟩) := by decide
  have hg : GatesWritable Check.defaults := by decide
  exact ⟨rfl, hh, hg, _, (run_classifies rfl hh hg).2.1, by decide⟩

end Probe

end ExtensionProbe
