import ExtensionProbe.Proofs.OneQuery
import ExtensionProbe.Proofs.Ending

/-!
# What a probe tells while it works

A probe tells of a host version that is none, announces itself, and then tells of each result as it is found:
one event for a check that is skipped, two for one that applies. Of a malformed listing it complains once
instead. Each result has a row of severities of its own, and none of the rows starts another one, so the
severities of a log can be read back as outcomes.

* `events_evaluateAll`: checks are told of in order, up to the first whose reason is too long to be said, by
  induction on the checks.
* `events_probe`: **the log of a probe in closed form.**
* `verdicts_flatMap_told`: the severities of what is told of results are read back as their outcomes.
* `log_tells_verdicts`: **what a probe tells, in order, and what it says of the verdicts.**
-/

namespace ExtensionProbe

open Log

namespace Log

theorem Logged.events_emit {ε : Type} (e : Event) : (Logged.emit e : Logged ε Unit).events = [e] := rfl

theorem Logged.events_ofExcept {ε α : Type} (r : Except ε α) : (Logged.ofExcept r).events = [] := rfl

/-- The outcomes that a row of severities tells, as long as it tells any. -/
def verdicts : List Severity → List Outcome
  | .debug :: .info :: rest => .pass :: verdicts rest
  | .debug :: .warning :: rest => .fail :: verdicts rest
  | .info :: rest => .skip :: verdicts rest
  | _ => []

end Log

/-! ## What is told of a result -/

namespace Result

/-- The event that tells of a check before it is known whether it passes. -/
def started (r : Result) : Event :=
  ⟨.debug, Probe.source, "Evaluating check '" ++ r.label ++ "' (" ++ r.expected ++ ")", none⟩

/-- What is told of a result when it is found. -/
def told (r : Result) : List Event :=
  match r.outcome with
  | .skip =>
    [⟨.info, Probe.source, "- " ++ r.label ++ " skipped: " ++ r.reason.getD [], none⟩]
  | .pass =>
    [r.started, ⟨.info, Probe.source,
      "✓ " ++ r.label ++ ": found " ++ (r.matched.map Descriptor.simpleName).getD [], none⟩]
  | .fail =>
    [r.started, ⟨.warning, Probe.source,
      "✗ " ++ r.label ++ ": no extension with " ++ r.expected ++ "; available: "
        ++ Text.join ", " (r.observed.map Descriptor.simpleName), none⟩]

/-- How grave the events are that tell of an outcome. -/
def severities : Outcome → List Severity
  | .skip => [.info]
  | .pass => [.debug, .info]
  | .fail => [.debug, .warning]

theorem severities_told (r : Result) : r.told.map Event.severity = severities r.outcome := by
  unfold told
  cases r.outcome <;> rfl

theorem source_of_told {r : Result} {e : Event} (h : e ∈ r.told) :
    e.source = Probe.source ∧ e.capability = none := by
  unfold told at h
  cases ho : r.outcome <;> rw [ho] at h <;> simp only [List.mem_cons, List.not_mem_nil, or_false] at h
  · rcases h with rfl | rfl <;> exact ⟨rfl, rfl⟩
  · rcases h with rfl | rfl <;> exact ⟨rfl, rfl⟩
  · cases h
    exact ⟨rfl, rfl⟩

/-- What comes after the severities of one outcome does not change how they are read. -/
theorem verdicts_severities (o : Outcome) (rest : List Severity) :
    verdicts (severities o ++ rest) = o :: verdicts rest := by
  cases o <;> rfl

/-- **The severities of what is told of results are read back as their outcomes.** -/
theorem verdicts_flatMap_told (rs : List Result) :
    verdicts ((rs.flatMap told).map Event.severity) = rs.map Result.outcome := by
  induction rs with
  | nil => rfl
  | cons r rest ih =>
    rw [List.flatMap_cons, List.map_append, severities_told, verdicts_severities, ih, List.map_cons]

/-- The events of one severity that tell of results are counted result by result. -/
theorem count_told (s : Severity) (rs : List Result) :
    (rs.flatMap told).countP (·.severity == s) =
      (rs.map fun r => (severities r.outcome).count s).sum := by
  have hone (r : Result) : r.told.countP (·.severity == s) = (severities r.outcome).count s := by
    rw [← severities_told, List.count, List.countP_map]
    rfl
  rw [List.countP_flatMap]
  exact congrArg List.sum (List.map_congr_left fun r _ => hone r)

theorem count_warnings (rs : List Result) :
    (rs.flatMap told).countP (·.severity == .warning) = (rs.filter (·.isFailure)).length := by
  rw [count_told]
  induction rs with
  | nil => rfl
  | cons r rest ih =>
    rw [List.map_cons, List.sum_cons, ih]
    cases ho : r.outcome <;> simp [severities, isFailure, ho, Nat.add_comm]

theorem count_infos (rs : List Result) :
    (rs.flatMap told).countP (·.severity == .info) =
      (rs.filter (·.outcome == .pass)).length + (rs.filter (·.outcome == .skip)).length := by
  rw [count_told]
  induction rs with
  | nil => rfl
  | cons r rest ih =>
    rw [List.map_cons, List.sum_cons, ih]
    cases ho : r.outcome <;> simp [severities, ho] <;> omega

end Result

/-! ## The log of a probe -/

namespace Probe

variable {σ : Type} {least : Int} {client : Client σ} {checks : List Check} {capability : Text}
  {raw : Option Text} {state : σ} {host : Option Version} {l : Listing} {view : List Descriptor}

theorem events_apply (c : Check) (view : List Descriptor) :
    (apply c view).events = (c.judged view).told := by
  unfold apply Check.judged
  cases hf : c.policy.find? view <;> rfl

theorem events_skip (c : Check) (host : Option Version) (g : Gate) :
    (skip c host g).events =
      match skipReason host g with
      | .ok reason => (c.skipped reason).told
      | .error _ => [] := by
  unfold skip
  cases skipReason host g <;> rfl

/-- Of a check is told what its verdict is, unless the reason of a skip is too long to be said. -/
theorem events_evaluate (view : List Descriptor) (host : Option Version) (c : Check) :
    (evaluate view host c).events =
      if (c.overlong? host).isNone then (c.verdict view host).told else [] := by
  unfold evaluate Check.overlong? Check.verdict
  cases c.gate with
  | none => exact events_apply c view
  | some g =>
    by_cases ha : g.admits host = true
    · simp only [ha, if_true, Option.isNone_none]
      exact events_apply c view
    · simp only [ha, if_false, Bool.false_eq_true]
      rw [events_skip]
      cases hr : skipReason host g with
      | error e => rfl
      | ok reason =>
        obtain ⟨hh, hg⟩ := writable_of_skipReason hr
        have hw := skipReason_of_writable hh hg
        rw [hr] at hw
        cases hw
        rfl

/-- The checks before the first one whose skip cannot be explained. -/
def sayable (host : Option Version) (checks : List Check) : List Check :=
  checks.takeWhile fun c => (c.overlong? host).isNone

/-- **Checks are told of in order**, up to the first one whose skip cannot be explained. -/
theorem events_evaluateAll (view : List Descriptor) (host : Option Version) (checks : List Check) :
    (evaluateAll view host checks).events =
      (sayable host checks).flatMap fun c => (c.verdict view host).told := by
  induction checks with
  | nil => rfl
  | cons c rest ih =>
    have hevents := events_evaluate view host c
    have houtcome := outcome_evaluate view host c
    unfold sayable at ih ⊢
    rw [evaluateAll, List.takeWhile_cons]
    cases ho : c.overlong? host with
    | some e =>
      rw [ho] at hevents houtcome
      exact (Logged.events_bind_error houtcome _).trans hevents
    | none =>
      rw [ho] at hevents houtcome
      rw [Logged.events_bind_ok houtcome, hevents]
      simp only [Option.isNone_none, if_true, List.flatMap_cons, ← ih]
      -- to put the result in front of the others tells nothing more
      congr 1
      change (Logged.bind (evaluateAll view host rest) fun more => pure (_ :: more)).events = _
      unfold Logged.bind
      cases (evaluateAll view host rest).outcome with
      | error e => rfl
      | ok more => exact List.append_nil _

theorem sayable_of_writable (h : overlong? host checks = none) : sayable host checks = checks := by
  unfold sayable
  rw [List.takeWhile_eq_self_iff]
  intro c hc
  rw [List.findSome?_eq_none_iff.1 h c hc]
  rfl

theorem events_run (least : Int) (checks : List Check) (l : Listing) (host : Option Version)
    (place : Option Text) :
    (run least checks l host place).events =
      match usable least place l with
      | .ok view => (sayable host checks).flatMap fun c => (c.verdict view host).told
      | .error _ => [] := by
  unfold run
  cases usable least place l with
  | error e => rfl
  | ok view =>
    rw [Logged.events_bind_ok (x := .ofExcept (.ok view)) rfl]
    exact events_evaluateAll view host checks

/-- What a probe tells once it has announced itself. -/
def findings (least : Int) (checks : List Check) (capability : Text) (host : Option Version)
    (l : Listing) : List Event :=
  match usable least (some capability) l with
  | .ok view => (sayable host checks).flatMap fun c => (c.verdict view host).told
  | .error e => complaint capability e

theorem events_judge (raw : Option Text) (hh : HostWritable host) :
    (judge least checks capability raw host l).events =
      announcement checks capability (hostWords host) l :: findings least checks capability host l := by
  have houtcome := outcome_run least checks l host (some capability)
  have hevents := events_run least checks l host (some capability)
  unfold judge findings
  rw [hostText_of_writable hh, Logged.events_bind_ok (a := hostWords host) rfl,
    Logged.events_bind_ok (a := ()) rfl, Logged.events_ofExcept, Logged.events_emit, List.nil_append,
    List.singleton_append]
  congr 1
  cases hu : usable least (some capability) l with
  | error e =>
    rw [hu] at houtcome hevents
    simp only [houtcome, hevents, List.nil_append]
  | ok view =>
    rw [hu] at houtcome hevents
    -- of a number that is too long nothing is told, wherever it comes up
    cases ho : overlong? host checks with
    | none => simp only [houtcome, hevents, ho]
    | some e => simp only [houtcome, hevents, ho, complaint, List.append_nil]

/-- What a probe tells before it asks its registry: that its host version is none. -/
def heard (raw : Option Text) : List Event :=
  match Version.parse raw with
  | .error (.rejected r) =>
    [⟨.debug, Version.source, "Host version treated as unknown: " ++ r.message, none⟩]
  | _ => []

theorem events_parseLenient (raw : Option Text) : (Version.parseLenient raw).events = heard raw := by
  unfold Version.parseLenient heard
  cases Version.parse raw with
  | ok v => rfl
  | error f => cases f <;> rfl

/-- **The log of a probe in closed form.** -/
theorem events_probe (least : Int) (client : Client σ) (checks : List Check) (capability : Text)
    (raw : Option Text) (state : σ) :
    (probe least client checks capability raw state).1.events =
      heard raw ++
        match (Version.parseLenient raw).outcome with
        | .error _ => []
        | .ok host =>
          announcement checks capability (hostWords host) (client capability state).1 ::
            findings least checks capability host (client capability state).1 := by
  rw [← events_parseLenient]
  cases hv : (Version.parseLenient raw).outcome with
  | error e => rw [probe_of_unread hv, List.append_nil]
  | ok host =>
    rw [probe_of_read hv]
    exact congrArg (_ ++ ·) (events_judge raw (Version.writable_of_parseLenient hv))

/-! ## What the log says of the verdicts -/

/-- An event of a probe that is of a severity and carries the capability. -/
structure Carries (capability : Text) (s : Severity) (e : Event) : Prop where
  severity : e.severity = s
  source : e.source = Probe.source
  capability : e.capability = some capability

/-- A log that tells of a report: after the announcement, of each result in order. It has a warning for each
failure and an information for every other result, only the announcement carries the capability, and the
outcomes can be read off the severities of what the probe itself tells after it. -/
structure TellsReport (capability : Text) (raw : Option Text) (events : List Event) (a : Report) : Prop where
  announced : ∃ e, Carries capability .debug e ∧ events = heard raw ++ e :: a.results.flatMap Result.told ∧
    events.filter (·.capability.isSome) = [e]
  warnings : events.countP (·.severity == .warning) = a.failed.length
  informations : events.countP (·.severity == .info) = a.passed.length + a.skipped.length
  verdicts : verdicts ((events.filter (·.source == source)).tail.map Event.severity) =
    a.results.map Result.outcome

/-- A log that tells of a malformed listing: after the announcement, of what is wrong with it, and of no
check. These two events, and no other, carry the capability. -/
structure TellsComplaint (capability : Text) (raw : Option Text) (events : List Event) (m : Malformed) :
    Prop where
  announced : ∃ e f, Carries capability .debug e ∧ Carries capability .error f ∧
    f.message = "Malformed registry: " ++ m.message ∧ events = heard raw ++ [e, f] ∧
    events.filter (·.capability.isSome) = [e, f]

/-- A log that breaks off: there is nothing in it, or after the announcement it tells of some results. -/
def BreaksOff (capability : Text) (raw : Option Text) (events : List Event) : Prop :=
  events = [] ∨ ∃ e, ∃ rs : List Result, Carries capability .debug e ∧
    events = heard raw ++ e :: rs.flatMap Result.told

theorem carries_announcement (checks : List Check) (capability hostText : Text) (l : Listing) :
    Carries capability .debug (announcement checks capability hostText l) := ⟨rfl, rfl, rfl⟩

theorem filter_heard (raw : Option Text) :
    (heard raw).filter (·.capability.isSome) = [] ∧ (heard raw).filter (·.source == source) = [] ∧
      ∀ s, s ≠ .debug → (heard raw).countP (·.severity == s) = 0 := by
  unfold heard
  split
  · refine ⟨rfl, rfl, fun s hs => ?_⟩
    cases s <;> first | rfl | exact absurd rfl hs
  · exact ⟨rfl, rfl, fun s _ => rfl⟩

theorem filter_told (rs : List Result) :
    (rs.flatMap Result.told).filter (·.capability.isSome) = [] ∧
      (rs.flatMap Result.told).filter (·.source == source) = rs.flatMap Result.told := by
  have htold : ∀ e ∈ rs.flatMap Result.told, e.source = source ∧ e.capability = none := by
    intro e he
    obtain ⟨r, -, he⟩ := List.mem_flatMap.1 he
    exact Result.source_of_told he
  constructor
  · rw [List.filter_eq_nil_iff]
    intro e he
    rw [(htold e he).2]
    nofun
  · rw [List.filter_eq_self]
    intro e he
    rw [(htold e he).1]
    rfl

theorem tellsReport {events : List Event} {a : Report} {e : Event} (he : Carries capability .debug e)
    (h : events = heard raw ++ e :: a.results.flatMap Result.told) :
    TellsReport capability raw events a := by
  obtain ⟨hcarriers, hsource, hcount⟩ := filter_heard raw
  obtain ⟨htoldCarriers, htoldSource⟩ := filter_told a.results
  refine ⟨⟨e, he, h, ?_⟩, ?_, ?_, ?_⟩
  · rw [h, List.filter_append, hcarriers, List.filter_cons, he.capability, htoldCarriers]
    rfl
  · rw [h, List.countP_append, hcount _ (by decide), List.countP_cons, he.severity,
      Result.count_warnings]
    exact Nat.zero_add _
  · rw [h, List.countP_append, hcount _ (by decide), List.countP_cons, he.severity, Result.count_infos]
    exact Nat.zero_add _
  · rw [h, List.filter_append, hsource, List.filter_cons, he.source, htoldSource]
    exact Result.verdicts_flatMap_told a.results

theorem tellsReport_of_probe {a : Report}
    (h : (probe least client checks capability raw state).1.outcome = .ok a) :
    TellsReport capability raw (probe least client checks capability raw state).1.events a := by
  rw [outcome_probe] at h
  rw [events_probe]
  cases hv : (Version.parseLenient raw).outcome with
  | error e => rw [hv] at h; cases h
  | ok host =>
    rw [hv] at h
    obtain ⟨view, hu, ho, rfl⟩ := usable_of_conclusion h
    refine tellsReport
      (carries_announcement checks capability (hostWords host) (client capability state).1) ?_
    simp only [findings, hu, sayable_of_writable ho, List.flatMap_map]

theorem tellsComplaint_of_probe {m : Malformed}
    (h : (probe least client checks capability raw state).1.outcome = .error (.malformed m)) :
    TellsComplaint capability raw (probe least client checks capability raw state).1.events m := by
  obtain ⟨⟨host, hv⟩, hu⟩ := malformed_of_probe h
  have hevents := events_probe least client checks capability raw state
  rw [hv] at hevents
  simp only [findings, hu, complaint] at hevents
  refine ⟨⟨_, _, carries_announcement checks capability (hostWords host) _, ⟨rfl, rfl, rfl⟩, rfl,
    hevents, ?_⟩⟩
  rw [hevents, List.filter_append, (filter_heard raw).1]
  rfl

theorem breaksOff_of_probe {e : Decimal.LimitError}
    (h : (probe least client checks capability raw state).1.outcome = .error (.unwritable e)) :
    BreaksOff capability raw (probe least client checks capability raw state).1.events := by
  rw [outcome_probe] at h
  rw [events_probe]
  cases hv : (Version.parseLenient raw).outcome with
  | error e' =>
    have hheard : heard raw = [] := by
      unfold heard
      rw [parseLenient_error_iff.1 hv]
    exact .inl (by rw [hheard]; rfl)
  | ok host =>
    rw [hv] at h
    refine .inr ⟨announcement checks capability (hostWords host) (client capability state).1, ?_⟩
    cases hu : usable least (some capability) (client capability state).1 with
    | ok view =>
      refine ⟨(sayable host checks).map (Check.verdict view host), carries_announcement .., ?_⟩
      simp only [findings, hu, List.flatMap_map]
    | error x =>
      refine ⟨[], carries_announcement .., ?_⟩
      simp only [conclusion, hu] at h
      cases h
      simp only [findings, hu, complaint, List.flatMap_nil]

/-- **What a probe tells.** It tells first of a host version that is none, then announces itself, and then it
tells of each result in the order of the checks, with an information for one that is skipped, an event for
debugging and an information for one that passes, and such an event and a warning for one that fails; or, if the
listing is malformed, it complains once and tells of no check. Its severities tell the outcomes. Only a number
that is too long makes a log break off. -/
theorem log_tells_verdicts (least : Int) (client : Client σ) (checks : List Check) (capability : Text)
    (raw : Option Text) (state : σ) :
    let p := (probe least client checks capability raw state).1
    let listing := (client capability state).1
    (∃ a host, p.outcome = .ok a ∧ RestsOn listing checks host a ∧
      TellsReport capability raw p.events a) ∨
    (∃ m, p.outcome = .error (.malformed m) ∧ listing.flaw? least = some m.flaw ∧
      TellsComplaint capability raw p.events m) ∨
    ∃ e, p.outcome = .error (.unwritable e) ∧ Overlong least checks raw listing e ∧
      BreaksOff capability raw p.events := by
  intro p listing
  have hends : (∃ a, p.outcome = .ok a) ∨ (∃ m, p.outcome = .error (.malformed m)) ∨
      ∃ e, p.outcome = .error (.unwritable e) ∧ Overlong least checks raw listing e := probe_cases
  rcases hends with ⟨a, ha⟩ | ⟨m, hm⟩ | ⟨e, he, hlong⟩
  · obtain ⟨host, -, hrests⟩ := outcome_of_report ha
    exact .inl ⟨a, host, ha, hrests, tellsReport_of_probe ha⟩
  · exact .inr (.inl ⟨m, hm, (outcome_of_malformed hm).2.1, tellsComplaint_of_probe hm⟩)
  · exact .inr (.inr ⟨e, he, hlong, breaksOff_of_probe he⟩)

/-- A development build is told of first, and then the three built-in checks, of which the gated one is
skipped. -/
example :
    (probe 1 Registry.client Check.defaults "c" (some "dev-build") single).1.events.map Event.severity =
      [.debug, .debug, .debug, .info, .debug, .warning, .info] := rfl

end Probe

end ExtensionProbe
