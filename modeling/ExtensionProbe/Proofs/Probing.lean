import ExtensionProbe.Proofs.Spelling
import ExtensionProbe.Proofs.Verdict

/-!
# Probes in closed form

A probe reads its host version, asks its registry once, and concludes from the answer. What it concludes is
the verdict on each check, unless the host version or the reason of a skip has a number that is too long,
or the listing cannot be used.

* `outcome_probe`: a probe in closed form.
* `AtEachPlace`: two rows of results side by side, as two runs over the same checks give them.
* `exitCode_eq_zero_of_fail`: a report whose failures are among those of another one that has none.
-/

namespace ExtensionProbe

open Log

namespace Version

variable {raw : Option Text}

theorem parseLenient_of_ok {v : Version} (h : parse raw = .ok v) :
    (parseLenient raw).outcome = .ok (some v) := by
  unfold parseLenient
  rw [h]
  rfl

theorem parseLenient_of_rejected {r : Rejection} (h : parse raw = .error (.rejected r)) :
    (parseLenient raw).outcome = .ok none := by
  unfold parseLenient
  rw [h]
  rfl

theorem parseLenient_of_tooLong {e : Decimal.LimitError} (h : parse raw = .error (.tooLong e)) :
    (parseLenient raw).outcome = .error e := by
  unfold parseLenient
  rw [h]
  rfl

/-- A host that was read, known or not, can be written. -/
theorem writable_of_parseLenient {host : Option Version} (h : (parseLenient raw).outcome = .ok host) :
    Probe.HostWritable host := by
  intro v hv
  cases hp : parse raw with
  | ok w =>
    rw [parseLenient_of_ok hp] at h
    cases h
    cases hv
    exact writable_of_parse hp
  | error f =>
    cases f with
    | rejected r =>
      rw [parseLenient_of_rejected hp] at h
      cases h
      cases hv
    | tooLong e =>
      rw [parseLenient_of_tooLong hp] at h
      cases h

end Version

namespace Probe

variable {least : Int} {checks : List Check} {capability : Text} {raw : Option Text}
  {host : Option Version} {l : Listing} {view : List Descriptor}

/-- What a probe concludes from the answer of a registry. -/
def conclusion (least : Int) (checks : List Check) (capability : Text) (raw : Option Text)
    (host : Option Version) (l : Listing) : Except ProbeError Report :=
  match usable least (some capability) l with
  | .error e => .error e
  | .ok view =>
    match overlong? host checks with
    | none => .ok ⟨capability, raw, host, view, checks.map (Check.verdict view host)⟩
    | some e => .error (.unwritable e)

theorem outcome_judge (least : Int) (checks : List Check) (capability : Text) (raw : Option Text)
    (l : Listing) (hh : HostWritable host) :
    (judge least checks capability raw host l).outcome =
      conclusion least checks capability raw host l := by
  have hrun := outcome_run least checks l host (some capability)
  unfold judge conclusion
  -- the announcement can be written, so judging gets to its run
  rw [hostText_of_writable hh, Logged.outcome_bind_ok (a := hostWords host) rfl,
    Logged.outcome_bind_ok (a := ()) rfl]
  cases hu : usable least (some capability) l with
  | error e =>
    rw [hu] at hrun
    simp only [hrun]
  | ok view =>
    rw [hu] at hrun
    cases ho : overlong? host checks with
    | some e =>
      rw [ho] at hrun
      simp only [hrun]
    | none =>
      rw [ho] at hrun
      simp only [hrun, present_of_usable hu]

/-- **A probe in closed form.** -/
theorem outcome_probe {σ : Type} (least : Int) (client : Client σ) (checks : List Check)
    (capability : Text) (raw : Option Text) (state : σ) :
    (probe least client checks capability raw state).1.outcome =
      match (Version.parseLenient raw).outcome with
      | .error e => .error (.unwritable e)
      | .ok host => conclusion least checks capability raw host (client capability state).1 := by
  cases hp : (Version.parseLenient raw).outcome with
  | ok host => rw [probe_eq hp, outcome_judge _ _ _ _ _ (Version.writable_of_parseLenient hp)]
  | error e =>
    have : ((Version.parseLenient raw).mapError ProbeError.unwritable).outcome =
        .error (.unwritable e) := by
      rw [Logged.mapError, hp]
      rfl
    simp only [probe, this]

theorem conclusion_of_usable (hu : usable least (some capability) l = .ok view)
    (ho : overlong? host checks = none) :
    conclusion least checks capability raw host l =
      .ok ⟨capability, raw, host, view, checks.map (Check.verdict view host)⟩ := by
  unfold conclusion
  rw [hu, ho]

theorem probe_of_usable {σ : Type} {client : Client σ} {state : σ}
    (hr : (Version.parseLenient raw).outcome = .ok host)
    (hu : usable least (some capability) (client capability state).1 = .ok view)
    (hg : GatesWritable checks) :
    (probe least client checks capability raw state).1.outcome =
      .ok ⟨capability, raw, host, view, checks.map (Check.verdict view host)⟩ := by
  rw [outcome_probe, hr]
  exact conclusion_of_usable hu (overlong?_of_writable (Version.writable_of_parseLenient hr) hg)

theorem conclusion_of_malformed {m : Malformed} (hu : usable least (some capability) l = .error (.malformed m)) :
    conclusion least checks capability raw host l = .error (.malformed m) := by
  unfold conclusion
  rw [hu]

/-- A conclusion that is a report is the report of the verdicts. -/
theorem usable_of_conclusion {a : Report}
    (h : conclusion least checks capability raw host l = .ok a) :
    ∃ view, usable least (some capability) l = .ok view ∧ overlong? host checks = none ∧
      a = ⟨capability, raw, host, view, checks.map (Check.verdict view host)⟩ := by
  unfold conclusion at h
  cases hu : usable least (some capability) l with
  | error e => rw [hu] at h; cases h
  | ok view =>
    rw [hu] at h
    cases ho : overlong? host checks with
    | some e => rw [ho] at h; cases h
    | none => rw [ho] at h; exact ⟨view, rfl, rfl, (Except.ok.inj h).symm⟩

theorem malformed_of_conclusion {m : Malformed}
    (h : conclusion least checks capability raw host l = .error (.malformed m)) :
    usable least (some capability) l = .error (.malformed m) := by
  unfold conclusion at h
  cases hu : usable least (some capability) l with
  | error e =>
    rw [hu] at h
    exact congrArg Except.error (Except.error.inj h)
  | ok view =>
    rw [hu] at h
    cases ho : overlong? host checks <;> rw [ho] at h <;> cases h

/-- A probe that reports has read its host version and got a usable listing, and reports the verdicts. -/
theorem report_of_probe {σ : Type} {client : Client σ} {state : σ} {a : Report}
    (h : (probe least client checks capability raw state).1.outcome = .ok a) :
    ∃ host view, (Version.parseLenient raw).outcome = .ok host ∧
      usable least (some capability) (client capability state).1 = .ok view ∧
      a = ⟨capability, raw, host, view, checks.map (Check.verdict view host)⟩ := by
  rw [outcome_probe] at h
  cases hp : (Version.parseLenient raw).outcome with
  | error e => rw [hp] at h; cases h
  | ok host =>
    rw [hp] at h
    obtain ⟨view, hu, -, ha⟩ := usable_of_conclusion h
    exact ⟨host, view, rfl, hu, ha⟩

/-- A probe that finds the listing malformed has read its host version and got that listing. -/
theorem malformed_of_probe {σ : Type} {client : Client σ} {state : σ} {m : Malformed}
    (h : (probe least client checks capability raw state).1.outcome = .error (.malformed m)) :
    (∃ host, (Version.parseLenient raw).outcome = .ok host) ∧
      usable least (some capability) (client capability state).1 = .error (.malformed m) := by
  rw [outcome_probe] at h
  cases hp : (Version.parseLenient raw).outcome with
  | error e => rw [hp] at h; cases h
  | ok host =>
    rw [hp] at h
    exact ⟨⟨host, rfl⟩, malformed_of_conclusion h⟩

/-! ## Results side by side -/

/-- Two rows of results are as long as each other, and related at each place. -/
def AtEachPlace (R : Result → Result → Prop) (rs ss : List Result) : Prop :=
  rs.length = ss.length ∧ ∀ (i : Nat) r s, rs[i]? = some r → ss[i]? = some s → R r s

theorem atEachPlace_map {R : Result → Result → Prop} {f g : Check → Result}
    (h : ∀ c ∈ checks, R (f c) (g c)) : AtEachPlace R (checks.map f) (checks.map g) := by
  refine ⟨by simp, ?_⟩
  intro i r s hr hs
  rw [List.getElem?_map, Option.map_eq_some_iff] at hr hs
  obtain ⟨c, hc, rfl⟩ := hr
  obtain ⟨d, hd, rfl⟩ := hs
  cases hc.symm.trans hd
  exact h c (List.mem_of_getElem? hc)

theorem AtEachPlace.imp {R S : Result → Result → Prop} {rs ss : List Result}
    (himp : ∀ r s, R r s → S r s) (h : AtEachPlace R rs ss) : AtEachPlace S rs ss :=
  ⟨h.1, fun i r s hr hs => himp r s (h.2 i r s hr hs)⟩

theorem AtEachPlace.symm {R : Result → Result → Prop} {rs ss : List Result}
    (h : AtEachPlace R rs ss) : AtEachPlace (fun s r => R r s) ss rs :=
  ⟨h.1.symm, fun i s r hs hr => h.2 i r s hr hs⟩

theorem success_iff_exitCode {r : Report} : r.success = true ↔ r.exitCode = 0 := by
  simp [Report.exitCode]

/-- If a check fails in a report only where one fails in another, success of the other is its success. -/
theorem exitCode_eq_zero_of_fail {a b : Report}
    (h : AtEachPlace (fun r s => r.outcome = .fail → s.outcome = .fail) a.results b.results)
    (hb : b.exitCode = 0) : a.exitCode = 0 := by
  rw [Report.exitCode_eq_zero_iff] at hb ⊢
  intro r hr hfail
  obtain ⟨i, hi, rfl⟩ := List.getElem_of_mem hr
  have hi' : i < b.results.length := by rw [← h.1]; exact hi
  have hs := h.2 i _ _ (List.getElem?_eq_getElem hi) (List.getElem?_eq_getElem hi') hfail
  exact hb _ (List.getElem_mem hi') hs

end Probe

end ExtensionProbe
