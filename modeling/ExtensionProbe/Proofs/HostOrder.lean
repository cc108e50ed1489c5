import ExtensionProbe.Proofs.Probing

/-!
# Older and newer hosts

Hosts go by their numbers, and an unknown host is below every known one. A newer host passes every gate
that an older one passes. So moving to a newer host lifts skips and does nothing else, and two hosts with
the same numbers get the same report up to the words of a skip.

* `applies_mono`: a check that applies to a host applies to every newer one.
* `verdict_lifted`: what a newer host makes of a verdict.
* `probe_sameHost`: the qualifier of a version, and the way in which it is spelled, are not seen in a probe.
* `newer_host_lifts_skips`: **two runs, on an older and on a newer host, side by side.**
-/

namespace ExtensionProbe

open Log

/-- A host is the same as another one or older; an unknown host is older than every known one. -/
def HostAtMost : Option Version → Option Version → Prop
  | none, _ => True
  | some _, none => False
  | some v, some w => v.major < w.major ∨ v.major = w.major ∧ v.minor ≤ w.minor

/-- Two hosts have the same numbers, or are both unknown. -/
def SameNumbers : Option Version → Option Version → Prop
  | none, none => True
  | some v, some w => v.major = w.major ∧ v.minor = w.minor
  | _, _ => False

/-- Two host versions as given stand for the same host: neither is a version, or both are and have the
same numbers. -/
def SameHost (a b : Option Text) : Prop :=
  (∃ r s, Version.parse a = .error (.rejected r) ∧ Version.parse b = .error (.rejected s)) ∨
    ∃ v w, Version.parse a = .ok v ∧ Version.parse b = .ok w ∧ v.agrees w = true

theorem HostAtMost.of_sameNumbers {v w : Option Version} (h : SameNumbers v w) : HostAtMost v w := by
  cases v with
  | none => trivial
  | some v =>
    cases w with
    | none => exact h
    | some w => exact .inr ⟨h.1, Nat.le_of_eq h.2⟩

theorem SameNumbers.symm {v w : Option Version} (h : SameNumbers v w) : SameNumbers w v := by
  cases v <;> cases w
  · trivial
  · exact h
  · exact h
  · exact ⟨h.1.symm, h.2.symm⟩

theorem sameHost_of_spells {s t : Text} {major minor : Nat} (hs : Version.Spells s major minor)
    (ht : Version.Spells t major minor) : SameHost (some s) (some t) := by
  obtain ⟨v, hv, hv1, hv2⟩ := Version.parse_of_spells hs
  obtain ⟨w, hw, hw1, hw2⟩ := Version.parse_of_spells ht
  exact .inr ⟨v, w, hv, hw, Version.agrees_iff.2 ⟨hv1.trans hw1.symm, hv2.trans hw2.symm⟩⟩

theorem hosts_of_sameHost {a b : Option Text} (h : SameHost a b) :
    ∃ v w, (Version.parseLenient a).outcome = .ok v ∧ (Version.parseLenient b).outcome = .ok w ∧
      SameNumbers v w := by
  rcases h with ⟨r, s, ha, hb⟩ | ⟨v, w, ha, hb, hvw⟩
  · exact ⟨none, none, Version.parseLenient_of_rejected ha, Version.parseLenient_of_rejected hb, trivial⟩
  · exact ⟨some v, some w, Version.parseLenient_of_ok ha, Version.parseLenient_of_ok hb,
      Version.agrees_iff.1 hvw⟩

/-! ## Gates -/

namespace Check

variable {c : Check} {v w : Option Version} {view : List Descriptor}

theorem applies_mono (h : HostAtMost v w) (hv : c.applies v = true) : c.applies w = true := by
  cases hg : c.gate with
  | none => exact applies_of_no_gate hg w
  | some g =>
    rw [applies_of_gate hg] at hv ⊢
    obtain ⟨x, rfl, hx⟩ := Gate.admits_iff.1 hv
    cases w with
    | none => exact h.elim
    | some y =>
      -- the order of hosts goes through the gate: gate, older host, newer host
      refine Gate.admits_iff.2 ⟨y, rfl, ?_⟩
      unfold HostAtMost at h
      omega

theorem applies_congr (h : SameNumbers v w) : c.applies v = c.applies w := by
  rw [Bool.eq_iff_iff]
  exact ⟨applies_mono (.of_sameNumbers h), applies_mono (.of_sameNumbers h.symm)⟩

/-- Between hosts that can be written, the gate alone decides whether a skip can be explained. -/
theorem overlong?_congr (hv : Probe.HostWritable v) (hw : Probe.HostWritable w)
    (h : c.applies v = c.applies w) : c.overlong? v = c.overlong? w := by
  unfold overlong? Probe.skipReason
  rw [Probe.hostText_of_writable hv, Probe.hostText_of_writable hw]
  cases hg : c.gate with
  | none => rfl
  | some g =>
    rw [applies_of_gate hg, applies_of_gate hg] at h
    simp only
    rw [h]
    cases g.text with
    | error e => rfl
    | ok s => rfl

end Check

namespace Probe

variable {least : Int} {checks : List Check} {l : Listing} {v w : Option Version}
  {view : List Descriptor}

/-- A result on a newer host beside the one on an older host: a skip may be lifted, and nothing else. -/
structure Lifted (older newer : Result) : Prop where
  skip : newer.outcome = .skip → older.outcome = .skip
  kept : older.outcome ≠ .skip → newer = older
  fail : older.outcome = .fail → newer.outcome = .fail

/-- Two results are the same up to the reason of a skip. -/
structure Alike (r s : Result) : Prop where
  label : r.label = s.label
  outcome : r.outcome = s.outcome
  matched : r.matched = s.matched
  observed : r.observed = s.observed
  expected : r.expected = s.expected

theorem Alike.refl (r : Result) : Alike r r := ⟨rfl, rfl, rfl, rfl, rfl⟩

theorem verdict_lifted (h : HostAtMost v w) (c : Check) :
    Lifted (c.verdict view v) (c.verdict view w) := by
  cases hv : c.applies v with
  | true =>
    have hw := Check.applies_mono h hv
    rw [Check.verdict_of_applies hv, Check.verdict_of_applies hw]
    exact ⟨id, fun _ => rfl, id⟩
  | false =>
    have hs : (c.verdict view v).outcome = .skip := Check.verdict_skip_iff.2 hv
    exact ⟨fun _ => hs, fun hne => absurd hs hne, fun hf => absurd (hs.symm.trans hf) nofun⟩

theorem verdict_alike (h : SameNumbers v w) (c : Check) :
    Alike (c.verdict view v) (c.verdict view w) := by
  have happ := Check.applies_congr (c := c) h
  cases hv : c.applies v with
  | true =>
    rw [Check.verdict_of_applies hv, Check.verdict_of_applies (happ.symm.trans hv)]
    exact .refl _
  | false =>
    -- both are skips, and only their reasons name the host
    obtain ⟨g, -, hgv⟩ := Check.verdict_of_skipped view hv
    obtain ⟨g', -, hgw⟩ := Check.verdict_of_skipped view (happ.symm.trans hv)
    rw [hgv, hgw]
    exact ⟨rfl, rfl, rfl, rfl, rfl⟩

theorem overlong?_congr (hv : HostWritable v) (hw : HostWritable w) (h : SameNumbers v w) :
    overlong? v checks = overlong? w checks := by
  unfold overlong?
  induction checks with
  | nil => rfl
  | cons c rest ih =>
    rw [List.findSome?_cons, List.findSome?_cons, ih,
      Check.overlong?_congr hv hw (Check.applies_congr h)]

/-- Two probes agree: both fail and in the same way, or both report and the reports differ at most in the
host as it was given and in the reasons of skips. -/
def Agree (x y : Except ProbeError Report) : Prop :=
  (∃ e, x = .error e ∧ y = .error e) ∨
    ∃ a b, x = .ok a ∧ y = .ok b ∧ a.observed = b.observed ∧ AtEachPlace Alike a.results b.results ∧
      a.exitCode = b.exitCode

theorem exitCode_congr {a b : Report}
    (h : AtEachPlace (fun r s => r.outcome = s.outcome) a.results b.results) :
    a.exitCode = b.exitCode := by
  have hab : b.exitCode = 0 → a.exitCode = 0 :=
    exitCode_eq_zero_of_fail (h.imp fun r s he hf => he.symm.trans hf)
  have hba : a.exitCode = 0 → b.exitCode = 0 :=
    exitCode_eq_zero_of_fail (h.symm.imp fun r s he hf => he.trans hf)
  unfold Report.exitCode at hab hba ⊢
  split <;> split <;> simp_all

theorem conclusion_sameNumbers {capability : Text} {a b : Option Text} (hv : HostWritable v)
    (hw : HostWritable w) (h : SameNumbers v w) :
    Agree (conclusion least checks capability a v l) (conclusion least checks capability b w l) := by
  unfold conclusion
  cases usable least (some capability) l with
  | error e => exact .inl ⟨e, rfl, rfl⟩
  | ok view =>
    rw [← overlong?_congr hv hw h]
    cases overlong? v checks with
    | some e => exact .inl ⟨_, rfl, rfl⟩
    | none =>
      have hat : AtEachPlace Alike (checks.map (Check.verdict view v))
          (checks.map (Check.verdict view w)) := atEachPlace_map fun c _ => verdict_alike h c
      exact .inr ⟨_, _, rfl, rfl, rfl, hat, exitCode_congr (hat.imp fun r s => Alike.outcome)⟩

/-- **Only the numbers of a host version are seen in a probe.** -/
theorem probe_sameHost {a b : Option Text} (h : SameHost a b) {σ : Type} (client : Client σ)
    (capability : Text) (state : σ) :
    Agree (probe least client checks capability a state).1.outcome
      (probe least client checks capability b state).1.outcome := by
  obtain ⟨v, w, hv, hw, hvw⟩ := hosts_of_sameHost h
  rw [outcome_probe, outcome_probe, hv, hw]
  exact conclusion_sameNumbers (Version.writable_of_parseLenient hv)
    (Version.writable_of_parseLenient hw) hvw

theorem run_lifted {c : Option Text} {rs ss : List Result} (h : HostAtMost v w)
    (hv : (run least checks l v c).outcome = .ok rs) (hw : (run least checks l w c).outcome = .ok ss) :
    AtEachPlace Lifted rs ss := by
  obtain ⟨view, hu, rfl⟩ := verdicts_of_run hv
  obtain ⟨view', hu', rfl⟩ := verdicts_of_run hw
  -- usability does not look at the host, so both runs have one view
  cases hu.symm.trans hu'
  exact atEachPlace_map fun c _ => verdict_lifted h c

/-- **A newer host lifts skips and does nothing else.** Two runs over the same checks and the same listing,
one on an older and one on a newer host, give results that are the same but for the skips that the newer
host lifts; runs over a usable listing do give results if their numbers can be written. Host versions that
stand for the same host give probes that agree, and all spellings of two numbers stand for the same host. -/
theorem newer_host_lifts_skips (least : Int) (checks : List Check) :
    (∀ l v w place rs ss, HostAtMost v w → (run least checks l v place).outcome = .ok rs →
      (run least checks l w place).outcome = .ok ss →
      AtEachPlace Lifted rs ss ∧
        ∀ a b : Report, a.results = rs → b.results = ss → b.exitCode = 0 → a.exitCode = 0) ∧
    (∀ l v place view, usable least place l = .ok view → GatesWritable checks → HostWritable v →
      ∃ rs, (run least checks l v place).outcome = .ok rs) ∧
    (∀ a b, SameHost a b → ∀ (σ : Type) (client : Client σ) (capability : Text) (state : σ),
      Agree (probe least client checks capability a state).1.outcome
          (probe least client checks capability b state).1.outcome ∧
        ∀ view, usable least (some capability) (client capability state).1 = .ok view →
          GatesWritable checks →
          ∃ x, (probe least client checks capability a state).1.outcome = .ok x) ∧
    ∀ s t major minor, Version.Spells s major minor → Version.Spells t major minor →
      SameHost (some s) (some t) := by
  refine ⟨?_, ?_, ?_, fun s t _ _ => sameHost_of_spells⟩
  · intro l v w place rs ss h hv hw
    have hat := run_lifted h hv hw
    refine ⟨hat, ?_⟩
    rintro a b rfl rfl hb
    exact exitCode_eq_zero_of_fail (hat.imp fun r s => Lifted.fail) hb
  · intro l v place view hu hg hh
    exact ⟨_, run_of_usable hu (overlong?_of_writable hh hg)⟩
  · intro a b h σ client capability state
    refine ⟨probe_sameHost h client capability state, ?_⟩
    intro view hu hg
    obtain ⟨v, -, hv, -, -⟩ := hosts_of_sameHost h
    exact ⟨_, probe_of_usable hv hu hg⟩

/-- The built-in checks on an unknown host and on the first host of the node-delay gate: the skip is lifted.
A blank, a zero, a dash or a qualifier makes no other host. -/
theorem newer_host_lifts_skips_at_gate :
    (∃ rs ss, (run 1 Check.defaults (some [some ⟨"StandardImpl", [], []⟩]) none none).outcome = .ok rs ∧
      (run 1 Check.defaults (some [some ⟨"StandardImpl", [], []⟩]) (some ⟨2, 530, none⟩) none).outcome =
        .ok ss ∧
      rs.map Result.outcome = [.pass, .fail, .skip] ∧ ss.map Result.outcome = [.pass, .fail, .fail] ∧
      AtEachPlace Lifted rs ss) ∧
      SameHost (some "2.530-SNAPSHOT") (some " 02-530 ") := by
  obtain ⟨hlift, -, -, hspell⟩ := newer_host_lifts_skips 1 Check.defaults
  have hu : usable 1 none (some [some ⟨"StandardImpl", [], []⟩]) = .ok [⟨"StandardImpl", [], []⟩] := rfl
  have hg : GatesWritable Check.defaults := by decide
  have hv := run_of_usable hu (overlong?_of_writable (show HostWritable none by decide) hg)
  have hw := run_of_usable hu
    (overlong?_of_writable (show HostWritable (some ⟨2, 530, none⟩) by decide) hg)
  refine ⟨⟨_, _, hv, hw, by decide, by decide, (hlift _ none _ _ _ _ trivial hv hw).1⟩, ?_⟩
  exact hspell _ _ 2 530
    ⟨['2'], '.', ['5', '3', '0'], "-SNAPSHOT", by decide, rfl, ⟨nofun, List.all_eq_true.1 rfl, rfl⟩,
      ⟨nofun, List.all_eq_true.1 rfl, rfl⟩, .inr ⟨'-', "SNAPSHOT", rfl, by decide⟩⟩
    ⟨['0', '2'], '-', ['5', '3', '0'], [], by decide, rfl, ⟨nofun, List.all_eq_true.1 rfl, rfl⟩,
      ⟨nofun, List.all_eq_true.1 rfl, rfl⟩, .inl rfl⟩

end Probe

end ExtensionProbe
