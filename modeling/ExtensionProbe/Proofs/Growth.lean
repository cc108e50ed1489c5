import ExtensionProbe.Proofs.Probing

/-!
# Growing registries

An extension that is there is found, wherever it stands. So a view that has every descriptor of another one
passes every check that the other one passes, and where it only adds descriptors at the end, the one that
is found stays the same. Skips do not look at the view at all.

* `find?_of_prefix`: the first match of a view is the first match of each of its extensions.
* `verdict_improved`: a verdict on a wider view.
* `growing_registry_keeps_passes`: **two runs, over a view and over a wider one, side by side.**
-/

namespace ExtensionProbe

open Log

namespace Policy

variable {p : Policy} {view wider : List Descriptor} {d : Descriptor}

theorem find?_of_subset (hsub : ∀ d ∈ view, d ∈ wider) (h : p.find? view = some d) :
    ∃ e, p.find? wider = some e := by
  obtain ⟨hd, hs⟩ := satisfied_of_find? h
  cases hw : p.find? wider with
  | some e => exact ⟨e, rfl⟩
  | none => exact absurd hs (not_satisfied_of_find? hw d (hsub d hd))

theorem find?_of_prefix (hpre : view <+: wider) (h : p.find? view = some d) :
    p.find? wider = some d := by
  obtain ⟨more, rfl⟩ := hpre
  unfold find? at h ⊢
  rw [List.find?_append, h, Option.some_or]

end Policy

namespace Check

variable {c : Check} {view wider : List Descriptor}

theorem judged_pass_iff : (c.judged view).outcome = .pass ↔ ∃ d, c.policy.find? view = some d := by
  unfold judged
  cases c.policy.find? view <;> simp

theorem judged_fail_iff : (c.judged view).outcome = .fail ↔ c.policy.find? view = none := by
  unfold judged
  cases c.policy.find? view <;> simp

theorem judged_of_prefix (hpre : view <+: wider) (h : (c.judged view).outcome = .pass) :
    c.judged wider = c.judged view := by
  obtain ⟨d, hd⟩ := judged_pass_iff.1 h
  unfold judged
  rw [hd, Policy.find?_of_prefix hpre hd]

end Check

namespace Probe

variable {least : Int} {checks : List Check} {l l' : Listing} {host : Option Version}
  {place : Option Text} {view wider : List Descriptor}

/-- A result over a wider view beside the one over a view: a pass stays a pass, a skip stays as it is, and
only a failure can fail. -/
structure Improved (before after : Result) : Prop where
  pass : before.outcome = .pass → after.outcome = .pass
  skip : before.outcome = .skip → after = before
  fail : after.outcome = .fail → before.outcome = .fail

/-- A result over a longer view beside the one over the view that it extends: a pass stays as it is. -/
def KeepsPass (before after : Result) : Prop := before.outcome = .pass → after = before

theorem verdict_improved (hsub : ∀ d ∈ view, d ∈ wider) (c : Check) :
    Improved (c.verdict view host) (c.verdict wider host) := by
  cases ha : c.applies host with
  | false =>
    -- the reason of a skip is made of the host and the gate only
    obtain ⟨g, hg, hv⟩ := Check.verdict_of_skipped view ha
    obtain ⟨g', hg', hw⟩ := Check.verdict_of_skipped wider ha
    cases hg.symm.trans hg'
    rw [hv, hw]
    exact ⟨nofun, fun _ => rfl, nofun⟩
  | true =>
    rw [Check.verdict_of_applies ha, Check.verdict_of_applies ha]
    refine ⟨?_, fun h => absurd h (Check.judged_outcome_ne_skip c view), ?_⟩
    · intro h
      obtain ⟨d, hd⟩ := Check.judged_pass_iff.1 h
      exact Check.judged_pass_iff.2 (Policy.find?_of_subset hsub hd)
    · intro h
      have hw := Check.judged_fail_iff.1 h
      refine Check.judged_fail_iff.2 (Option.eq_none_iff_forall_ne_some.2 ?_)
      intro d hd
      obtain ⟨e, he⟩ := Policy.find?_of_subset hsub hd
      cases hw.symm.trans he

theorem verdict_keepsPass (hpre : view <+: wider) (c : Check) :
    KeepsPass (c.verdict view host) (c.verdict wider host) := by
  intro h
  cases ha : c.applies host with
  | false => exact absurd (h.symm.trans (Check.verdict_skip_iff.2 ha)) nofun
  | true =>
    rw [Check.verdict_of_applies ha] at h ⊢
    rw [Check.verdict_of_applies ha]
    exact Check.judged_of_prefix hpre h

/-- **A growing registry keeps its passes.** Two runs over the same checks on the same host, one over a view
and one over a view that has every descriptor of the first, end in the same way: by a number that is too
long for the reason of a skip, or with results that only improve. -/
theorem growing_registry_keeps_passes (hl : usable least place l = .ok view)
    (hl' : usable least place l' = .ok wider) (hsub : ∀ d ∈ view, d ∈ wider) :
    (∃ e, (run least checks l host place).outcome = .error (.unwritable e) ∧
      (run least checks l' host place).outcome = .error (.unwritable e) ∧
      ¬ (HostWritable host ∧ GatesWritable checks)) ∨
    ∃ rs ss, (run least checks l host place).outcome = .ok rs ∧
      (run least checks l' host place).outcome = .ok ss ∧ AtEachPlace Improved rs ss ∧
      (∀ a b : Report, a.results = rs → b.results = ss → a.success = true →
        b.success = true ∧ b.exitCode = 0) ∧
      (view <+: wider → AtEachPlace KeepsPass rs ss) := by
  rw [outcome_run, outcome_run, hl, hl']
  cases ho : overlong? host checks with
  | some e =>
    refine .inl ⟨e, rfl, rfl, ?_⟩
    rintro ⟨hh, hg⟩
    rw [overlong?_of_writable hh hg] at ho
    cases ho
  | none =>
    have hat : AtEachPlace Improved (checks.map (Check.verdict view host))
        (checks.map (Check.verdict wider host)) := atEachPlace_map fun c _ => verdict_improved hsub c
    refine .inr ⟨_, _, rfl, rfl, hat, ?_, fun hpre => atEachPlace_map fun c _ => verdict_keepsPass hpre c⟩
    intro a b hrs hss ha
    rw [← hrs, ← hss] at hat
    have hb := exitCode_eq_zero_of_fail (hat.symm.imp fun s r => Improved.fail)
      (success_iff_exitCode.1 ha)
    exact ⟨success_iff_exitCode.2 hb, hb⟩

/-- One more descriptor before the one that was found takes its place, and the check still passes. -/
theorem growing_registry_keeps_passes_before :
    usable 1 none (some [some ⟨"StandardImpl", [], []⟩]) = .ok [⟨"StandardImpl", [], []⟩] ∧
      usable 1 none (some [some ⟨"MyStandard", [], []⟩, some ⟨"StandardImpl", [], []⟩]) =
        .ok [⟨"MyStandard", [], []⟩, ⟨"StandardImpl", [], []⟩] ∧
      ∃ rs ss, (run 1 Check.defaults (some [some ⟨"StandardImpl", [], []⟩]) none none).outcome = .ok rs ∧
        (run 1 Check.defaults (some [some ⟨"MyStandard", [], []⟩, some ⟨"StandardImpl", [], []⟩])
          none none).outcome = .ok ss ∧ AtEachPlace Improved rs ss := by
  have hl : usable 1 none (some [some ⟨"StandardImpl", [], []⟩]) = .ok [⟨"StandardImpl", [], []⟩] := rfl
  have hl' : usable 1 none (some [some ⟨"MyStandard", [], []⟩, some ⟨"StandardImpl", [], []⟩]) =
      .ok [⟨"MyStandard", [], []⟩, ⟨"StandardImpl", [], []⟩] := rfl
  refine ⟨hl, hl', ?_⟩
  have hsub : ∀ d ∈ [(⟨"StandardImpl", [], []⟩ : Descriptor)],
      d ∈ [(⟨"MyStandard", [], []⟩ : Descriptor), ⟨"StandardImpl", [], []⟩] := by simp
  have h := @growing_registry_keeps_passes 1 Check.defaults _ _ none none _ _ hl hl' hsub
  rcases h with ⟨e, -, -, hw⟩ | ⟨rs, ss, hr, hs, hat, -⟩
  · exact absurd (by decide) hw
  · exact ⟨rs, ss, hr, hs, hat⟩

end Probe

end ExtensionProbe
