import ExtensionProbe.Proofs.Verdict

/-!
# Looser policies

A policy that asks for less is satisfied by more: a part of a name instead of the name, or a part of a part. A
view is searched from its start, so what is found for the looser policy stands where the other one found its
extension, or before it.

* `LoosenedTo.satisfied`: what satisfies a policy satisfies a looser one.
* `LoosenedTo.exists_firstAt`: the first match of a looser policy is not behind the first match.
* `verdict_eased`: a verdict on a check with a looser policy.
* `loosened_policy_keeps_pass`: **two runs that differ in the policy of one check, side by side.**
-/

namespace ExtensionProbe

open Log

namespace Policy

variable {p q : Policy} {view : List Descriptor} {d e : Descriptor} {i : Nat} {s : String}

/-- A policy is loosened to another one: a name to a part of it, or a part of a name to a part of this part. -/
inductive LoosenedTo : Policy → Policy → Prop
  | exact {name part : String} (h : Text.ofString part <:+: Text.ofString name) :
      LoosenedTo (.exact name) (.contains part)
  | contains {part smaller : String} (h : Text.ofString smaller <:+: Text.ofString part) :
      LoosenedTo (.contains part) (.contains smaller)

theorem satisfied_contains_iff : Satisfied d (.contains s) ↔ Text.ofString s <:+: d.simpleName := by
  constructor
  · rintro ⟨before, after, h⟩
    exact ⟨before, after, h.symm⟩
  · rintro ⟨before, after, h⟩
    exact ⟨before, after, h.symm⟩

theorem LoosenedTo.satisfied (h : p.LoosenedTo q) (hp : p.Satisfied d) : q.Satisfied d := by
  cases h with
  | exact hpart =>
    have hname : d.simpleName = Text.ofString _ := hp
    exact satisfied_contains_iff.2 (hname ▸ hpart)
  | contains hsmaller => exact satisfied_contains_iff.2 (hsmaller.trans (satisfied_contains_iff.1 hp))

/-- All that is found for a policy is found for a looser one, in the same order. -/
theorem LoosenedTo.findAll_sublist (h : p.LoosenedTo q) (view : List Descriptor) :
    (p.findAll view).Sublist (q.findAll view) := by
  refine List.monotone_filter_right view fun d hd => ?_
  exact admits_eq_true_iff.2 (h.satisfied (admits_eq_true_iff.1 hd))

/-- A descriptor stands at a place of a view and is the first that satisfies a policy. -/
def FirstAt (p : Policy) (view : List Descriptor) (i : Nat) (d : Descriptor) : Prop :=
  view[i]? = some d ∧ p.Satisfied d ∧ ∀ j < i, ∀ e, view[j]? = some e → ¬ p.Satisfied e

theorem exists_firstAt_of_find? (h : p.find? view = some d) : ∃ i, p.FirstAt view i d :=
  firstIn_of_find? h

/-- Where a policy finds something, a looser one finds something too, and not behind it. -/
theorem LoosenedTo.exists_firstAt (h : p.LoosenedTo q) (hp : p.FirstAt view i d) :
    ∃ e j, q.find? view = some e ∧ q.FirstAt view j e ∧ j ≤ i := by
  obtain ⟨hd, hsat, -⟩ := hp
  have hmem : d ∈ view := List.mem_of_getElem? hd
  cases hq : q.find? view with
  | none => exact absurd (h.satisfied hsat) (not_satisfied_of_find? hq d hmem)
  | some e =>
    obtain ⟨j, hj⟩ := exists_firstAt_of_find? hq
    refine ⟨e, j, rfl, hj, ?_⟩
    by_contra hlt
    exact hj.2.2 i (by omega) d hd (h.satisfied hsat)

/-- Whether a part of a name is found depends on the simple name alone. -/
theorem admits_contains_congr (h : d.simpleName = e.simpleName) :
    (contains s).admits d = (contains s).admits e := by
  rw [admits, admits, h]

end Policy

namespace Check

variable {c : Check} {q : Policy} {view : List Descriptor} {host : Option Version}

/-- A check with another policy. -/
def withPolicy (c : Check) (q : Policy) : Check := { c with policy := q }

/-- The result of a check beside its result with a looser policy: a pass stays a pass, a skip stays a skip for
the same reason, and what was found is found again or something before it. -/
structure Eased (view : List Descriptor) (p q : Policy) (before after : Result) : Prop where
  label : after.label = before.label
  pass : before.outcome = .pass → after.outcome = .pass
  fail : after.outcome = .fail → before.outcome = .fail
  skip : after.outcome = .skip ↔ before.outcome = .skip
  reason : after.reason = before.reason
  matched : ∀ d, before.matched = some d →
    ∃ i j e, p.FirstAt view i d ∧ after.matched = some e ∧ q.FirstAt view j e ∧ j ≤ i

theorem judged_of_find? {d : Descriptor} (h : c.policy.find? view = some d) :
    c.judged view =
      { label := c.label, outcome := .pass, matched := some d, expected := c.policy.describe } := by
  rw [judged, h]

theorem judged_of_not_found (h : c.policy.find? view = none) :
    c.judged view =
      { label := c.label, outcome := .fail, observed := view, expected := c.policy.describe } := by
  rw [judged, h]

theorem judged_eased (h : c.policy.LoosenedTo q) (view : List Descriptor) :
    Eased view c.policy q (c.judged view) ((c.withPolicy q).judged view) := by
  cases hp : c.policy.find? view with
  | some d =>
    obtain ⟨i, hi⟩ := Policy.exists_firstAt_of_find? hp
    obtain ⟨e, j, hq, hj, hle⟩ := h.exists_firstAt hi
    have hloose : (c.withPolicy q).policy.find? view = some e := hq
    rw [judged_of_find? hp, judged_of_find? hloose]
    refine ⟨rfl, fun _ => rfl, nofun, Iff.rfl, rfl, ?_⟩
    intro d' hd'
    cases hd'
    exact ⟨i, j, e, hi, rfl, hj, hle⟩
  | none =>
    -- a check that failed may pass now, but it is not skipped
    rw [judged_of_not_found hp]
    cases hq : (c.withPolicy q).policy.find? view with
    | some e =>
      rw [judged_of_find? hq]
      exact ⟨rfl, nofun, fun _ => rfl, iff_of_false nofun nofun, rfl, nofun⟩
    | none =>
      rw [judged_of_not_found hq]
      exact ⟨rfl, nofun, fun _ => rfl, Iff.rfl, rfl, nofun⟩

theorem verdict_eased (h : c.policy.LoosenedTo q) (view : List Descriptor) (host : Option Version) :
    Eased view c.policy q (c.verdict view host) ((c.withPolicy q).verdict view host) := by
  -- the gate is the same, so both checks apply or neither does
  have hsame : (c.withPolicy q).applies host = c.applies host := rfl
  cases ha : c.applies host with
  | true =>
    rw [verdict_of_applies ha, verdict_of_applies (hsame.trans ha)]
    exact judged_eased h view
  | false =>
    obtain ⟨g, hg, hv⟩ := verdict_of_skipped view ha
    obtain ⟨g', hg', hv'⟩ := verdict_of_skipped view (hsame.trans ha)
    cases hg.symm.trans hg'
    rw [hv, hv']
    exact ⟨rfl, nofun, nofun, Iff.rfl, rfl, nofun⟩

end Check

namespace Probe

variable {least : Int} {before after : List Check} {c : Check} {q : Policy} {l : Listing}
  {host : Option Version} {place : Option Text} {view : List Descriptor}

/-- The reasons of skips are made of the host and the gates, so a policy does not make one too long. -/
theorem overlong?_withPolicy (host : Option Version) (before after : List Check) (c : Check) (q : Policy) :
    overlong? host (before ++ c.withPolicy q :: after) = overlong? host (before ++ c :: after) := by
  simp only [overlong?, List.findSome?_append, List.findSome?_cons]
  rfl

/-- **A looser policy never loses a pass.** A part of a name is found exactly where the simple name is some text
around it, whatever else a descriptor has. Two runs over a usable listing that differ in the policy of one
check, looser in the second one, end in the same way: by a number that is too long for the reason of a skip, or
with the same results but for this check, whose result is eased. -/
theorem loosened_policy_keeps_pass :
    (∀ s d, (Policy.contains s).admits d = true ↔
      ∃ u w, d.simpleName = u ++ Text.ofString s ++ w) ∧
    (∀ s d e, d.simpleName = e.simpleName →
      (Policy.contains s).admits d = (Policy.contains s).admits e) ∧
    ∀ least place l view host before c after q,
      usable least place l = .ok view → c.policy.LoosenedTo q →
      (c.policy.findAll view).Sublist (q.findAll view) ∧
      ((∃ e, (run least (before ++ c :: after) l host place).outcome = .error (.unwritable e) ∧
        (run least (before ++ c.withPolicy q :: after) l host place).outcome = .error (.unwritable e) ∧
        ¬ (HostWritable host ∧ GatesWritable (before ++ c :: after))) ∨
      ∃ rs r s ss, rs.length = before.length ∧ ss.length = after.length ∧
        (run least (before ++ c :: after) l host place).outcome = .ok (rs ++ r :: ss) ∧
        (run least (before ++ c.withPolicy q :: after) l host place).outcome = .ok (rs ++ s :: ss) ∧
        Check.Eased view c.policy q r s) := by
  refine ⟨fun s d => Text.occursIn_iff, fun s d e => Policy.admits_contains_congr, ?_⟩
  intro least place l view host before c after q hl hq
  refine ⟨hq.findAll_sublist view, ?_⟩
  rw [outcome_run, outcome_run, hl, overlong?_withPolicy]
  cases ho : overlong? host (before ++ c :: after) with
  | some e =>
    refine .inl ⟨e, rfl, rfl, ?_⟩
    rintro ⟨hh, hg⟩
    cases (overlong?_of_writable hh hg).symm.trans ho
  | none =>
    refine .inr ⟨before.map (Check.verdict view host), c.verdict view host,
      (c.withPolicy q).verdict view host, after.map (Check.verdict view host), List.length_map _,
      List.length_map _, ?_, ?_, Check.verdict_eased hq view host⟩
    · simp only [List.map_append, List.map_cons]
    · simp only [List.map_append, List.map_cons]

/-- A name and a part of it, asked of a view in which the second descriptor has the name and the first one the
part: the part is found before the name, and the check passes either way. -/
theorem loosened_policy_keeps_pass_nearer :
    ∃ r s, (run 1 [⟨"delay", .exact "NoDelay", none, none⟩]
        (some [some ⟨"Delay", [], []⟩, some ⟨"NoDelay", [], []⟩]) none none).outcome = .ok [r] ∧
      (run 1 [⟨"delay", .contains "Delay", none, none⟩]
        (some [some ⟨"Delay", [], []⟩, some ⟨"NoDelay", [], []⟩]) none none).outcome = .ok [s] ∧
      r.matched = some ⟨"NoDelay", [], []⟩ ∧ s.outcome = .pass ∧ s.matched = some ⟨"Delay", [], []⟩ := by
  have hl : usable 1 none (some [some ⟨"Delay", [], []⟩, some ⟨"NoDelay", [], []⟩]) =
      .ok [⟨"Delay", [], []⟩, ⟨"NoDelay", [], []⟩] := rfl
  have hq : (Policy.exact "NoDelay").LoosenedTo (.contains "Delay") := .exact ⟨"No", [], by decide⟩
  obtain ⟨-, hruns⟩ := loosened_policy_keeps_pass.2.2 1 none _ _ none []
    ⟨"delay", .exact "NoDelay", none, none⟩ [] _ hl hq
  rcases hruns with ⟨e, he, -⟩ | ⟨rs, r, s, ss, hrs, hss, hr, hs, heased⟩
  · cases he
  · cases List.eq_nil_of_length_eq_zero hrs
    cases List.eq_nil_of_length_eq_zero hss
    have hpass : r.outcome = .pass ∧ r.matched = some ⟨"NoDelay", [], []⟩ := by
      cases hr
      exact ⟨rfl, rfl⟩
    refine ⟨r, s, hr, hs, hpass.2, heased.pass hpass.1, ?_⟩
    cases hs
    rfl

end Probe

end ExtensionProbe
