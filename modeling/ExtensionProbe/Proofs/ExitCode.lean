import ExtensionProbe.Proofs.Probing
import Mathlib.Data.List.Basic

/-!
# The exit code of a probe

The exit code of a report is read off the inputs of its probe: it is zero exactly if every check that is not
skipped finds an extension. The passed, failed and skipped results of a report are its results, each in one of
the three rows and in their order, and a label leads to the first check that has it.

* `taken_places`: the elements of a row with a property, and the places where they stand.
* `exitCode_of_verdicts`: a report of verdicts has exit code zero exactly if its checks are met.
* `result?_eq_some_iff`, `result?_eq_none_iff`: the result that a label leads to.
* `exit_code_of_probe`: **a probe that reports exits by its checks, its listing and its host version.**
-/

namespace ExtensionProbe

open Log Probe

/-! ## The three rows of a report -/

/-- The elements of a row stand in another one at some places, in the same order. -/
structure TakenAt (part whole : List Result) (places : List Nat) : Prop where
  increasing : places.Pairwise (· < ·)
  taken : part.map some = places.map (whole[·]?)

/-- The places in a row where a result has an outcome. -/
def places (o : Outcome) (rs : List Result) : List Nat :=
  (rs.zipIdx.filter (·.1.outcome == o)).map Prod.snd

theorem mem_places {o : Outcome} {rs : List Result} {i : Nat} :
    i ∈ places o rs ↔ ∃ x, rs[i]? = some x ∧ x.outcome = o := by
  unfold places
  rw [List.mem_map]
  constructor
  · rintro ⟨⟨x, j⟩, hx, rfl⟩
    obtain ⟨hmem, ho⟩ := List.mem_filter.1 hx
    exact ⟨x, List.mem_zipIdx_iff_getElem?.1 hmem, beq_iff_eq.1 ho⟩
  · rintro ⟨x, hx, ho⟩
    exact ⟨(x, i), List.mem_filter.2 ⟨List.mem_zipIdx_iff_getElem?.2 hx, beq_iff_eq.2 ho⟩, rfl⟩

theorem taken_places (o : Outcome) (rs : List Result) :
    TakenAt (rs.filter (·.outcome == o)) rs (places o rs) := by
  constructor
  · -- the places are some of all places, which go up
    have hall : (rs.zipIdx.map Prod.snd).Pairwise (· < ·) := by
      rw [List.zipIdx_map_snd]
      exact List.pairwise_lt_range'
    exact hall.sublist (List.filter_sublist.map _)
  · unfold places
    conv_lhs => rw [← List.zipIdx_map_fst 0 rs, List.filter_map, List.map_map]
    rw [List.map_map]
    apply List.map_congr_left
    rintro ⟨x, i⟩ hx
    have hmem := (List.mem_filter.1 hx).1
    exact (List.mem_zipIdx_iff_getElem?.1 hmem).symm

/-- The places of two different outcomes are apart. -/
theorem places_disjoint {o o' : Outcome} (h : o ≠ o') (rs : List Result) :
    (places o rs).Disjoint (places o' rs) := by
  intro i hi hi'
  obtain ⟨x, hx, ho⟩ := mem_places.1 hi
  obtain ⟨y, hy, ho'⟩ := mem_places.1 hi'
  cases hx.symm.trans hy
  exact h (ho.symm.trans ho')

/-- The three rows of a report: they take its results at places that are apart and leave out none. -/
structure Parted (r : Report) (ps fs ss : List Nat) : Prop where
  passed : TakenAt r.passed r.results ps
  failed : TakenAt r.failed r.results fs
  skipped : TakenAt r.skipped r.results ss
  passed_failed : ps.Disjoint fs
  passed_skipped : ps.Disjoint ss
  failed_skipped : fs.Disjoint ss
  all : ∀ i < r.results.length, i ∈ ps ∨ i ∈ fs ∨ i ∈ ss

theorem parted_places (r : Report) :
    Parted r (places .pass r.results) (places .fail r.results) (places .skip r.results) := by
  refine ⟨taken_places _ _, taken_places _ _, taken_places _ _, places_disjoint (by decide) _,
    places_disjoint (by decide) _, places_disjoint (by decide) _, ?_⟩
  intro i hi
  have hx := List.getElem?_eq_getElem hi
  cases ho : r.results[i].outcome with
  | pass => exact .inl (mem_places.2 ⟨_, hx, ho⟩)
  | fail => exact .inr (.inl (mem_places.2 ⟨_, hx, ho⟩))
  | skip => exact .inr (.inr (mem_places.2 ⟨_, hx, ho⟩))

/-! ## Labels -/

/-- The place of the first check with a label. -/
def FirstLabelled (checks : List Check) (label : Text) (i : Nat) : Prop :=
  ∃ c, checks[i]? = some c ∧ Text.ofString c.label = label ∧
    ∀ j < i, ∀ d, checks[j]? = some d → Text.ofString d.label ≠ label

section Labels

variable {checks : List Check} {host : Option Version} {view : List Descriptor} {a : Report}

theorem result?_of_verdicts (ha : a.results = checks.map (Check.verdict view host)) (label : Text) :
    a.result? label =
      (checks.find? fun c => Text.ofString c.label == label).map (Check.verdict view host) := by
  unfold Report.result?
  rw [ha, List.find?_map]
  congr 2
  funext c
  exact congrArg (· == label) (verdict_classified view host c).label

theorem result?_eq_some_iff (ha : a.results = checks.map (Check.verdict view host)) {label : Text}
    {x : Result} :
    a.result? label = some x ↔ ∃ i, FirstLabelled checks label i ∧ a.results[i]? = some x := by
  rw [result?_of_verdicts ha, Option.map_eq_some_iff, ha]
  constructor
  · rintro ⟨c, hc, rfl⟩
    obtain ⟨hlabel, i, hi, hic, hbefore⟩ := List.find?_eq_some_iff_getElem.1 hc
    have hget : checks[i]? = some c := by rw [List.getElem?_eq_getElem hi, hic]
    refine ⟨i, ⟨c, hget, beq_iff_eq.1 hlabel, ?_⟩, by rw [List.getElem?_map, hget]; rfl⟩
    intro j hj d hd hdl
    have hlt : j < checks.length := by omega
    rw [List.getElem?_eq_getElem hlt, Option.some.injEq] at hd
    have hne := hbefore j hj
    rw [hd, beq_iff_eq.2 hdl] at hne
    cases hne
  · rintro ⟨i, ⟨c, hget, hlabel, hbefore⟩, hx⟩
    rw [List.getElem?_map, hget] at hx
    refine ⟨c, ?_, Option.some.inj hx⟩
    obtain ⟨hi, hic⟩ := List.getElem?_eq_some_iff.1 hget
    refine List.find?_eq_some_iff_getElem.2 ⟨beq_iff_eq.2 hlabel, i, hi, hic, ?_⟩
    intro j hj
    have hne := hbefore j hj _ (List.getElem?_eq_getElem (by omega))
    simpa using hne

theorem result?_eq_none_iff (ha : a.results = checks.map (Check.verdict view host)) {label : Text} :
    a.result? label = none ↔ ∀ c ∈ checks, Text.ofString c.label ≠ label := by
  rw [result?_of_verdicts ha, Option.map_eq_none_iff, List.find?_eq_none]
  simp only [beq_iff_eq, ne_eq]

end Labels

/-! ## The exit code -/

namespace Probe

variable {checks : List Check} {host : Option Version} {view : List Descriptor} {a : Report}

/-- Every check that is not skipped finds an extension in a view. -/
def Met (checks : List Check) (host : Option Version) (view : List Descriptor) : Prop :=
  ∀ c ∈ checks, ¬ c.SkippedOn host → ∃ d ∈ view, c.policy.Satisfied d

theorem exitCode_of_verdicts (ha : a.results = checks.map (Check.verdict view host)) :
    a.exitCode = 0 ↔ Met checks host view := by
  rw [Report.exitCode_eq_zero_iff, ha]
  constructor
  · intro h c hc hskip
    have hfail := h _ (List.mem_map_of_mem hc)
    rw [ne_eq, (verdict_classified view host c).fail_iff, not_and, not_forall] at hfail
    obtain ⟨d, hd⟩ := hfail hskip
    rw [Classical.not_imp, not_not] at hd
    exact ⟨d, hd⟩
  · intro h x hx hfail
    obtain ⟨c, hc, rfl⟩ := List.mem_map.1 hx
    obtain ⟨hskip, hnone⟩ := (verdict_classified view host c).fail_iff.1 hfail
    obtain ⟨d, hd, hsat⟩ := h c hc hskip
    exact hnone d hd hsat

/-- Checks that are skipped do not count. -/
theorem met_congr {others : List Check} (h : ∀ c, ¬ c.SkippedOn host → (c ∈ others ↔ c ∈ checks)) :
    Met others host view ↔ Met checks host view := by
  constructor
  · intro hmet c hc hskip
    exact hmet c ((h c hskip).2 hc) hskip
  · intro hmet c hc hskip
    exact hmet c ((h c hskip).1 hc) hskip

theorem exitCode_eq_one_iff : a.exitCode = 1 ↔ a.exitCode ≠ 0 := by
  unfold Report.exitCode
  split <;> simp

/-- What a report says in sum, by the checks, the host and the view of its probe. -/
structure Summed (a : Report) (checks : List Check) (host : Option Version) (view : List Descriptor) :
    Prop where
  zero : a.exitCode = 0 ↔ Met checks host view
  one : a.exitCode = 1 ↔ ¬ Met checks host view
  success : a.success = true ↔ Met checks host view
  parted : ∃ ps fs ss, Parted a ps fs ss
  result_some : ∀ label x,
    a.result? label = some x ↔ ∃ i, FirstLabelled checks label i ∧ a.results[i]? = some x
  result_none : ∀ label, a.result? label = none ↔ ∀ c ∈ checks, Text.ofString c.label ≠ label

theorem summed_of_verdicts (ha : a.results = checks.map (Check.verdict view host)) :
    Summed a checks host view := by
  have hzero := exitCode_of_verdicts ha
  refine ⟨hzero, ?_, success_iff_exitCode.trans hzero, ⟨_, _, _, parted_places a⟩, ?_, ?_⟩
  · rw [exitCode_eq_one_iff, ne_eq, hzero]
  · exact fun label x => result?_eq_some_iff ha
  · exact fun label => result?_eq_none_iff ha

/-- **A probe exits by its checks, its listing and its host version.** A report has exit code zero exactly if
every check that is not skipped on the host finds an extension in the listing, and one otherwise; checks that
are skipped may be added or left out without a change of the exit code. -/
theorem exit_code_of_probe {σ : Type} {least : Int} {client : Client σ} {capability : Text}
    {raw : Option Text} {state : σ}
    (h : (probe least client checks capability raw state).1.outcome = .ok a) :
    ∃ host view, (Version.parseLenient raw).outcome = .ok host ∧
      (client capability state).1 = some (view.map some) ∧ Summed a checks host view ∧
      ∀ others b, (∀ c, ¬ c.SkippedOn host → (c ∈ others ↔ c ∈ checks)) →
        (probe least client others capability raw state).1.outcome = .ok b →
        b.exitCode = a.exitCode := by
  obtain ⟨host, view, hhost, hu, ha⟩ := report_of_probe h
  have hsum : Summed a checks host view := summed_of_verdicts (by rw [ha])
  refine ⟨host, view, hhost, (usable_eq_ok_iff.1 hu).1, hsum, ?_⟩
  intro others b hothers hb
  obtain ⟨host', view', hhost', hu', hb⟩ := report_of_probe hb
  -- both probes read the same host version and the same listing
  cases hhost.symm.trans hhost'
  cases hu.symm.trans hu'
  have hsum' : Summed b others host view := summed_of_verdicts (by rw [hb])
  have hmet : Met others host view ↔ Met checks host view := met_congr hothers
  by_cases hm : Met checks host view
  · rw [hsum.zero.2 hm, hsum'.zero.2 (hmet.2 hm)]
  · rw [hsum.one.2 hm, hsum'.one.2 (mt hmet.1 hm)]

/-- A check of each kind; the last two share a label with the first one, and one of them has a gate. -/
def twins : List Check :=
  [{ label := "a", policy := .exact "A" },
    { label := "a", policy := .exact "B", gate := some ⟨9, 9⟩ },
    { label := "a", policy := .marker "m" }]

/-- A registry with two extensions that counts how often it is asked. -/
def counting : Client Nat :=
  fun _ asked => (some [some ⟨"C", [], ["m"]⟩, some ⟨"A", [], []⟩], asked + 1)

/-- The gated one of the twins is skipped on an older host, and the exit code is the same without it. -/
theorem exit_code_of_probe_twins :
    ∃ a b, (probe 1 counting twins "c" (some "2.530") 0).1.outcome = .ok a ∧
      (probe 1 counting (twins.eraseIdx 1) "c" (some "2.530") 0).1.outcome = .ok b ∧
      a.results.map Result.outcome = [.pass, .skip, .pass] ∧ a.exitCode = 0 ∧ b.exitCode = a.exitCode ∧
      a.result? "a" = a.results[0]? ∧ ∃ ps fs ss, Parted a ps fs ss := by
  obtain ⟨a, ha, hout⟩ : ∃ a, (probe 1 counting twins "c" (some "2.530") 0).1.outcome = .ok a ∧
      a.results.map Result.outcome = [.pass, .skip, .pass] ∧ a.exitCode = 0 ∧
      a.result? "a" = a.results[0]? := ⟨_, rfl, rfl, rfl, rfl⟩
  obtain ⟨b, hb⟩ : ∃ b, (probe 1 counting (twins.eraseIdx 1) "c" (some "2.530") 0).1.outcome = .ok b :=
    ⟨_, rfl⟩
  obtain ⟨host, view, hhost, -, hsum, hothers⟩ := exit_code_of_probe ha
  have hnew : (Version.parseLenient (some "2.530")).outcome = .ok (some ⟨2, 530, none⟩) := rfl
  cases hhost.symm.trans hnew
  have hskip : Check.SkippedOn { label := "a", policy := .exact "B", gate := some ⟨9, 9⟩ }
      (some ⟨2, 530, none⟩) := Check.applies_eq_false_iff.1 rfl
  have hsame : b.exitCode = a.exitCode := by
    refine hothers _ b (fun c hc => ?_) hb
    constructor
    · exact fun hmem => List.mem_of_mem_eraseIdx hmem
    · intro hmem
      rcases List.mem_cons.1 hmem with rfl | hmem
      · exact List.mem_cons_self
      rcases List.mem_cons.1 hmem with rfl | hmem
      · exact absurd hskip hc
      · exact List.mem_cons_of_mem _ hmem
  exact ⟨a, b, ha, hb, hout.1, hout.2.1, hsame, hout.2.2, hsum.parted⟩

end Probe

end ExtensionProbe
