import ExtensionProbe.Proofs.Probing

/-!
# What a probe asks, and what it makes of the answer

A client may keep a state and answer every question differently. A probe asks it once at most, and what it
reports rests on that one answer.

* `probe_of_read`, `probe_of_unread`: a probe asks exactly if it has read its host version.
* `probe_noting`: noting down what is asked changes nothing of a probe.
* `outcome_of_report`, `outcome_of_malformed`: what a report, or a malformed listing, takes from the answer.
* `probe_asks_once`: **a probe asks once, and all that it says of the registry is in the answer.**
-/

namespace ExtensionProbe

open Log

/-- A client that notes what it is asked, in order. -/
def Client.noting {σ : Type} (client : Client σ) : Client (List Text × σ) := fun capability s =>
  ((client capability s.2).1, s.1 ++ [capability], (client capability s.2).2)

namespace Probe

variable {σ τ : Type} {least : Int} {client : Client σ} {checks : List Check} {capability : Text}
  {raw : Option Text} {state : σ} {host : Option Version} {asked : List Text}

theorem probe_of_unread {e : Decimal.LimitError} (h : (Version.parseLenient raw).outcome = .error e) :
    probe least client checks capability raw state =
      (⟨(Version.parseLenient raw).events, .error (.unwritable e)⟩, state) := by
  have hv : ((Version.parseLenient raw).mapError ProbeError.unwritable).outcome =
      .error (.unwritable e) := by
    rw [Logged.mapError, h]
    rfl
  simp only [probe, hv]
  rfl

theorem probe_of_read (h : (Version.parseLenient raw).outcome = .ok host) :
    probe least client checks capability raw state =
      let judgement := judge least checks capability raw host (client capability state).1
      (⟨(Version.parseLenient raw).events ++ judgement.events, judgement.outcome⟩,
        (client capability state).2) := by
  simp only [probe, Logged.outcome_mapError_ok h]
  rfl

/-- What a probe asks: nothing if its host version has a number that is too long, else its capability. -/
def questions (capability : Text) (raw : Option Text) : List Text :=
  match (Version.parseLenient raw).outcome with
  | .error _ => []
  | .ok _ => [capability]

/-- A client that notes what it is asked serves a probe as well as one that does not. -/
theorem probe_noting (least : Int) (client : Client σ) (checks : List Check) (capability : Text)
    (raw : Option Text) (state : σ) (asked : List Text) :
    probe least client.noting checks capability raw (asked, state) =
      ((probe least client checks capability raw state).1,
        asked ++ questions capability raw, (probe least client checks capability raw state).2) := by
  unfold questions
  cases hv : (Version.parseLenient raw).outcome with
  | error e => rw [probe_of_unread hv, probe_of_unread hv, List.append_nil]
  | ok host =>
    rw [probe_of_read hv, probe_of_read hv]
    rfl

/-- Two clients with the same answer to the one question serve a probe alike, whatever their states are and
whatever they would answer later. -/
theorem probe_congr {other : Client τ} {s : τ}
    (h : (other capability s).1 = (client capability state).1) :
    (probe least other checks capability raw s).1 = (probe least client checks capability raw state).1 := by
  cases hv : (Version.parseLenient raw).outcome with
  | error e => rw [probe_of_unread hv, probe_of_unread hv]
  | ok host =>
    rw [probe_of_read hv, probe_of_read hv]
    simp only [h]

/-- A report that rests on an answer: it observes what is in the answer, and has a result for each check,
classified by what it observes. -/
structure RestsOn (answer : Listing) (checks : List Check) (host : Option Version) (a : Report) :
    Prop where
  observed : answer = some (a.observed.map some)
  length : a.results.length = checks.length
  classified : ∀ (i : Nat) c r, checks[i]? = some c → a.results[i]? = some r →
    Classified a.observed host c r

theorem outcome_of_report {a : Report}
    (h : (probe least client checks capability raw state).1.outcome = .ok a) :
    ∃ host, (Version.parseLenient raw).outcome = .ok host ∧
      RestsOn (client capability state).1 checks host a := by
  obtain ⟨host, view, hhost, hu, rfl⟩ := report_of_probe h
  refine ⟨host, hhost, (usable_eq_ok_iff.1 hu).1, List.length_map _, ?_⟩
  intro i c r hc hr
  rw [List.getElem?_map, hc] at hr
  cases hr
  exact verdict_classified view host c

theorem outcome_of_malformed {m : Malformed}
    (h : (probe least client checks capability raw state).1.outcome = .error (.malformed m)) :
    (∃ host, (Version.parseLenient raw).outcome = .ok host) ∧
      (client capability state).1.flaw? least = some m.flaw ∧
      m.observed = (client capability state).1.reported m.flaw := by
  obtain ⟨hhost, hu⟩ := malformed_of_probe h
  exact ⟨hhost, flaw_of_malformed hu, observed_of_malformed hu⟩

theorem questions_of_read (h : (Version.parseLenient raw).outcome = .ok host) :
    questions capability raw = [capability] := by
  unfold questions
  rw [h]

/-- **A probe asks once.** It asks its client for its capability, and for nothing else, before it reports or
finds the listing malformed; in no case does it ask twice. What it observes, the outcome of each check, what
each check found or missed, and what it complains of are all in the one answer, and a client that would go on
differently makes no difference. -/
theorem probe_asks_once (least : Int) (client : Client σ) (checks : List Check) (capability : Text)
    (raw : Option Text) (state : σ) (asked : List Text) :
    let noted := probe least client.noting checks capability raw (asked, state)
    let answer := (client capability state).1
    (noted.2.1 = asked ∨ noted.2.1 = asked ++ [capability]) ∧
    (noted.1 = (probe least client checks capability raw state).1 ∧
      noted.2.2 = (probe least client checks capability raw state).2) ∧
    (∀ a, noted.1.outcome = .ok a → noted.2.1 = asked ++ [capability] ∧
      ∃ host, (Version.parseLenient raw).outcome = .ok host ∧ RestsOn answer checks host a) ∧
    (∀ m, noted.1.outcome = .error (.malformed m) → noted.2.1 = asked ++ [capability] ∧
      answer.flaw? least = some m.flaw ∧ m.observed = answer.reported m.flaw) ∧
    ∀ (τ : Type) (other : Client τ) (s : τ), (other capability s).1 = answer →
      (probe least other checks capability raw s).1 = noted.1 := by
  simp only [probe_noting]
  refine ⟨?_, ⟨trivial, trivial⟩, ?_, ?_, fun τ other s h => probe_congr h⟩
  · unfold questions
    cases (Version.parseLenient raw).outcome with
    | error e => exact .inl (List.append_nil asked)
    | ok host => exact .inr rfl
  · intro a ha
    obtain ⟨host, hhost, hrests⟩ := outcome_of_report ha
    exact ⟨by rw [questions_of_read hhost], host, hhost, hrests⟩
  · intro m hm
    obtain ⟨⟨host, hhost⟩, hflaw, hobserved⟩ := outcome_of_malformed hm
    exact ⟨by rw [questions_of_read hhost], hflaw, hobserved⟩

/-- A client that has an answer once, and nothing to say after it. -/
def fickle : Client Bool := fun _ spent =>
  (if spent then none else some [some ⟨"StandardStrategyImpl", [], []⟩, some ⟨"Other", [], []⟩], true)

/-- One probe of a client that has an answer only once, where the next one would find no listing. -/
theorem probe_asks_once_fickle :
    ∃ a, (probe 2 fickle.noting Check.defaults "c" (some "2.530") ([], false)).1.outcome = .ok a ∧
      (probe 2 fickle.noting Check.defaults "c" (some "2.530") ([], false)).2 =
        ([Text.ofString "c"], true) ∧
      a.results.map Result.outcome = [.pass, .fail, .fail] ∧
      RestsOn (fickle "c" false).1 Check.defaults (some ⟨2, 530, none⟩) a ∧
      (fickle "c" true).1 = none := by
  obtain ⟨a, ha, hout⟩ : ∃ a,
      (probe 2 fickle.noting Check.defaults "c" (some "2.530") ([], false)).1.outcome = .ok a ∧
        a.results.map Result.outcome = [.pass, .fail, .fail] := ⟨_, rfl, rfl⟩
  obtain ⟨-, ⟨-, hstate⟩, hreport, -, -⟩ :=
    probe_asks_once 2 fickle Check.defaults "c" (some "2.530") false []
  obtain ⟨hasked, host, hhost, hrests⟩ := hreport a ha
  have hnew : (Version.parseLenient (some "2.530")).outcome = .ok (some ⟨2, 530, none⟩) := rfl
  cases hhost.symm.trans hnew
  exact ⟨a, ha, Prod.ext hasked hstate, hout, hrests, rfl⟩

end Probe

end ExtensionProbe
