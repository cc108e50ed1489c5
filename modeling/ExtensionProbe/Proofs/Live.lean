import ExtensionProbe.Proofs.Growth
import ExtensionProbe.Registration

/-!
# A live registry

A registry that is probed while extensions are registered. Its listings only ever get longer at their ends,
so a probe that is made again sees all that it saw before, and then more.

* `list_act`: one action adds at most one descriptor at the end of a listing.
* `list_registryAt`: the listing at a later point is the earlier one and what was registered between.
* `getElem?_run`: what a run gives at a place is what its action gives on the registry there.
* `live_registry_improves`: **of two probes in one run, the later one reports all that the earlier one
  reported, or finds an extension without a name that was registered between.**
-/

namespace ExtensionProbe

open Log Probe

/-- What is done with a live registry. -/
inductive Action where
  | register (capability : Text) (extension : Extension)
  | probe

/-- The descriptor that an action adds to the listing of a capability. -/
def Action.adds (capability : Text) : Action → Option Descriptor
  | .register c e => if c = capability then e.descriptor.toOption else none
  | .probe => none

/-- A way of probing that is the same each time. -/
structure Watch where
  least : Int
  checks : List Check
  capability : Text
  rawVersion : Option Text

namespace Watch

variable {w : Watch} {actions : List Action} {capability : Text}

/-- One action on a live registry: the answer if it is a probe, and the registry after it. -/
def act (w : Watch) (r : Registry) : Action → Option (Except ProbeError Report) × Registry
  | .register capability e => (none, (r.enroll capability e).2)
  | .probe =>
    let (judgement, after) :=
      Probe.probe w.least Registry.client w.checks w.capability w.rawVersion r
    (some judgement.outcome, after)

/-- What the actions of a run give, in order. -/
def run (w : Watch) (r : Registry) : List Action → List (Option (Except ProbeError Report))
  | [] => []
  | a :: rest => (w.act r a).1 :: w.run (w.act r a).2 rest

/-- The registry after actions. -/
def after (w : Watch) (r : Registry) (actions : List Action) : Registry :=
  actions.foldl (fun r a => (w.act r a).2) r

/-- The registry after the first `n` actions of a run that starts with nothing registered. -/
def registryAt (w : Watch) (actions : List Action) (n : Nat) : Registry :=
  w.after .empty (actions.take n)

/-! ## Listings only grow -/

/-- Probing leaves a registry as it is. -/
theorem probe_registry (w : Watch) (r : Registry) :
    (Probe.probe w.least Registry.client w.checks w.capability w.rawVersion r).2 = r := by
  unfold Probe.probe
  simp only
  split <;> rfl

theorem list_act (w : Watch) (r : Registry) (a : Action) (capability : Text) :
    (w.act r a).2.list capability = r.list capability ++ (a.adds capability).toList := by
  cases a with
  | probe =>
    simp only [act, probe_registry, Action.adds, Option.toList_none, List.append_nil]
  | register c e =>
    simp only [act, Action.adds]
    cases hd : e.descriptor with
    | error issues =>
      rw [Registry.enroll_of_undescribed hd]
      split <;> simp [Except.toOption]
    | ok d =>
      rw [Registry.enroll_of_described hd]
      by_cases hc : c = capability
      · subst hc
        simp [Registry.list_register_self, Except.toOption]
      · simp [Registry.list_register_of_ne (Ne.symm hc), hc]

theorem list_after (w : Watch) (r : Registry) (actions : List Action) (capability : Text) :
    (w.after r actions).list capability =
      r.list capability ++ actions.filterMap (Action.adds capability) := by
  unfold after
  induction actions generalizing r with
  | nil => simp
  | cons a rest ih =>
    rw [List.foldl_cons, ih, list_act, List.append_assoc]
    cases h : a.adds capability <;> simp [h]

/-- What a run registers for a capability from one point on, up to another one. -/
def between (actions : List Action) (i j : Nat) (capability : Text) : List Descriptor :=
  ((actions.take j).drop i).filterMap (Action.adds capability)

theorem list_registryAt (w : Watch) (actions : List Action) {i j : Nat} (hij : i ≤ j)
    (capability : Text) :
    (w.registryAt actions j).list capability =
      (w.registryAt actions i).list capability ++ between actions i j capability := by
  -- the later point is the earlier one and the actions between
  have hsplit : actions.take j = actions.take i ++ (actions.take j).drop i := by
    have := (List.take_append_drop i (actions.take j)).symm
    rwa [List.take_take, Nat.min_eq_left hij] at this
  unfold registryAt between
  rw [list_after, list_after, List.append_assoc, ← List.filterMap_append, ← hsplit]

theorem mem_between {i j : Nat} {d : Descriptor} (h : d ∈ between actions i j capability) :
    ∃ k a, i ≤ k ∧ k < j ∧ actions[k]? = some a ∧ a.adds capability = some d := by
  obtain ⟨a, ha, hd⟩ := List.mem_filterMap.1 h
  obtain ⟨n, hn⟩ := List.mem_iff_getElem?.1 ha
  rw [List.getElem?_drop, List.getElem?_take] at hn
  split at hn
  · next hlt => exact ⟨i + n, a, by omega, hlt, hn, hd⟩
  · cases hn

theorem eq_register_of_adds {a : Action} {d : Descriptor} (h : a.adds capability = some d) :
    ∃ e, a = .register capability e ∧ e.descriptor = .ok d := by
  cases a with
  | probe => cases h
  | register c e =>
    simp only [Action.adds] at h
    by_cases hc : c = capability
    · subst hc
      rw [if_pos rfl] at h
      refine ⟨e, rfl, ?_⟩
      cases hd : e.descriptor with
      | error issues => rw [hd] at h; cases h
      | ok d' => rw [hd] at h; cases h; rfl
    · rw [if_neg hc] at h
      cases h

theorem getElem?_run (w : Watch) (r : Registry) (actions : List Action) (i : Nat) :
    (w.run r actions)[i]? = actions[i]?.map fun a => (w.act (w.after r (actions.take i)) a).1 := by
  induction actions generalizing r i with
  | nil => rfl
  | cons a rest ih =>
    cases i with
    | zero => rfl
    | succ i =>
      simp only [run, List.getElem?_cons_succ, List.take_succ_cons]
      exact ih _ i

/-! ## Answers -/

/-- The answer of a probe of a registry that lists descriptors for the capability. -/
def answer (w : Watch) (ds : List Descriptor) : Except ProbeError Report :=
  match (Version.parseLenient w.rawVersion).outcome with
  | .error e => .error (.unwritable e)
  | .ok host =>
    conclusion w.least w.checks w.capability w.rawVersion host (some (ds.map some))

theorem act_probe (w : Watch) (r : Registry) :
    (w.act r .probe).1 = some (w.answer (r.list w.capability)) :=
  congrArg some (outcome_probe w.least Registry.client w.checks w.capability w.rawVersion r)

/-- Only a probe answers, and it answers from the listing at its place. -/
theorem answer_of_run {i : Nat} {x : Except ProbeError Report}
    (h : (w.run .empty actions)[i]? = some (some x)) :
    actions[i]? = some .probe ∧ x = w.answer ((w.registryAt actions i).list w.capability) := by
  rw [getElem?_run, Option.map_eq_some_iff] at h
  obtain ⟨a, ha, hx⟩ := h
  cases a with
  | register c e => cases hx
  | probe =>
    rw [act_probe] at hx
    exact ⟨ha, (Option.some.inj hx).symm⟩

/-- A later report beside an earlier one of the same watch. -/
structure Later (earlier later : Report) : Prop where
  observed : earlier.observed <+: later.observed
  improved : AtEachPlace Improved earlier.results later.results
  keepsPass : AtEachPlace KeepsPass earlier.results later.results
  exitCode : earlier.exitCode = 0 → later.exitCode = 0

theorem answer_append_of_report {ds : List Descriptor} {a : Report} (h : w.answer ds = .ok a)
    (more : List Descriptor) :
    (∃ b, w.answer (ds ++ more) = .ok b ∧ Later a b) ∨
      (∃ m, w.answer (ds ++ more) = .error (.malformed m)) ∧ ∃ d ∈ more, d.simpleName = [] := by
  unfold answer at h ⊢
  cases hp : (Version.parseLenient w.rawVersion).outcome with
  | error e => rw [hp] at h; cases h
  | ok host =>
    rw [hp] at h
    simp only at h ⊢
    obtain ⟨view, hu, ho, rfl⟩ := usable_of_conclusion h
    obtain rfl := eq_of_usable_map_some hu
    -- the old entries were in order, so only a new one without a name can spoil the listing
    rcases usable_append hu more with hu' | ⟨⟨m, hm⟩, hd⟩
    · left
      refine ⟨_, conclusion_of_usable hu' ho, ?_⟩
      have hpre : view <+: view ++ more := List.prefix_append view more
      have himp : AtEachPlace Improved (w.checks.map (Check.verdict view host))
          (w.checks.map (Check.verdict (view ++ more) host)) :=
        atEachPlace_map fun c _ => verdict_improved (fun d hd => hpre.subset hd) c
      exact ⟨hpre, himp, atEachPlace_map fun c _ => verdict_keepsPass hpre c,
        exitCode_eq_zero_of_fail (himp.symm.imp fun s r => Improved.fail)⟩
    · exact .inr ⟨⟨m, conclusion_of_malformed hm⟩, hd⟩

theorem answer_append_of_unnamed {ds : List Descriptor} {m : Malformed} {n : Nat}
    (h : w.answer ds = .error (.malformed m)) (hm : m.flaw = .unnamed n) (more : List Descriptor) :
    ∃ m', w.answer (ds ++ more) = .error (.malformed m') ∧ m'.flaw = .unnamed n := by
  unfold answer at h ⊢
  cases hp : (Version.parseLenient w.rawVersion).outcome with
  | error e => rw [hp] at h; cases h
  | ok host =>
    rw [hp] at h
    simp only at h ⊢
    have hf := flaw_of_malformed (malformed_of_conclusion h)
    rw [hm] at hf
    have hf' := flaw?_unnamed_append hf (more.map some)
    rw [← List.map_append] at hf'
    exact ⟨_, conclusion_of_malformed (usable_of_unnamed hf'), rfl⟩

/-- **A live registry only improves.** Of two probes of one run, an earlier that gave a report is followed
by one that reports the same and more, unless an extension without a name was registered between them. A
probe that found such an extension is followed only by probes that find it again. -/
theorem live_registry_improves {i j : Nat} (hij : i < j) {x y : Except ProbeError Report}
    (hx : (w.run .empty actions)[i]? = some (some x))
    (hy : (w.run .empty actions)[j]? = some (some y)) :
    (∀ a, x = .ok a →
      (∃ b, y = .ok b ∧ Later a b) ∨
      (∃ m, y = .error (.malformed m)) ∧
        ∃ k e d, i < k ∧ k < j ∧ actions[k]? = some (.register w.capability e) ∧
          e.descriptor = .ok d ∧ d.simpleName = []) ∧
    ∀ m n, x = .error (.malformed m) → m.flaw = .unnamed n →
      ∃ m', y = .error (.malformed m') ∧ m'.flaw = .unnamed n := by
  obtain ⟨hi, rfl⟩ := answer_of_run hx
  obtain ⟨-, rfl⟩ := answer_of_run hy
  rw [list_registryAt w actions (Nat.le_of_lt hij)]
  refine ⟨?_, fun m n h hm => answer_append_of_unnamed h hm _⟩
  intro a ha
  rcases answer_append_of_report ha (between actions i j w.capability) with hb | ⟨hm, d, hd, hempty⟩
  · exact .inl hb
  · right
    refine ⟨hm, ?_⟩
    obtain ⟨k, act, hik, hkj, hk, hadds⟩ := mem_between hd
    obtain ⟨e, rfl, he⟩ := eq_register_of_adds hadds
    -- the action at `i` is a probe, so the registration comes after it
    have hne : i ≠ k := by
      rintro rfl
      cases hi.symm.trans hk
    exact ⟨k, e, d, by omega, hkj, hk, he, hempty⟩

/-- A run in which an extension without a name is registered for `c` after two of four probes, and one for
another capability before. -/
def unnamedRun : List Action :=
  [.register "c" (.described ⟨"StandardImpl", [], []⟩), .probe,
    .register "d" (.described ⟨[], [], []⟩), .register "c" (.described ⟨"Other", [], []⟩), .probe,
    .register "c" (.described ⟨[], [], []⟩), .probe, .probe]

theorem live_registry_improves_on_unnamedRun :
    (∃ a b, (run ⟨1, Check.defaults, "c", some "2.530"⟩ .empty unnamedRun)[1]? = some (some (.ok a)) ∧
      (run ⟨1, Check.defaults, "c", some "2.530"⟩ .empty unnamedRun)[4]? = some (some (.ok b)) ∧
      Later a b) ∧
    ∃ m m', (run ⟨1, Check.defaults, "c", some "2.530"⟩ .empty unnamedRun)[6]? =
        some (some (.error (.malformed m))) ∧
      (run ⟨1, Check.defaults, "c", some "2.530"⟩ .empty unnamedRun)[7]? =
        some (some (.error (.malformed m'))) ∧
      m.flaw = .unnamed 2 ∧ m'.flaw = .unnamed 2 := by
  have h1 : ∃ a, (run ⟨1, Check.defaults, "c", some "2.530"⟩ .empty unnamedRun)[1]? =
      some (some (.ok a)) := ⟨_, rfl⟩
  have h4 : ∃ b, (run ⟨1, Check.defaults, "c", some "2.530"⟩ .empty unnamedRun)[4]? =
      some (some (.ok b)) := ⟨_, rfl⟩
  have h6 : ∃ m, (run ⟨1, Check.defaults, "c", some "2.530"⟩ .empty unnamedRun)[6]? =
      some (some (.error (.malformed m))) ∧ m.flaw = .unnamed 2 := ⟨_, rfl, rfl⟩
  have h7 : ∃ y, (run ⟨1, Check.defaults, "c", some "2.530"⟩ .empty unnamedRun)[7]? =
      some (some y) := ⟨_, rfl⟩
  obtain ⟨a, h1⟩ := h1
  obtain ⟨b, h4⟩ := h4
  obtain ⟨m, h6, hm⟩ := h6
  obtain ⟨y, h7⟩ := h7
  constructor
  · rcases (live_registry_improves (by decide) h1 h4).1 a rfl with ⟨b', hb, hlater⟩ | ⟨⟨m', hm'⟩, -⟩
    · cases hb
      exact ⟨a, b, h1, h4, hlater⟩
    · cases hm'
  · obtain ⟨m', rfl, hm'⟩ := (live_registry_improves (by decide) h6 h7).2 m 2 rfl hm
    exact ⟨m, m', h6, h7, hm, hm'⟩

end Watch

end ExtensionProbe
