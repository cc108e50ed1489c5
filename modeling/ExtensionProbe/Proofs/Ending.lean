import ExtensionProbe.Proofs.NormalForm
import ExtensionProbe.Proofs.Probing
import ExtensionProbe.Registry

/-!
# How a probe ends

A probe ends with a report, or with a malformed listing, or because a number is too long to be read or
written. The last happens in exactly three ways: the host version has such a number, or the least number of
extensions is one where the listing falls short of it, or the gate of a skipped check has one. A host version
that is no version, but has no number that is too long, is as good as none.

* `probe_of_overlong`, `probe_cases`: the three ways, in both directions.
* `conclusion_raw`: the host version as it was given plays no part once it was read.
* `probe_ends`: **how a probe ends, and what a host version that is none does to it.**
* `long_host_aborts`: a host version with a number that is too long ends a probe without a report.
-/

namespace ExtensionProbe

open Log

/-! ## Numbers that are too long to be written -/

theorem Decimal.write_of_not_writable {n : Nat} (h : ¬ Writable n) : write n = .error .writing :=
  if_neg h

theorem Gate.text_of_not_writable {g : Gate} (h : ¬ g.Writable) : g.text = .error .writing := by
  unfold Gate.text
  by_cases hmajor : Decimal.Writable g.major
  · have hminor : ¬ Decimal.Writable g.minor := fun hminor => h ⟨hmajor, hminor⟩
    rw [Decimal.write_of_writable hmajor, Decimal.write_of_not_writable hminor]
    rfl
  · rw [Decimal.write_of_not_writable hmajor]
    rfl

/-- A check is skipped on a host, and its gate has a number that is too long for the reason. -/
def Check.SkippedUnsaid (c : Check) (host : Option Version) : Prop :=
  c.SkippedOn host ∧ ∃ g, c.gate = some g ∧ ¬ g.Writable

theorem Check.overlong?_of_not_writable {c : Check} {host : Option Version} {g : Gate}
    (hh : Probe.HostWritable host) (hg : c.gate = some g) (ha : g.admits host = false)
    (hw : ¬ g.Writable) : c.overlong? host = some .writing := by
  have hreason : Probe.skipReason host g = .error .writing := by
    unfold Probe.skipReason
    rw [Probe.hostText_of_writable hh, Gate.text_of_not_writable hw]
    rfl
  unfold overlong?
  rw [hg]
  simp only [ha, hreason, Bool.false_eq_true, if_false]

theorem Check.overlong?_eq_some_iff {c : Check} {host : Option Version} {e : Decimal.LimitError}
    (hh : Probe.HostWritable host) :
    c.overlong? host = some e ↔ c.SkippedUnsaid host ∧ e = .writing := by
  unfold SkippedUnsaid
  rw [← applies_eq_false_iff]
  cases hg : c.gate with
  | none =>
    rw [applies_of_no_gate hg]
    unfold overlong?
    rw [hg]
    exact iff_of_false nofun fun h => nomatch h.1.1
  | some g =>
    rw [applies_of_gate hg]
    cases ha : g.admits host with
    | true =>
      unfold overlong?
      simp only [hg, ha, if_true]
      exact iff_of_false nofun fun h => nomatch h.1.1
    | false =>
      by_cases hw : g.Writable
      · -- the reason can be written, so nothing is too long
        have hnone : c.overlong? host = none := by
          refine overlong?_of_writable hh fun g' hg' => ?_
          cases hg.symm.trans hg'
          exact hw
        rw [hnone]
        refine iff_of_false nofun ?_
        rintro ⟨⟨-, g', hg', hw'⟩, -⟩
        cases hg'
        exact hw' hw
      · rw [overlong?_of_not_writable hh hg ha hw]
        constructor
        · intro he
          exact ⟨⟨rfl, g, rfl, hw⟩, (Option.some.inj he).symm⟩
        · rintro ⟨-, rfl⟩
          rfl

namespace Probe

variable {least : Int} {checks : List Check} {capability : Text} {raw : Option Text}
  {host : Option Version} {l : Listing} {view : List Descriptor} {e : Decimal.LimitError}

theorem overlong?_eq_some_iff (hh : HostWritable host) :
    overlong? host checks = some e ↔ (∃ c ∈ checks, c.SkippedUnsaid host) ∧ e = .writing := by
  unfold overlong?
  constructor
  · intro h
    obtain ⟨c, hc, hce⟩ := List.exists_of_findSome?_eq_some h
    obtain ⟨hskip, he⟩ := (Check.overlong?_eq_some_iff hh).1 hce
    exact ⟨⟨c, hc, hskip⟩, he⟩
  · rintro ⟨⟨c, hc, hskip⟩, rfl⟩
    cases hf : checks.findSome? (Check.overlong? host) with
    | none =>
      have hnone := List.findSome?_eq_none_iff.1 hf c hc
      rw [(Check.overlong?_eq_some_iff hh).2 ⟨hskip, rfl⟩] at hnone
      cases hnone
    | some e =>
      -- whichever check is the first one, the limit is the same
      obtain ⟨d, -, hde⟩ := List.exists_of_findSome?_eq_some hf
      rw [((Check.overlong?_eq_some_iff hh).1 hde).2]

/-- A listing falls short of a least number of extensions that is too long for the message. -/
def ShortUnsaid (least : Int) (l : Listing) : Prop :=
  ∃ entries, l = some entries ∧ entries ≠ [] ∧ (entries.length : Int) < least ∧
    ¬ Decimal.Writable least.toNat

theorem usable_of_short {entries : List (Option Descriptor)} {place : Option Text}
    (hne : entries ≠ []) (hfew : (entries.length : Int) < least) :
    usable least place (some entries) =
      if Decimal.Writable least.toNat then
        .error (.malformed ⟨place, .tooFew least entries.length, entries⟩)
      else .error (.unwritable .writing) := by
  have hflaw := flaw?_of_short hne hfew
  -- a number above a length is not negative, so it is written without a sign
  obtain ⟨n, rfl⟩ : ∃ n : Nat, least = n := ⟨least.toNat, by omega⟩
  have hwrite : Decimal.writeInt n = Decimal.write n := rfl
  unfold usable Listing.view
  simp only [hflaw, Int.toNat_natCast, hwrite]
  by_cases hw : Decimal.Writable n
  · rw [Decimal.write_of_writable hw, if_pos hw]
    rfl
  · rw [Decimal.write_of_not_writable hw, if_neg hw]

theorem usable_error_cases {place : Option Text} {x : ProbeError} (h : usable least place l = .error x) :
    (∃ m, x = .malformed m) ∨ ShortUnsaid least l ∧ x = .unwritable .writing := by
  rcases l with _ | entries
  · cases h
    exact .inl ⟨_, rfl⟩
  by_cases hne : entries = []
  · subst hne
    cases h
    exact .inl ⟨_, rfl⟩
  by_cases hfew : (entries.length : Int) < least
  · rw [usable_of_short hne hfew] at h
    by_cases hw : Decimal.Writable least.toNat
    · rw [if_pos hw] at h
      cases h
      exact .inl ⟨_, rfl⟩
    · rw [if_neg hw] at h
      cases h
      exact .inr ⟨⟨entries, rfl, hne, hfew, hw⟩, rfl⟩
  · -- with enough entries only a name can be missing, and that can always be said
    unfold usable Listing.view at h
    rw [flaw?_of_enough hne (by omega)] at h
    cases hi : entries.findIdx? (!Listing.isNamed ·) with
    | none => rw [hi] at h; cases h
    | some n => rw [hi] at h; cases h; exact .inl ⟨_, rfl⟩

theorem usable_of_shortUnsaid {place : Option Text} (h : ShortUnsaid least l) :
    usable least place l = .error (.unwritable .writing) := by
  obtain ⟨entries, rfl, hne, hfew, hw⟩ := h
  rw [usable_of_short hne hfew, if_neg hw]

/-! ## Endings -/

/-- What is too long in a probe, and the limit it breaks. -/
inductive Overlong (least : Int) (checks : List Check) (raw : Option Text) (l : Listing) :
    Decimal.LimitError → Prop
  /-- A number of the host version. -/
  | host {e : Decimal.LimitError} (h : Version.parse raw = .error (.tooLong e)) :
    Overlong least checks raw l e
  /-- The least number of extensions, where there are fewer. -/
  | least {host : Option Version} (hhost : (Version.parseLenient raw).outcome = .ok host)
      (h : ShortUnsaid least l) : Overlong least checks raw l .writing
  /-- A number of the gate of a check that is skipped. -/
  | gate {host : Option Version} {c : Check} (hhost : (Version.parseLenient raw).outcome = .ok host)
      (hl : l.flaw? least = none) (hc : c ∈ checks) (h : c.SkippedUnsaid host) :
    Overlong least checks raw l .writing

theorem usable_of_flawless (place : Option Text) (h : l.flaw? least = none) :
    usable least place l = .ok l.present :=
  usable_eq_ok_iff_view.2 (Listing.view_eq_ok_iff.2 ⟨h, rfl⟩)

theorem flawless_of_usable {place : Option Text} (h : usable least place l = .ok view) :
    l.flaw? least = none :=
  (Listing.view_eq_ok_iff.1 (usable_eq_ok_iff_view.1 h)).1

theorem parseLenient_error_iff :
    (Version.parseLenient raw).outcome = .error e ↔ Version.parse raw = .error (.tooLong e) := by
  cases hp : Version.parse raw with
  | ok v =>
    rw [Version.parseLenient_of_ok hp]
    exact iff_of_false nofun nofun
  | error f =>
    cases f with
    | rejected r =>
      rw [Version.parseLenient_of_rejected hp]
      exact iff_of_false nofun nofun
    | tooLong e' =>
      rw [Version.parseLenient_of_tooLong hp]
      constructor
      · rintro ⟨⟩
        rfl
      · rintro ⟨⟩
        rfl

/-- An answer to a probe that fails is a malformed listing or a number that is too long. -/
theorem conclusion_error_cases {x : ProbeError} (hhost : (Version.parseLenient raw).outcome = .ok host)
    (h : conclusion least checks capability raw host l = .error x) :
    (∃ m, x = .malformed m) ∨ ∃ e, x = .unwritable e ∧ Overlong least checks raw l e := by
  unfold conclusion at h
  cases hu : usable least (some capability) l with
  | error y =>
    rw [hu] at h
    cases h
    rcases usable_error_cases hu with hm | ⟨hshort, rfl⟩
    · exact .inl hm
    · exact .inr ⟨_, rfl, .least hhost hshort⟩
  | ok view =>
    rw [hu] at h
    cases ho : overlong? host checks with
    | none => rw [ho] at h; cases h
    | some e =>
      rw [ho] at h
      cases h
      obtain ⟨⟨c, hc, hskip⟩, rfl⟩ :=
        (overlong?_eq_some_iff (Version.writable_of_parseLenient hhost)).1 ho
      exact .inr ⟨_, rfl, .gate hhost (flawless_of_usable hu) hc hskip⟩

variable {σ : Type} {client : Client σ} {state : σ}

theorem probe_cases :
    (∃ a, (probe least client checks capability raw state).1.outcome = .ok a) ∨
      (∃ m, (probe least client checks capability raw state).1.outcome = .error (.malformed m)) ∨
      ∃ e, (probe least client checks capability raw state).1.outcome = .error (.unwritable e) ∧
        Overlong least checks raw (client capability state).1 e := by
  rw [outcome_probe]
  cases hhost : (Version.parseLenient raw).outcome with
  | error e => exact .inr (.inr ⟨e, rfl, .host (parseLenient_error_iff.1 hhost)⟩)
  | ok host =>
    simp only
    cases hc : conclusion least checks capability raw host (client capability state).1 with
    | ok a => exact .inl ⟨a, rfl⟩
    | error x =>
      rcases conclusion_error_cases hhost hc with ⟨m, rfl⟩ | ⟨e, rfl, he⟩
      · exact .inr (.inl ⟨m, rfl⟩)
      · exact .inr (.inr ⟨e, rfl, he⟩)

/-- A number that is too long does end a probe. -/
theorem probe_of_overlong (h : Overlong least checks raw (client capability state).1 e) :
    (probe least client checks capability raw state).1.outcome = .error (.unwritable e) := by
  rw [outcome_probe]
  cases h with
  | host hp => rw [parseLenient_error_iff.2 hp]
  | least hhost hshort =>
    rw [hhost]
    simp only [conclusion, usable_of_shortUnsaid hshort]
  | gate hhost hl hc hskip =>
    have hwritable := Version.writable_of_parseLenient hhost
    have hlong := (overlong?_eq_some_iff hwritable).2 ⟨⟨_, hc, hskip⟩, rfl⟩
    rw [hhost]
    simp only [conclusion, usable_of_flawless _ hl, hlong]

/-- The host version as it was given is only kept in the report. -/
theorem conclusion_raw (host : Option Version) (l : Listing) :
    conclusion least checks capability raw host l =
      (conclusion least checks capability none host l).map fun a => { a with rawHostVersion := raw } := by
  unfold conclusion
  cases usable least (some capability) l with
  | error x => rfl
  | ok view => cases overlong? host checks <;> rfl

theorem probe_of_rejected {r : Version.Rejection} (h : Version.parse raw = .error (.rejected r)) :
    (probe least client checks capability raw state).1.outcome =
      (probe least client checks capability none state).1.outcome.map fun a =>
        { a with rawHostVersion := raw } := by
  have hnone : Version.parse none = .error (.rejected ⟨none, .notGiven⟩) := rfl
  rw [outcome_probe, outcome_probe, Version.parseLenient_of_rejected h,
    Version.parseLenient_of_rejected hnone]
  exact conclusion_raw none _

/-- On an unknown host every check with a gate is skipped. -/
theorem skip_of_unknown {c : Check} (hg : c.gate ≠ none) (view : List Descriptor) :
    (c.verdict view none).outcome = .skip := by
  obtain ⟨g, hg⟩ := Option.ne_none_iff_exists'.1 hg
  refine Check.verdict_skip_iff.2 (Check.applies_eq_false_iff.2 ⟨g, hg, ?_⟩)
  nofun

/-- A report on an unknown host, in which every check with a gate is skipped. -/
structure HostUnknown (checks : List Check) (a : Report) : Prop where
  hostVersion : a.hostVersion = none
  skip : ∀ (i : Nat) (c : Check), checks[i]? = some c → c.gate ≠ none →
    ∃ x, a.results[i]? = some x ∧ x.outcome = .skip

theorem hostUnknown_of_rejected {r : Version.Rejection} {a : Report}
    (h : Version.parse raw = .error (.rejected r))
    (ha : (probe least client checks capability raw state).1.outcome = .ok a) :
    HostUnknown checks a := by
  obtain ⟨host, view, hhost, -, rfl⟩ := report_of_probe ha
  cases (Version.parseLenient_of_rejected h).symm.trans hhost
  refine ⟨rfl, ?_⟩
  intro i c hc hg
  refine ⟨c.verdict view none, ?_, skip_of_unknown hg view⟩
  rw [List.getElem?_map, hc]
  rfl

/-- **How a probe ends.** It gives a report, or finds the listing malformed, or breaks the limit of digits;
it breaks the limit exactly if a number of the host version, the least number of extensions above a short
listing, or a number of the gate of a skipped check is too long. A host version that is rejected ends a probe
as if it had not been given: the host is unknown, and every check with a gate is skipped. -/
theorem probe_ends (least : Int) (client : Client σ) (checks : List Check) (capability : Text)
    (raw : Option Text) (state : σ) :
    ((∃ a, (probe least client checks capability raw state).1.outcome = .ok a) ∨
      (∃ m, (probe least client checks capability raw state).1.outcome = .error (.malformed m)) ∨
      ∃ e, (probe least client checks capability raw state).1.outcome = .error (.unwritable e)) ∧
    (∀ e, (probe least client checks capability raw state).1.outcome = .error (.unwritable e) ↔
      Overlong least checks raw (client capability state).1 e) ∧
    ∀ r, Version.parse raw = .error (.rejected r) →
      ((probe least client checks capability raw state).1.outcome =
        (probe least client checks capability none state).1.outcome.map fun a =>
          { a with rawHostVersion := raw }) ∧
      ∀ a, (probe least client checks capability raw state).1.outcome = .ok a →
        HostUnknown checks a := by
  refine ⟨?_, ?_, ?_⟩
  · rcases probe_cases with ha | hm | ⟨e, he, -⟩
    · exact .inl ha
    · exact .inr (.inl hm)
    · exact .inr (.inr ⟨e, he⟩)
  · intro e
    constructor
    · intro h
      rcases probe_cases with ⟨a, ha⟩ | ⟨m, hm⟩ | ⟨e', he, hlong⟩
      · cases h.symm.trans ha
      · cases h.symm.trans hm
      · cases h.symm.trans he
        exact hlong
    · exact probe_of_overlong
  · intro r hr
    exact ⟨probe_of_rejected hr, fun a ha => hostUnknown_of_rejected hr ha⟩

/-- A registry in which one extension is registered for one capability. -/
def single : Registry := Registry.empty.register "c" ⟨"StandardImpl", [], []⟩

/-- A development build is an unknown host: the gated one of the built-in checks is skipped. -/
theorem probe_ends_on_dev_build :
    Version.parse (some "dev-build") =
        .error (.rejected ⟨some "dev-build", .notNumeric .major "dev"⟩) ∧
      ∃ a, (probe 1 Registry.client Check.defaults "c" (some "dev-build") single).1.outcome = .ok a ∧
        a.rawHostVersion = some "dev-build" ∧ a.results.map Result.outcome = [.pass, .fail, .skip] ∧
        HostUnknown Check.defaults a := by
  have hrej : Version.parse (some "dev-build") =
      .error (.rejected ⟨some "dev-build", .notNumeric .major "dev"⟩) := rfl
  obtain ⟨a, ha, hraw, hout⟩ : ∃ a,
      (probe 1 Registry.client Check.defaults "c" (some "dev-build") single).1.outcome = .ok a ∧
        a.rawHostVersion = some "dev-build" ∧ a.results.map Result.outcome = [.pass, .fail, .skip] :=
    ⟨_, rfl, rfl, rfl⟩
  obtain ⟨-, -, hunknown⟩ :=
    probe_ends 1 Registry.client Check.defaults "c" (some "dev-build") single
  exact ⟨hrej, a, ha, hraw, hout, (hunknown _ hrej).2 a ha⟩

/-- A host version whose first number has one digit more than can be read. -/
def longHost : Text := List.replicate 4301 (.char '9') ++ .char '.' :: [.char '1']

theorem parse_longHost : Version.parse (some longHost) = .error (.tooLong (.reading 4301)) := by
  have hnines : Version.IsDigits (List.replicate 4301 (.char '9')) := by
    refine ⟨nofun, fun c hc => ?_⟩
    rw [List.eq_of_mem_replicate hc]
    rfl
  have hone : Version.IsDigits [.char '1'] := by
    refine ⟨nofun, fun c hc => ?_⟩
    rw [List.mem_singleton.1 hc]
    rfl
  have hlen : (List.replicate 4301 (Code.char '9')).length = 4301 := List.length_replicate
  -- nothing is trimmed off a text between a digit and a digit
  have hend := Version.last_append_cons (a := List.replicate 4301 (.char '9'))
    Version.isSeparator_point hone.last
  have htrim := Version.trim_of_digits hnines hend Text.allBlank_nil
  rw [List.append_nil] at htrim
  have href : Version.Refused longHost (List.replicate 4301 (.char '9') ++ .char '.' :: ([.char '1'] ++ []))
      (.tooLong (.reading (List.replicate 4301 (Code.char '9')).length)) :=
    .longMajor hnines Version.isSeparator_point hone .nil (by rw [hlen]; decide)
  rw [hlen, List.append_nil, ← htrim] at href
  exact Version.parse_of_refused href

/-- **A host version with a number that is too long aborts a probe**, which gives a report without one. -/
theorem long_host_aborts :
    (probe 1 Registry.client Check.defaults "c" (some longHost) single).1.outcome =
        .error (.unwritable (.reading 4301)) ∧
      ¬ ((∃ a, (probe 1 Registry.client Check.defaults "c" (some longHost) single).1.outcome = .ok a) ∨
        ∃ m, (probe 1 Registry.client Check.defaults "c" (some longHost) single).1.outcome =
          .error (.malformed m)) ∧
      ∃ a, (probe 1 Registry.client Check.defaults "c" none single).1.outcome = .ok a := by
  have h : (probe 1 Registry.client Check.defaults "c" (some longHost) single).1.outcome =
      .error (.unwritable (.reading 4301)) := probe_of_overlong (.host parse_longHost)
  refine ⟨h, ?_, ⟨_, rfl⟩⟩
  rintro (⟨a, ha⟩ | ⟨m, hm⟩)
  · cases h.symm.trans ha
  · cases h.symm.trans hm

end Probe

end ExtensionProbe
