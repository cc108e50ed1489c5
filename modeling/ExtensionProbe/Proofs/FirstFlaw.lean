import ExtensionProbe.Proofs.Ending
import Mathlib.Data.List.Basic

/-!
# The first flaw of a listing

A listing can be used if it meets four conditions: it is there, it is not empty, it has as many entries as
asked for, and each entry names an extension. They are asked in this order, and a listing that cannot be used is
refused for the first one that it does not meet. A refusal also tells what was in the listing.

* `flaw?_eq_some_iff`, `usable_iff_fit`: the four conditions, one by one and together.
* `refused_for_first_flaw`: **which listings are refused, for what, and that no check is evaluated then.**
* `long_least_unsaid`: a least number of extensions that is too long to be said.
* `observed_present_or_short`: **what a refusal tells of a listing.**
* `short_listing_keeps_gaps`: a short listing is told with the entries that are absent.
-/

namespace ExtensionProbe

namespace Listing

variable {least : Int} {l other : Listing} {flaw : Flaw} {entries : List (Option Descriptor)}

/-! ## The four conditions -/

/-- An entry is there and names its extension. -/
def HasName (e : Option Descriptor) : Prop := ∃ d, e = some d ∧ d.simpleName ≠ []

/-- A listing meets the four conditions. -/
def Fit (least : Int) (l : Listing) : Prop :=
  ∃ entries, l = some entries ∧ entries ≠ [] ∧ least ≤ entries.length ∧ ∀ e ∈ entries, HasName e

/-- The first condition that a listing does not meet. -/
inductive FirstFlaw (least : Int) : Listing → Flaw → Prop
  | noListing : FirstFlaw least none .noListing
  | empty : FirstFlaw least (some []) .empty
  | tooFew {entries : List (Option Descriptor)} (hne : entries ≠ [])
      (hfew : (entries.length : Int) < least) :
    FirstFlaw least (some entries) (.tooFew least entries.length)
  | unnamed {entries : List (Option Descriptor)} {e : Option Descriptor} {i : Nat}
      (henough : least ≤ entries.length) (hi : entries[i]? = some e) (he : ¬ HasName e)
      (hfirst : ∀ (j : Nat) (f : Option Descriptor), j < i → entries[j]? = some f → HasName f) :
    FirstFlaw least (some entries) (.unnamed i)

theorem isNamed_eq_true_iff {e : Option Descriptor} : isNamed e = true ↔ HasName e := by
  cases e <;> simp [isNamed, HasName]

theorem isNamed_eq_false_iff {e : Option Descriptor} : isNamed e = false ↔ ¬ HasName e := by
  rw [← isNamed_eq_true_iff, Bool.not_eq_true]

theorem flaw?_eq_none_iff_fit : flaw? least l = none ↔ Fit least l := by
  simp only [flaw?_eq_none_iff, Fit, isNamed_eq_true_iff]

theorem firstFlaw_of_flaw? (h : flaw? least l = some flaw) : FirstFlaw least l flaw := by
  rcases l with _ | entries
  · cases h
    exact .noListing
  by_cases hne : entries = []
  · subst hne
    cases h
    exact .empty
  by_cases hfew : (entries.length : Int) < least
  · cases (Probe.flaw?_of_short hne hfew).symm.trans h
    exact .tooFew hne hfew
  · rw [Probe.flaw?_of_enough hne (by omega), Option.map_eq_some_iff] at h
    obtain ⟨i, hi, rfl⟩ := h
    -- the place that was found is the least one without a name
    obtain ⟨hlt, hp, hbefore⟩ := List.findIdx?_eq_some_iff_getElem.1 hi
    refine .unnamed (by omega) (List.getElem?_eq_getElem hlt) ?_ fun j f hj hf => ?_
    · simpa [isNamed_eq_false_iff] using hp
    · have hjlt : j < entries.length := by omega
      rw [List.getElem?_eq_getElem hjlt] at hf
      have := hbefore j hj
      rw [Option.some.inj hf] at this
      simpa [isNamed_eq_true_iff] using this

theorem flaw?_of_firstFlaw (h : FirstFlaw least l flaw) : flaw? least l = some flaw := by
  cases h with
  | noListing => rfl
  | empty => rfl
  | tooFew hne hfew => exact Probe.flaw?_of_short hne hfew
  | @unnamed entries e i henough hi he hfirst =>
    obtain ⟨hlt, hget⟩ := List.getElem?_eq_some_iff.1 hi
    have hne : entries ≠ [] := List.ne_nil_of_length_pos (by omega)
    have hfound : entries.findIdx? (!isNamed ·) = some i := by
      refine List.findIdx?_eq_some_iff_getElem.2 ⟨hlt, ?_, fun j hj => ?_⟩
      · simpa [hget, isNamed_eq_false_iff] using he
      · have := hfirst j _ hj (List.getElem?_eq_getElem (by omega))
        simpa [isNamed_eq_true_iff] using this
    rw [Probe.flaw?_of_enough hne henough, hfound]
    rfl

/-- What is found wrong with a listing is the first condition that it does not meet. -/
theorem flaw?_eq_some_iff : flaw? least l = some flaw ↔ FirstFlaw least l flaw :=
  ⟨firstFlaw_of_flaw?, flaw?_of_firstFlaw⟩

/-- Two listings have the same short names, in any order, and are absent in the same places of that order or
not there at all. -/
inductive SameNames : Listing → Listing → Prop
  | none : SameNames none none
  | some {es fs : List (Option Descriptor)}
      (h : (es.map (Option.map Descriptor.simpleName)).Perm (fs.map (Option.map Descriptor.simpleName))) :
    SameNames (some es) (some fs)

theorem SameNames.symm (h : SameNames l other) : SameNames other l := by
  cases h with
  | none => exact .none
  | some h => exact .some h.symm

theorem hasName_iff_name {e : Option Descriptor} :
    HasName e ↔ ∃ name, e.map Descriptor.simpleName = some name ∧ name ≠ [] := by
  simp only [HasName, Option.map_eq_some_iff]
  constructor
  · rintro ⟨d, rfl, hd⟩
    exact ⟨_, ⟨d, rfl, rfl⟩, hd⟩
  · rintro ⟨_, ⟨d, rfl, rfl⟩, hd⟩
    exact ⟨d, rfl, hd⟩

/-- Qualified names, markers and the order of the entries do not matter to the conditions. -/
theorem SameNames.fit (h : SameNames l other) (hl : Fit least l) : Fit least other := by
  obtain ⟨es, rfl, hne, hlen, hnamed⟩ := hl
  cases h with
  | @some _ fs h =>
    have hlength : es.length = fs.length := by simpa using h.length_eq
    refine ⟨fs, rfl, ?_, by omega, fun f hf => ?_⟩
    · rintro rfl
      exact hne (List.eq_nil_of_length_eq_zero hlength)
    · -- the name of an entry is also the name of one of the other listing
      have hmem := h.symm.subset (List.mem_map_of_mem hf)
      obtain ⟨e, he, hname⟩ := List.mem_map.1 hmem
      rw [hasName_iff_name, ← hname, ← hasName_iff_name]
      exact hnamed e he

end Listing

namespace Probe

open Log Listing

variable {least : Int} {capability : Option Text} {l : Listing} {checks : List Check}
  {host : Option Version} {m : Malformed}

/-! ## Refusals -/

theorem usable_iff_fit : (∃ view, usable least capability l = .ok view) ↔ l.Fit least := by
  rw [← flaw?_eq_none_iff_fit]
  constructor
  · rintro ⟨view, h⟩
    exact flawless_of_usable h
  · exact fun h => ⟨_, usable_of_flawless capability h⟩

/-- A listing is refused for its first flaw. The refusal tells the capability, and where an entry has no name,
its message tells the place of that entry. -/
structure RefusedFor (least : Int) (capability : Option Text) (l : Listing) (m : Malformed) : Prop where
  capability : m.capability = capability
  first : l.FirstFlaw least m.flaw
  place : ∀ i : Nat, m.flaw = .unnamed i →
    m.message = "Registry entry " ++ toString i ++ Malformed.place m.capability ++ " has no simple name"

theorem refusedFor_of_malformed (h : usable least capability l = .error (.malformed m)) :
    RefusedFor least capability l m := by
  obtain ⟨flaw, hflaw, rfl⟩ := eq_of_malformed h
  refine ⟨rfl, flaw?_eq_some_iff.1 hflaw, fun i hi => ?_⟩
  cases hi
  rfl

/-- A listing that is not fit is refused, unless that cannot be said. -/
theorem refused_or_unsaid (h : ¬ l.Fit least) :
    ShortUnsaid least l ∧ usable least capability l = .error (.unwritable .writing) ∨
      ¬ ShortUnsaid least l ∧ ∃ m, usable least capability l = .error (.malformed m) ∧
        RefusedFor least capability l m := by
  cases hu : usable least capability l with
  | ok view => exact absurd (usable_iff_fit.1 ⟨view, hu⟩) h
  | error x =>
    rcases usable_error_cases hu with ⟨m, rfl⟩ | ⟨hunsaid, rfl⟩
    · refine .inr ⟨fun hunsaid => ?_, m, rfl, refusedFor_of_malformed hu⟩
      cases hu.symm.trans (usable_of_shortUnsaid hunsaid)
    · exact .inl ⟨hunsaid, rfl⟩

/-- A run over a listing that is refused ends there and reports nothing. -/
theorem run_of_refused {x : ProbeError} (h : usable least capability l = .error x) (checks : List Check)
    (host : Option Version) : run least checks l host capability = .fail x := by
  unfold run
  rw [h]
  rfl

theorem run_malformed_iff :
    (run least checks l host capability).outcome = .error (.malformed m) ↔
      usable least capability l = .error (.malformed m) := by
  rw [outcome_run]
  cases usable least capability l with
  | error x => simp only [Except.error.injEq]
  | ok view =>
    -- over a listing that is usable only a number can be at fault
    cases overlong? host checks <;> exact iff_of_false nofun nofun

/-- A check that is evaluated is reported, unless the reason to skip it is too long. -/
theorem reported_of_evaluate (view : List Descriptor) (host : Option Version) (c : Check) :
    (evaluate view host c).events ≠ [] ∨
      ∃ e, (evaluate view host c).outcome = .error (.unwritable e) := by
  have happly : (apply c view).events ≠ [] := by
    unfold apply
    rw [Logged.events_bind_ok (a := ()) rfl]
    exact List.append_ne_nil_of_left_ne_nil (List.cons_ne_nil _ _) _
  unfold evaluate
  cases c.gate with
  | none => exact .inl happly
  | some g =>
    simp only
    split
    · exact .inl happly
    · unfold skip
      cases skipReason host g with
      | error e => exact .inr ⟨e, rfl⟩
      | ok reason => exact .inl (List.cons_ne_nil _ _)

/-- **Which listings are refused, and for what.** A listing is accepted exactly if it meets the four conditions,
which ask for nothing but the short names, in any order. Another one is refused for the first condition that it
does not meet, unless it falls short of a number that is too long to be said. A run refuses the same listings
for the same flaws, whatever its checks and its host are, and ends there without a report, while each check
that is evaluated is reported or cannot be said. -/
theorem refused_for_first_flaw (least : Int) (capability : Option Text) (l : Listing) :
    ((∃ view, usable least capability l = .ok view) ↔ l.Fit least) ∧
      (∀ other place, l.SameNames other →
        ((∃ view, usable least capability l = .ok view) ↔ ∃ view, usable least place other = .ok view)) ∧
      (¬ l.Fit least →
        ShortUnsaid least l ∧ usable least capability l = .error (.unwritable .writing) ∨
          ¬ ShortUnsaid least l ∧ ∃ m, usable least capability l = .error (.malformed m) ∧
            RefusedFor least capability l m) ∧
      ∀ checks host,
        (∀ m, (run least checks l host capability).outcome = .error (.malformed m) ↔
          usable least capability l = .error (.malformed m)) ∧
        (∀ x, usable least capability l = .error x → run least checks l host capability = .fail x) ∧
        ∀ view c, (evaluate view host c).events ≠ [] ∨
          ∃ e, (evaluate view host c).outcome = .error (.unwritable e) := by
  refine ⟨usable_iff_fit, fun other place h => ?_, refused_or_unsaid, fun checks host => ?_⟩
  · rw [usable_iff_fit, usable_iff_fit]
    exact ⟨h.fit, h.symm.fit⟩
  · exact ⟨fun m => run_malformed_iff, fun x hx => run_of_refused hx checks host,
      fun view c => reported_of_evaluate view host c⟩

/-- A listing with an absent entry and an entry without a name is refused for the absent one. -/
theorem refused_for_first_flaw_unnamed :
    let l : Listing := some [some ⟨"A", [], []⟩, none, some ⟨"", [], []⟩]
    ¬ l.Fit 1 ∧ ∃ m, usable 1 (some "c") l = .error (.malformed m) ∧ RefusedFor 1 (some "c") l m ∧
      m.flaw = .unnamed 1 := by
  intro l
  have hflaw : l.flaw? 1 = some (.unnamed 1) := rfl
  have hfit : ¬ l.Fit 1 := by
    rw [← flaw?_eq_none_iff_fit, hflaw]
    nofun
  obtain ⟨-, -, hrefused, -⟩ := refused_for_first_flaw 1 (some "c") l
  rcases hrefused hfit with ⟨⟨entries, hentries, -, hfew, -⟩, -⟩ | ⟨-, m, hm, hfor⟩
  · -- three entries are not fewer than one
    have hlength : entries.length = 3 := congrArg List.length (Option.some.inj hentries).symm
    omega
  · exact ⟨hfit, m, hm, hfor, Option.some.inj ((flaw_of_malformed hm).symm.trans hflaw)⟩

/-- The least number with more digits than can be written. -/
def longLeast : Int := (10 ^ Decimal.maxDigits : Nat)

/-- A listing with one extension. -/
def oneListing : Listing := some [some ⟨"StandardStrategyImpl", [], []⟩]

theorem shortUnsaid_longLeast : ShortUnsaid longLeast oneListing := by
  refine ⟨_, rfl, List.cons_ne_nil _ _, ?_, ?_⟩
  · exact Int.ofNat_lt.2 (Nat.one_lt_pow (by decide) (by decide))
  · intro h
    have hlt := (Nat.length_toDigits_le_iff (by decide) (by decide)).1 h
    exact Nat.lt_irrefl _ hlt

/-- **A least number of extensions that is too long to be said.** A listing that falls short of it is not refused
as malformed, and no more is it accepted. -/
theorem long_least_unsaid :
    oneListing.FirstFlaw longLeast (.tooFew longLeast 1) ∧
      usable longLeast none oneListing = .error (.unwritable .writing) ∧
      ¬ ∃ m, usable longLeast none oneListing = .error (.malformed m) := by
  have hunsaid : usable longLeast none oneListing = .error (.unwritable .writing) :=
    usable_of_shortUnsaid shortUnsaid_longLeast
  obtain ⟨entries, hentries, hne, hfew, -⟩ := shortUnsaid_longLeast
  cases hentries
  refine ⟨.tooFew hne hfew, hunsaid, ?_⟩
  rintro ⟨m, hm⟩
  cases hm.symm.trans hunsaid

/-! ## What a refusal tells of a listing -/

/-- A listing falls short, and one of its entries is absent. -/
def ShortWithGap (least : Int) (l : Listing) : Prop :=
  ∃ entries, l = some entries ∧ (entries.length : Int) < least ∧ none ∈ entries

theorem filter_isSome (entries : List (Option Descriptor)) :
    entries.filter Option.isSome = (entries.filterMap id).map some := by
  induction entries with
  | nil => rfl
  | cons e rest ih => cases e <;> simp [ih]

/-- Leaving out absent entries leaves a row as it is exactly if there are none. -/
theorem map_some_eq_self_iff {entries : List (Option Descriptor)} :
    entries = (entries.filterMap id).map some ↔ none ∉ entries := by
  rw [← filter_isSome, eq_comm, List.filter_eq_self]
  constructor
  · intro h hnone
    cases h none hnone
  · rintro h (_ | d) he
    · exact absurd he h
    · rfl

/-- The absent entries are left out of a refusal exactly if there are none in a listing that falls short. -/
theorem observed_eq_present_iff (h : usable least capability l = .error (.malformed m)) :
    m.observed = l.present.map some ↔ ¬ ShortWithGap least l := by
  rw [observed_of_malformed h]
  have hfirst := (refusedFor_of_malformed h).first
  generalize m.flaw = flaw at hfirst
  cases hfirst with
  | noListing => exact iff_of_true rfl (by rintro ⟨_, ⟨⟩, -⟩)
  | empty =>
    refine iff_of_true rfl ?_
    rintro ⟨_, ⟨⟩, -, hnone⟩
    cases hnone
  | @tooFew entries hne hfew =>
    have hgap : ShortWithGap least (some entries) ↔ none ∈ entries := by
      constructor
      · rintro ⟨_, ⟨⟩, -, hnone⟩
        exact hnone
      · exact fun hnone => ⟨entries, rfl, hfew, hnone⟩
    rw [hgap]
    exact map_some_eq_self_iff
  | @unnamed entries e i henough hi he hfirst =>
    refine iff_of_true (filter_isSome entries) ?_
    rintro ⟨_, ⟨⟩, hfew, -⟩
    omega

theorem observed_of_shortWithGap (h : usable least capability l = .error (.malformed m))
    (hgap : ShortWithGap least l) : l = some m.observed ∧ none ∈ m.observed := by
  obtain ⟨entries, rfl, hfew, hnone⟩ := hgap
  have hflaw := flaw?_of_short (List.ne_nil_of_mem hnone) hfew
  have hm : m.flaw = .tooFew least entries.length :=
    Option.some.inj ((flaw_of_malformed h).symm.trans hflaw)
  have hobserved : m.observed = entries := by
    rw [observed_of_malformed h, hm]
    rfl
  rw [hobserved]
  exact ⟨rfl, hnone⟩

/-- **What a refusal tells of a listing**: its descriptors in their order, without the entries that are absent.
The one exception is a listing that falls short and has an absent entry. It is told as it is, so that a reader of
the names meets an entry that has none. -/
theorem observed_present_or_short (h : usable least capability l = .error (.malformed m)) :
    (m.observed = l.present.map some ↔ ¬ ShortWithGap least l) ∧
      ((∀ e ∈ m.observed, ∃ d, e = some d) ↔ ¬ ShortWithGap least l) ∧
      (ShortWithGap least l → l = some m.observed) := by
  refine ⟨observed_eq_present_iff h, ⟨fun hall hgap => ?_, fun hgap e he => ?_⟩,
    fun hgap => (observed_of_shortWithGap h hgap).1⟩
  · obtain ⟨d, hd⟩ := hall none (observed_of_shortWithGap h hgap).2
    cases hd
  · rw [(observed_eq_present_iff h).2 hgap] at he
    obtain ⟨d, -, rfl⟩ := List.mem_map.1 he
    exact ⟨d, rfl⟩

/-- A listing of one extension and one absent entry, enough of them, is refused for the entry and told
without it. -/
theorem observed_present_of_gap :
    let l : Listing := some [some ⟨"A", [], []⟩, none]
    let m : Malformed := ⟨none, .unnamed 1, [some ⟨"A", [], []⟩]⟩
    usable 1 none l = .error (.malformed m) ∧
      (m.observed = l.present.map some ↔ ¬ ShortWithGap 1 l) ∧
      ((∀ e ∈ m.observed, ∃ d, e = some d) ↔ ¬ ShortWithGap 1 l) ∧
      (ShortWithGap 1 l → l = some m.observed) :=
  ⟨rfl, observed_present_or_short rfl⟩

/-- **A short listing is told with the entries that are absent.** -/
theorem short_listing_keeps_gaps :
    let l : Listing := some [some ⟨"A", [], []⟩, none]
    usable 3 none l = .error (.malformed ⟨none, .tooFew 3 2, [some ⟨"A", [], []⟩, none]⟩) ∧
      l.present.map some = [some ⟨"A", [], []⟩] := by
  decide

end Probe

end ExtensionProbe
