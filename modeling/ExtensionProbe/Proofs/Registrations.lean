import ExtensionProbe.Registration
import Mathlib.Data.List.Nodup
import Mathlib.Data.List.Pairwise

/-!
# Runs of registrations

A registry is filled by one registration after another. Some of them fail, because their extension has no
descriptor. The listings of a registry, its size and its capabilities are three views of the registrations that
succeeded, and of nothing else.

* `Text.pairwise_lt_mergeSort`: different texts that are sorted increase from each to the next.
* `Registry.Tidy.register`: a registration keeps one listing a capability, and no listing empty.
* `Registry.list_enrollAll`, `Registry.size_enrollAll`: what a run of registrations adds.
* `Registry.registrations_kept`: **what a registry shows after any run of registrations.**
-/

namespace ExtensionProbe

/-! ## The order of texts -/

theorem Code.value_inj {a b : Code} : a.value = b.value ↔ a = b := by
  constructor
  · intro h
    have hvalid (c : Char) : c.toNat < 0xD800 ∨ 0xDFFF < c.toNat := by
      have := c.valid
      unfold UInt32.isValidChar Nat.isValidChar at this
      change c.val.toNat < 0xD800 ∨ 0xDFFF < c.val.toNat
      omega
    -- a character is never in the range of the halves
    cases a with
    | char c =>
      cases b with
      | char d => exact congrArg char (Char.toNat_inj.1 h)
      | half place =>
        have hc := hvalid c
        have hplace := place.isLt
        simp only [value, firstHalf] at h
        omega
    | half place =>
      cases b with
      | char d =>
        have hd := hvalid d
        have hplace := place.isLt
        simp only [value, firstHalf] at h
        omega
      | half other =>
        simp only [value, Nat.add_left_cancel_iff] at h
        exact congrArg half (Fin.ext h)
  · exact congrArg value

instance : Trans (α := Code) (· < ·) (· < ·) (· < ·) := ⟨fun h h' => Nat.lt_trans h h'⟩

instance : Std.Asymm (α := Code) (· < ·) := ⟨fun _ _ h => Nat.lt_asymm h⟩

instance : Std.Trichotomous (α := Code) (· < ·) :=
  ⟨fun _ _ h h' => Code.value_inj.1 (Nat.le_antisymm (Nat.not_lt.1 h') (Nat.not_lt.1 h))⟩

namespace Text

/-- Of two different texts one comes before the other. -/
theorem lt_of_not_lt {s t : Text} (h : ¬ t < s) (hne : s ≠ t) : s < t := by
  by_contra hst
  exact hne (List.le_antisymm h hst)

theorem not_lt_trans {s t u : Text} (hst : ¬ t < s) (htu : ¬ u < t) : ¬ u < s := by
  by_cases hs : s = t
  · rwa [hs]
  · by_cases ht : t = u
    · rwa [← ht]
    · exact List.lt_asymm (List.lt_trans (lt_of_not_lt hst hs) (lt_of_not_lt htu ht))

/-- Different texts that are sorted increase from each to the next. -/
theorem pairwise_lt_mergeSort {ts : List Text} (h : ts.Nodup) :
    (ts.mergeSort fun a b => !decide (b < a)).Pairwise (· < ·) := by
  -- sorting asks only that no text comes before an earlier one; that the texts differ makes it strict
  have htrans (a b c : Text) (hab : (!decide (b < a)) = true) (hbc : (!decide (c < b)) = true) :
      (!decide (c < a)) = true := by
    simp only [Bool.not_eq_true', decide_eq_false_iff_not] at hab hbc ⊢
    exact not_lt_trans hab hbc
  have htotal (a b : Text) : ((!decide (b < a)) || !decide (a < b)) = true := by
    simp only [Bool.or_eq_true, Bool.not_eq_true', decide_eq_false_iff_not]
    exact List.le_total a b
  have hsorted : (ts.mergeSort fun a b => !decide (b < a)).Pairwise fun a b => ¬ b < a := by
    simpa using List.pairwise_mergeSort htrans htotal ts
  have hnodup : (ts.mergeSort fun a b => !decide (b < a)).Nodup := (List.mergeSort_perm ts _).nodup_iff.2 h
  exact (hsorted.and hnodup).imp fun ⟨hle, hne⟩ => lt_of_not_lt hle hne

end Text

namespace Registry

variable {r : Registry} {capability other : Text} {d : Descriptor}

/-! ## One listing a capability -/

/-- Each capability has one listing, and none of the listings is empty. -/
structure Tidy (r : Registry) : Prop where
  nodup : (r.entries.map Prod.fst).Nodup
  nonempty : ∀ e ∈ r.entries, e.2 ≠ []

theorem tidy_empty : Tidy empty := ⟨List.nodup_nil, nofun⟩

/-- A registration adds its capability at the end, unless it is there. -/
theorem fst_append (es : List (Text × List Descriptor)) :
    (append capability d es).map Prod.fst =
      if capability ∈ es.map Prod.fst then es.map Prod.fst else es.map Prod.fst ++ [capability] := by
  induction es with
  | nil => rfl
  | cons e rest ih =>
    obtain ⟨c, ds⟩ := e
    by_cases hc : c = capability
    · simp [append, hc]
    · have hne : capability ≠ c := fun h => hc h.symm
      simp only [append, if_neg hc, List.map_cons, ih, List.mem_cons, hne, false_or]
      split <;> simp

theorem append_nonempty {es : List (Text × List Descriptor)} (h : ∀ e ∈ es, e.2 ≠ []) :
    ∀ e ∈ append capability d es, e.2 ≠ [] := by
  induction es with
  | nil => simp [append]
  | cons e rest ih =>
    have hrest := ih fun x hx => h x (List.mem_cons_of_mem _ hx)
    unfold append
    split
    · intro x hx
      rcases List.mem_cons.1 hx with rfl | hx
      · exact List.append_ne_nil_of_right_ne_nil _ (List.cons_ne_nil _ _)
      · exact h x (List.mem_cons_of_mem _ hx)
    · intro x hx
      rcases List.mem_cons.1 hx with rfl | hx
      · exact h _ List.mem_cons_self
      · exact hrest x hx

theorem Tidy.register (h : r.Tidy) (capability : Text) (d : Descriptor) :
    (r.register capability d).Tidy := by
  refine ⟨?_, append_nonempty h.nonempty⟩
  change ((append capability d r.entries).map Prod.fst).Nodup
  rw [fst_append]
  split
  · exact h.nodup
  · next hnew =>
    rw [← List.concat_eq_append]
    exact h.nodup.concat hnew

theorem lookup_ne_nil_iff {es : List (Text × List Descriptor)} (h : ∀ e ∈ es, e.2 ≠ []) :
    lookup capability es ≠ [] ↔ capability ∈ es.map Prod.fst := by
  induction es with
  | nil => simp [lookup]
  | cons e rest ih =>
    obtain ⟨c, ds⟩ := e
    have hrest := ih fun x hx => h x (List.mem_cons_of_mem _ hx)
    by_cases hc : c = capability
    · have hds : ds ≠ [] := h (c, ds) List.mem_cons_self
      simp [lookup, hc, hds]
    · have hne : capability ≠ c := fun h => hc h.symm
      simp only [lookup, if_neg hc, hrest, List.map_cons, List.mem_cons, hne, false_or]

/-- A tidy registry has the capabilities for which it lists something. -/
theorem Tidy.mem_capabilities_iff (h : r.Tidy) : capability ∈ r.capabilities ↔ r.list capability ≠ [] := by
  unfold capabilities list
  rw [(List.mergeSort_perm _ _).mem_iff, lookup_ne_nil_iff h.nonempty]

theorem Tidy.capabilities_increasing (h : r.Tidy) : r.capabilities.Pairwise (· < ·) :=
  Text.pairwise_lt_mergeSort h.nodup

/-! ## One registration -/

/-- What is asked of a registry: to register an extension for a capability. -/
structure Call where
  capability : Text
  extension : Extension

/-- What a registration returns does not depend on what is registered. -/
theorem outcome_enroll (r : Registry) (capability : Text) (e : Extension) :
    (r.enroll capability e).1.outcome = e.descriptor := by
  unfold enroll
  cases e.descriptor <;> rfl

theorem Tidy.enroll (h : r.Tidy) (capability : Text) (e : Extension) :
    (r.enroll capability e).2.Tidy := by
  cases hd : e.descriptor with
  | error issues => rwa [enroll_of_undescribed hd]
  | ok d =>
    rw [enroll_of_described hd]
    exact h.register capability d

/-- The descriptor that a call returned for a capability, if it returned one for this one. -/
def returned (capability : Text) (c : Call) (answer : Checked Descriptor) : Option Descriptor :=
  if c.capability = capability then answer.toOption else none

theorem list_enroll (r : Registry) (c : Call) (capability : Text) :
    (r.enroll c.capability c.extension).2.list capability =
      r.list capability ++ (returned capability c c.extension.descriptor).toList := by
  unfold returned
  cases hd : c.extension.descriptor with
  | error issues =>
    rw [enroll_of_undescribed hd]
    split <;> simp [Except.toOption]
  | ok d =>
    rw [enroll_of_described hd]
    by_cases hc : c.capability = capability
    · rw [if_pos hc, ← hc, list_register_self]
      rfl
    · have hne : capability ≠ c.capability := fun h => hc h.symm
      rw [if_neg hc, list_register_of_ne hne]
      simp

theorem size_enroll (r : Registry) (capability : Text) (e : Extension) :
    (r.enroll capability e).2.size = r.size + if e.descriptor.isOk then 1 else 0 := by
  cases hd : e.descriptor with
  | error issues =>
    rw [enroll_of_undescribed hd]
    rfl
  | ok d =>
    rw [enroll_of_described hd, size_register]
    rfl

/-- A registration changes no listing but that of its own capability. -/
theorem list_enroll_of_ne {e : Extension} (h : other ≠ capability) :
    (r.enroll capability e).2.list other = r.list other := by
  cases hd : e.descriptor with
  | error issues => rw [enroll_of_undescribed hd]
  | ok d => rw [enroll_of_described hd, list_register_of_ne h]

/-! ## Runs of registrations -/

/-- Makes calls one after another: what each of them returns, and the registry after all of them. -/
def enrollAll (r : Registry) : List Call → List (Checked Descriptor) × Registry
  | [] => ([], r)
  | c :: rest =>
    let (answer, next) := r.enroll c.capability c.extension
    let (answers, last) := next.enrollAll rest
    (answer.outcome :: answers, last)

/-- The descriptors that calls returned for a capability, in order. -/
def allReturned (capability : Text) (calls : List Call) (answers : List (Checked Descriptor)) :
    List Descriptor :=
  (calls.zip answers).filterMap fun p => returned capability p.1 p.2

variable {calls : List Call}

theorem answers_enrollAll (r : Registry) (calls : List Call) :
    (r.enrollAll calls).1 = calls.map fun c => c.extension.descriptor := by
  induction calls generalizing r with
  | nil => rfl
  | cons c rest ih =>
    simp only [enrollAll, List.map_cons, outcome_enroll]
    rw [ih]

theorem Tidy.enrollAll (h : r.Tidy) (calls : List Call) : (r.enrollAll calls).2.Tidy := by
  induction calls generalizing r with
  | nil => exact h
  | cons c rest ih => exact ih (h.enroll c.capability c.extension)

/-- A run adds to each listing what its calls returned for the capability. -/
theorem list_enrollAll (r : Registry) (calls : List Call) (capability : Text) :
    (r.enrollAll calls).2.list capability =
      r.list capability ++ allReturned capability calls (r.enrollAll calls).1 := by
  rw [answers_enrollAll]
  -- by induction on the calls, whatever registry they start from
  induction calls generalizing r with
  | nil => simp [enrollAll, allReturned]
  | cons c rest ih =>
    have hrest := ih (r.enroll c.capability c.extension).2
    have hone := list_enroll r c capability
    calc (r.enrollAll (c :: rest)).2.list capability
      _ = ((r.enroll c.capability c.extension).2.enrollAll rest).2.list capability := rfl
      _ = r.list capability ++ ((returned capability c c.extension.descriptor).toList ++
            allReturned capability rest (rest.map fun c => c.extension.descriptor)) := by
          rw [hrest, hone, List.append_assoc]
      _ = r.list capability ++
            allReturned capability (c :: rest) ((c :: rest).map fun c => c.extension.descriptor) := by
          unfold allReturned
          rw [List.map_cons, List.zip_cons_cons, List.filterMap_cons]
          cases returned capability c c.extension.descriptor <;> rfl

theorem size_enrollAll (r : Registry) (calls : List Call) :
    (r.enrollAll calls).2.size = r.size + (r.enrollAll calls).1.countP Except.isOk := by
  rw [answers_enrollAll]
  induction calls generalizing r with
  | nil => rfl
  | cons c rest ih =>
    have hrest := ih (r.enroll c.capability c.extension).2
    have hone := size_enroll r c.capability c.extension
    rw [List.map_cons, List.countP_cons]
    change ((r.enroll c.capability c.extension).2.enrollAll rest).2.size = _
    omega

theorem returned_eq_some_iff {c : Call} {answer : Checked Descriptor} :
    returned capability c answer = some d ↔ c.capability = capability ∧ answer = .ok d := by
  unfold returned
  cases answer <;> simp [Except.toOption]

theorem allReturned_ne_nil_iff {answers : List (Checked Descriptor)} :
    allReturned capability calls answers ≠ [] ↔
      ∃ (i : Nat) (c : Call) (d : Descriptor),
        calls[i]? = some c ∧ c.capability = capability ∧ answers[i]? = some (.ok d) := by
  unfold allReturned
  constructor
  · intro h
    obtain ⟨d, hd⟩ := List.exists_mem_of_ne_nil _ h
    obtain ⟨⟨c, answer⟩, hmem, hreturned⟩ := List.mem_filterMap.1 hd
    obtain ⟨i, hi⟩ := List.mem_iff_getElem?.1 hmem
    obtain ⟨hc, hanswer⟩ := List.getElem?_zip_eq_some.1 hi
    obtain ⟨hcapability, hok⟩ := returned_eq_some_iff.1 hreturned
    exact ⟨i, c, d, hc, hcapability, by rw [hanswer, ← hok]⟩
  · rintro ⟨i, c, d, hc, hcapability, hanswer⟩
    have hmem : (c, .ok d) ∈ calls.zip answers :=
      List.mem_of_getElem? (List.getElem?_zip_eq_some.2 ⟨hc, hanswer⟩)
    have hreturned : returned capability c (.ok d) = some d := returned_eq_some_iff.2 ⟨hcapability, rfl⟩
    exact List.ne_nil_of_mem (List.mem_filterMap.2 ⟨_, hmem, hreturned⟩)

/-- What the views of a registry have to say about the calls that filled it and what these returned. -/
structure Shows (r : Registry) (calls : List Call) (answers : List (Checked Descriptor)) : Prop where
  answered : answers = calls.map fun c => c.extension.descriptor
  list : ∀ capability, r.list capability = allReturned capability calls answers
  size : r.size = answers.countP Except.isOk
  increasing : r.capabilities.Pairwise (· < ·)
  capabilities : ∀ capability, capability ∈ r.capabilities ↔
    ∃ (i : Nat) (c : Call) (d : Descriptor),
      calls[i]? = some c ∧ c.capability = capability ∧ answers[i]? = some (.ok d)

theorem shows_enrollAll (calls : List Call) :
    (empty.enrollAll calls).2.Shows calls (empty.enrollAll calls).1 where
  answered := answers_enrollAll empty calls
  list capability := list_enrollAll empty calls capability
  size := by
    have hsize := size_enrollAll empty calls
    have hempty : empty.size = 0 := rfl
    omega
  increasing := (tidy_empty.enrollAll calls).capabilities_increasing
  capabilities capability := by
    rw [(tidy_empty.enrollAll calls).mem_capabilities_iff, list_enrollAll empty calls capability]
    exact allReturned_ne_nil_iff

/-- **What a registry shows after any run of registrations.** Each listing has exactly what the successful
registrations for it returned, in order; the size counts the successful ones; the capabilities increase and
are those with a successful one. A registration that fails then changes nothing, and one that succeeds adds
its descriptor at the end of its own listing and changes no other. -/
theorem registrations_kept (calls : List Call) :
    let answers := (empty.enrollAll calls).1
    let r := (empty.enrollAll calls).2
    r.Shows calls answers ∧
      ∀ (capability : Text) (e : Extension),
        (∀ issues, (r.enroll capability e).1.outcome = .error issues → (r.enroll capability e).2 = r) ∧
        (∀ d, (r.enroll capability e).1.outcome = .ok d →
          (r.enroll capability e).2.list capability = r.list capability ++ [d]) ∧
        ∀ other, other ≠ capability → (r.enroll capability e).2.list other = r.list other := by
  refine ⟨shows_enrollAll calls, fun capability e => ⟨?_, ?_, fun other => list_enroll_of_ne⟩⟩
  · intro issues h
    rw [outcome_enroll] at h
    exact enroll_of_undescribed h
  · intro d h
    rw [outcome_enroll] at h
    rw [enroll_of_described h, list_register_self]

end Registry

end ExtensionProbe
