import ExtensionProbe.Probe

/-!
# Usable listings

A listing is usable if it is there, is not empty, has as many entries as asked for, and names each of
them. Whether it is, and which entry is the first without a name, is read off its entries.

* `usable_eq_ok_iff`: **which listings are usable, and that a usable one is its own view.**
* `flaw?_unnamed_iff`: the flaw of an entry without a name.
* `usable_append`, `flaw?_unnamed_append`: what more entries at the end do to either.
-/

namespace ExtensionProbe

namespace Probe

variable {least : Int} {capability : Option Text} {l : Listing} {view : List Descriptor}

theorem usable_eq_ok_iff_view :
    usable least capability l = .ok view ↔ l.view least capability = .ok view := by
  unfold usable
  cases l.view least capability with
  | ok v => simp
  | error m =>
    -- a flaw stays a failure, whether or not its message can be written
    refine iff_of_false ?_ (by simp)
    intro h
    simp only at h
    split at h <;> cases h

/-- Entries that are all there are their descriptors. -/
theorem eq_map_some_of_named {entries : List (Option Descriptor)}
    (h : ∀ e ∈ entries, Listing.isNamed e = true) : entries = (entries.filterMap id).map some := by
  induction entries with
  | nil => rfl
  | cons e rest ih =>
    cases e with
    | none => exact absurd (h none List.mem_cons_self) (by simp [Listing.isNamed])
    | some d =>
      have := ih fun e he => h e (List.mem_cons_of_mem _ he)
      exact congrArg (some d :: ·) this

theorem forall_isNamed_map_some :
    (∀ e ∈ view.map some, Listing.isNamed e = true) ↔ ∀ d ∈ view, d.simpleName ≠ [] := by
  simp [Listing.isNamed]

/-- **A listing is usable exactly if it is there, is not empty, has enough entries, and names each of them.** -/
theorem usable_eq_ok_iff :
    usable least capability l = .ok view ↔
      l = some (view.map some) ∧ view ≠ [] ∧ least ≤ view.length ∧ ∀ d ∈ view, d.simpleName ≠ [] := by
  rw [usable_eq_ok_iff_view, Listing.view_eq_ok_iff, Listing.flaw?_eq_none_iff]
  constructor
  · rintro ⟨⟨entries, rfl, hne, hlen, hnamed⟩, rfl⟩
    -- entries that are named are there, so keeping the ones that are there loses none
    have he := eq_map_some_of_named hnamed
    simp only [Listing.present]
    generalize entries.filterMap id = view at he
    subst he
    exact ⟨rfl, by simpa using hne, by simpa using hlen, forall_isNamed_map_some.1 hnamed⟩
  · rintro ⟨rfl, hne, hlen, hnamed⟩
    refine ⟨⟨_, rfl, by simpa using hne, by simpa using hlen, forall_isNamed_map_some.2 hnamed⟩, ?_⟩
    simp [Listing.present, List.filterMap_map]

theorem present_of_usable (h : usable least capability l = .ok view) : l.present = view := by
  obtain ⟨-, hv⟩ := Listing.view_eq_ok_iff.1 (usable_eq_ok_iff_view.1 h)
  exact hv.symm

theorem eq_of_usable_map_some {ds : List Descriptor}
    (h : usable least capability (some (ds.map some)) = .ok view) : view = ds := by
  rw [← present_of_usable h]
  simp [Listing.present, List.filterMap_map]

/-! ## Entries without a name -/

theorem eq_of_malformed {m : Malformed} (h : usable least capability l = .error (.malformed m)) :
    ∃ flaw, l.flaw? least = some flaw ∧ m = ⟨capability, flaw, l.reported flaw⟩ := by
  unfold usable at h
  cases hv : l.view least capability with
  | ok view => rw [hv] at h; cases h
  | error m' =>
    rw [hv] at h
    have hm : m' = m := by
      simp only at h
      split at h
      · cases h
      · exact ProbeError.malformed.inj (Except.error.inj h)
    unfold Listing.view at hv
    cases hf : l.flaw? least with
    | none => rw [hf] at hv; cases hv
    | some flaw =>
      rw [hf] at hv
      exact ⟨flaw, rfl, by rw [← hm, Except.error.inj hv]⟩

theorem flaw_of_malformed {m : Malformed} (h : usable least capability l = .error (.malformed m)) :
    l.flaw? least = some m.flaw := by
  obtain ⟨flaw, hf, rfl⟩ := eq_of_malformed h
  exact hf

theorem observed_of_malformed {m : Malformed} (h : usable least capability l = .error (.malformed m)) :
    m.observed = l.reported m.flaw := by
  obtain ⟨flaw, -, rfl⟩ := eq_of_malformed h
  rfl

theorem usable_of_unnamed {n : Nat} (h : l.flaw? least = some (.unnamed n)) :
    usable least capability l =
      .error (.malformed ⟨capability, .unnamed n, Listing.reported (.unnamed n) l⟩) := by
  unfold usable Listing.view
  rw [h]

/-- A listing that falls short is at fault by that. -/
theorem flaw?_of_short {entries : List (Option Descriptor)} (hne : entries ≠ [])
    (hfew : (entries.length : Int) < least) :
    Listing.flaw? least (some entries) = some (.tooFew least entries.length) := by
  simp [Listing.flaw?, hne, hfew]

/-- A listing with enough entries is at fault by the first one without a name. -/
theorem flaw?_of_enough {entries : List (Option Descriptor)} (hne : entries ≠ [])
    (henough : least ≤ entries.length) :
    Listing.flaw? least (some entries) = (entries.findIdx? (!Listing.isNamed ·)).map .unnamed := by
  have hfew : ¬ (entries.length : Int) < least := by omega
  simp [Listing.flaw?, hne, hfew]

theorem flaw?_unnamed_iff {entries : List (Option Descriptor)} {n : Nat} :
    Listing.flaw? least (some entries) = some (.unnamed n) ↔
      entries ≠ [] ∧ least ≤ entries.length ∧ entries.findIdx? (!Listing.isNamed ·) = some n := by
  by_cases hne : entries = []
  · simp [Listing.flaw?, hne]
  · by_cases hlen : least ≤ entries.length
    · simp [flaw?_of_enough hne hlen, hne, hlen]
    · simp [flaw?_of_short hne (Int.not_le.1 hlen), hlen]

/-- The first entry without a name stays the first one when entries are added at the end. -/
theorem flaw?_unnamed_append {entries : List (Option Descriptor)} {n : Nat}
    (h : Listing.flaw? least (some entries) = some (.unnamed n)) (more : List (Option Descriptor)) :
    Listing.flaw? least (some (entries ++ more)) = some (.unnamed n) := by
  obtain ⟨hne, hlen, hn⟩ := flaw?_unnamed_iff.1 h
  refine flaw?_unnamed_iff.2 ⟨by simp [hne], ?_, ?_⟩
  · rw [List.length_append]; omega
  · rw [List.findIdx?_append, hn, Option.some_or]

/-- **More descriptors at the end** leave a usable listing usable, unless one of them has no name. -/
theorem usable_append (h : usable least capability (some (view.map some)) = .ok view)
    (more : List Descriptor) :
    usable least capability (some ((view ++ more).map some)) = .ok (view ++ more) ∨
      (∃ m, usable least capability (some ((view ++ more).map some)) = .error (.malformed m)) ∧
        ∃ d ∈ more, d.simpleName = [] := by
  obtain ⟨-, hne, hlen, hnamed⟩ := usable_eq_ok_iff.1 h
  have hne' : view ++ more ≠ [] := by simp [hne]
  have hlen' : least ≤ (view ++ more).length := by rw [List.length_append]; omega
  cases hi : ((view ++ more).map some).findIdx? (!Listing.isNamed ·) with
  | none =>
    have hall := List.findIdx?_eq_none_iff.1 hi
    refine .inl (usable_eq_ok_iff.2 ⟨rfl, hne', hlen', forall_isNamed_map_some.1 ?_⟩)
    intro e he
    simpa using hall e he
  | some n =>
    -- the entries are there and enough, so what is wrong is a name, and not one of the old ones
    refine .inr ⟨⟨_, usable_of_unnamed (flaw?_unnamed_iff.2 ⟨by simp [hne], by simpa using hlen', hi⟩)⟩, ?_⟩
    obtain ⟨hn, hp, -⟩ := List.findIdx?_eq_some_iff_getElem.1 hi
    obtain ⟨d, hd, he⟩ := List.mem_map.1 (List.getElem_mem hn)
    rw [← he] at hp
    have hempty : d.simpleName = [] := by simpa [Listing.isNamed] using hp
    rcases List.mem_append.1 hd with hd | hd
    · exact absurd hempty (hnamed d hd)
    · exact ⟨d, hd, hempty⟩

end Probe

end ExtensionProbe
