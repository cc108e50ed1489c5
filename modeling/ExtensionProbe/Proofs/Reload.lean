import ExtensionProbe.Proofs.Words
import ExtensionProbe.Schema.Report
import ExtensionProbe.Schema.Settings

/-!
# What is dumped is loaded again

Data is brought into one form when it is checked: numbers in writing become numbers, a gate in writing becomes
a record, what is left out is filled in. The form is dumped as it is, and the dump is accepted as the same
value. So checking is done once, and a second time it changes nothing.

Some fields do not take every value of their type. A value that was checked has none of the others.

* `Check.valid_of_decode`, `Settings.valid_of_decode`: what holds of a value that was checked.
* `Check.decode_dump`, `Report.decode_dump`, `Settings.decode_dump`: the dump of a value is accepted as it.
* `AllReload`: **what is dumped of a value that was accepted is accepted as it**, whatever it was read from.
-/

namespace ExtensionProbe

open Checked Decode

variable {α : Type}

/-- What is dumped of a value that was accepted is accepted, and gives the same value. -/
def Reloads (decode : Data → Checked α) (dump : α → Data) : Prop :=
  ∀ d x, decode d = .ok x → decode (dump x) = .ok x

namespace Decode

variable {d : Data} {s : String} {n bound : Int} {otherwise : IssueKind} {decode : Data → Checked α}

theorem nonEmptyText_eq_ok_iff : nonEmptyText d = .ok s ↔ string d = .ok s ∧ s ≠ "" := by
  unfold nonEmptyText
  cases string d with
  | error es => exact iff_of_false nofun fun h => nomatch h.1
  | ok t =>
    by_cases ht : t = ""
    · subst ht
      refine iff_of_false (fun h => ?_) fun h => h.2 (Except.ok.inj h.1).symm
      cases h
    · have hfull : t.isEmpty = false := by simpa using ht
      simp only [bind, Except.bind, hfull, Bool.false_eq_true, if_false, Except.ok.injEq]
      exact ⟨fun h => ⟨h, h ▸ ht⟩, fun h => h.1⟩

theorem nonEmptyText_text (h : s ≠ "") : nonEmptyText (.text s) = .ok s :=
  nonEmptyText_eq_ok_iff.2 ⟨string_text s, h⟩

theorem integerFrom_eq_ok_iff : integerFrom bound d = .ok n ↔ integer d = .ok n ∧ bound ≤ n := by
  unfold integerFrom
  cases integer d with
  | error es => exact iff_of_false nofun fun h => nomatch h.1
  | ok m =>
    by_cases hm : m < bound
    · simp only [bind, Except.bind, if_pos hm]
      refine iff_of_false nofun fun h => ?_
      cases h.1
      omega
    · simp only [bind, Except.bind, if_neg hm, Except.ok.injEq]
      exact ⟨fun h => ⟨h, by omega⟩, fun h => h.1⟩

theorem integerFrom_int (h : bound ≤ n) : integerFrom bound (.int n) = .ok n :=
  integerFrom_eq_ok_iff.2 ⟨integer_int n, h⟩

/-- Each member of a row was checked. -/
theorem exists_of_row {xs : List α} (h : row otherwise decode d = .ok xs) :
    ∀ x ∈ xs, ∃ member, decode member = .ok x := by
  unfold row at h
  cases hitems : items otherwise d with
  | error es => rw [hitems] at h; cases h
  | ok members =>
    rw [hitems] at h
    have hmap := each_eq_ok_iff.1 h
    intro x hx
    have hmem : (.ok x : Checked α) ∈ members.map decode := hmap ▸ List.mem_map_of_mem hx
    obtain ⟨member, -, hmember⟩ := List.mem_map.1 hmem
    exact ⟨member, hmember⟩

/-- What holds of the default of a field and of all that is accepted for it holds of the field. -/
theorem holds_of_withDefault {es : List (Data × Data)} {name : String} {default x : α} {P : α → Prop}
    (h : withDefault es name default decode = .ok x) (hdefault : P default)
    (hdecode : ∀ d, decode d = .ok x → P x) : P x := by
  rcases withDefault_eq_ok_iff.1 h with ⟨-, rfl⟩ | ⟨d, -, hd⟩
  · exact hdefault
  · exact hdecode d hd

/-- What may be missing is dumped as a record or as nothing, and comes back. -/
theorem orNull_dump {encode : α → Data} {x : Option α} (hrecord : ∀ y, ∃ es, encode y = .map es)
    (h : ∀ y ∈ x, decode (encode y) = .ok y) : orNull decode ((x.map encode).getD .null) = .ok x := by
  cases x with
  | none => rfl
  | some y =>
    obtain ⟨es, hes⟩ := hrecord y
    have hy := h y rfl
    rw [Option.map_some, Option.getD_some]
    rw [hes] at hy ⊢
    simp only [orNull, hy, Functor.map, Except.map]

end Decode

/-! ## Policies -/

namespace Policy

variable {p : Policy} {k : Kind} {d : Data}

theorem kind_policy (k : Kind) (s : String) : (k.policy s).kind = k ∧ (k.policy s).operand = s := by
  cases k <;> exact ⟨rfl, rfl⟩

/-- A policy that was checked has a text. -/
theorem full_of_decodeAs (h : decodeAs k d = .ok p) : p.kind = k ∧ p.operand ≠ "" := by
  unfold decodeAs at h
  cases hes : entries d with
  | error es => rw [hes] at h; cases h
  | ok es =>
    rw [hes] at h
    obtain ⟨s, hs, rfl⟩ := map_eq_ok_iff.1 h
    obtain ⟨-, hs, -⟩ := closed_eq_ok_iff.1 hs
    obtain ⟨hs, -⟩ := whileKeeping_eq_ok_iff.1 hs
    obtain ⟨member, -, hmember⟩ := required_eq_ok_iff.1 hs
    obtain ⟨hkind, htext⟩ := kind_policy k s
    rw [htext]
    exact ⟨hkind, (nonEmptyText_eq_ok_iff.1 hmember).2⟩

theorem full_of_decode (h : decode d = .ok p) : p.operand ≠ "" := by
  unfold decode at h
  split at h
  · split at h
    · cases h
    · split at h
      · cases h
      · exact (full_of_decodeAs (under_eq_ok_iff.1 h)).2
    · cases h
  · cases h

theorem decodeAs_dump (h : p.operand ≠ "") : decodeAs p.kind p.dump = .ok p := by
  have hfield := nonEmptyText_text h
  cases p <;>
    simp [decodeAs, dump, Data.record, entries, required, withDefault, Data.lookup, Data.sameKey_text,
      hfield, under_ok, both, closed, isTorn, whileKeeping, onlyFields, checkKey, kind, Kind.name,
      Kind.field, Kind.policy, kindName, operand, Functor.map, Except.map] at hfield ⊢

/-- A record that tells its kind is checked as a policy of this kind. -/
theorem decode_of_kind {es : List (Data × Data)} (h : Data.lookup es "kind" = some (.text k.name)) :
    decode (.map es) = under (.field k.name) (decodeAs k (.map es)) := by
  have hkind : Kind.ofName? k.name = some k := by cases k <;> rfl
  simp only [decode, h, Text.toString?_ofString, Option.bind_some, hkind]

theorem decode_dump (h : p.operand ≠ "") : decode p.dump = .ok p := by
  have hkind : Data.lookup [(.text "kind", .text p.kind.name), (.text p.kind.field, .text p.operand)]
      "kind" = some (.text p.kind.name) := by
    simp [Data.lookup, Data.sameKey_text]
  calc decode p.dump
    _ = under (.field p.kind.name) (decodeAs p.kind p.dump) := decode_of_kind hkind
    _ = .ok p := by rw [decodeAs_dump h, under_ok]

end Policy

/-! ## Checks -/

namespace Check

/-- What holds of a check that was checked itself: its label and its policy have texts. -/
structure Valid (c : Check) : Prop where
  label : c.label ≠ ""
  policy : c.policy.operand ≠ ""

variable {c : Check} {cs : List Check} {d : Data}

theorem valid_of_decode (h : decode d = .ok c) : c.Valid := by
  unfold decode at h
  cases hes : entries d with
  | error es => rw [hes] at h; cases h
  | ok es =>
    rw [hes] at h
    obtain ⟨parts, hparts, rfl⟩ := map_eq_ok_iff.1 h
    obtain ⟨-, hparts, -⟩ := closed_eq_ok_iff.1 hparts
    obtain ⟨hlabel, hrest⟩ := both_eq_ok_iff.1 hparts
    obtain ⟨hpolicy, -⟩ := both_eq_ok_iff.1 hrest
    obtain ⟨member, -, hmember⟩ := required_eq_ok_iff.1 hlabel
    obtain ⟨record, -, hrecord⟩ := required_eq_ok_iff.1 hpolicy
    exact ⟨(nonEmptyText_eq_ok_iff.1 hmember).2, Policy.full_of_decode hrecord⟩

theorem decode_dump (h : c.Valid) : decode c.dump = .ok c := by
  obtain ⟨label, policy, gate, description⟩ := c
  have hlabel := nonEmptyText_text h.label
  have hpolicy := Policy.decode_dump h.policy
  have hgate : orNull Gate.decode ((gate.map Gate.dump).getD .null) = .ok gate :=
    orNull_dump (fun _ => ⟨_, rfl⟩) fun g _ => g.decode_dump
  simp only at hlabel hpolicy
  simp [decode, dump, Data.record, entries, required, withDefault, Data.lookup, Data.sameKey_text,
    hlabel, hpolicy, hgate, orNull_text_ofOption, under_ok, both, closed, isTorn, whileKeeping,
    onlyFields, checkKey, Functor.map, Except.map]

theorem valid_of_decodeAll (h : decodeAll d = .ok cs) : ∀ c ∈ cs, c.Valid := by
  intro c hc
  obtain ⟨member, hmember⟩ := exists_of_row h c hc
  exact valid_of_decode hmember

theorem decodeAll_dumpAll (h : ∀ c ∈ cs, c.Valid) : decodeAll (dumpAll cs) = .ok cs :=
  row_list_of_map fun c hc => decode_dump (h c hc)

theorem valid_of_mem_defaults : ∀ c ∈ defaults, c.Valid := by
  intro c hc
  simp only [defaults, List.mem_cons, List.not_mem_nil, or_false] at hc
  rcases hc with rfl | rfl | rfl <;> exact ⟨by decide, by decide⟩

end Check

/-! ## Results and reports -/

namespace Descriptor

theorem decodeOption_dumpOption (d : Option Descriptor) :
    orNull Descriptor.decode (dumpOption d) = .ok d :=
  orNull_dump (fun _ => ⟨_, rfl⟩) fun x _ => x.decode_dump

theorem row_dumpAll (otherwise : IssueKind) (ds : List Descriptor) :
    row otherwise Descriptor.decode (dumpAll ds) = .ok ds :=
  row_list_of_map fun d _ => d.decode_dump

end Descriptor

theorem Result.decode_dump (r : Result) : Result.decode r.dump = .ok r := by
  obtain ⟨label, outcome, matched, observed, expected, reason⟩ := r
  simp [Result.decode, Result.dump, Data.record, entries, required, withDefault, Data.lookup,
    Data.sameKey_text, Outcome.decode_name, Descriptor.decodeOption_dumpOption, Descriptor.row_dumpAll,
    orNull_text_ofOption, under_ok, both, closed, isTorn, whileKeeping, onlyFields, checkKey, Functor.map,
    Except.map]

theorem Report.decode_dump (r : Report) : Report.decode r.dump = .ok r := by
  obtain ⟨capability, raw, host, observed, results⟩ := r
  have hhost : orNull Version.decode ((host.map Version.dump).getD .null) = .ok host :=
    orNull_dump (fun _ => ⟨_, rfl⟩) fun v _ => v.decode_dump
  have hresults : row .notTuple Result.decode (.list (results.map Result.dump)) = .ok results :=
    row_list_of_map fun x _ => x.decode_dump
  simp [Report.decode, Report.dump, Report.fields, Data.record, entries, required, withDefault,
    Data.lookup, Data.sameKey_text, hhost, hresults, Descriptor.row_dumpAll, orNull_text_ofOption,
    under_ok, both, closed, isTorn, whileKeeping, onlyFields, checkKey, Functor.map, Except.map]

/-! ## Settings -/

theorem Logging.known_of_decode {l : Logging} {d : Data} (h : Logging.decode d = .ok l) :
    l.level ∈ Logging.levels := by
  unfold Logging.decode at h
  cases hes : entries d with
  | error es => rw [hes] at h; cases h
  | ok es =>
    rw [hes] at h
    obtain ⟨parts, hparts, rfl⟩ := map_eq_ok_iff.1 h
    obtain ⟨hlevel, -⟩ := both_eq_ok_iff.1 hparts
    refine holds_of_withDefault hlevel (by decide) fun member hmember => ?_
    obtain ⟨s, -, hs⟩ := exists_of_bind_eq_ok hmember
    split at hs
    · next hknown =>
      cases hs
      exact List.contains_iff_mem.1 hknown
    · cases hs

namespace Settings

/-- What holds of settings that were checked. -/
structure Valid (s : Settings) : Prop where
  capability : s.capability ≠ ""
  leastExtensions : 1 ≤ s.leastExtensions
  checks : ∀ c ∈ s.checks, c.Valid
  logging : s.logging.level ∈ Logging.levels

variable {s : Settings} {d : Data}

theorem valid_of_decode (h : decode d = .ok s) : s.Valid := by
  unfold decode at h
  cases hes : entries d with
  | error es => rw [hes] at h; cases h
  | ok es =>
    rw [hes] at h
    obtain ⟨⟨capability, host, least, checks, logging⟩, hparts, rfl⟩ := map_eq_ok_iff.1 h
    obtain ⟨-, hparts, -⟩ := closed_eq_ok_iff.1 hparts
    obtain ⟨hcapability, hparts⟩ := both_eq_ok_iff.1 hparts
    obtain ⟨-, hparts⟩ := both_eq_ok_iff.1 hparts
    obtain ⟨hleast, hparts⟩ := both_eq_ok_iff.1 hparts
    obtain ⟨hchecks, hlogging⟩ := both_eq_ok_iff.1 hparts
    have hcapability' : capability ≠ "" :=
      holds_of_withDefault (P := (· ≠ "")) hcapability (by decide) fun _ hm => (nonEmptyText_eq_ok_iff.1 hm).2
    have hleast' : 1 ≤ least :=
      holds_of_withDefault hleast (by decide) fun _ hm => (integerFrom_eq_ok_iff.1 hm).2
    have hchecks' : ∀ c ∈ checks, c.Valid :=
      holds_of_withDefault (P := fun cs => ∀ c ∈ cs, c.Valid) hchecks Check.valid_of_mem_defaults
        fun _ => Check.valid_of_decodeAll
    have hlogging' : logging.level ∈ Logging.levels :=
      holds_of_withDefault (P := fun l => l.level ∈ Logging.levels) hlogging (by decide)
        fun _ => Logging.known_of_decode
    exact ⟨hcapability', hleast', hchecks', hlogging'⟩

theorem decodeHostVersion_dump (host : Option Text) : decodeHostVersion (.ofOption host) = .ok host := by
  cases host <;> rfl

theorem decode_dump (h : s.Valid) : decode s.dump = .ok s := by
  obtain ⟨capability, host, least, checks, logging⟩ := s
  have hcapability := nonEmptyText_text h.capability
  have hleast : decodeLeast (.int least) = .ok least := integerFrom_int h.leastExtensions
  have hchecks := Check.decodeAll_dumpAll h.checks
  have hlogging := Logging.decode_dump h.logging
  simp only at hcapability hchecks hlogging
  simp [decode, dump, Data.record, entries, withDefault, Data.lookup, Data.sameKey_text, hcapability,
    decodeHostVersion_dump, hleast, hchecks, hlogging, under_ok, both, closed, isTorn, whileKeeping,
    onlyFields, checkKey, Functor.map, Except.map]

end Settings

/-! ## All records -/

/-- What is dumped of any record that was accepted is accepted as the same record. -/
structure AllReload : Prop where
  version : Reloads Version.decode Version.dump
  gate : Reloads Gate.decode Gate.dump
  descriptor : Reloads Descriptor.decode Descriptor.dump
  policyOf : ∀ k, Reloads (Policy.decodeAs k) Policy.dump
  policy : Reloads Policy.decode Policy.dump
  check : Reloads Check.decode Check.dump
  result : Reloads Result.decode Result.dump
  report : Reloads Report.decode Report.dump
  logging : Reloads Logging.decode Logging.dump
  settings : Reloads Settings.decode Settings.dump

theorem allReload : AllReload where
  version _ v _ := v.decode_dump
  gate _ g _ := g.decode_dump
  descriptor _ d _ := d.decode_dump
  policyOf k d p h := by
    obtain ⟨hkind, hfull⟩ := Policy.full_of_decodeAs h
    rw [← hkind]
    exact Policy.decodeAs_dump hfull
  policy _ _ h := Policy.decode_dump (Policy.full_of_decode h)
  check _ _ h := Check.decode_dump (Check.valid_of_decode h)
  result _ x _ := x.decode_dump
  report _ r _ := r.decode_dump
  logging _ _ h := Logging.decode_dump (Logging.known_of_decode h)
  settings _ _ h := Settings.decode_dump (Settings.valid_of_decode h)

end ExtensionProbe
