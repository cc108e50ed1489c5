import ExtensionProbe.Proofs.Reload
import ExtensionProbe.Proofs.RunExit

/-!
# The printed report is loaded again

What a run prints in JSON, without its word on success, is data for a report. A text without a pair of halves
comes back from JSON as it was. In a text with one, which the escapes of a data file can make, the pair comes
back as the one character that it stands for.

* `Text.rejoined_of_unpaired`, `Text.eq_of_rejoined`: a text without pairs comes back as it was, and what comes
  back without a character that a pair stands for was it.
* `Json.reread_record_eq`: a record comes back as a record, field by field.
* `Report.rejoined`: a report as it comes back.
* `dumps_reload`: **dumps are loaded as what was dumped, and a printed report as it comes back.**
* `pair_joins_on_reload`: a report that comes back as another one.
-/

namespace ExtensionProbe

theorem map_eq_self {α : Type} {f : α → α} {xs : List α} (h : ∀ x ∈ xs, f x = x) : xs.map f = xs :=
  (List.map_congr_left h).trans (List.map_id xs)

/-! ## Texts -/

namespace Text

/-- In a text the first half of a pair stands right before a second one. -/
def Paired (t : Text) : Prop :=
  ∃ before first second rest, t = before ++ .half first :: .half second :: rest ∧
    first.val < 1024 ∧ 1024 ≤ second.val

variable {t : Text} {n : Nat}

theorem Paired.cons (c : Code) (h : Paired t) : Paired (c :: t) := by
  obtain ⟨before, first, second, rest, rfl, hpair⟩ := h
  exact ⟨c :: before, first, second, rest, rfl, hpair⟩

/-- A unit is joined to nothing unless it is a first half and a second one follows. -/
theorem joinPairs_cons {us : List Nat} (h : isHigh n = true → ∀ u ∈ us.head?, isLow u = false) :
    joinPairs (n :: us) = n :: joinPairs us := by
  cases us with
  | nil => rfl
  | cons u more =>
    have hpair : (isHigh n && isLow u) = false := by
      cases hn : isHigh n with
      | false => rfl
      | true => exact h hn u rfl
    rw [joinPairs, hpair]
    rfl

/-- The first unit of a character is no second half. -/
theorem not_isLow_head (c : Char) (rest : List Nat) :
    ∀ u ∈ (unitsOf c.toNat ++ rest).head?, isLow u = false := by
  have hvalid : c.toNat.isValidChar := c.valid
  unfold Nat.isValidChar at hvalid
  intro u hu
  unfold unitsOf at hu
  split at hu
  · cases hu
    simp only [isLow, Bool.and_eq_false_iff, decide_eq_false_iff_not]
    omega
  · cases hu
    simp only [isLow, Bool.and_eq_false_iff, decide_eq_false_iff_not]
    omega

theorem units_half (place : Fin 2048) (rest : Text) :
    units (.half place :: rest) = (0xD800 + place.val) :: units rest := by
  have hsmall : unitsOf (0xD800 + place.val) = [0xD800 + place.val] := if_pos (by omega)
  rw [units, List.flatMap_cons]
  exact congrArg (· ++ units rest) hsmall

theorem joinPairs_units (h : ¬ Paired t) : joinPairs (units t) = t.map Code.value := by
  induction t with
  | nil => rfl
  | cons c rest ih =>
    have hrest := ih fun hpaired => h (hpaired.cons c)
    cases c with
    | char c => exact (joinPairs_unitsOf c.valid _).trans (congrArg (c.toNat :: ·) hrest)
    | half place =>
      -- a first half would be joined to a second one right after it, and there is none
      rw [units_half, joinPairs_cons, hrest]
      · rfl
      intro hhigh u hu
      have hfirst : place.val < 1024 := by
        simp only [isHigh, Bool.and_eq_true, decide_eq_true_eq] at hhigh
        omega
      cases rest with
      | nil => cases hu
      | cons d more =>
        cases d with
        | char d => exact not_isLow_head d (units more) u hu
        | half second =>
          have hsecond : ¬ 1024 ≤ second.val := fun hsecond =>
            h ⟨[], place, second, more, rfl, hfirst, hsecond⟩
          rw [units_half] at hu
          cases hu
          simp only [isLow, Bool.and_eq_false_iff, decide_eq_false_iff_not]
          omega

/-- A text without pairs comes back as it was. -/
theorem rejoined_of_unpaired (h : ¬ Paired t) : rejoined t = t := by
  unfold rejoined ofUnits ofNumbers
  rw [joinPairs_units h, List.map_map]
  exact map_eq_self fun c _ => ofNat_value c

theorem joined_range {a b : Nat} (ha : isHigh a = true) (hb : isLow b = true) :
    0x10000 ≤ 0x10000 + (a - 0xD800) * 0x400 + (b - 0xDC00) ∧
      0x10000 + (a - 0xD800) * 0x400 + (b - 0xDC00) < 0x110000 := by
  simp only [isHigh, isLow, Bool.and_eq_true, decide_eq_true_eq] at ha hb
  omega

/-- Where a first half stands before a second one, something is joined. -/
theorem exists_joined (before rest : List Nat) {a b : Nat} (ha : isHigh a = true) (hb : isLow b = true) :
    ∃ n ∈ joinPairs (before ++ a :: b :: rest), 0x10000 ≤ n ∧ n < 0x110000 := by
  induction before with
  | nil =>
    rw [List.nil_append, joinPairs, ha, hb]
    exact ⟨_, List.mem_cons_self, joined_range ha hb⟩
  | cons u more ih =>
    obtain ⟨v, others, hnext⟩ : ∃ v others, more ++ a :: b :: rest = v :: others := by
      cases more <;> exact ⟨_, _, rfl⟩
    rw [hnext] at ih
    rw [List.cons_append, hnext, joinPairs]
    -- the first unit is itself joined to the next one, or it stands alone
    split
    · next hpair =>
      rw [Bool.and_eq_true] at hpair
      exact ⟨_, List.mem_cons_self, joined_range hpair.1 hpair.2⟩
    · obtain ⟨n, hn, hrange⟩ := ih
      exact ⟨n, List.mem_cons_of_mem _ hn, hrange⟩

/-- A pair comes back as a character beyond those of one unit. -/
theorem Paired.exists_joined (h : Paired t) : ∃ c ∈ rejoined t, 0x10000 ≤ c.value := by
  obtain ⟨before, first, second, rest, rfl, hfirst, hsecond⟩ := h
  have hunits : units (before ++ .half first :: .half second :: rest) =
      units before ++ (0xD800 + first.val) :: (0xD800 + second.val) :: units rest := by
    rw [← units_half, ← units_half, units, units, units, List.flatMap_append]
  have hhigh : isHigh (0xD800 + first.val) = true := by
    simp only [isHigh, Bool.and_eq_true, decide_eq_true_eq]
    omega
  have hlow : isLow (0xD800 + second.val) = true := by
    simp only [isLow, Bool.and_eq_true, decide_eq_true_eq]
    omega
  obtain ⟨n, hn, hle, hlt⟩ := Text.exists_joined (units before) (units rest) hhigh hlow
  refine ⟨Code.ofNat n, ?_, by rwa [Code.value_ofNat hlt]⟩
  rw [rejoined, ofUnits, hunits]
  exact List.mem_map_of_mem hn

/-- What comes back without such characters is as it was. -/
theorem eq_of_rejoined {u : Text} (h : rejoined t = u) (hu : ∀ c ∈ u, c.value < 0x10000) : t = u := by
  by_cases hpaired : Paired t
  · obtain ⟨c, hc, hle⟩ := hpaired.exists_joined
    exact absurd (hu c (h ▸ hc)) (Nat.not_lt.2 hle)
  · exact (rejoined_of_unpaired hpaired).symm.trans h

end Text

/-! ## Records -/

namespace Json

variable {es read : List (Data × Data)} {fields : List (String × Data)} {k d : Data}

theorem put_of_new (h : ∀ e ∈ es, Data.sameKey e.1 k = false) : Data.put es k d = es ++ [(k, d)] := by
  induction es with
  | nil => rfl
  | cons e more ih =>
    have hfirst : Data.sameKey e.1 k = false := h e List.mem_cons_self
    have hmore := ih fun x hx => h x (List.mem_cons_of_mem _ hx)
    rw [Data.put, hfirst, hmore]
    rfl

/-- Entries under different keys that come back as they were stay in their order, each with its value as it
comes back. -/
theorem rereadOnto_of_new {entries : List (Data × Data)}
    (hkeys : ∀ e ∈ entries, ∃ t, e.1 = .text t ∧ Text.rejoined t = t)
    (hnodup : (entries.map Prod.fst).Nodup) (hnew : ∀ e ∈ read, e.1 ∉ entries.map Prod.fst) :
    rereadOnto read entries = read ++ entries.map fun e => (e.1, reread e.2) := by
  -- what was read so far shares no key with what follows, so that each entry is put at the end
  induction entries generalizing read with
  | nil => exact (List.append_nil read).symm
  | cons e more ih =>
    obtain ⟨k, d⟩ := e
    obtain ⟨hfirst, hmore⟩ := List.nodup_cons.1 hnodup
    obtain ⟨t, rfl, ht⟩ : ∃ t, k = .text t ∧ Text.rejoined t = t := hkeys _ List.mem_cons_self
    have hput : Data.put read (.text t) (reread d) = read ++ [(.text t, reread d)] := by
      refine put_of_new fun e he => Bool.eq_false_iff.2 fun hsame => hnew e he ?_
      rw [Data.sameKey_text_iff.1 hsame]
      exact List.mem_cons_self
    have hstill : ∀ e ∈ read ++ [(Data.text t, reread d)], e.1 ∉ more.map Prod.fst := by
      intro e he
      rcases List.mem_append.1 he with he | he
      · exact fun hmem => hnew e he (List.mem_cons_of_mem _ hmem)
      · cases List.mem_singleton.1 he
        exact hfirst
    have hkey : keyRead (.text t) = t := (keyRead_of_keyText rfl).trans ht
    rw [rereadOnto, hkey, hput, ih (fun x hx => hkeys x (List.mem_cons_of_mem _ hx)) hmore hstill,
      List.append_assoc]
    rfl

theorem map_fst_entriesOf (fields : List (String × Data)) :
    (entriesOf fields).map Prod.fst = (fields.map Prod.fst).map fun name => .text name := by
  rw [entriesOf, List.map_map, List.map_map]
  rfl

theorem nodup_entriesOf (hnames : (fields.map Prod.fst).Nodup) : ((entriesOf fields).map Prod.fst).Nodup := by
  rw [entriesOf_eq]
  exact nodup_underTexts (nodup_texts hnames)

/-- Fields of different names come back in their order, each with its value as it comes back. -/
theorem rereadOnto_entriesOf (hnames : (fields.map Prod.fst).Nodup)
    (hnew : ∀ e ∈ read, ∀ name ∈ fields.map Prod.fst, Data.sameKey e.1 (.text name) = false) :
    rereadOnto read (entriesOf fields) = read ++ entriesOf (fields.map fun f => (f.1, reread f.2)) := by
  have hkeys : ∀ e ∈ entriesOf fields, ∃ t, e.1 = .text t ∧ Text.rejoined t = t := by
    intro e he
    obtain ⟨f, -, rfl⟩ := List.mem_map.1 he
    exact ⟨f.1, rfl, Text.rejoined_ofString f.1⟩
  have hother : ∀ e ∈ read, e.1 ∉ (entriesOf fields).map Prod.fst := by
    intro e he hmem
    rw [map_fst_entriesOf] at hmem
    obtain ⟨name, hname, heq⟩ := List.mem_map.1 hmem
    have hsame := hnew e he name hname
    rw [← heq, Data.sameKey_text, beq_self_eq_true] at hsame
    cases hsame
  rw [rereadOnto_of_new hkeys (nodup_entriesOf hnames) hother, entriesOf, entriesOf, List.map_map,
    List.map_map]
  rfl

/-- A record comes back as a record, field by field. -/
theorem reread_record_eq (hnames : (fields.map Prod.fst).Nodup) :
    reread (.record fields) = .record (fields.map fun f => (f.1, reread f.2)) := by
  rw [reread_record, rereadOnto_entriesOf hnames fun e he => by cases he]
  rfl

theorem reread_ofOption (t : Option Text) : reread (.ofOption t) = .ofOption (t.map Text.rejoined) := by
  cases t <;> rfl

theorem reread_name (s : String) : reread (.text s) = .text s :=
  congrArg Data.text (Text.rejoined_ofString s)

end Json

open Json

/-! ## What comes back of a report -/

namespace Text

/-- A text that may be missing comes back as it was if it is one without pairs. -/
theorem map_rejoined_of_unpaired {t : Option Text} (h : ∀ u ∈ t.toList, ¬ u.Paired) :
    t.map rejoined = t := by
  cases t with
  | none => rfl
  | some t => exact congrArg some (rejoined_of_unpaired (h t List.mem_cons_self))

end Text

namespace Descriptor

/-- A descriptor as it comes back. -/
def rejoined (d : Descriptor) : Descriptor :=
  ⟨Text.rejoined d.simpleName, Text.rejoined d.qualifiedName, d.markers.map Text.rejoined⟩

/-- The texts of a descriptor. -/
def texts (d : Descriptor) : List Text := d.simpleName :: d.qualifiedName :: d.markers

/-- The fields of a descriptor. -/
def fields (d : Descriptor) : List (String × Data) :=
  [("simple_name", .text d.simpleName), ("qualified_name", .text d.qualifiedName),
    ("markers", .list (d.markers.map .text))]

theorem nodup_names (d : Descriptor) : (d.fields.map Prod.fst).Nodup := by
  change ["simple_name", "qualified_name", "markers"].Nodup
  decide

theorem reread_dump (d : Descriptor) : reread d.dump = d.rejoined.dump := by
  have hmarkers : reread (.list (d.markers.map .text)) = .list ((d.markers.map Text.rejoined).map .text) := by
    rw [reread, rereadAll_map, List.map_map]
    rfl
  calc reread d.dump
    _ = .record (d.fields.map fun f => (f.1, reread f.2)) := reread_record_eq d.nodup_names
    _ = d.rejoined.dump := by
      simp only [fields, List.map_cons, List.map_nil, hmarkers]
      rfl

theorem reread_dumpAll (ds : List Descriptor) : reread (dumpAll ds) = dumpAll (ds.map rejoined) := by
  unfold dumpAll
  rw [reread, rereadAll_map, List.map_map]
  exact congrArg Data.list (List.map_congr_left fun d _ => reread_dump d)

theorem reread_dumpOption (d : Option Descriptor) :
    reread (dumpOption d) = dumpOption (d.map rejoined) := by
  cases d with
  | none => rfl
  | some d => exact reread_dump d

variable {d : Descriptor} {ds : List Descriptor}

theorem rejoined_of_unpaired (h : ∀ t ∈ d.texts, ¬ t.Paired) : d.rejoined = d := by
  simp only [texts, List.forall_mem_cons] at h
  obtain ⟨hname, hqualified, hmarkers⟩ := h
  have hall : d.markers.map Text.rejoined = d.markers :=
    map_eq_self fun t ht => Text.rejoined_of_unpaired (hmarkers t ht)
  unfold rejoined
  rw [Text.rejoined_of_unpaired hname, Text.rejoined_of_unpaired hqualified, hall]

theorem map_rejoined_of_unpaired (h : ∀ t ∈ ds.flatMap texts, ¬ t.Paired) : ds.map rejoined = ds := by
  refine map_eq_self fun d hd => rejoined_of_unpaired fun t ht => ?_
  exact h t (List.mem_flatMap.2 ⟨d, hd, ht⟩)

end Descriptor

namespace Version

/-- A version as it comes back. -/
def rejoined (v : Version) : Version := { v with qualifier := v.qualifier.map Text.rejoined }

/-- The fields of a version. -/
def fields (v : Version) : List (String × Data) :=
  [("major", .int v.major), ("minor", .int v.minor), ("qualifier", .ofOption v.qualifier)]

theorem nodup_names (v : Version) : (v.fields.map Prod.fst).Nodup := by
  change ["major", "minor", "qualifier"].Nodup
  decide

theorem reread_dump (v : Version) : reread v.dump = v.rejoined.dump := by
  calc reread v.dump
    _ = .record (v.fields.map fun f => (f.1, reread f.2)) := reread_record_eq v.nodup_names
    _ = v.rejoined.dump := by
      simp only [fields, List.map_cons, List.map_nil, reread_ofOption]
      rfl

end Version

namespace Result

/-- A result as it comes back. -/
def rejoined (x : Result) : Result where
  label := Text.rejoined x.label
  outcome := x.outcome
  matched := x.matched.map Descriptor.rejoined
  observed := x.observed.map Descriptor.rejoined
  expected := Text.rejoined x.expected
  reason := x.reason.map Text.rejoined

/-- The texts of a result. -/
def texts (x : Result) : List Text :=
  x.label :: x.expected ::
    (x.reason.toList ++ (x.matched.toList ++ x.observed).flatMap Descriptor.texts)

theorem reread_eq (x : Result) : reread x.dump = x.rejoined.dump := by
  calc reread x.dump
    _ = .record (x.fields.map fun f => (f.1, reread f.2)) := reread_record_eq x.nodup_names
    _ = x.rejoined.dump := by
      simp only [fields, List.map_cons, List.map_nil, reread_ofOption, reread_name,
        Descriptor.reread_dumpAll, Descriptor.reread_dumpOption]
      rfl

theorem rejoined_of_unpaired {x : Result} (h : ∀ t ∈ x.texts, ¬ t.Paired) : x.rejoined = x := by
  simp only [texts, List.forall_mem_cons, List.forall_mem_append, List.flatMap_append] at h
  obtain ⟨hlabel, hexpected, hreason, hmatched, hobserved⟩ := h
  have hmatched' : x.matched.map Descriptor.rejoined = x.matched := by
    cases hm : x.matched with
    | none => rfl
    | some d =>
      rw [hm] at hmatched
      have hd : d.rejoined = d := Descriptor.rejoined_of_unpaired fun t ht =>
        hmatched t (List.mem_flatMap.2 ⟨d, List.mem_cons_self, ht⟩)
      exact congrArg some hd
  unfold rejoined
  rw [Text.rejoined_of_unpaired hlabel, Text.rejoined_of_unpaired hexpected, hmatched',
    Descriptor.map_rejoined_of_unpaired hobserved, Text.map_rejoined_of_unpaired hreason]

end Result

namespace Report

/-- A report as it comes back. -/
def rejoined (r : Report) : Report where
  capability := Text.rejoined r.capability
  rawHostVersion := r.rawHostVersion.map Text.rejoined
  hostVersion := r.hostVersion.map Version.rejoined
  observed := r.observed.map Descriptor.rejoined
  results := r.results.map Result.rejoined

/-- The texts of a report. -/
def texts (r : Report) : List Text :=
  r.capability :: (r.rawHostVersion.toList ++ (r.hostVersion.bind Version.qualifier).toList ++
    r.observed.flatMap Descriptor.texts ++ r.results.flatMap Result.texts)

/-- The entries that are read of a report are those of the report as it comes back. -/
theorem entriesRead_eq (r : Report) :
    r.entriesRead = (.text "success", .bool r.success) :: entriesOf r.rejoined.fields := by
  have hhost : reread ((r.hostVersion.map Version.dump).getD .null) =
      ((r.rejoined.hostVersion).map Version.dump).getD .null := by
    unfold rejoined
    cases r.hostVersion with
    | none => rfl
    | some v => exact v.reread_dump
  have hresults : reread (.list (r.results.map Result.dump)) =
      .list (r.rejoined.results.map Result.dump) := by
    unfold rejoined
    rw [reread, rereadAll_map, List.map_map]
    exact congrArg Data.list (List.map_congr_left fun x _ => x.reread_eq)
  calc r.entriesRead
    _ = entriesOf (r.fieldsWithSuccess.map fun f => (f.1, reread f.2)) :=
        rereadOnto_entriesOf r.nodup_names fun e he => by cases he
    _ = (.text "success", .bool r.success) :: entriesOf r.rejoined.fields := by
        simp only [fieldsWithSuccess, fields, List.map_cons, List.map_nil, reread_ofOption, hhost, hresults,
          Descriptor.reread_dumpAll]
        rfl

/-- A report without pairs in its texts comes back as it was. -/
theorem rejoined_of_unpaired {r : Report} (h : ∀ t ∈ r.texts, ¬ t.Paired) : r.rejoined = r := by
  simp only [texts, List.forall_mem_cons, List.forall_mem_append] at h
  obtain ⟨hcapability, ⟨⟨hraw, hqualifier⟩, hobserved⟩, hresults⟩ := h
  have hhost : r.hostVersion.map Version.rejoined = r.hostVersion := by
    cases hv : r.hostVersion with
    | none => rfl
    | some v =>
      rw [hv] at hqualifier
      have hq : v.qualifier.map Text.rejoined = v.qualifier := Text.map_rejoined_of_unpaired hqualifier
      rw [Option.map_some, Version.rejoined, hq]
  have hall : r.results.map Result.rejoined = r.results := by
    refine map_eq_self fun x hx => Result.rejoined_of_unpaired fun t ht => ?_
    exact hresults t (List.mem_flatMap.2 ⟨x, hx, ht⟩)
  unfold rejoined
  rw [Text.rejoined_of_unpaired hcapability, Text.map_rejoined_of_unpaired hraw, hhost,
    Descriptor.map_rejoined_of_unpaired hobserved, hall]

end Report

namespace Command

open Settings

/-! ## Printed reports -/

/-- The entries of a mapping but for those under a name. -/
def without (name : String) (es : List (Data × Data)) : List (Data × Data) :=
  es.filter fun e => !Data.sameKey e.1 (.text name)

/-- An output is one JSON document, for every reader that has room for a report, and what it holds beside the word
on success is accepted as a report. -/
def LoadsAs (output : Text) (r : Report) : Prop :=
  ∃ doc es, output = Text.ofString doc ∧
    (∀ depth, Report.nesting ≤ depth → Json.read depth doc.toList = .ok (.map es)) ∧
    Report.decode (.map (without "success" es)) = .ok r

variable {output : Text} {r r' : Report} {limit : Nat} {w : Surroundings} {q : ProbeRequest} {e : Ended}

theorem LoadsAs.unique (h : LoadsAs output r) (h' : LoadsAs output r') : r = r' := by
  obtain ⟨doc, es, rfl, hread, hr⟩ := h
  obtain ⟨doc', es', hdoc, hread', hr'⟩ := h'
  cases Text.ofString_inj.1 hdoc
  cases (hread _ (Nat.le_refl _)).symm.trans (hread' _ (Nat.le_refl _))
  exact Except.ok.inj (hr.symm.trans hr')

theorem without_success (r : Report) (d : Data) :
    .map (without "success" ((.text "success", d) :: entriesOf r.fields)) = r.dump := by
  simp [without, entriesOf, Report.fields, Report.dump, Data.record, Data.sameKey_text]

/-- What is printed of a report in JSON is loaded as the report as it comes back. -/
theorem loadsAs_rejoined (h : json limit r = .ok output) : LoadsAs output r.rejoined := by
  obtain ⟨doc, hdoc, hread⟩ := read_json h
  refine ⟨doc, r.entriesRead, hdoc, hread, ?_⟩
  rw [r.entriesRead_eq, without_success]
  exact r.rejoined.decode_dump

theorem Reports.loadsAs {s : Settings} {reg : Snapshot} {host : Option Version}
    (h : Reports w q e s reg host) (hj : q.asJson = true) :
    LoadsAs e.output (reported s reg host).rejoined := by
  have houtput := h.output
  unfold present at houtput
  rw [if_pos hj] at houtput
  exact loadsAs_rejoined (eq_ok_of_mapError houtput)

/-- **Dumps are loaded as what was dumped.** What is dumped of any record that was accepted is accepted as the
same record. What a run prints in JSON of its report is loaded as the report as it comes back, and that is the
report itself if no text in it has a pair of halves. -/
theorem dumps_reload :
    AllReload ∧
    ∀ (w : Surroundings) (q : ProbeRequest) (e : Ended), runProbe w q = .ok e → q.asJson = true →
      e.exit ≠ errorExit →
      ∃ s reg host, Reports w q e s reg host ∧ LoadsAs e.output (reported s reg host).rejoined ∧
        ((∀ t ∈ (reported s reg host).texts, ¬ t.Paired) → LoadsAs e.output (reported s reg host)) := by
  refine ⟨allReload, fun w q e h hj hexit => ?_⟩
  rcases refuses_or_reports h with ⟨herror, -⟩ | ⟨s, reg, host, hr, -⟩
  · exact absurd herror hexit
  · have hloads := hr.loadsAs hj
    refine ⟨s, reg, host, hr, hloads, fun hunpaired => ?_⟩
    rwa [Report.rejoined_of_unpaired hunpaired] at hloads

/-- The report of the run over one extension, whose texts have no halves at all. -/
theorem dumps_reload_lone :
    ∃ e, runProbe lone loneRequest = .ok e ∧ loneRequest.asJson = true ∧ e.exit ≠ errorExit ∧
      ∃ s reg host, Reports lone loneRequest e s reg host ∧
        LoadsAs e.output (reported s reg host).rejoined := by
  obtain ⟨e, he, hone⟩ := exists_run_lone
  have hexit : e.exit ≠ errorExit := by rw [hone]; decide
  obtain ⟨s, reg, host, hr, hloads, -⟩ := dumps_reload.2 lone loneRequest e he rfl hexit
  exact ⟨e, he, rfl, hexit, s, reg, host, hr, hloads⟩

/-! ## A report that comes back as another one -/

/-- The name of an extension: the two halves of one character, each for itself. -/
def pairedName : Text := [.half 61, .half 1536]

/-- A file that lists it after two other extensions, with an escape for each half. -/
def paired : Surroundings :=
  plain (Files.empty.put ["r.yaml"]
    (.file "c: [StandardStrategyImpl, NoDelayProvisionerStrategy, \"\\uD83D\\uDE00\"]".toUTF8))

/-- A run over that file in JSON. -/
def pairedRequest : ProbeRequest where
  registry := "r.yaml"
  overrides := { capability := some "c" }
  asJson := true

/-- The registry that is recorded in that file. -/
def pairedRegistry : Snapshot :=
  ⟨[("c", [⟨"StandardStrategyImpl", [], []⟩, ⟨"NoDelayProvisionerStrategy", [], []⟩, ⟨pairedName, [], []⟩])]⟩

theorem recorded_paired : Recorded paired pairedRequest pairedRegistry := by
  have hread : ((Document.load paired.room.registry paired.files (Path.ofText "r.yaml")).toOption.bind fun es =>
      (Snapshot.ofData es).toOption) = some pairedRegistry := by decide +kernel
  obtain ⟨es, hes, hreg⟩ := Option.bind_eq_some_iff.1 hread
  exact ⟨es, eq_ok_of_toOption hes, eq_ok_of_toOption hreg⟩

/-- The printed report of that run is loaded as the report of another registry, in which the character itself
is the name. -/
theorem pair_joins_on_reload :
    ∃ e s reg host, runProbe paired pairedRequest = .ok e ∧ Reports paired pairedRequest e s reg host ∧
      ¬ LoadsAs e.output (reported s reg host) := by
  obtain ⟨r, hp, hzero⟩ : ∃ r, (Probe.probe 1 Snapshot.client Check.defaults "c" none
      pairedRegistry).1.outcome = .ok r ∧ r.exitCode = 0 := ⟨_, rfl, rfl⟩
  have heffective : Effective paired pairedRequest { capability := "c" } :=
    ⟨[], {}, .missing (.inl rfl) rfl, decode_nothing, fun _ ht => ⟨"c", (Option.some.inj ht).symm⟩, nofun, rfl⟩
  obtain ⟨e, he, hexit⟩ := exists_run (by decide) heffective recorded_paired rfl hp
  rcases refuses_or_reports he with ⟨htwo, -⟩ | ⟨s, reg, host, hr, -⟩
  · rw [hexit, hzero] at htwo
    cases htwo
  · refine ⟨e, s, reg, host, he, hr, fun hloads => ?_⟩
    cases hr.effective.unique heffective
    cases hr.recorded.unique recorded_paired
    have hsame := (hr.loadsAs rfl).unique hloads
    have hobserved : (pairedRegistry.list "c").map Descriptor.rejoined = pairedRegistry.list "c" :=
      congrArg Report.observed hsame
    revert hobserved
    decide

end Command

end ExtensionProbe
