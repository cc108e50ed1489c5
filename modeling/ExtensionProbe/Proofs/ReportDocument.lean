import ExtensionProbe.Command.Execute
import ExtensionProbe.Proofs.JsonDocument

/-!
# Reports as documents

A report in JSON is written of a record that is not deep and has no doubles. So it is written if its host
version can be, it is read up to its end, and the fields of the report and of its results come back under their
names.

* `Command.exists_json`: which reports are printed.
* `Command.read_json`: what is printed of a report is one document, and how it is read.
* `Report.lookup_success`, `Report.lookup_results`: what the document says in sum, and its results, in order.
* `Result.lookup_label`, `Result.lookup_outcome`: what it says of one result.
-/

namespace ExtensionProbe

open Json

namespace Json

/-! ## Values that are written -/

variable {style : Style} {limit level : Nat} {ds : List Data} {es : List (Data × Data)} {d : Data}

/-- A value is written at a level of nesting, of which there is room for so many. -/
def Writes (limit : Nat) (style : Style) (level : Nat) (d : Data) : Prop :=
  ∃ cs, writeAt limit style level d = .ok cs

theorem writes_text (t : Text) : Writes limit style level (.text t) := ⟨quoted t, by rw [writeAt]⟩

theorem writes_bool (b : Bool) : Writes limit style level (.bool b) := by
  cases b
  · exact ⟨['f', 'a', 'l', 's', 'e'], by rw [writeAt]⟩
  · exact ⟨['t', 'r', 'u', 'e'], by rw [writeAt]⟩

theorem writes_null : Writes limit style level .null := ⟨['n', 'u', 'l', 'l'], by rw [writeAt]⟩

theorem writes_int {z : Int} (h : Decimal.Writable z.natAbs) : Writes limit style level (.int z) := by
  unfold Writes
  rw [writeAt]
  cases z with
  | ofNat n =>
    have hn : Decimal.write n = .ok (toString n) := Decimal.write_of_writable h
    rw [Decimal.writeInt, hn]
    exact ⟨_, rfl⟩
  | negSucc n =>
    have hn : Decimal.write (n + 1) = .ok (toString (n + 1)) := Decimal.write_of_writable h
    rw [Decimal.writeInt, hn]
    exact ⟨_, rfl⟩

theorem writes_ofOption (t : Option Text) : Writes limit style level (.ofOption t) := by
  cases t with
  | none => exact writes_null
  | some t => exact writes_text t

theorem exists_writeItems (h : ∀ d ∈ ds, Writes limit style level d) :
    ∃ cs, writeItems limit style level ds = .ok cs := by
  induction ds with
  | nil => exact ⟨[], by rw [writeItems]⟩
  | cons d rest ih =>
    obtain ⟨first, hfirst⟩ := h d List.mem_cons_self
    obtain ⟨more, hmore⟩ := ih fun x hx => h x (List.mem_cons_of_mem _ hx)
    cases rest with
    | nil => exact ⟨first, by rw [writeItems, hfirst]⟩
    | cons x xs =>
      rw [writeItems, hfirst, hmore]
      · exact ⟨_, rfl⟩
      · exact List.cons_ne_nil _ _

theorem writes_list (hlevel : level < limit) (h : ∀ d ∈ ds, Writes limit style (level + 1) d) :
    Writes limit style level (.list ds) := by
  unfold Writes
  rw [writeAt]
  cases ds with
  | nil => exact ⟨['[', ']'], by rw [writeArray, if_pos hlevel]⟩
  | cons d rest =>
    obtain ⟨inner, hinner⟩ := exists_writeItems h
    rw [writeArray, if_neg (Nat.not_le.2 hlevel), hinner]
    exact ⟨_, rfl⟩

theorem exists_writeEntries (hkeys : ∀ e ∈ es, ∃ t, e.1 = .text t) (h : ∀ e ∈ es, Writes limit style level e.2) :
    ∃ cs, writeEntries limit style level es = .ok cs := by
  induction es with
  | nil => exact ⟨[], by rw [writeEntries]⟩
  | cons e rest ih =>
    obtain ⟨k, d⟩ := e
    obtain ⟨t, rfl⟩ : ∃ t, k = .text t := hkeys _ List.mem_cons_self
    obtain ⟨inner, hinner⟩ : Writes limit style level d := h _ List.mem_cons_self
    obtain ⟨more, hmore⟩ := ih (fun x hx => hkeys x (List.mem_cons_of_mem _ hx))
      fun x hx => h x (List.mem_cons_of_mem _ hx)
    cases rest with
    | nil =>
      rw [writeEntries, keyText, hinner]
      exact ⟨_, rfl⟩
    | cons x xs =>
      rw [writeEntries, keyText, hinner, hmore]
      · exact ⟨_, rfl⟩
      · exact List.cons_ne_nil _ _

theorem writes_map (hlevel : level < limit) (hkeys : ∀ e ∈ es, ∃ t, e.1 = .text t)
    (h : ∀ e ∈ es, Writes limit style (level + 1) e.2) : Writes limit style level (.map es) := by
  obtain ⟨inner, hinner⟩ := exists_writeEntries hkeys h
  unfold Writes
  cases es with
  | nil => exact ⟨['{', '}'], by rw [writeAt, if_pos hlevel]⟩
  | cons e rest =>
    rw [writeAt, if_neg (Nat.not_le.2 hlevel), hinner]
    exact ⟨_, rfl⟩

theorem writes_record {fields : List (String × Data)} (hlevel : level < limit)
    (h : ∀ f ∈ fields, Writes limit style (level + 1) f.2) : Writes limit style level (.record fields) := by
  refine writes_map hlevel ?_ ?_
  all_goals
    intro e he
    obtain ⟨f, hf, rfl⟩ := List.mem_map.1 he
  · exact ⟨f.1, rfl⟩
  · exact h f hf

theorem rereadAll_map {α : Type} (f : α → Data) (xs : List α) :
    rereadAll (xs.map f) = xs.map fun x => reread (f x) := by
  induction xs with
  | nil => rfl
  | cons x rest ih => exact congrArg (reread (f x) :: ·) ih

end Json

/-! ## Records -/

variable {style : Style} {limit level : Nat}

theorem Descriptor.writes_dump (h : level + 1 < limit) (d : Descriptor) :
    Writes limit style level d.dump := by
  have hmarkers : Writes limit style (level + 1) (.list (d.markers.map .text)) := by
    refine writes_list h ?_
    simp only [List.forall_mem_map]
    exact fun t _ => writes_text t
  refine writes_record (by omega) ?_
  simp only [List.forall_mem_cons, List.not_mem_nil, false_implies, implies_true, and_true]
  exact ⟨writes_text _, writes_text _, hmarkers⟩

theorem Descriptor.writes_dumpAll (h : level + 2 < limit) (ds : List Descriptor) :
    Writes limit style level (Descriptor.dumpAll ds) := by
  refine writes_list (by omega) ?_
  simp only [List.forall_mem_map]
  exact fun d _ => d.writes_dump (by omega)

theorem Version.writes_dump (h : level < limit) {v : Version} (hv : v.Writable) :
    Writes limit style level v.dump := by
  refine writes_record h ?_
  simp only [List.forall_mem_cons, List.not_mem_nil, false_implies, implies_true, and_true]
  exact ⟨writes_int hv.1, writes_int hv.2, writes_ofOption _⟩

theorem Result.writes_dump (h : level + 3 < limit) (x : Result) : Writes limit style level x.dump := by
  have hmatched : Writes limit style (level + 1) (Descriptor.dumpOption x.matched) := by
    cases x.matched with
    | none => exact writes_null
    | some d => exact d.writes_dump (by omega)
  refine writes_record (by omega) ?_
  simp only [List.forall_mem_cons, List.not_mem_nil, false_implies, implies_true, and_true]
  exact ⟨writes_text _, writes_text _, hmatched, Descriptor.writes_dumpAll h _, writes_text _,
    writes_ofOption _⟩

theorem Descriptor.within_dump (d : Descriptor) : Within 2 d.dump := by
  have hmarkers : Within 1 (.list (d.markers.map .text)) := by
    refine within_list ?_
    simp only [List.forall_mem_map]
    exact fun t _ => ⟨trivial, Nat.le_refl 0⟩
  refine within_record ?_
  simp only [List.forall_mem_cons, List.not_mem_nil, false_implies, implies_true, and_true]
  exact ⟨⟨trivial, Nat.zero_le 1⟩, ⟨trivial, Nat.zero_le 1⟩, hmarkers⟩

theorem Descriptor.within_dumpAll (ds : List Descriptor) : Within 3 (Descriptor.dumpAll ds) := by
  refine within_list ?_
  simp only [List.forall_mem_map]
  exact fun d _ => d.within_dump

theorem Version.within_dump (v : Version) : Within 1 v.dump := by
  refine within_record ?_
  simp only [List.forall_mem_cons, List.not_mem_nil, false_implies, implies_true, and_true]
  exact ⟨⟨trivial, Nat.le_refl 0⟩, ⟨trivial, Nat.le_refl 0⟩, within_ofOption _⟩

theorem Result.within_dump (x : Result) : Within 4 x.dump := by
  have hmatched : Within 3 (Descriptor.dumpOption x.matched) := by
    cases x.matched with
    | none => exact ⟨trivial, Nat.zero_le 3⟩
    | some d => exact d.within_dump.mono (by decide)
  refine within_record ?_
  simp only [List.forall_mem_cons, List.not_mem_nil, false_implies, implies_true, and_true]
  exact ⟨⟨trivial, Nat.zero_le 3⟩, ⟨trivial, Nat.zero_le 3⟩, hmatched, Descriptor.within_dumpAll _,
    ⟨trivial, Nat.zero_le 3⟩, within_ofOption _⟩

/-- The levels of nesting that a report may have as a document: itself, its results, each of them, the
extensions that it observed, each of these, and its markers. -/
def Report.nesting : Nat := 6

theorem Report.within_dump (r : Report) : Within Report.nesting r.dumpWithSuccess := by
  have hhost : Within 5 ((r.hostVersion.map Version.dump).getD .null) := by
    cases r.hostVersion with
    | none => exact ⟨trivial, Nat.zero_le 5⟩
    | some v => exact v.within_dump.mono (by decide)
  have hobserved : Within 5 (Descriptor.dumpAll r.observed) := (Descriptor.within_dumpAll _).mono (by decide)
  have hresults : Within 5 (.list (r.results.map Result.dump)) := by
    refine within_list ?_
    simp only [List.forall_mem_map]
    exact fun x _ => x.within_dump
  refine within_record ?_
  simp only [Report.fields, List.forall_mem_cons, List.not_mem_nil, false_implies, implies_true, and_true]
  exact ⟨⟨trivial, Nat.zero_le 5⟩, ⟨trivial, Nat.zero_le 5⟩, within_ofOption _, hhost, hobserved, hresults⟩

/-! ## What is read of a report -/

namespace Result

variable (x : Result)

/-- The fields of a result. -/
def fields : List (String × Data) :=
  [("label", .text x.label), ("outcome", .text x.outcome.name),
    ("matched", Descriptor.dumpOption x.matched), ("observed", Descriptor.dumpAll x.observed),
    ("expected", .text x.expected), ("reason", .ofOption x.reason)]

theorem nodup_names : (x.fields.map Prod.fst).Nodup := by
  change ["label", "outcome", "matched", "observed", "expected", "reason"].Nodup
  decide

/-- The entries that a result is read as. -/
def entriesRead : List (Data × Data) := rereadOnto [] (entriesOf x.fields)

theorem reread_dump : reread x.dump = .map x.entriesRead := reread_record

theorem lookup_label : Data.lookup x.entriesRead "label" = some (.text (Text.rejoined x.label)) := by
  have hmem : ("label", Data.text x.label) ∈ x.fields := List.mem_cons_self
  exact lookup_reread_record x.nodup_names hmem

theorem lookup_outcome :
    Data.lookup x.entriesRead "outcome" = some (.text (Text.ofString x.outcome.name)) := by
  have hmem : ("outcome", Data.text (Text.ofString x.outcome.name)) ∈ x.fields :=
    List.mem_cons_of_mem _ List.mem_cons_self
  have hread := lookup_reread_record x.nodup_names hmem
  rw [reread, Text.rejoined_ofString] at hread
  exact hread

end Result

namespace Report

variable (r : Report)

/-- The fields of a report, after whether it succeeded. -/
def fieldsWithSuccess : List (String × Data) := ("success", .bool r.success) :: r.fields

theorem nodup_names : (r.fieldsWithSuccess.map Prod.fst).Nodup := by
  change ["success", "capability", "raw_host_version", "host_version", "observed", "results"].Nodup
  decide

/-- The entries that a report is read as. -/
def entriesRead : List (Data × Data) := rereadOnto [] (entriesOf r.fieldsWithSuccess)

theorem reread_dump : reread r.dumpWithSuccess = .map r.entriesRead := reread_record

theorem lookup_success : Data.lookup r.entriesRead "success" = some (.bool r.success) := by
  have hmem : ("success", Data.bool r.success) ∈ r.fieldsWithSuccess := List.mem_cons_self
  have hread := lookup_reread_record r.nodup_names hmem
  rw [reread] at hread
  exact hread

theorem lookup_results : Data.lookup r.entriesRead "results" =
    some (.list (r.results.map fun x => .map x.entriesRead)) := by
  have hmem : ("results", Data.list (r.results.map Result.dump)) ∈ r.fieldsWithSuccess := by
    simp [fieldsWithSuccess, fields]
  have hread := lookup_reread_record r.nodup_names hmem
  rw [reread, rereadAll_map] at hread
  simp only [Result.reread_dump] at hread
  exact hread

end Report

namespace Command

variable {limit : Nat} {r : Report} {out : Text}

theorem json_eq (limit : Nat) (r : Report) :
    json limit r =
      (fun s => Text.ofString (s ++ "\n")) <$> Json.write limit (.indented 2) r.dumpWithSuccess := rfl

/-- A report is written in JSON if the numbers of its host version can be, and there is room for it. -/
theorem exists_json (hroom : Report.nesting ≤ limit) (h : Probe.HostWritable r.hostVersion) :
    ∃ out, json limit r = .ok out := by
  unfold Report.nesting at hroom
  have hhost : Writes limit (.indented 2) 1 ((r.hostVersion.map Version.dump).getD .null) := by
    cases hv : r.hostVersion with
    | none => exact writes_null
    | some v => exact Version.writes_dump (by omega) (h v hv)
  have hresults : Writes limit (.indented 2) 1 (.list (r.results.map Result.dump)) := by
    refine writes_list (by omega) ?_
    simp only [List.forall_mem_map]
    exact fun x _ => x.writes_dump (by omega)
  have hreport : Writes limit (.indented 2) 0 r.dumpWithSuccess := by
    refine writes_record (by omega) ?_
    simp only [Report.fields, List.forall_mem_cons, List.not_mem_nil, false_implies, implies_true,
      and_true]
    exact ⟨writes_bool _, writes_text _, writes_ofOption _, hhost,
      Descriptor.writes_dumpAll (by omega) _, hresults⟩
  obtain ⟨cs, hcs⟩ := hreport
  refine ⟨Text.ofString (String.ofList cs ++ "\n"), ?_⟩
  rw [json_eq, Json.write, hcs]
  rfl

/-- **What is printed of a report in JSON is one document**, and is read as the entries of the report where
there is room for one. -/
theorem read_json (h : json limit r = .ok out) :
    ∃ doc, out = Text.ofString doc ∧
      ∀ depth, Report.nesting ≤ depth → Json.read depth doc.toList = .ok (.map r.entriesRead) := by
  rw [json_eq] at h
  obtain ⟨s, hs, rfl⟩ := exists_of_map_eq_ok h
  refine ⟨s ++ "\n", rfl, fun depth hroom => ?_⟩
  rw [String.toList_append, ← r.reread_dump]
  exact read_write (r.within_dump.mono hroom) hs rfl

end Command

end ExtensionProbe
