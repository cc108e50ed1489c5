import ExtensionProbe.Proofs.OneQuery
import ExtensionProbe.Proofs.Recording
import ExtensionProbe.Proofs.Registrations
import Mathlib.Data.List.Sort

/-!
# A recorded registry and one that is filled

What is recorded for texts as capabilities may as well be registered, one descriptor after another. The registry
that is filled so and the snapshot that is read from the record give every client the same listings. They differ
in one thing: a capability without descriptors is known to the snapshot only.

* `Snapshot.Recording.ofData_eq_ok_iff`: the snapshot of a record has the rows of the record.
* `Registry.list_filled`: a registry lists what it was filled with.
* `Snapshot.agree_filled`: both give the same listings, probes and capabilities.
* `Snapshot.ofData_eq_error_iff_first`: a record is refused for the first thing that is at fault.
* `Snapshot.recorded_and_filled_agree`: **a record is read and registered alike, or refused for its first fault.**
-/

namespace ExtensionProbe

/-! ## A registry that is filled -/

namespace Registry

variable {c : Text} {rows : List (Text × List Descriptor)}

/-- The registrations of rows: capability by capability, descriptor by descriptor. -/
def registrations (rows : List (Text × List Descriptor)) : List Call :=
  rows.flatMap fun row => row.2.map fun d => ⟨row.1, .described d⟩

/-- A registry that is filled with rows. -/
def filled (rows : List (Text × List Descriptor)) : Registry :=
  (empty.enrollAll (registrations rows)).2

theorem tidy_filled (rows : List (Text × List Descriptor)) : (filled rows).Tidy :=
  tidy_empty.enrollAll _

/-- Each registration of a row returns its descriptor. -/
theorem filterMap_returned (c : Text) (row : Text × List Descriptor) :
    (row.2.map fun d => (⟨row.1, .described d⟩ : Call)).filterMap
      (fun call => returned c call call.extension.descriptor) = if row.1 = c then row.2 else [] := by
  rw [List.filterMap_map]
  by_cases hc : row.1 = c
  · rw [if_pos hc]
    refine (List.filterMap_congr fun d _ => ?_).trans List.filterMap_some
    exact if_pos hc
  · rw [if_neg hc, List.filterMap_eq_nil_iff]
    exact fun d _ => if_neg hc

/-- A registry lists, for each capability, the descriptors of its rows in order. -/
theorem list_filled_flatMap (rows : List (Text × List Descriptor)) (c : Text) :
    (filled rows).list c = rows.flatMap fun row => if row.1 = c then row.2 else [] := by
  -- what a run of registrations adds to a listing, read row by row
  have hempty : empty.list c = [] := rfl
  unfold filled
  rw [list_enrollAll, answers_enrollAll, hempty, List.nil_append]
  unfold allReturned registrations
  rw [← List.map_prod_left_eq_zip, List.filterMap_map, List.filterMap_flatMap]
  exact congrArg (rows.flatMap ·) (funext (filterMap_returned c))

/-- One row a capability is its listing. -/
theorem flatMap_eq_lookup (h : (rows.map Prod.fst).Nodup) :
    (rows.flatMap fun row => if row.1 = c then row.2 else []) = lookup c rows := by
  induction rows with
  | nil => rfl
  | cons row rest ih =>
    rw [List.map_cons, List.nodup_cons] at h
    rw [List.flatMap_cons]
    by_cases hc : row.1 = c
    · -- no other row is one of this capability
      have hrest : (rest.flatMap fun row => if row.1 = c then row.2 else []) = [] := by
        refine List.flatMap_eq_nil_iff.2 fun other hother => if_neg fun ho => h.1 ?_
        rw [hc, ← ho]
        exact List.mem_map_of_mem hother
      rw [hrest, if_pos hc, List.append_nil]
      simp [lookup, hc]
    · rw [ih h.2, if_neg hc, List.nil_append]
      simp [lookup, hc]

theorem list_filled (h : (rows.map Prod.fst).Nodup) (c : Text) : (filled rows).list c = lookup c rows := by
  rw [list_filled_flatMap, flatMap_eq_lookup h]

end Registry

namespace Snapshot

variable {c : Text} {d : Data} {issues : List Issue} {e : SnapshotError} {s : Snapshot}
  {rows : List (Text × Data)}

/-! ## Records -/

/-- A record: rows of data under different texts. -/
structure Recording where
  rows : List (Text × Data)
  nodup : (rows.map Prod.fst).Nodup

/-- The mapping of a record. -/
def Recording.entries (m : Recording) : List (Data × Data) :=
  m.rows.map fun row => (.text row.1, row.2)

/-- A row of a record and what it is read as. -/
def ReadAs (row : Text × Data) (read : Text × List Descriptor) : Prop :=
  row.1 = read.1 ∧ RowOf row.2 read.2

theorem recordOf_text_iff {row : Text × Data} {read : Text × List Descriptor} :
    RecordOf (.text row.1, row.2) read ↔ ReadAs row read := by
  unfold RecordOf ReadAs
  rw [Data.display_text, Except.ok.injEq]

theorem fst_eq_of_readAs {read : List (Text × List Descriptor)} (h : List.Forall₂ ReadAs rows read) :
    rows.map Prod.fst = read.map Prod.fst := by
  induction h with
  | nil => rfl
  | cons h _ ih => rw [List.map_cons, List.map_cons, h.1, ih]

/-- The snapshot of a record has the rows of the record. -/
theorem Recording.ofData_eq_ok_iff (m : Recording) :
    Snapshot.ofData m.entries = .ok s ↔ List.Forall₂ ReadAs m.rows s.entries := by
  have hread (read : List (Text × List Descriptor)) :
      List.Forall₂ RecordOf m.entries read ↔ List.Forall₂ ReadAs m.rows read := by
    unfold Recording.entries
    rw [List.forall₂_map_left_iff]
    simp only [recordOf_text_iff]
  have hrows {read : List (Text × List Descriptor)} (h : List.Forall₂ ReadAs m.rows read) :
      ofRows read = ⟨read⟩ := by
    refine ofRows_of_nodup ?_
    rw [← fst_eq_of_readAs h]
    exact m.nodup
  rw [Snapshot.ofData_eq_ok_iff]
  constructor
  · rintro ⟨read, h, rfl⟩
    rw [hrows ((hread read).1 h)]
    exact (hread read).1 h
  · intro h
    exact ⟨s.entries, (hread _).2 h, (hrows h).symm⟩

/-! ## Agreement -/

/-- A registry and a snapshot that serve every client alike: the same listings and the same probes, and the same
capabilities but for those without descriptors. -/
structure Agree (s : Snapshot) (r : Registry) : Prop where
  list : ∀ c, r.list c = s.list c
  probe : ∀ least checks c raw,
    (Probe.probe least Registry.client checks c raw r).1 = (Probe.probe least Snapshot.client checks c raw s).1
  capabilities : r.capabilities = s.capabilities.filter fun c => !(s.list c).isEmpty
  registered_increasing : r.capabilities.Pairwise (· < ·)
  recorded_increasing : s.capabilities.Pairwise (· < ·)

theorem capabilities_increasing (h : (s.entries.map Prod.fst).Nodup) : s.capabilities.Pairwise (· < ·) :=
  Text.pairwise_lt_mergeSort h

/-- A registry that is filled with the rows of a snapshot agrees with it. -/
theorem agree_filled (h : (s.entries.map Prod.fst).Nodup) : s.Agree (Registry.filled s.entries) := by
  have hlist (c : Text) : (Registry.filled s.entries).list c = s.list c := Registry.list_filled h c
  have htidy := Registry.tidy_filled s.entries
  refine ⟨hlist, fun least checks c raw => ?_, ?_, htidy.capabilities_increasing, capabilities_increasing h⟩
  · refine Probe.probe_congr ?_
    simp only [Registry.client, Snapshot.client, hlist]
  · -- both sides increase, so they are equal if they have the same members
    refine htidy.capabilities_increasing.eq_of_mem_iff ((capabilities_increasing h).filter _) fun c => ?_
    rw [htidy.mem_capabilities_iff, hlist, List.mem_filter, mem_capabilities_iff]
    simp only [Bool.not_eq_true', List.isEmpty_eq_false_iff]
    refine ⟨fun hne => ⟨?_, hne⟩, And.right⟩
    by_contra habsent
    have hs : ofRows s.entries = s := ofRows_of_nodup h
    exact hne (hs ▸ list_ofRows_absent habsent)

/-! ## Faults -/

/-- Data that is no entry: neither a short name nor a record of a descriptor. -/
def NoEntry (d : Data) (issues : List Issue) : Prop :=
  (∀ s, d ≠ .text s) ∧ Descriptor.decode d = .error issues

/-- Data that is no row. -/
inductive NoRow : Data → Prop
  | notList {d : Data} (hnull : d ≠ .null) (hlist : ∀ items, d ≠ .list items) : NoRow d
  | entry {items : List Data} {d : Data} {issues : List Issue} (hd : d ∈ items) (h : NoEntry d issues) :
    NoRow (.list items)

/-- What is told of a row at fault: its kind, or what is wrong with its first entry at fault. -/
inductive Blamed (c : Text) : Data → SnapshotError → Prop
  | notList {d : Data} (hnull : d ≠ .null) (hlist : ∀ items, d ≠ .list items) :
    Blamed c d (.notList c d.kindName)
  | entry {before after : List Data} {d : Data} {issues : List Issue}
      (hbefore : ∀ b ∈ before, ∃ x, EntryOf b x) (h : NoEntry d issues) :
    Blamed c (.list (before ++ d :: after)) (.entry issues)

/-- What is told of the first row at fault. -/
def FirstFault (rows : List (Text × Data)) (e : SnapshotError) : Prop :=
  ∃ before c d after, rows = before ++ (c, d) :: after ∧ (∀ row ∈ before, ∃ ds, RowOf row.2 ds) ∧ Blamed c d e

theorem decodeEntry_eq_error_iff : decodeEntry d = .error issues ↔ NoEntry d issues := by
  unfold NoEntry
  cases d
  case text s => exact iff_of_false nofun fun h => h.1 s rfl
  all_goals exact ⟨fun h => ⟨nofun, h⟩, And.right⟩

theorem decodeEntries_eq_error_iff {items : List Data} :
    decodeEntries items = .error e ↔ Blamed c (.list items) e := by
  have herror {d : Data} {e : SnapshotError} :
      (decodeEntry d).mapError SnapshotError.entry = .error e ↔ ∃ issues, NoEntry d issues ∧ e = .entry issues := by
    simp only [← decodeEntry_eq_error_iff]
    cases decodeEntry d <;> simp [Except.mapError, eq_comm]
  have hok {d : Data} :
      (∃ x, (decodeEntry d).mapError SnapshotError.entry = .ok x) ↔ ∃ x, EntryOf d x := by
    simp only [← decodeEntry_eq_ok_iff]
    cases decodeEntry d <;> simp [Except.mapError]
  rw [decodeEntries_eq, mapM_eq_error_iff]
  simp only [hok, herror]
  constructor
  · rintro ⟨before, d, after, rfl, hbefore, issues, hd, rfl⟩
    exact .entry hbefore hd
  · intro h
    cases h with
    | notList _ hlist => exact absurd rfl (hlist items)
    | entry hbefore h => exact ⟨_, _, _, rfl, hbefore, _, h, rfl⟩

theorem decodeRow_eq_error_iff : decodeRow (.text c) d = .error e ↔ Blamed c d e := by
  cases d
  case null =>
    refine iff_of_false nofun fun h => ?_
    cases h with
    | notList hnull _ => exact hnull rfl
  case list items => exact decodeEntries_eq_error_iff
  all_goals
    constructor
    · intro h
      cases h
      exact .notList nofun nofun
    · intro h
      cases h
      rfl

theorem readRow_eq_error_iff : readRow (.text c, d) = .error e ↔ Blamed c d e := by
  rw [← decodeRow_eq_error_iff]
  unfold readRow
  cases decodeRow (.text c) d with
  | error e' => exact Iff.of_eq (by simp [bind, Except.bind])
  | ok ds => exact iff_of_false nofun nofun

/-- A record is refused for the first thing that is at fault. -/
theorem ofData_eq_error_iff_first (m : Recording) : ofData m.entries = .error e ↔ FirstFault m.rows e := by
  have hok {row : Text × Data} : (∃ read, readRow (.text row.1, row.2) = .ok read) ↔ ∃ ds, RowOf row.2 ds := by
    simp only [readRow_eq_ok_iff, recordOf_text_iff]
    exact ⟨fun ⟨read, h⟩ => ⟨read.2, h.2⟩, fun ⟨ds, h⟩ => ⟨(row.1, ds), rfl, h⟩⟩
  rw [ofData_eq_error_iff]
  unfold Recording.entries FirstFault
  rw [List.mapM_map, mapM_eq_error_iff]
  constructor
  · rintro ⟨before, ⟨c, d⟩, after, hrows, hbefore, h⟩
    exact ⟨before, c, d, after, hrows, fun row hrow => hok.1 (hbefore row hrow), readRow_eq_error_iff.1 h⟩
  · rintro ⟨before, c, d, after, hrows, hbefore, h⟩
    exact ⟨before, (c, d), after, hrows, fun row hrow => hok.2 (hbefore row hrow), readRow_eq_error_iff.2 h⟩

theorem noRow_of_blamed (h : Blamed c d e) : NoRow d := by
  cases h with
  | notList hnull hlist => exact .notList hnull hlist
  | entry _ h => exact .entry (List.mem_append_right _ List.mem_cons_self) h

theorem not_noRow_of_rowOf {ds : List Descriptor} (h : RowOf d ds) : ¬ NoRow d := by
  intro hno
  cases h with
  | nothing =>
    cases hno with
    | notList hnull _ => exact hnull rfl
  | @list items _ h =>
    cases hno with
    | notList _ hlist => exact hlist items rfl
    | entry hd hentry =>
      obtain ⟨x, -, hx⟩ := exists_of_forall₂ h _ hd
      rw [← decodeEntry_eq_ok_iff] at hx
      cases hx.symm.trans (decodeEntry_eq_error_iff.2 hentry)

theorem refused_iff (m : Recording) : (∃ e, ofData m.entries = .error e) ↔ ∃ row ∈ m.rows, NoRow row.2 := by
  constructor
  · rintro ⟨e, h⟩
    obtain ⟨before, c, d, after, hrows, -, hblamed⟩ := (ofData_eq_error_iff_first m).1 h
    refine ⟨(c, d), ?_, noRow_of_blamed hblamed⟩
    rw [hrows]
    exact List.mem_append_right _ List.mem_cons_self
  · rintro ⟨row, hrow, hno⟩
    cases h : ofData m.entries with
    | error e => exact ⟨e, rfl⟩
    | ok s =>
      obtain ⟨read, -, -, hread⟩ := exists_of_forall₂ (m.ofData_eq_ok_iff.1 h) row hrow
      exact absurd hno (not_noRow_of_rowOf hread)

/-- **A record is read and registered alike, or refused for its first fault.** A snapshot has the rows of the
record, each entry as its descriptor, and a registry that is filled with these rows, one descriptor after
another, agrees with it. A record is refused exactly if one of its rows is none, and then for the first thing
that is at fault in its order. -/
theorem recorded_and_filled_agree (m : Recording) :
    (∀ s, ofData m.entries = .ok s ↔ List.Forall₂ ReadAs m.rows s.entries) ∧
      (∀ s, ofData m.entries = .ok s → s.Agree (Registry.filled s.entries)) ∧
      ((∃ e, ofData m.entries = .error e) ↔ ∃ row ∈ m.rows, NoRow row.2) ∧
      ∀ e, ofData m.entries = .error e ↔ FirstFault m.rows e := by
  refine ⟨fun s => m.ofData_eq_ok_iff, fun s h => agree_filled ?_, refused_iff m,
    fun e => ofData_eq_error_iff_first m⟩
  rw [← fst_eq_of_readAs (m.ofData_eq_ok_iff.1 h)]
  exact m.nodup

/-- A record with a short name, a record of a descriptor and a capability without entries. -/
theorem recorded_and_filled_agree_short_name :
    let m : Recording :=
      ⟨[("c", .list [.text "A", .record [("simple_name", .text "X")]]), ("d", .null)], by decide⟩
    let s : Snapshot := ⟨[("c", [⟨"A", [], []⟩, ⟨"X", [], []⟩]), ("d", [])]⟩
    ofData m.entries = .ok s ∧ s.Agree (Registry.filled s.entries) := by
  intro m s
  have hread : ofData m.entries = .ok s := by decide +kernel
  exact ⟨hread, (recorded_and_filled_agree m).2.1 s hread⟩

end Snapshot

end ExtensionProbe
