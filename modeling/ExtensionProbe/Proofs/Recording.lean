import ExtensionProbe.Proofs.Fallible
import ExtensionProbe.Snapshot
import Mathlib.Data.List.Nodup

/-!
# Reading a recorded registry

A recorded registry is a mapping from capabilities to rows of entries. Its rows are read one after another, up to
the first that is at fault, and are put under the texts of their capabilities in the same order. A row that is
put under a text takes the place of the one before it.

* `decodeEntry_eq_ok_iff`, `decodeRow_eq_ok_iff`: the descriptors of an entry and of a row.
* `ofData_eq_ok_iff`: a snapshot is the rows of its mapping, put in order.
* `list_ofRows_last`, `list_ofRows_absent`: **the listing of a text is the last row that was put under it.**
* `ofRows_of_nodup`: rows under different texts are kept as they are.
-/

namespace ExtensionProbe

namespace Snapshot

variable {d key : Data} {x : Descriptor} {ds : List Descriptor} {es : List (Data × Data)}
  {row : Text × List Descriptor} {rows read : List (Text × List Descriptor)} {c capability : Text}
  {s : Snapshot}

/-! ## Entries and rows -/

/-- The descriptor of an entry: a short name stands for itself, and a record for what it says. -/
inductive EntryOf : Data → Descriptor → Prop
  | name (s : Text) : EntryOf (.text s) { simpleName := s }
  | record {d : Data} {x : Descriptor} (h : Descriptor.decode d = .ok x) : EntryOf d x

/-- The descriptors of a row: nothing is an empty one. -/
inductive RowOf : Data → List Descriptor → Prop
  | nothing : RowOf .null []
  | list {items : List Data} {ds : List Descriptor} (h : List.Forall₂ EntryOf items ds) : RowOf (.list items) ds

theorem decodeEntry_eq_ok_iff : decodeEntry d = .ok x ↔ EntryOf d x := by
  constructor
  · intro h
    cases d
    case text s =>
      cases h
      exact .name s
    all_goals exact .record h
  · intro h
    cases h with
    | name s => rfl
    | record h =>
      -- a record is not a text
      cases d
      case text s => cases h
      all_goals exact h

theorem decodeEntries_eq (items : List Data) :
    decodeEntries items = items.mapM fun d => (decodeEntry d).mapError .entry := by
  induction items with
  | nil => rfl
  | cons d rest ih =>
    rw [decodeEntries, List.mapM_cons, ih]
    cases decodeEntry d with
    | error issues => rfl
    | ok x => cases rest.mapM fun d => (decodeEntry d).mapError SnapshotError.entry <;> rfl

theorem decodeRow_eq_ok_iff : decodeRow key d = .ok ds ↔ RowOf d ds := by
  have hlist (items : List Data) : decodeEntries items = .ok ds ↔ RowOf (.list items) ds := by
    rw [decodeEntries_eq, mapM_eq_ok_iff]
    have hentry (d : Data) (x : Descriptor) :
        (decodeEntry d).mapError SnapshotError.entry = .ok x ↔ EntryOf d x := by
      rw [← decodeEntry_eq_ok_iff]
      exact ⟨eq_ok_of_mapError, fun h => by rw [h]; rfl⟩
    simp only [hentry]
    exact ⟨.list, fun h => by cases h; assumption⟩
  cases d
  case null => exact ⟨fun h => by cases h; exact .nothing, fun h => by cases h; rfl⟩
  case list items => exact hlist items
  all_goals
    refine iff_of_false (fun h => ?_) nofun
    unfold decodeRow at h
    cases hk : key.display <;> rw [hk] at h <;> cases h

/-- A row under the text of its capability. -/
def readRow (e : Data × Data) : Except SnapshotError (Text × List Descriptor) := do
  let ds ← decodeRow e.1 e.2
  let capability ← e.1.display.mapError .unwritable
  pure (capability, ds)

/-- What an entry of the mapping records: the text of its capability and its descriptors. -/
def RecordOf (e : Data × Data) (row : Text × List Descriptor) : Prop :=
  e.1.display = .ok row.1 ∧ RowOf e.2 row.2

theorem readRow_eq_ok_iff {e : Data × Data} : readRow e = .ok row ↔ RecordOf e row := by
  unfold readRow RecordOf
  constructor
  · intro h
    obtain ⟨ds, hds, h⟩ := exists_of_bind_eq_ok h
    obtain ⟨c, hc, h⟩ := exists_of_bind_eq_ok h
    cases h
    exact ⟨eq_ok_of_mapError hc, decodeRow_eq_ok_iff.1 hds⟩
  · rintro ⟨hc, hds⟩
    rw [decodeRow_eq_ok_iff.2 hds, hc]
    rfl

/-! ## Rows put in order -/

/-- Puts rows under their texts, in order. -/
def putAll (read rows : List (Text × List Descriptor)) : List (Text × List Descriptor) :=
  rows.foldl (fun read row => put row.1 row.2 read) read

/-- The snapshot of rows that are put in order. -/
def ofRows (rows : List (Text × List Descriptor)) : Snapshot := ⟨putAll [] rows⟩

theorem ofEntries_eq (read : List (Text × List Descriptor)) (es : List (Data × Data)) :
    ofEntries read es = putAll read <$> es.mapM readRow := by
  induction es generalizing read with
  | nil => rfl
  | cons e rest ih =>
    obtain ⟨key, value⟩ := e
    rw [List.mapM_cons]
    unfold ofEntries readRow
    cases decodeRow key value with
    | error e => rfl
    | ok ds =>
      cases key.display with
      | error e => rfl
      | ok c =>
        simp only [ih]
        change putAll (put c ds read) <$> rest.mapM readRow =
          putAll read <$> (do let more ← rest.mapM readRow; pure ((c, ds) :: more))
        cases rest.mapM readRow <;> rfl

/-- **A snapshot is the rows of its mapping, put in order.** -/
theorem ofData_eq_ok_iff : ofData es = .ok s ↔ ∃ rows, List.Forall₂ RecordOf es rows ∧ s = ofRows rows := by
  have hrow : RecordOf = fun e row => readRow e = .ok row := by
    funext e row
    exact propext readRow_eq_ok_iff.symm
  unfold ofData
  rw [ofEntries_eq, hrow]
  constructor
  · intro h
    obtain ⟨all, hall, rfl⟩ := exists_of_map_eq_ok h
    obtain ⟨rows, hrows, rfl⟩ := exists_of_map_eq_ok hall
    exact ⟨rows, mapM_eq_ok_iff.1 hrows, rfl⟩
  · rintro ⟨rows, hrows, rfl⟩
    rw [mapM_eq_ok_iff.2 hrows]
    rfl

theorem ofData_eq_error_iff {e : SnapshotError} : ofData es = .error e ↔ es.mapM readRow = .error e := by
  unfold ofData
  rw [ofEntries_eq]
  cases es.mapM readRow with
  | error e' => exact Iff.of_eq (by simp [Functor.map, Except.map])
  | ok rows => exact iff_of_false nofun nofun

/-- A row goes to the end, unless there is one under its text. -/
theorem fst_put (es : List (Text × List Descriptor)) :
    (put c ds es).map Prod.fst = if c ∈ es.map Prod.fst then es.map Prod.fst else es.map Prod.fst ++ [c] := by
  induction es with
  | nil => rfl
  | cons e rest ih =>
    obtain ⟨a, old⟩ := e
    by_cases ha : a = c
    · simp [put, ha]
    · have hne : c ≠ a := fun h => ha h.symm
      simp only [put, if_neg ha, List.map_cons, ih, List.mem_cons, hne, false_or]
      split <;> simp

theorem put_of_not_mem {es : List (Text × List Descriptor)} (h : c ∉ es.map Prod.fst) :
    put c ds es = es ++ [(c, ds)] := by
  induction es with
  | nil => rfl
  | cons e rest ih =>
    simp only [List.map_cons, List.mem_cons, not_or] at h
    have hne : e.1 ≠ c := fun he => h.1 he.symm
    simp [put, hne, ih h.2]

theorem lookup_put_of_ne (h : c ≠ capability) (es : List (Text × List Descriptor)) :
    Registry.lookup c (put capability ds es) = Registry.lookup c es := by
  induction es with
  | nil => simp [put, Registry.lookup, h.symm]
  | cons e rest ih =>
    by_cases hc : e.1 = capability
    · simp [put, Registry.lookup, hc, h.symm]
    · by_cases ho : e.1 = c <;> simp [put, Registry.lookup, hc, ho, h, ih]

theorem lookup_putAll_of_not_mem (h : c ∉ rows.map Prod.fst) :
    Registry.lookup c (putAll read rows) = Registry.lookup c read := by
  induction rows generalizing read with
  | nil => rfl
  | cons row rest ih =>
    simp only [List.map_cons, List.mem_cons, not_or] at h
    exact (ih h.2).trans (lookup_put_of_ne h.1 read)

theorem putAll_append (before after : List (Text × List Descriptor)) :
    putAll read (before ++ after) = putAll (putAll read before) after :=
  List.foldl_append

/-- **The listing of a text is the last row that was put under it.** -/
theorem list_ofRows_last {before after : List (Text × List Descriptor)} (h : c ∉ after.map Prod.fst) :
    (ofRows (before ++ (c, ds) :: after)).list c = ds := by
  unfold list ofRows
  rw [putAll_append]
  exact (lookup_putAll_of_not_mem h).trans (list_put_self c ds _)

theorem list_ofRows_absent (h : c ∉ rows.map Prod.fst) : (ofRows rows).list c = [] :=
  lookup_putAll_of_not_mem h

/-- Putting rows keeps one listing a text, and adds one for each text of the rows. -/
theorem keys_putAll (rows : List (Text × List Descriptor)) (h : (read.map Prod.fst).Nodup) :
    ((putAll read rows).map Prod.fst).Nodup ∧
      ∀ c, c ∈ (putAll read rows).map Prod.fst ↔ c ∈ read.map Prod.fst ∨ c ∈ rows.map Prod.fst := by
  induction rows generalizing read with
  | nil => exact ⟨h, fun c => by simp [putAll]⟩
  | cons row rest ih =>
    have hput : ((put row.1 row.2 read).map Prod.fst).Nodup ∧
        ∀ c, c ∈ (put row.1 row.2 read).map Prod.fst ↔ c ∈ read.map Prod.fst ∨ c = row.1 := by
      rw [fst_put]
      split
      · next hmem => exact ⟨h, fun c => ⟨.inl, fun hc => hc.elim id fun hc => hc ▸ hmem⟩⟩
      · next hmem =>
        rw [← List.concat_eq_append]
        exact ⟨h.concat hmem, fun c => by simp⟩
    obtain ⟨hnodup, hmem⟩ := ih hput.1
    refine ⟨hnodup, fun c => (hmem c).trans ?_⟩
    rw [hput.2 c, List.map_cons, List.mem_cons, or_assoc]

theorem keys_ofRows (rows : List (Text × List Descriptor)) :
    ((ofRows rows).entries.map Prod.fst).Nodup ∧
      ∀ c, c ∈ (ofRows rows).entries.map Prod.fst ↔ c ∈ rows.map Prod.fst := by
  have hnil : (([] : List (Text × List Descriptor)).map Prod.fst).Nodup := List.nodup_nil
  obtain ⟨hnodup, hmem⟩ := keys_putAll rows hnil
  exact ⟨hnodup, fun c => (hmem c).trans (by simp)⟩

theorem mem_capabilities_iff : c ∈ s.capabilities ↔ c ∈ s.entries.map Prod.fst :=
  (List.mergeSort_perm _ _).mem_iff

/-- Rows under different texts are kept as they are. -/
theorem putAll_of_nodup (h : ((read ++ rows).map Prod.fst).Nodup) : putAll read rows = read ++ rows := by
  induction rows generalizing read with
  | nil => simp [putAll]
  | cons row rest ih =>
    have hnew : row.1 ∉ read.map Prod.fst := by
      rw [List.map_append, List.map_cons] at h
      exact fun hmem => List.disjoint_of_nodup_append h hmem List.mem_cons_self
    have hput : put row.1 row.2 read = read ++ [row] := put_of_not_mem hnew
    change putAll (put row.1 row.2 read) rest = read ++ row :: rest
    rw [hput, ih (by simpa using h), List.append_assoc]
    rfl

theorem ofRows_of_nodup (h : (rows.map Prod.fst).Nodup) : ofRows rows = ⟨rows⟩ := by
  have h' : (([] ++ rows).map Prod.fst).Nodup := h
  exact congrArg Snapshot.mk (putAll_of_nodup h')

end Snapshot

end ExtensionProbe
