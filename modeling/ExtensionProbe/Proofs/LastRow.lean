import ExtensionProbe.Document
import ExtensionProbe.Proofs.Recording
import Mathlib.Algebra.Ring.Nat

/-!
# What a snapshot loses

The capabilities of a recorded mapping may be no texts: a number, a date or nothing at all is known by its text.
Two of them can have one text, such as the number 1 and the text of that number. Then the row that comes last is
the listing of the text, and the descriptors of the rows before it are in no listing.

* `perm_kept`: the listings of a snapshot are the rows that no later one replaces.
* `listedCount_add_replaced`: what is listed and what is replaced is all that is recorded.
* `last_rows_are_listed`: **what a snapshot lists of its mapping, and when it lists all of it.**
* `equal_texts_lose_entry`: a number and its text in a recorded file.
-/

namespace ExtensionProbe

namespace Snapshot

variable {c : Text} {ds : List Descriptor} {row : Text × List Descriptor}
  {rows : List (Text × List Descriptor)} {es : List (Data × Data)} {s : Snapshot}

/-! ## Rows that are replaced -/

/-- The rows that a later row of the same text replaces. -/
def replaced : List (Text × List Descriptor) → List (Text × List Descriptor)
  | [] => []
  | row :: rest => if row.1 ∈ rest.map Prod.fst then row :: replaced rest else replaced rest

/-- The rows that no later row replaces. -/
def kept : List (Text × List Descriptor) → List (Text × List Descriptor)
  | [] => []
  | row :: rest => if row.1 ∈ rest.map Prod.fst then kept rest else row :: kept rest

theorem perm_kept_append_replaced (rows : List (Text × List Descriptor)) :
    (kept rows ++ replaced rows).Perm rows := by
  induction rows with
  | nil => exact .nil
  | cons row rest ih =>
    by_cases h : row.1 ∈ rest.map Prod.fst
    · simp only [kept, replaced, if_pos h]
      exact List.perm_middle.trans (ih.cons row)
    · simp only [kept, replaced, if_neg h, List.cons_append]
      exact ih.cons row

theorem replaced_of_nodup (h : (rows.map Prod.fst).Nodup) : replaced rows = [] := by
  induction rows with
  | nil => rfl
  | cons row rest ih =>
    rw [List.map_cons, List.nodup_cons] at h
    simp only [replaced, if_neg h.1, ih h.2]

theorem mem_fst_kept : c ∈ (kept rows).map Prod.fst ↔ c ∈ rows.map Prod.fst := by
  induction rows with
  | nil => rfl
  | cons row rest ih =>
    by_cases h : row.1 ∈ rest.map Prod.fst
    · simp only [kept, if_pos h, ih, List.map_cons, List.mem_cons]
      exact ⟨.inr, fun hc => hc.elim (fun hc => hc ▸ h) id⟩
    · simp only [kept, if_neg h, List.map_cons, List.mem_cons, ih]

theorem nodup_kept (rows : List (Text × List Descriptor)) : ((kept rows).map Prod.fst).Nodup := by
  induction rows with
  | nil => exact List.nodup_nil
  | cons row rest ih =>
    by_cases h : row.1 ∈ rest.map Prod.fst
    · simpa only [kept, if_pos h] using ih
    · simp only [kept, if_neg h, List.map_cons, List.nodup_cons, mem_fst_kept]
      exact ⟨h, ih⟩

/-- A row is kept where it is the last one of its text. -/
theorem exists_of_mem_kept (h : row ∈ kept rows) :
    ∃ before after, rows = before ++ row :: after ∧ row.1 ∉ after.map Prod.fst := by
  induction rows with
  | nil => cases h
  | cons first rest ih =>
    by_cases hfirst : first.1 ∈ rest.map Prod.fst
    · simp only [kept, if_pos hfirst] at h
      obtain ⟨before, after, rfl, hlast⟩ := ih h
      exact ⟨first :: before, after, rfl, hlast⟩
    · simp only [kept, if_neg hfirst, List.mem_cons] at h
      rcases h with rfl | h
      · exact ⟨[], rest, rfl, hfirst⟩
      · obtain ⟨before, after, rfl, hlast⟩ := ih h
        exact ⟨first :: before, after, rfl, hlast⟩

theorem list_of_mem_kept (h : row ∈ kept rows) : (ofRows rows).list row.1 = row.2 := by
  obtain ⟨before, after, rfl, hlast⟩ := exists_of_mem_kept h
  exact list_ofRows_last hlast

/-! ## The listings of a snapshot -/

theorem lookup_of_mem {entries : List (Text × List Descriptor)} (h : (entries.map Prod.fst).Nodup)
    (hrow : row ∈ entries) : Registry.lookup row.1 entries = row.2 := by
  induction entries with
  | nil => cases hrow
  | cons first rest ih =>
    rw [List.map_cons, List.nodup_cons] at h
    rcases List.mem_cons.1 hrow with rfl | hrow
    · simp [Registry.lookup]
    · have hne : first.1 ≠ row.1 := fun he => h.1 (he ▸ List.mem_map_of_mem hrow)
      simp [Registry.lookup, hne, ih h.2 hrow]

/-- The listings of a snapshot are the rows that no later one replaces. -/
theorem perm_kept (rows : List (Text × List Descriptor)) : (ofRows rows).entries.Perm (kept rows) := by
  obtain ⟨hnodup, hmem⟩ := keys_ofRows rows
  -- on both sides a text has one listing, and it is the same
  rw [List.perm_ext_iff_of_nodup (.of_map _ hnodup) (.of_map _ (nodup_kept rows))]
  intro row
  constructor
  · intro h
    have hkey : row.1 ∈ (kept rows).map Prod.fst := by
      rw [mem_fst_kept, ← hmem]
      exact List.mem_map_of_mem h
    obtain ⟨last, hlast, hsame⟩ := List.mem_map.1 hkey
    have hds : last.2 = row.2 := by
      rw [← list_of_mem_kept hlast, hsame]
      exact lookup_of_mem hnodup h
    rwa [← Prod.ext hsame hds]
  · intro h
    have hkey : row.1 ∈ (ofRows rows).entries.map Prod.fst := by
      rw [hmem, ← mem_fst_kept]
      exact List.mem_map_of_mem h
    obtain ⟨listed, hlisted, hsame⟩ := List.mem_map.1 hkey
    have hds : listed.2 = row.2 := by
      rw [← list_of_mem_kept h, ← hsame]
      exact (lookup_of_mem hnodup hlisted).symm
    rwa [← Prod.ext hsame hds]

/-- The number of descriptors in rows. -/
def descriptorCount (rows : List (Text × List Descriptor)) : Nat :=
  (rows.map fun row => row.2.length).sum

/-- The number of entries in a row of data. -/
def rowLength : Data → Nat
  | .list items => items.length
  | _ => 0

/-- The number of entries in a mapping. -/
def entryCount (es : List (Data × Data)) : Nat :=
  (es.map fun e => rowLength e.2).sum

/-- The number of descriptors that a snapshot lists, over all its capabilities. -/
def listedCount (s : Snapshot) : Nat :=
  (s.capabilities.map fun c => (s.list c).length).sum

theorem length_of_rowOf {d : Data} (h : RowOf d ds) : ds.length = rowLength d := by
  cases h with
  | nothing => rfl
  | list h => exact h.length_eq.symm

theorem descriptorCount_of_recordOf (h : List.Forall₂ RecordOf es rows) :
    descriptorCount rows = entryCount es := by
  induction h with
  | nil => rfl
  | cons h _ ih =>
    unfold descriptorCount entryCount at ih ⊢
    rw [List.map_cons, List.map_cons, List.sum_cons, List.sum_cons, ih, length_of_rowOf h.2]

theorem listedCount_eq (h : (s.entries.map Prod.fst).Nodup) : s.listedCount = descriptorCount s.entries := by
  unfold listedCount descriptorCount capabilities
  calc (((s.entries.map Prod.fst).mergeSort fun a b => !decide (b < a)).map fun c => (s.list c).length).sum
    _ = ((s.entries.map Prod.fst).map fun c => (s.list c).length).sum :=
        ((List.mergeSort_perm _ _).map _).sum_nat
    _ = (s.entries.map fun row => row.2.length).sum := by
        rw [List.map_map]
        refine congrArg List.sum (List.map_congr_left fun row hrow => ?_)
        exact congrArg List.length (lookup_of_mem h hrow)

/-- What is listed and what is replaced is all that is recorded. -/
theorem listedCount_add_replaced (rows : List (Text × List Descriptor)) :
    (ofRows rows).listedCount + descriptorCount (replaced rows) = descriptorCount rows := by
  rw [listedCount_eq (keys_ofRows rows).1]
  have hkept : descriptorCount (ofRows rows).entries = descriptorCount (kept rows) :=
    ((perm_kept rows).map _).sum_nat
  have hall : descriptorCount (kept rows ++ replaced rows) = descriptorCount rows :=
    ((perm_kept_append_replaced rows).map _).sum_nat
  unfold descriptorCount at hkept hall ⊢
  rw [List.map_append, List.sum_append] at hall
  omega

theorem descriptorCount_eq_zero_iff : descriptorCount rows = 0 ↔ ∀ row ∈ rows, row.2 = [] := by
  induction rows with
  | nil => exact iff_of_true rfl nofun
  | cons row rest ih =>
    unfold descriptorCount at ih ⊢
    rw [List.map_cons, List.sum_cons, Nat.add_eq_zero_iff, ih, List.length_eq_zero_iff, List.forall_mem_cons]

/-! ## All that is recorded -/

/-- A snapshot lists all that is recorded: the descriptors of each row in the listing of its text, in order, and
as many as there are entries. -/
structure ListsAll (s : Snapshot) (es : List (Data × Data)) (rows : List (Text × List Descriptor)) : Prop where
  sublist : ∀ row ∈ rows, row.2.Sublist (s.list row.1)
  count : s.listedCount = entryCount es

theorem listsAll_iff (h : List.Forall₂ RecordOf es rows) :
    (ofRows rows).ListsAll es rows ↔ ∀ row ∈ replaced rows, row.2 = [] := by
  have hcount := listedCount_add_replaced rows
  have hentries := descriptorCount_of_recordOf h
  rw [← descriptorCount_eq_zero_iff]
  constructor
  · intro hall
    have := hall.count
    omega
  · intro hzero
    refine ⟨fun row hrow => ?_, by omega⟩
    rcases List.mem_append.1 ((perm_kept_append_replaced rows).mem_iff.2 hrow) with hkept | hreplaced
    · rw [list_of_mem_kept hkept]
    · rw [descriptorCount_eq_zero_iff.1 hzero row hreplaced]
      exact List.nil_sublist _

/-- **What a snapshot lists of its mapping.** The last row of a text is its listing, and the capabilities are the
texts of the rows. What is listed and what is replaced is as much as there are entries, so that all is listed
exactly if the rows that are replaced are empty. That is so if the capabilities have different texts. -/
theorem last_rows_are_listed (h : ofData es = .ok s) :
    ∃ rows, List.Forall₂ RecordOf es rows ∧
      (∀ before c ds after, rows = before ++ (c, ds) :: after → c ∉ after.map Prod.fst → s.list c = ds) ∧
      (∀ c, c ∈ s.capabilities ↔ c ∈ rows.map Prod.fst) ∧
      s.listedCount + descriptorCount (replaced rows) = entryCount es ∧
      (s.ListsAll es rows ↔ ∀ row ∈ replaced rows, row.2 = []) ∧
      ((rows.map Prod.fst).Nodup → s.ListsAll es rows) := by
  obtain ⟨rows, hrows, rfl⟩ := ofData_eq_ok_iff.1 h
  refine ⟨rows, hrows, ?_, fun c => ?_, ?_, listsAll_iff hrows, fun hnodup => ?_⟩
  · rintro before c ds after rfl hlast
    exact list_ofRows_last hlast
  · exact mem_capabilities_iff.trans ((keys_ofRows rows).2 c)
  · rw [listedCount_add_replaced, descriptorCount_of_recordOf hrows]
  · refine (listsAll_iff hrows).2 fun row hrow => ?_
    rw [replaced_of_nodup hnodup] at hrow
    cases hrow

/-- A mapping from a text and a number: the number is listed by its text, and nothing is lost. -/
theorem last_rows_are_listed_seven :
    ∃ s rows, ofData [(.text "a", .list [.text "X"]), (.int 7, .null)] = .ok s ∧
      Text.ofString "7" ∈ rows.map Prod.fst ∧ s.list "a" = [⟨"X", [], []⟩] ∧
      s.ListsAll [(.text "a", .list [.text "X"]), (.int 7, .null)] rows := by
  have hread : ofData [(.text "a", .list [.text "X"]), (.int 7, .null)] =
      .ok ⟨[("a", [⟨"X", [], []⟩]), ("7", [])]⟩ := by decide +kernel
  obtain ⟨rows, -, -, hcapabilities, hcount, hall, -⟩ := last_rows_are_listed hread
  have hlisted : listedCount ⟨[("a", [⟨"X", [], []⟩]), ("7", [])]⟩ = 1 := (listedCount_eq (by decide)).trans rfl
  have hentries : entryCount [(.text "a", .list [.text "X"]), (.int 7, .null)] = 1 := rfl
  refine ⟨_, rows, hread, (hcapabilities _).1 (mem_capabilities_iff.2 (by decide)), rfl, hall.2 ?_⟩
  -- the one entry that there is is listed, so no row with entries is replaced
  exact descriptorCount_eq_zero_iff.1 (by omega)

/-- A recorded file with a number and its text as capabilities. -/
def twoOnes : Files := Files.empty.put ["r.yaml"] (.file "1: [A]\n'1': [B]\n".toUTF8)

/-- The rows of that file. -/
def twoOnesRows : List (Text × List Descriptor) := [("1", [⟨"A", [], []⟩]), ("1", [⟨"B", [], []⟩])]

/-- **A number and its text.** Of the two entries of that file one is in no listing. -/
theorem equal_texts_lose_entry :
    ∃ es s, Document.load ⟨10, 10⟩ twoOnes (Path.ofText "r.yaml") = .ok es ∧ ofData es = .ok s ∧
      List.Forall₂ RecordOf es twoOnesRows ∧ s.list "1" = [⟨"B", [], []⟩] ∧
      entryCount es = 2 ∧ s.listedCount = 1 ∧ ¬ s.ListsAll es twoOnesRows := by
  have hread : ((Document.load ⟨10, 10⟩ twoOnes (Path.ofText "r.yaml")).toOption.bind fun es =>
      (es.mapM readRow).toOption) = some twoOnesRows := by decide +kernel
  obtain ⟨es, hes, hread⟩ := Option.bind_eq_some_iff.1 hread
  have hrecord : List.Forall₂ RecordOf es twoOnesRows :=
    (mapM_eq_ok_iff.1 (eq_ok_of_toOption hread)).imp fun _ _ => readRow_eq_ok_iff.1
  have hcount : entryCount es = 2 := (descriptorCount_of_recordOf hrecord).symm
  have hlisted : (ofRows twoOnesRows).listedCount = 1 :=
    (listedCount_eq (keys_ofRows twoOnesRows).1).trans rfl
  refine ⟨es, ofRows twoOnesRows, eq_ok_of_toOption hes, ofData_eq_ok_iff.2 ⟨_, hrecord, rfl⟩, hrecord, rfl,
    hcount, hlisted, fun hall => ?_⟩
  have := hall.count
  omega

end Snapshot

end ExtensionProbe
