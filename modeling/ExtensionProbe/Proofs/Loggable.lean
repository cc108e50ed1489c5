import ExtensionProbe.Proofs.ReportReload

/-!
# Values that a log tells in full

A log may be given any values beside a message. Those that are built from texts, whole numbers, rows and
mappings, with days, times and paths among them, are told in full: they are written, and come back with days,
times and paths as their texts. On one line nothing but printable ASCII is written, whatever the value.

* `Data.spelled`: a value with its days, times and paths as texts.
* `Loggable`: the values that are told in full, by how deep they are nested.
* `writeAt_plain`: **what is written of a value on one line is printable ASCII, by induction on the value.**
* `writes_of_loggable`, `within_of_loggable`: a value that is told in full is written, and read in full.
* `reread_of_loggable`: **one without pairs of halves comes back spelled.**
-/

namespace ExtensionProbe

namespace Data

/-- The text that a day or a time is told as. -/
def words? : Data → Option String
  | date d => some d.text
  | timestamp t => some (t.textWith " ")
  | _ => none

mutual

/-- A value with the texts of the days, times and paths in it. -/
def spelled : Data → Data
  | .date d => .text (Text.ofString d.text)
  | .timestamp t => .text (Text.ofString (t.textWith " "))
  | .path s => .text s
  | .list items => .list (spelledAll items)
  | .map entries => .map (spelledEntries entries)
  | d => d

/-- Values with these texts, one by one. -/
def spelledAll : List Data → List Data
  | [] => []
  | d :: rest => spelled d :: spelledAll rest

/-- Entries with these texts in their values. -/
def spelledEntries : List (Data × Data) → List (Data × Data)
  | [] => []
  | (k, d) :: rest => (k, spelled d) :: spelledEntries rest

end

end Data

namespace Json

open Text

/-- A value that a log tells in full, nested no more than so many levels deep: nothing, a truth value, a whole
number that can be written, a text, a day, a time, a path, or a row or a mapping of such values, the keys of a
mapping being different texts. All texts in it have a property. -/
inductive Loggable (P : Text → Prop) : Nat → Data → Prop
  | null {n : Nat} : Loggable P n .null
  | bool {n : Nat} (b : Bool) : Loggable P n (.bool b)
  | int {n : Nat} {z : Int} (h : Decimal.Writable z.natAbs) : Loggable P n (.int z)
  | text {n : Nat} {t : Text} (h : P t) : Loggable P n (.text t)
  | words {n : Nat} {d : Data} {s : String} (h : d.words? = some s) : Loggable P n d
  | path {n : Nat} {t : Text} (h : P t) : Loggable P n (.path t)
  | list {n : Nat} {items : List Data} (h : ∀ d ∈ items, Loggable P n d) : Loggable P (n + 1) (.list items)
  | map {n : Nat} {entries : List (Data × Data)} (hkeys : ∀ e ∈ entries, ∃ t, e.1 = .text t ∧ P t)
    (hnodup : (entries.map Prod.fst).Nodup) (h : ∀ e ∈ entries, Loggable P n e.2) :
    Loggable P (n + 1) (.map entries)

variable {P : Text → Prop} {style : Style} {n limit level : Nat} {cs : List Char} {d : Data} {items : List Data}
  {entries : List (Data × Data)}

/-- Such values under different texts are one, a level deeper. -/
theorem loggable_mapping {values : List (Text × Data)} (hkeys : (values.map Prod.fst).Nodup)
    (hP : ∀ v ∈ values, P v.1) (h : ∀ v ∈ values, Loggable P n v.2) :
    Loggable P (n + 1) (.mapping values) := by
  refine .map ?_ (nodup_underTexts hkeys) ?_
  all_goals
    intro e he
    obtain ⟨v, hv, rfl⟩ := List.mem_map.1 he
  · exact ⟨v.1, rfl, hP v hv⟩
  · exact h v hv

/-- A record of such values is one, a level deeper. -/
theorem loggable_record {fields : List (String × Data)} (hnames : (fields.map Prod.fst).Nodup)
    (hP : ∀ f ∈ fields, P (Text.ofString f.1)) (h : ∀ f ∈ fields, Loggable P n f.2) :
    Loggable P (n + 1) (.record fields) := by
  rw [Data.record_eq_mapping]
  exact loggable_mapping (nodup_texts hnames) (List.forall_mem_map.2 hP) (List.forall_mem_map.2 h)

/-! ## What is written -/

theorem quoted_plain (t : Text) : (quoted t).all isPlain = true := by
  simp only [quoted, List.cons_append, List.all_cons, List.all_append, List.all_flatMap, escapeCode_ascii]
  simp [isPlain]

theorem toDigits_plain (n : Nat) : (Nat.toDigits 10 n).all isPlain = true := by
  refine List.all_eq_true.2 fun c hc => ?_
  have hdigit : c.isDigit = true := Nat.isDigit_of_mem_toDigits (by decide) (by decide) hc
  have h0 : '0'.val.toNat = 48 := rfl
  have h9 : '9'.val.toNat = 57 := rfl
  simp only [Char.isDigit, Bool.and_eq_true, decide_eq_true_eq, UInt32.le_iff_toNat_le] at hdigit
  simp only [isPlain, Char.toNat, Bool.and_eq_true, decide_eq_true_eq]
  omega

theorem writeInt_plain {z : Int} {s : String} (h : Decimal.writeInt z = .ok s) :
    s.toList.all isPlain = true := by
  cases z with
  | ofNat n =>
    obtain ⟨-, rfl⟩ := Decimal.write_eq_ok_iff.1 h
    rw [String.toList_ofList]
    exact toDigits_plain n
  | negSucc n =>
    obtain ⟨u, hu, rfl⟩ := exists_of_map_eq_ok h
    obtain ⟨-, rfl⟩ := Decimal.write_eq_ok_iff.1 hu
    simp only [String.toList_append, String.toList_ofList, List.all_append, toDigits_plain]
    rfl

theorem shown_plain (h : writeAt.shown d = .ok cs) : cs.all isPlain = true := by
  obtain ⟨t, -, rfl⟩ := exists_of_map_eq_ok (eq_ok_of_mapError h)
  exact quoted_plain t

mutual

/-- What is written of a value on one line is printable ASCII. -/
theorem writeAt_plain : ∀ (d : Data) (level : Nat) (cs : List Char), Doubleless d →
    writeAt limit .line level d = .ok cs → cs.all isPlain = true
  | .null, level, cs, _, h => by
    rw [writeAt] at h
    cases h
    decide
  | .bool true, level, cs, _, h => by
    rw [writeAt] at h
    cases h
    decide
  | .bool false, level, cs, _, h => by
    rw [writeAt] at h
    cases h
    decide
  | .int z, level, cs, _, h => by
    rw [writeAt] at h
    obtain ⟨s, hs, rfl⟩ := exists_of_map_eq_ok (eq_ok_of_mapError h)
    exact writeInt_plain hs
  | .float x, level, cs, hd, _ => hd.elim
  | .text t, level, cs, _, h => by
    rw [writeAt] at h
    cases h
    exact quoted_plain t
  | .list items, level, cs, hd, h => by
    rw [writeAt] at h
    exact writeArray_plain items level cs hd h
  | .tuple items, level, cs, hd, h => by
    rw [writeAt] at h
    exact writeArray_plain items level cs hd h
  | .map [], level, cs, _, h => by
    rw [writeAt] at h
    split at h <;> cases h
    decide
  | .map (e :: es), level, cs, hd, h => by
    obtain ⟨-, inner, hinner, rfl⟩ := writeAt_map_cons_eq_ok h
    have hplain := writeEntries_plain (e :: es) (level + 1) inner hd hinner
    simp [Style.before, hplain, isPlain]
  | .set items, level, cs, _, h => by
    rw [writeAt] at h
    exact shown_plain h
  | .bytes b, level, cs, _, h => by
    rw [writeAt] at h
    exact shown_plain h
  | .date d, level, cs, _, h => by
    rw [writeAt] at h
    exact shown_plain h
  | .timestamp t, level, cs, _, h => by
    rw [writeAt] at h
    exact shown_plain h
  | .path s, level, cs, _, h => by
    rw [writeAt] at h
    exact shown_plain h
  | .failureKind name, level, cs, _, h => by
    rw [writeAt] at h
    exact shown_plain h
  | .failure kind arguments, level, cs, _, h => by
    rw [writeAt] at h
    exact shown_plain h
termination_by d => (sizeOf d, 0)

theorem writeArray_plain : ∀ (ds : List Data) (level : Nat) (cs : List Char), DoublelessAll ds →
    writeArray limit .line level ds = .ok cs → cs.all isPlain = true
  | [], level, cs, _, h => by
    rw [writeArray] at h
    split at h <;> cases h
    decide
  | d :: ds, level, cs, hd, h => by
    obtain ⟨-, inner, hinner, rfl⟩ := writeArray_cons_eq_ok h
    have hplain := writeItems_plain (d :: ds) (level + 1) inner hd hinner
    simp [Style.before, hplain, isPlain]
termination_by ds => (sizeOf ds, 1)

theorem writeItems_plain : ∀ (ds : List Data) (level : Nat) (cs : List Char), DoublelessAll ds →
    writeItems limit .line level ds = .ok cs → cs.all isPlain = true
  | [], level, cs, _, h => by
    rw [writeItems] at h
    cases h
    rfl
  | [d], level, cs, hd, h => by
    rw [writeItems] at h
    exact writeAt_plain d level cs hd.1 h
  | d :: e :: ds, level, cs, hd, h => by
    obtain ⟨first, more, hfirst, hmore, rfl⟩ := writeItems_cons_eq_ok h
    have hfirst := writeAt_plain d level first hd.1 hfirst
    have hmore := writeItems_plain (e :: ds) level more hd.2 hmore
    simp [Style.between, hfirst, hmore, isPlain]
termination_by ds => (sizeOf ds, 0)

theorem writeEntries_plain : ∀ (es : List (Data × Data)) (level : Nat) (cs : List Char),
    DoublelessEntries es → writeEntries limit .line level es = .ok cs → cs.all isPlain = true
  | [], level, cs, _, h => by
    rw [writeEntries] at h
    cases h
    rfl
  | [(k, d)], level, cs, hd, h => by
    obtain ⟨key, inner, -, hinner, rfl⟩ := writeEntries_last_eq_ok h
    have hplain := writeAt_plain d level inner hd.1 hinner
    simp [quoted_plain, hplain, isPlain]
  | (k, d) :: e :: es, level, cs, hd, h => by
    obtain ⟨key, inner, more, -, hinner, hmore, rfl⟩ := writeEntries_cons_eq_ok h
    have hplain := writeAt_plain d level inner hd.1 hinner
    have hmore := writeEntries_plain (e :: es) level more hd.2 hmore
    simp [Style.between, quoted_plain, hplain, hmore, isPlain]
termination_by es => (sizeOf es, 0)

end

/-- A day or a time is written as its text. -/
theorem writes_words {s : String} (h : d.words? = some s) : Writes limit style level d := by
  unfold Writes
  cases d with
  | date d => exact ⟨_, by rw [writeAt]; rfl⟩
  | timestamp t => exact ⟨_, by rw [writeAt]; rfl⟩
  | _ => cases h

theorem writes_path (t : Text) : Writes limit style level (.path t) :=
  ⟨_, by rw [writeAt]; rfl⟩

/-- **A value that a log tells in full is written** at every level that leaves room for it within the limit. -/
theorem writes_of_loggable (h : Loggable P n d) (hroom : level + n ≤ limit) :
    Writes limit style level d := by
  induction h generalizing level with
  | null => exact writes_null
  | bool b => exact writes_bool b
  | int h => exact writes_int h
  | text h => exact writes_text _
  | words h => exact writes_words h
  | path h => exact writes_path _
  | list h ih => exact writes_list (by omega) fun d hd => ih d hd (by omega)
  | map hkeys hnodup h ih =>
    refine writes_map (by omega) (fun e he => ?_) fun e he => ih e he (by omega)
    obtain ⟨t, ht, -⟩ := hkeys e he
    exact ⟨t, ht⟩

/-! ## What comes back -/

theorem within_of_words {s : String} (h : d.words? = some s) : Within n d := by
  cases d with
  | date d => exact ⟨trivial, Nat.zero_le n⟩
  | timestamp t => exact ⟨trivial, Nat.zero_le n⟩
  | _ => cases h

/-- A value that a log tells in full has no doubles, and no more levels than it may have. -/
theorem within_of_loggable (h : Loggable P n d) : Within n d := by
  induction h with
  | words h => exact within_of_words h
  | list h ih => exact within_list ih
  | map hkeys hnodup h ih => exact within_map ih
  | _ => exact ⟨trivial, Nat.zero_le _⟩

theorem rereadAll_of_spelled (h : ∀ d ∈ items, reread d = d.spelled) :
    rereadAll items = Data.spelledAll items := by
  induction items with
  | nil => rfl
  | cons d more ih =>
    rw [rereadAll, Data.spelledAll, h d List.mem_cons_self, ih fun x hx => h x (List.mem_cons_of_mem _ hx)]

theorem map_of_spelled (h : ∀ e ∈ entries, reread e.2 = e.2.spelled) :
    (entries.map fun e => (e.1, reread e.2)) = Data.spelledEntries entries := by
  induction entries with
  | nil => rfl
  | cons e more ih =>
    rw [List.map_cons, Data.spelledEntries, h e List.mem_cons_self,
      ih fun x hx => h x (List.mem_cons_of_mem _ hx)]

theorem reread_of_words {s : String} (h : d.words? = some s) : reread d = d.spelled := by
  cases d with
  | date d => exact congrArg Data.text (rejoined_ofString d.text)
  | timestamp t => exact congrArg Data.text (rejoined_ofString (t.textWith " "))
  | _ => cases h

/-- A value without pairs of halves comes back with its days, times and paths spelled, and as it was
otherwise. -/
theorem reread_of_loggable (h : Loggable (fun t => ¬ t.Paired) n d) : reread d = d.spelled := by
  induction h with
  | null => rfl
  | bool b => rfl
  | int h => rfl
  | text h => exact congrArg Data.text (rejoined_of_unpaired h)
  | words h => exact reread_of_words h
  | path h => exact congrArg Data.text (rejoined_of_unpaired h)
  | list h ih => rw [reread, rereadAll_of_spelled ih, Data.spelled]
  | @map _ entries hkeys hnodup h ih =>
    have hrejoined : ∀ e ∈ entries, ∃ t, e.1 = .text t ∧ rejoined t = t := by
      intro e he
      obtain ⟨t, ht, hunpaired⟩ := hkeys e he
      exact ⟨t, ht, rejoined_of_unpaired hunpaired⟩
    have hread := rereadOnto_of_new hrejoined hnodup (List.forall_mem_nil _)
    rw [reread, hread, List.nil_append, map_of_spelled ih, Data.spelled]

end Json

end ExtensionProbe
