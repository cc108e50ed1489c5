import ExtensionProbe.Document
import ExtensionProbe.Proofs.JsonReading

/-!
# Documents written and read again

A value is written with blanks between its parts, which the reader skips, and with a text before each of its
members that cannot be taken for a part of a number. So what is written is read up to its end, whatever
follows. Not every value comes back as it was: rows of every kind come back as lists, keys as texts, and what
has no form of its own as the text that it is shown as.

* `reread`: a value as it comes back.
* `levels`, `Within`: how deep a value is nested where it is written, and the values that are read in full if
  there is room for so many levels.
* `reads_writeAt`: what is written of a value is read as what comes back of it, by induction on the value.
* `read_write`: **a document is read as what comes back of the value that it was written of.**
* `lookup_reread_last`: of the values that come back under one key the last one is read.
* `lookup_reread_record`: the fields of a record come back under their names.
* `Document.load_of_written`: a file that holds what is written of a mapping is loaded as what comes back.
-/

namespace ExtensionProbe

namespace Json

open Text

variable {style : Style} {limit depth level : Nat} {cs rest : List Char} {d : Data} {doc : String}
  {es read : List (Data × Data)} {name : String} {fields : List (String × Data)}

/-! ## What comes back -/

/-- The text that a key is written as, as it is read. -/
def keyRead (k : Data) : Text :=
  match keyText k with
  | .ok t => rejoined t
  | .error _ => []

/-- The text that a value without a form of its own is written as, as it is read. -/
def shownRead (d : Data) : Text :=
  match d.display with
  | .ok t => rejoined t
  | .error _ => []

mutual

/-- A value as it is read from what is written of it: rows of every kind are lists, keys are texts, and what
has no form of its own is the text that it is shown as. -/
def reread : Data → Data
  | .null => .null
  | .bool b => .bool b
  | .int n => .int n
  | .float x => .float x
  | .text t => .text (rejoined t)
  | .list items => .list (rereadAll items)
  | .tuple items => .list (rereadAll items)
  | .map entries => .map (rereadOnto [] entries)
  | d => .text (shownRead d)

/-- Values as they are read, one by one. -/
def rereadAll : List Data → List Data
  | [] => []
  | d :: rest => reread d :: rereadAll rest

/-- Entries as they are read, put one by one onto those before. -/
def rereadOnto (read : List (Data × Data)) : List (Data × Data) → List (Data × Data)
  | [] => read
  | (k, d) :: rest => rereadOnto (Data.put read (.text (keyRead k)) (reread d)) rest

end

mutual

/-- No double is written of a value. -/
def Doubleless : Data → Prop
  | .float _ => False
  | .list items => DoublelessAll items
  | .tuple items => DoublelessAll items
  | .map entries => DoublelessEntries entries
  | _ => True

/-- No double is written of values. -/
def DoublelessAll : List Data → Prop
  | [] => True
  | d :: rest => Doubleless d ∧ DoublelessAll rest

/-- No double is written of the values of entries. -/
def DoublelessEntries : List (Data × Data) → Prop
  | [] => True
  | (_, d) :: rest => Doubleless d ∧ DoublelessEntries rest

end

/-! ## Levels of nesting -/

mutual

/-- The levels of rows and mappings, one within the other, that are written of a value. -/
def levels : Data → Nat
  | .list items => levelsAll items + 1
  | .tuple items => levelsAll items + 1
  | .map entries => levelsEntries entries + 1
  | _ => 0

/-- The most levels of values. -/
def levelsAll : List Data → Nat
  | [] => 0
  | d :: rest => max (levels d) (levelsAll rest)

/-- The most levels of the values of entries. -/
def levelsEntries : List (Data × Data) → Nat
  | [] => 0
  | (_, d) :: rest => max (levels d) (levelsEntries rest)

end

theorem levelsAll_le_iff {n : Nat} {ds : List Data} : levelsAll ds ≤ n ↔ ∀ d ∈ ds, levels d ≤ n := by
  induction ds with
  | nil => simp [levelsAll]
  | cons d rest ih => rw [levelsAll, Nat.max_le, ih, List.forall_mem_cons]

theorem levelsEntries_le_iff {n : Nat} : levelsEntries es ≤ n ↔ ∀ e ∈ es, levels e.2 ≤ n := by
  induction es with
  | nil => simp [levelsEntries]
  | cons e rest ih => rw [levelsEntries, Nat.max_le, ih, List.forall_mem_cons]

/-! ## Values that are read in full -/

/-- No double is written of a value, and no more than so many levels. -/
def Within (n : Nat) (d : Data) : Prop := Doubleless d ∧ levels d ≤ n

theorem Within.mono {m n : Nat} (h : Within m d) (hle : m ≤ n) : Within n d :=
  ⟨h.1, Nat.le_trans h.2 hle⟩

theorem within_ofOption {n : Nat} (t : Option Text) : Within n (.ofOption t) := by
  cases t <;> exact ⟨trivial, Nat.zero_le n⟩

theorem within_list {n : Nat} {ds : List Data} (h : ∀ d ∈ ds, Within n d) : Within (n + 1) (.list ds) := by
  have hall : DoublelessAll ds := by
    induction ds with
    | nil => trivial
    | cons d rest ih => exact ⟨(h d List.mem_cons_self).1, ih fun x hx => h x (List.mem_cons_of_mem _ hx)⟩
  exact ⟨hall, Nat.succ_le_succ (levelsAll_le_iff.2 fun d hd => (h d hd).2)⟩

theorem within_map {n : Nat} (h : ∀ e ∈ es, Within n e.2) : Within (n + 1) (.map es) := by
  have hall : DoublelessEntries es := by
    induction es with
    | nil => trivial
    | cons e rest ih => exact ⟨(h e List.mem_cons_self).1, ih fun x hx => h x (List.mem_cons_of_mem _ hx)⟩
  exact ⟨hall, Nat.succ_le_succ (levelsEntries_le_iff.2 fun e he => (h e he).2)⟩

theorem within_record {n : Nat} (h : ∀ f ∈ fields, Within n f.2) : Within (n + 1) (.record fields) := by
  refine within_map fun e he => ?_
  obtain ⟨f, hf, rfl⟩ := List.mem_map.1 he
  exact h f hf

/-! ## Between the parts -/

theorem skip_newline (step level : Nat) (s : List Char) : skip (Style.newline step level ++ s) = skip s := by
  unfold Style.newline skip
  rw [List.dropWhile_append_of_pos]
  intro c hc
  rcases List.mem_cons.1 hc with rfl | hc
  · rfl
  · rw [List.eq_of_mem_replicate hc]; rfl

theorem skip_before (s : List Char) : skip (style.before level ++ s) = skip s := by
  cases style with
  | line => rfl
  | indented step => exact skip_newline step level s

/-- What stands between two members is a comma and blanks. -/
theorem exists_between (style : Style) (level : Nat) :
    ∃ blanks, style.between level = ',' :: blanks ∧ ∀ s, skip (blanks ++ s) = skip s := by
  cases style with
  | line => exact ⟨[' '], rfl, fun s => rfl⟩
  | indented step => exact ⟨Style.newline step level, rfl, skip_newline step level⟩

theorem endsNumber_before {c : Char} (h : c.isDigit = false ∧ c ≠ '.' ∧ c ≠ 'e' ∧ c ≠ 'E') :
    EndsNumber (style.before level ++ c :: rest) := by
  cases style with
  | line => exact endsNumber_cons h
  | indented step => exact endsNumber_cons (by decide)

theorem endsNumber_between : EndsNumber (style.between level ++ rest) := by
  obtain ⟨blanks, hbetween, -⟩ := exists_between style level
  rw [hbetween]
  exact endsNumber_cons (by decide)

/-! ## What is written -/

theorem quoted_append (t : Text) (rest : List Char) :
    quoted t ++ rest = '"' :: (t.flatMap (fun c => escapeCode c.value) ++ '"' :: rest) := by
  simp [quoted]

theorem reads_quoted (t : Text) (rest : List Char) :
    Reads depth (quoted t ++ rest) (.text (rejoined t)) rest := by
  rw [quoted_append]
  exact Reads.text (textUnits_quoted t [] rest)

theorem reads_shown (h : writeAt.shown d = .ok cs) : Reads depth (cs ++ rest) (.text (shownRead d)) rest := by
  unfold writeAt.shown at h
  obtain ⟨t, ht, rfl⟩ := exists_of_map_eq_ok (eq_ok_of_mapError h)
  unfold shownRead
  rw [ht]
  exact reads_quoted t rest

theorem writeArray_cons_eq_ok {ds : List Data} (h : writeArray limit style level (d :: ds) = .ok cs) :
    level < limit ∧ ∃ inner, writeItems limit style (level + 1) (d :: ds) = .ok inner ∧
      cs = '[' :: style.before (level + 1) ++ inner ++ style.before level ++ [']'] := by
  unfold writeArray at h
  by_cases hlevel : limit ≤ level
  · rw [if_pos hlevel] at h; cases h
  · rw [if_neg hlevel] at h
    obtain ⟨inner, hinner, h⟩ := exists_of_bind_eq_ok h
    exact ⟨Nat.lt_of_not_le hlevel, inner, hinner, (Except.ok.inj h).symm⟩

theorem writeAt_map_cons_eq_ok {e : Data × Data} {es : List (Data × Data)}
    (h : writeAt limit style level (.map (e :: es)) = .ok cs) :
    level < limit ∧ ∃ inner, writeEntries limit style (level + 1) (e :: es) = .ok inner ∧
      cs = '{' :: style.before (level + 1) ++ inner ++ style.before level ++ ['}'] := by
  rw [writeAt] at h
  by_cases hlevel : limit ≤ level
  · rw [if_pos hlevel] at h; cases h
  · rw [if_neg hlevel] at h
    obtain ⟨inner, hinner, h⟩ := exists_of_bind_eq_ok h
    exact ⟨Nat.lt_of_not_le hlevel, inner, hinner, (Except.ok.inj h).symm⟩

theorem writeItems_cons_eq_ok {e : Data} {ds : List Data}
    (h : writeItems limit style level (d :: e :: ds) = .ok cs) :
    ∃ first more, writeAt limit style level d = .ok first ∧ writeItems limit style level (e :: ds) = .ok more ∧
      cs = first ++ style.between level ++ more := by
  rw [writeItems] at h
  · obtain ⟨first, hfirst, h⟩ := exists_of_bind_eq_ok h
    obtain ⟨more, hmore, h⟩ := exists_of_bind_eq_ok h
    exact ⟨first, more, hfirst, hmore, (Except.ok.inj h).symm⟩
  · exact List.cons_ne_nil _ _

theorem writeEntries_last_eq_ok {k : Data} (h : writeEntries limit style level [(k, d)] = .ok cs) :
    ∃ key inner, keyText k = .ok key ∧ writeAt limit style level d = .ok inner ∧
      cs = quoted key ++ [':', ' '] ++ inner := by
  rw [writeEntries] at h
  obtain ⟨key, hkey, h⟩ := exists_of_bind_eq_ok h
  obtain ⟨inner, hinner, h⟩ := exists_of_bind_eq_ok h
  exact ⟨key, inner, hkey, hinner, (Except.ok.inj h).symm⟩

theorem writeEntries_cons_eq_ok {k : Data} {e : Data × Data} {es : List (Data × Data)}
    (h : writeEntries limit style level ((k, d) :: e :: es) = .ok cs) :
    ∃ key inner more, keyText k = .ok key ∧ writeAt limit style level d = .ok inner ∧
      writeEntries limit style level (e :: es) = .ok more ∧
      cs = quoted key ++ [':', ' '] ++ inner ++ style.between level ++ more := by
  rw [writeEntries] at h
  · obtain ⟨key, hkey, h⟩ := exists_of_bind_eq_ok h
    obtain ⟨inner, hinner, h⟩ := exists_of_bind_eq_ok h
    obtain ⟨more, hmore, h⟩ := exists_of_bind_eq_ok h
    exact ⟨key, inner, more, hkey, hinner, hmore, (Except.ok.inj h).symm⟩
  · exact List.cons_ne_nil _ _

/-! ## One part after another -/

variable {inner first more tail : List Char} {ds : List Data} {key : Text}

theorem reads_int {z : Int} (h : writeAt limit style level (.int z) = .ok cs) (hrest : EndsNumber rest) :
    Reads depth (cs ++ rest) (.int z) rest := by
  rw [writeAt] at h
  obtain ⟨t, ht, rfl⟩ := exists_of_map_eq_ok (eq_ok_of_mapError h)
  obtain ⟨hatom, hhead⟩ := atom_int ht hrest
  refine Reads.plain (fun c hc => ?_) hatom
  -- A number starts with a digit or a minus, and with nothing that a text, a row or a mapping starts with.
  rcases hhead c hc with hd | rfl
  · refine ⟨?_, ?_, ?_⟩ <;> rintro rfl <;> cases hd
  · decide

/-- Elements in brackets are a row. -/
theorem reads_list
    (h : ReadsElements depth (inner ++ (style.before level ++ ']' :: rest)) ds rest)
    (hstarts : Starts (inner ++ (style.before level ++ ']' :: rest))) :
    Reads (depth + 1)
      ('[' :: style.before (level + 1) ++ inner ++ style.before level ++ [']'] ++ rest) (.list ds) rest := by
  have hskip : skip (style.before (level + 1) ++ (inner ++ (style.before level ++ ']' :: rest))) =
      inner ++ (style.before level ++ ']' :: rest) := by
    rw [skip_before, skip_of_starts hstarts]
  simp only [List.cons_append, List.append_assoc, List.nil_append]
  refine Reads.list (fun after hafter => ?_) ?_
  · rw [hskip] at hafter
    obtain ⟨c, more, hc, -, hne, -⟩ := hstarts
    exact hne (List.cons.inj (hc.symm.trans hafter)).1
  · rw [hskip]
    exact h

/-- Members in braces are a mapping. -/
theorem reads_map
    (h : ReadsMembers depth [] (inner ++ (style.before level ++ '}' :: rest)) es rest) :
    Reads (depth + 1)
      ('{' :: style.before (level + 1) ++ inner ++ style.before level ++ ['}'] ++ rest) (.map es) rest := by
  obtain ⟨more, hmore⟩ := h.quote
  have hskip : skip (style.before (level + 1) ++ (inner ++ (style.before level ++ '}' :: rest))) =
      inner ++ (style.before level ++ '}' :: rest) := by
    rw [skip_before, hmore]
    rfl
  simp only [List.cons_append, List.append_assoc, List.nil_append]
  refine Reads.map (fun after => ?_) ?_
  · rw [hskip, hmore]
    nofun
  · rw [hskip]
    exact h

/-- An element before others. -/
theorem readsElements_more
    (hread : Reads depth (first ++ (style.between level ++ more)) d (style.between level ++ more))
    (hmore : ReadsElements depth more ds rest) (hstarts : Starts more) :
    ReadsElements depth (first ++ (style.between level ++ more)) (d :: ds) rest := by
  obtain ⟨blanks, hbetween, hblanks⟩ := exists_between style level
  have hskip : skip (blanks ++ more) = more := by rw [hblanks, skip_of_starts hstarts]
  rw [hbetween, List.cons_append] at hread ⊢
  refine .more hread rfl ?_
  rw [hskip]
  exact hmore

/-- The last member. -/
theorem readsMembers_last (hread : Reads depth (inner ++ tail) d tail) (htail : skip tail = '}' :: rest) :
    ReadsMembers depth read (quoted key ++ [':', ' '] ++ inner ++ tail)
      (Data.put read (.text (rejoined key)) d) rest := by
  have hskip : skip (' ' :: (inner ++ tail)) = inner ++ tail := skip_of_starts hread.starts
  rw [← hskip] at hread
  simp only [List.append_assoc, quoted_append, List.cons_append, List.nil_append]
  exact .last (textUnits_quoted key [] _) rfl hread htail

/-- A member before others. -/
theorem readsMembers_more
    (hread : Reads depth (inner ++ (style.between level ++ more)) d (style.between level ++ more))
    (hmore : ReadsMembers depth (Data.put read (.text (rejoined key)) d) more es rest) :
    ReadsMembers depth read (quoted key ++ [':', ' '] ++ inner ++ (style.between level ++ more)) es rest := by
  obtain ⟨blanks, hbetween, hblanks⟩ := exists_between style level
  obtain ⟨start, hstart⟩ := hmore.quote
  have hskip : skip (' ' :: (inner ++ (style.between level ++ more))) =
      inner ++ (style.between level ++ more) := skip_of_starts hread.starts
  have hskipMore : skip (blanks ++ more) = more := by
    rw [hblanks, hstart]
    rfl
  rw [← hskip] at hread
  rw [← hskipMore] at hmore
  simp only [List.append_assoc, quoted_append, List.cons_append, List.nil_append]
  rw [hbetween] at hread ⊢
  exact .more (textUnits_quoted key [] _) rfl hread rfl hmore

theorem keyRead_of_keyText {k : Data} (h : keyText k = .ok key) : keyRead k = rejoined key := by
  unfold keyRead
  rw [h]

/-! ## Values -/

mutual

/-- What is written of a value is read as what comes back of it, up to its end. -/
theorem reads_writeAt : ∀ (d : Data) (depth level : Nat) (cs rest : List Char), levels d ≤ depth →
    Doubleless d → writeAt limit style level d = .ok cs → EndsNumber rest →
    Reads depth (cs ++ rest) (reread d) rest
  | .null, _, level, cs, rest, _, _, h, _ => by
    rw [writeAt] at h
    cases h
    exact Reads.plain (by rintro c ⟨⟩; decide) rfl
  | .bool true, _, level, cs, rest, _, _, h, _ => by
    rw [writeAt] at h
    cases h
    exact Reads.plain (by rintro c ⟨⟩; decide) rfl
  | .bool false, _, level, cs, rest, _, _, h, _ => by
    rw [writeAt] at h
    cases h
    exact Reads.plain (by rintro c ⟨⟩; decide) rfl
  | .int z, _, level, cs, rest, _, _, h, hrest => reads_int h hrest
  | .float x, _, level, cs, rest, _, hd, h, _ => hd.elim
  | .text t, _, level, cs, rest, _, _, h, _ => by
    rw [writeAt] at h
    cases h
    exact reads_quoted t rest
  | .list items, depth + 1, level, cs, rest, hroom, hd, h, _ => by
    rw [writeAt] at h
    exact reads_writeArray items depth level cs rest (Nat.le_of_succ_le_succ hroom) hd h
  | .tuple items, depth + 1, level, cs, rest, hroom, hd, h, _ => by
    rw [writeAt] at h
    exact reads_writeArray items depth level cs rest (Nat.le_of_succ_le_succ hroom) hd h
  | .map [], depth + 1, level, cs, rest, _, _, h, _ => by
    rw [writeAt] at h
    split at h
    · cases h
      exact Reads.emptyMap rfl
    · cases h
  | .map (e :: es), depth + 1, level, cs, rest, hroom, hd, h, _ => by
    obtain ⟨-, inner, hinner, rfl⟩ := writeAt_map_cons_eq_ok h
    have hmembers := readsMembers_writeEntries (e :: es) [] depth (level + 1) inner
      (style.before level ++ '}' :: rest) rest (Nat.le_of_succ_le_succ hroom) (List.cons_ne_nil e es) hd hinner
      (skip_before _) (endsNumber_before (by decide))
    exact reads_map hmembers
  | .set items, _, level, cs, rest, _, _, h, _ => by
    rw [writeAt] at h
    exact reads_shown h
  | .bytes b, _, level, cs, rest, _, _, h, _ => by
    rw [writeAt] at h
    exact reads_shown h
  | .date d, _, level, cs, rest, _, _, h, _ => by
    rw [writeAt] at h
    exact reads_shown h
  | .timestamp t, _, level, cs, rest, _, _, h, _ => by
    rw [writeAt] at h
    exact reads_shown h
  | .path s, _, level, cs, rest, _, _, h, _ => by
    rw [writeAt] at h
    exact reads_shown h
  | .failureKind name, _, level, cs, rest, _, _, h, _ => by
    rw [writeAt] at h
    exact reads_shown h
  | .failure kind arguments, _, level, cs, rest, _, _, h, _ => by
    rw [writeAt] at h
    exact reads_shown h
termination_by d => (sizeOf d, 0)

theorem reads_writeArray : ∀ (ds : List Data) (depth level : Nat) (cs rest : List Char),
    levelsAll ds ≤ depth → DoublelessAll ds → writeArray limit style level ds = .ok cs →
    Reads (depth + 1) (cs ++ rest) (.list (rereadAll ds)) rest
  | [], depth, level, cs, rest, _, _, h => by
    rw [writeArray] at h
    split at h
    · cases h
      exact Reads.emptyList rfl
    · cases h
  | d :: ds, depth, level, cs, rest, hroom, hd, h => by
    obtain ⟨-, inner, hinner, rfl⟩ := writeArray_cons_eq_ok h
    obtain ⟨helements, hstarts⟩ := readsElements_writeItems (d :: ds) depth (level + 1) inner
      (style.before level ++ ']' :: rest) rest hroom (List.cons_ne_nil d ds) hd hinner (skip_before _)
      (endsNumber_before (by decide))
    exact reads_list helements hstarts
termination_by ds => (sizeOf ds, 1)

theorem readsElements_writeItems : ∀ (ds : List Data) (depth level : Nat) (cs tail rest : List Char),
    levelsAll ds ≤ depth → ds ≠ [] → DoublelessAll ds → writeItems limit style level ds = .ok cs →
    skip tail = ']' :: rest → EndsNumber tail →
    ReadsElements depth (cs ++ tail) (rereadAll ds) rest ∧ Starts (cs ++ tail)
  | [], depth, level, cs, tail, rest, _, hne, _, _, _, _ => absurd rfl hne
  | [d], depth, level, cs, tail, rest, hroom, _, hd, h, htail, hends => by
    rw [writeItems] at h
    have hfirst := (Nat.max_le.1 hroom).1
    have hread := reads_writeAt d depth level cs tail hfirst hd.1 h hends
    exact ⟨.last hread htail, hread.starts⟩
  | d :: e :: ds, depth, level, cs, tail, rest, hroom, _, hd, h, htail, hends => by
    obtain ⟨first, more, hfirst, hmore, rfl⟩ := writeItems_cons_eq_ok h
    obtain ⟨hone, hothers⟩ := Nat.max_le.1 hroom
    obtain ⟨helements, hstarts⟩ := readsElements_writeItems (e :: ds) depth level more tail rest
      hothers (List.cons_ne_nil e ds) hd.2 hmore htail hends
    have hread := reads_writeAt d depth level first (style.between level ++ (more ++ tail)) hone hd.1 hfirst
      endsNumber_between
    rw [List.append_assoc, List.append_assoc]
    exact ⟨readsElements_more hread helements hstarts, hread.starts⟩
termination_by ds => (sizeOf ds, 0)

theorem readsMembers_writeEntries : ∀ (es read : List (Data × Data)) (depth level : Nat)
    (cs tail rest : List Char), levelsEntries es ≤ depth → es ≠ [] → DoublelessEntries es →
    writeEntries limit style level es = .ok cs → skip tail = '}' :: rest → EndsNumber tail →
    ReadsMembers depth read (cs ++ tail) (rereadOnto read es) rest
  | [], read, depth, level, cs, tail, rest, _, hne, _, _, _, _ => absurd rfl hne
  | [(k, d)], read, depth, level, cs, tail, rest, hroom, _, hd, h, htail, hends => by
    obtain ⟨key, inner, hkey, hinner, rfl⟩ := writeEntries_last_eq_ok h
    have hread := reads_writeAt d depth level inner tail (Nat.max_le.1 hroom).1 hd.1 hinner hends
    rw [rereadOnto, rereadOnto, keyRead_of_keyText hkey]
    exact readsMembers_last hread htail
  | (k, d) :: e :: es, read, depth, level, cs, tail, rest, hroom, _, hd, h, htail, hends => by
    obtain ⟨key, inner, more, hkey, hinner, hmore, rfl⟩ := writeEntries_cons_eq_ok h
    obtain ⟨hone, hothers⟩ := Nat.max_le.1 hroom
    have hread := reads_writeAt d depth level inner (style.between level ++ (more ++ tail)) hone hd.1 hinner
      endsNumber_between
    have hmembers := readsMembers_writeEntries (e :: es) (Data.put read (.text (rejoined key)) (reread d))
      depth level more tail rest hothers (List.cons_ne_nil e es) hd.2 hmore htail hends
    rw [rereadOnto, keyRead_of_keyText hkey, List.append_assoc, List.append_assoc]
    exact readsMembers_more hread hmembers
termination_by es => (sizeOf es, 0)

end

/-- **A document is read as what comes back of the value that it was written of**, whatever blanks follow. -/
theorem read_write (hd : Within depth d) (h : write limit style d = .ok doc) (hrest : skip rest = []) :
    Json.read depth (doc.toList ++ rest) = .ok (reread d) := by
  obtain ⟨cs, hcs, rfl⟩ := exists_of_map_eq_ok h
  rw [String.toList_ofList]
  have hends : EndsNumber rest := by
    cases rest with
    | nil => nofun
    | cons c more =>
      have hblank : isBlank c = true := by
        by_contra hc
        simp [skip, hc] at hrest
      refine endsNumber_cons ?_
      simp only [isBlank, Bool.or_eq_true, beq_iff_eq] at hblank
      rcases hblank with ((rfl | rfl) | rfl) | rfl <;> decide
  have hreads := reads_writeAt d depth 0 cs rest hd.2 hd.1 hcs hends
  refine read_of_reads ?_ hrest
  rw [skip_of_starts hreads.starts]
  exact hreads

/-! ## Fields -/

/-- Values under texts as entries. -/
def underTexts (values : List (Text × Data)) : List (Data × Data) :=
  values.map fun v => (.text v.1, v.2)

theorem nodup_underTexts {values : List (Text × Data)} (hkeys : (values.map Prod.fst).Nodup) :
    ((underTexts values).map Prod.fst).Nodup := by
  have hmap : (underTexts values).map Prod.fst = (values.map Prod.fst).map .text := by
    rw [underTexts, List.map_map, List.map_map]
    rfl
  rw [hmap]
  exact List.Pairwise.map _ (fun a b hne h => hne (Data.text.inj h)) hkeys

theorem reread_mapping (values : List (Text × Data)) :
    reread (.mapping values) = .map (rereadOnto [] (underTexts values)) := by
  rw [Data.mapping, reread, underTexts]

theorem rereadOnto_append (earlier later : List (Data × Data)) :
    rereadOnto read (earlier ++ later) = rereadOnto (rereadOnto read earlier) later := by
  induction earlier generalizing read with
  | nil => rfl
  | cons e more ih => exact ih

/-- Entries that come back under other keys leave what is read under one. -/
theorem lookup_rereadOnto_of_ne {t : Text} (h : ∀ e ∈ es, keyRead e.1 ≠ t) :
    Data.lookup (rereadOnto read es) t = Data.lookup read t := by
  induction es generalizing read with
  | nil => rfl
  | cons e more ih =>
    refine Eq.trans (ih fun x hx => h x (List.mem_cons_of_mem _ hx)) ?_
    exact Data.lookup_put_of_ne (h e List.mem_cons_self)

/-- Of the values that come back under one key the last one is read. -/
theorem lookup_reread_last {earlier later : List (Text × Data)} {v : Text × Data}
    (h : ∀ w ∈ later, rejoined w.1 ≠ rejoined v.1) :
    Data.lookup (rereadOnto [] (underTexts (earlier ++ v :: later))) (rejoined v.1) = some (reread v.2) := by
  have hlater : ∀ e ∈ underTexts later, keyRead e.1 ≠ rejoined v.1 := by
    intro e he
    obtain ⟨w, hw, rfl⟩ := List.mem_map.1 he
    exact h w hw
  rw [underTexts, List.map_append, List.map_cons, rereadOnto_append, rereadOnto]
  exact (lookup_rereadOnto_of_ne hlater).trans (Data.lookup_put _ _ _)

/-- A value is read if no other key than its own comes back as its own does. -/
theorem lookup_reread_of_only {values : List (Text × Data)} {v : Text × Data}
    (hkeys : (values.map Prod.fst).Nodup) (hv : v ∈ values)
    (honly : ∀ w ∈ values, rejoined w.1 = rejoined v.1 → w.1 = v.1) :
    Data.lookup (rereadOnto [] (underTexts values)) (rejoined v.1) = some (reread v.2) := by
  obtain ⟨earlier, later, rfl⟩ := List.append_of_mem hv
  rw [List.map_append, List.map_cons, List.nodup_append] at hkeys
  have hother : v.1 ∉ later.map Prod.fst := (List.nodup_cons.1 hkeys.2.1).1
  refine lookup_reread_last fun w hw hsame => hother ?_
  rw [← honly w (List.mem_append_right _ (List.mem_cons_of_mem _ hw)) hsame]
  exact List.mem_map_of_mem hw

/-- Nothing is read under other keys. -/
theorem of_mem_rereadOnto {e : Data × Data} (h : e ∈ rereadOnto read es) :
    (∃ f ∈ read, e.1 = f.1) ∨ ∃ f ∈ es, e.1 = .text (keyRead f.1) := by
  induction es generalizing read with
  | nil => exact .inl ⟨e, h, rfl⟩
  | cons f more ih =>
    rcases ih h with ⟨g, hg, heq⟩ | ⟨g, hg, heq⟩
    · rcases Data.of_mem_put hg with ⟨x, hx, hkey⟩ | hkey
      · exact .inl ⟨x, hx, heq.trans hkey⟩
      · exact .inr ⟨f, List.mem_cons_self, heq.trans hkey⟩
    · exact .inr ⟨g, List.mem_cons_of_mem _ hg, heq⟩

/-- The fields of a record as entries. -/
def entriesOf (fields : List (String × Data)) : List (Data × Data) :=
  fields.map fun f => (.text f.1, f.2)

theorem entriesOf_eq (fields : List (String × Data)) :
    entriesOf fields = underTexts (fields.map fun f => (ofString f.1, f.2)) := by
  rw [entriesOf, underTexts, List.map_map]
  rfl

/-- The names of fields are as different as texts. -/
theorem nodup_texts (hnames : (fields.map Prod.fst).Nodup) :
    ((fields.map fun f => (ofString f.1, f.2)).map Prod.fst).Nodup := by
  have hmap : (fields.map fun f => (ofString f.1, f.2)).map Prod.fst = (fields.map Prod.fst).map ofString := by
    rw [List.map_map, List.map_map]
    rfl
  rw [hmap]
  exact nodup_map_ofString hnames

/-- The fields of a record come back under their names. -/
theorem lookup_reread_record (hnames : (fields.map Prod.fst).Nodup) (h : (name, d) ∈ fields) :
    Data.lookup (rereadOnto [] (entriesOf fields)) name = some (reread d) := by
  have hmem : (ofString name, d) ∈ fields.map fun f => (ofString f.1, f.2) :=
    List.mem_map.2 ⟨(name, d), h, rfl⟩
  have honly : ∀ w ∈ fields.map fun f => (ofString f.1, f.2),
      rejoined w.1 = rejoined (ofString name) → w.1 = ofString name := by
    intro w hw hsame
    obtain ⟨f, -, rfl⟩ := List.mem_map.1 hw
    rwa [rejoined_ofString, rejoined_ofString] at hsame
  have hread := lookup_reread_of_only (nodup_texts hnames) hmem honly
  rwa [← entriesOf_eq, rejoined_ofString] at hread

theorem reread_record : reread (.record fields) = .map (rereadOnto [] (entriesOf fields)) := by
  rw [Data.record, reread, entriesOf]

end Json

open Json in
/-- A JSON file that holds what is written of a mapping is loaded as what comes back of it. -/
theorem Document.load_of_written {room : Levels} {fs : Files} {p : Path} {limit : Nat} {style : Style}
    {d : Data} {doc : String} {es : List (Data × Data)} {access : Access}
    (hlook : fs.look p = .ok (some (.file doc.toUTF8 access))) (haccess : access.read = true)
    (hsuffix : Format.ofSuffix? p.suffix = some .json) (hd : Within room.json d)
    (hdoc : write limit style d = .ok doc) (hreturn : '\r' ∉ doc.toList) (hes : reread d = .map es) :
    load room fs p = .ok es := by
  have hexist : fs.exist p = .ok true := by
    unfold Files.exist
    rw [hlook]
    rfl
  have hbytes : fs.read p = .ok doc.toUTF8 := by
    unfold Files.read
    rw [hlook]
    exact if_pos haccess
  have hutf : String.fromUTF8? doc.toUTF8 = some doc := dif_pos doc.isValidUTF8
  have hread : Json.read room.json (doc.toList ++ []) = .ok (reread d) := read_write hd hdoc rfl
  rw [List.append_nil, hes] at hread
  unfold load
  rw [hexist, hsuffix, hbytes]
  simp only [parse, hutf, Text.unify_of_no_return hreturn, hread]
  rfl

end ExtensionProbe
