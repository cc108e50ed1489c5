import ExtensionProbe.Log.Layout
import ExtensionProbe.Proofs.Fallible
import ExtensionProbe.Proofs.ReportReload

/-!
# Contexts of structured lines

A context has a source, a place and perhaps a failure of its own, and the further attributes of its record are
put onto it. So each of them is there under its name, and nothing is there beside them and what the context has
of its own. A further attribute that a record is given leaves its other attributes, and so what is told of them.

* `Record.mem_putAll`, `Record.of_mem_putAll`: what is there after attributes are put one by one.
* `Record.exists_putAll_of_new`: what comes after an attribute of a new name.
* `Record.lookup_putAll`: what is there under a name.
* `Record.get_set_of_ne`, `Record.message_set`: what an attribute that is set leaves.
* `Record.withExtras_eq_ok_iff`: which further attributes a record may be given, and what it is then.
* `Layout.troubleEntries_eq_ok`: a failure is told in three parts or not at all.
* `Layout.nodup_ownEntries`, `Layout.eq_own_of_rejoined`: the names that a context has of its own are different,
  and nothing else comes back under them.
* `Layout.contextEntries_eq`: a context is what it has of its own with the further attributes put onto it.
-/

namespace ExtensionProbe.Log

/-! ## Attributes that are put -/

namespace Record

variable {name : Text} {value : Data} {a e : Text × Data} {es attributes earlier later : List (Text × Data)}

theorem mem_put_self : (name, value) ∈ put name value es := by
  induction es with
  | nil => exact List.mem_cons_self
  | cons e rest ih =>
    rw [put]
    split
    · next h =>
      rw [h]
      exact List.mem_cons_self
    · exact List.mem_cons_of_mem _ ih

theorem mem_put_of_ne (h : e ∈ es) (hne : e.1 ≠ name) : e ∈ put name value es := by
  induction es with
  | nil => cases h
  | cons f rest ih =>
    rw [put]
    rcases List.mem_cons.1 h with rfl | h
    · rw [if_neg hne]
      exact List.mem_cons_self
    · split
      · exact List.mem_cons_of_mem _ h
      · exact List.mem_cons_of_mem _ (ih h)

theorem of_mem_put (h : e ∈ put name value es) : e = (name, value) ∨ e ∈ es := by
  induction es with
  | nil => exact .inl (List.mem_singleton.1 h)
  | cons f rest ih =>
    rw [put] at h
    split at h
    · next hname =>
      rw [hname] at h
      exact (List.mem_cons.1 h).imp id (List.mem_cons_of_mem _)
    · rcases List.mem_cons.1 h with rfl | h
      · exact .inr List.mem_cons_self
      · exact (ih h).imp id (List.mem_cons_of_mem _)

theorem nodup_put (h : (es.map Prod.fst).Nodup) : ((put name value es).map Prod.fst).Nodup := by
  induction es with
  | nil => exact List.nodup_cons.2 ⟨List.not_mem_nil, List.nodup_nil⟩
  | cons f rest ih =>
    obtain ⟨hfirst, hrest⟩ := List.nodup_cons.1 h
    rw [put]
    split
    · exact h
    · next hne =>
      refine List.nodup_cons.2 ⟨fun hmem => ?_, ih hrest⟩
      obtain ⟨e, he, hef⟩ := List.mem_map.1 hmem
      rcases of_mem_put he with rfl | he
      · exact hne hef.symm
      · exact hfirst (hef ▸ List.mem_map_of_mem he)

/-- Puts attributes one by one. -/
def putAll (attributes es : List (Text × Data)) : List (Text × Data) :=
  attributes.foldl (fun es a => put a.1 a.2 es) es

theorem nodup_putAll (h : (es.map Prod.fst).Nodup) : ((putAll attributes es).map Prod.fst).Nodup := by
  induction attributes generalizing es with
  | nil => exact h
  | cons a rest ih => exact ih (nodup_put h)

/-- An entry stays if no attribute has its name. -/
theorem mem_putAll_of_mem (h : e ∈ es) (hnew : e.1 ∉ attributes.map Prod.fst) :
    e ∈ putAll attributes es := by
  induction attributes generalizing es with
  | nil => exact h
  | cons a rest ih =>
    rw [List.map_cons, List.mem_cons, not_or] at hnew
    exact ih (mem_put_of_ne h hnew.1) hnew.2

/-- Attributes of different names are all there, each under its name. -/
theorem mem_putAll (hnames : (attributes.map Prod.fst).Nodup) (h : a ∈ attributes) :
    a ∈ putAll attributes es := by
  induction attributes generalizing es with
  | nil => cases h
  | cons b rest ih =>
    obtain ⟨hfirst, hrest⟩ := List.nodup_cons.1 hnames
    rcases List.mem_cons.1 h with rfl | h
    · have hput : a ∈ put a.1 a.2 es := mem_put_self
      change a ∈ putAll rest (put a.1 a.2 es)
      exact mem_putAll_of_mem hput hfirst
    · exact ih hrest h

/-- Nothing is there beside the attributes and what was there before. -/
theorem of_mem_putAll (h : e ∈ putAll attributes es) : e ∈ attributes ∨ e ∈ es := by
  induction attributes generalizing es with
  | nil => exact .inr h
  | cons a rest ih =>
    rcases ih h with h | h
    · exact .inl (List.mem_cons_of_mem _ h)
    · refine (of_mem_put h).imp (fun h => ?_) id
      rw [h]
      exact List.mem_cons_self

theorem put_of_new (h : name ∉ es.map Prod.fst) : put name value es = es ++ [(name, value)] := by
  induction es with
  | nil => rfl
  | cons e rest ih =>
    rw [List.map_cons, List.mem_cons, not_or] at h
    rw [put, if_neg (Ne.symm h.1), ih h.2]
    rfl

/-- What is put under another name than an entry's stands before it or is put after it. -/
theorem exists_put_around (value : Data) (hne : a.1 ≠ name) :
    ∃ before after, put name value (earlier ++ a :: later) = before ++ a :: after ∧
      ∀ e ∈ after, e = (name, value) ∨ e ∈ later := by
  induction earlier with
  | nil =>
    refine ⟨[], put name value later, ?_, fun e => of_mem_put⟩
    rw [List.nil_append, put, if_neg hne]
    rfl
  | cons e rest ih =>
    rw [List.cons_append, put]
    split
    · exact ⟨(e.1, value) :: rest, later, rfl, fun e => .inr⟩
    · obtain ⟨before, after, heq, hafter⟩ := ih
      exact ⟨e :: before, after, congrArg (e :: ·) heq, hafter⟩

/-- So what comes after an entry when all attributes are put is one of them or was there. -/
theorem exists_putAll_around (hother : a.1 ∉ attributes.map Prod.fst) :
    ∃ before after, putAll attributes (earlier ++ a :: later) = before ++ a :: after ∧
      ∀ e ∈ after, e ∈ attributes ∨ e ∈ later := by
  induction attributes generalizing earlier later with
  | nil => exact ⟨earlier, later, rfl, fun e => .inr⟩
  | cons b rest ih =>
    rw [List.map_cons, List.mem_cons, not_or] at hother
    obtain ⟨before, after, heq, hafter⟩ := exists_put_around b.2 hother.1
    obtain ⟨before', after', heq', hafter'⟩ := ih hother.2
    refine ⟨before', after', ?_, fun e he => ?_⟩
    · exact (congrArg (putAll rest) heq).trans heq'
    · rcases hafter' e he with he | he
      · exact .inl (List.mem_cons_of_mem _ he)
      · refine (hafter e he).imp (fun heq => ?_) id
        rw [heq]
        exact List.mem_cons_self

/-- After an attribute of a new name come only those that are put after it. -/
theorem exists_putAll_of_new (hnames : ((earlier ++ a :: later).map Prod.fst).Nodup)
    (hnew : a.1 ∉ es.map Prod.fst) :
    ∃ before after, putAll (earlier ++ a :: later) es = before ++ a :: after ∧ ∀ e ∈ after, e ∈ later := by
  rw [List.map_append, List.map_cons, List.nodup_append] at hnames
  have hlater : a.1 ∉ later.map Prod.fst := (List.nodup_cons.1 hnames.2.1).1
  have hstill : a.1 ∉ (putAll earlier es).map Prod.fst := by
    intro hmem
    obtain ⟨e, he, hname⟩ := List.mem_map.1 hmem
    rcases of_mem_putAll he with he | he
    · exact hnames.2.2 e.1 (List.mem_map_of_mem he) a.1 List.mem_cons_self hname
    · exact hnew (hname ▸ List.mem_map_of_mem he)
  have hput : putAll (earlier ++ a :: later) es = putAll later (putAll earlier es ++ [a]) := by
    rw [putAll, List.foldl_append, List.foldl_cons]
    exact congrArg (putAll later) (put_of_new hstill)
  obtain ⟨before, after, heq, hafter⟩ := exists_putAll_around hlater
  exact ⟨before, after, hput.trans heq, fun e he => (hafter e he).resolve_right List.not_mem_nil⟩

/-! ## Further attributes -/

theorem lookup_eq_none_iff : es.lookup name = none ↔ name ∉ es.map Prod.fst := by
  rw [List.lookup_eq_none_iff, List.mem_map]
  constructor
  · rintro h ⟨e, he, rfl⟩
    exact absurd (h e he) (by simp)
  · intro h e he
    exact bne_iff_ne.2 fun hname => h ⟨e, he, hname.symm⟩

theorem lookup_of_mem (hnames : (es.map Prod.fst).Nodup) (h : e ∈ es) : es.lookup e.1 = some e.2 := by
  induction es with
  | nil => cases h
  | cons f rest ih =>
    obtain ⟨hfirst, hrest⟩ := List.nodup_cons.1 hnames
    rw [List.lookup_cons]
    rcases List.mem_cons.1 h with rfl | h
    · rw [beq_self_eq_true]
    · have hne : e.1 ≠ f.1 := fun hsame => hfirst (hsame ▸ List.mem_map_of_mem h)
      rw [beq_false_of_ne hne]
      exact ih hrest h

theorem lookup_put_of_ne {other : Text} (h : other ≠ name) :
    (put name value es).lookup other = es.lookup other := by
  induction es with
  | nil => rw [put, List.lookup_cons, beq_false_of_ne h]
  | cons e rest ih =>
    obtain ⟨n, old⟩ := e
    rw [put]
    split
    · next hname =>
      rw [hname, List.lookup_cons, List.lookup_cons, beq_false_of_ne h]
    · rw [List.lookup_cons, List.lookup_cons, ih]

/-- Under a name there is the attribute of that name, if one is put, and else what was there. -/
theorem lookup_putAll (hnames : (attributes.map Prod.fst).Nodup) :
    (putAll attributes es).lookup name = (attributes.lookup name).or (es.lookup name) := by
  induction attributes generalizing es with
  | nil => rfl
  | cons a rest ih =>
    obtain ⟨own, new⟩ := a
    obtain ⟨hfirst, hrest⟩ := List.nodup_cons.1 hnames
    change (putAll rest (put own new es)).lookup name = _
    rw [ih hrest, List.lookup_cons]
    by_cases hname : name = own
    · subst hname
      rw [lookup_eq_none_iff.2 hfirst, lookup_put, beq_self_eq_true]
      rfl
    · rw [lookup_put_of_ne hname, beq_false_of_ne hname]

variable {r r' : Record} {further : List (Text × Data)}

theorem get?_set_of_ne {other : Text} (h : other ≠ name) : (r.set name value).get? other = r.get? other :=
  lookup_put_of_ne h

theorem get_set_of_ne {other : Text} (h : other ≠ name) : (r.set name value).get other = r.get other :=
  congrArg (·.getD .null) (get?_set_of_ne h)

/-- A name that is free is none of the record's own. -/
theorem not_mem_ownNames_of_free (h : r.isTaken name = false) : name ∉ ownNames := by
  simp only [isTaken, Bool.or_eq_false_iff, List.contains_eq_mem, decide_eq_false_iff_not] at h
  exact h.1.2

/-- A further attribute takes its name, and leaves the others as they were. -/
theorem isTaken_set_eq_false_iff {other : Text} :
    (r.set name value).isTaken other = false ↔ other ≠ name ∧ r.isTaken other = false := by
  by_cases hname : other = name
  · subst hname
    have hthere : (r.set other value).get? other = some value := lookup_put other value r.attributes
    simp [isTaken, hthere]
  · have hsame : (r.set name value).isTaken other = r.isTaken other := by
      rw [isTaken, isTaken, get?_set_of_ne hname]
    simp [hsame, hname]

theorem set_of_free (h : r.isTaken name = false) :
    r.set name value = { r with attributes := r.attributes ++ [(name, value)] } := by
  rw [isTaken, Bool.or_eq_false_iff, Option.isSome_eq_false_iff, Option.isNone_iff_eq_none] at h
  rw [set, put_of_new (lookup_eq_none_iff.1 h.2)]

/-- A record may be given further attributes exactly if their names are different and free. They stand after its
own attributes. -/
theorem withExtras_eq_ok_iff : r.withExtras further = .ok r' ↔
    (further.map Prod.fst).Nodup ∧ (∀ a ∈ further, r.isTaken a.1 = false) ∧
      r' = { r with attributes := r.attributes ++ further } := by
  induction further generalizing r with
  | nil =>
    have hsame : { r with attributes := r.attributes ++ [] } = r := by rw [List.append_nil]
    rw [withExtras, hsame]
    exact ⟨fun h => ⟨List.nodup_nil, List.forall_mem_nil _, (Except.ok.inj h).symm⟩,
      fun h => congrArg Except.ok h.2.2.symm⟩
  | cons a rest ih =>
    obtain ⟨name, value⟩ := a
    rw [withExtras]
    cases hfree : r.isTaken name with
    | true =>
      refine iff_of_false (fun h => by cases h) fun h => ?_
      cases hfree.symm.trans (h.2.1 _ List.mem_cons_self)
    | false =>
      have hset : { r.set name value with attributes := (r.set name value).attributes ++ rest } =
          { r with attributes := r.attributes ++ (name, value) :: rest } := by
        rw [set_of_free hfree, List.append_assoc]
        rfl
      rw [if_neg Bool.false_ne_true, ih, hset]
      simp only [isTaken_set_eq_false_iff, List.map_cons, List.nodup_cons, List.forall_mem_cons, hfree, true_and,
        List.mem_map, not_exists, not_and]
      constructor
      · rintro ⟨hnodup, hrest, rfl⟩
        exact ⟨⟨fun b hb => (hrest b hb).1, hnodup⟩, fun b hb => (hrest b hb).2, rfl⟩
      · rintro ⟨⟨hnew, hnodup⟩, hrest, rfl⟩
        exact ⟨hnodup, fun b hb => ⟨hnew b hb, hrest b hb⟩, rfl⟩

/-- No further attribute has a name of the record's own. -/
theorem lookup_own_of_withExtras (h : r.withExtras further = .ok r') {own : Text} (hown : own ∈ ownNames) :
    further.lookup own = none := by
  obtain ⟨-, hfree, -⟩ := withExtras_eq_ok_iff.1 h
  rw [lookup_eq_none_iff]
  intro hmem
  obtain ⟨a, ha, rfl⟩ := List.mem_map.1 hmem
  exact not_mem_ownNames_of_free (hfree a ha) hown

/-- Further attributes leave the record's own. -/
theorem get?_of_withExtras (h : r.withExtras further = .ok r') {own : Text} (hown : own ∈ ownNames) :
    r'.get? own = r.get? own := by
  have hnone := lookup_own_of_withExtras h hown
  obtain ⟨-, -, rfl⟩ := withExtras_eq_ok_iff.1 h
  change (r.attributes ++ further).lookup own = r.attributes.lookup own
  rw [List.lookup_append, hnone, Option.or_none]

theorem message_set (h : name ∉ ownNames) : (r.set name value).message = r.message := by
  have hmsg : "msg" ≠ name := by
    rintro rfl
    exact h (by decide)
  have hargs : "args" ≠ name := by
    rintro rfl
    exact h (by decide)
  unfold message
  rw [get_set_of_ne hmsg, get_set_of_ne hargs]

end Record

namespace Layout

variable {r : Record} {d cached : Data} {trouble : List (Text × Data)}

/-! ## The failure in a context -/

/-- The entries that are made, if any are, tell of a failure in its three parts. -/
def TellsFailure (x : Except LineError (List (Text × Data))) : Prop :=
  ∀ es, x = .ok es → ∃ kind said trace, es = failureEntries kind said trace

theorem tellsFailure_pure (kind said trace : Data) : TellsFailure (pure (failureEntries kind said trace)) := by
  rintro es ⟨⟩
  exact ⟨kind, said, trace, rfl⟩

theorem tellsFailure_error (e : LineError) : TellsFailure (.error e) := nofun

theorem tellsFailure_bind {α : Type} {x : Except LineError α}
    {f : α → Except LineError (List (Text × Data))} (h : ∀ a, TellsFailure (f a)) :
    TellsFailure (x >>= f) := by
  intro es hes
  obtain ⟨a, -, ha⟩ := exists_of_bind_eq_ok hes
  exact h a es ha

theorem tellsFailure_looseEntries : TellsFailure (looseEntries d cached) := by
  unfold looseEntries
  refine tellsFailure_bind fun first => ?_
  dsimp only
  split
  · exact tellsFailure_error _
  refine tellsFailure_bind fun said => ?_
  -- whatever is shown of what was said, it stands between the kind and the trace
  split
  all_goals
    refine tellsFailure_bind fun shown => ?_
    split
    · exact tellsFailure_pure _ _ _
    · refine tellsFailure_bind fun trace => ?_
      split
      · exact tellsFailure_pure _ _ _
      · exact tellsFailure_error _

/-- A failure is told in three parts or not at all. -/
theorem troubleEntries_eq_ok (h : troubleEntries r = .ok trouble) :
    trouble = [] ∨ ∃ kind said trace, trouble = failureEntries kind said trace := by
  unfold troubleEntries at h
  split at h
  · split at h
    · cases h
      exact .inl rfl
    · exact .inr (tellsFailure_looseEntries _ h)
  · cases h
    exact .inl rfl
  · exact .inr (tellsFailure_looseEntries _ h)
  · exact .inr (tellsFailure_bind (fun said => tellsFailure_pure _ _ _) _ h)

/-! ## The context -/

/-- A context: the further attributes, put onto what it has of its own. -/
def context (r : Record) (trouble : List (Text × Data)) : List (Text × Data) :=
  Record.putAll (extras r) (ownEntries r trouble)

theorem contextEntries_eq (h : troubleEntries r = .ok trouble) :
    contextEntries r = .ok (context r trouble) := by
  rw [contextEntries, h]
  rfl

/-- What a context has of its own depends on the record's own attributes alone. -/
theorem ownEntries_congr {r' : Record} (h : ∀ own ∈ Record.ownNames, r'.get? own = r.get? own) :
    ownEntries r' trouble = ownEntries r trouble := by
  have hget : ∀ own ∈ Record.ownNames, r'.get own = r.get own := fun own hown =>
    congrArg (·.getD .null) (h own hown)
  unfold ownEntries siteEntries
  rw [hget "name" (by decide), hget "module" (by decide), hget "funcName" (by decide), hget "lineno" (by decide)]

theorem troubleEntries_congr {r' : Record} (h : ∀ own ∈ Record.ownNames, r'.get? own = r.get? own)
    (htrouble : r'.trouble = r.trouble) : troubleEntries r' = troubleEntries r := by
  unfold troubleEntries
  rw [Record.get, Record.get, h "exc_text" (by decide), h "exc_info" (by decide), htrouble]

/-- The names that a context may have of its own. -/
def contextNames : List String :=
  ["logger_name", "module", "function", "line", "error_type", "error_message", "stack_trace"]

theorem map_fst_ownEntries (h : troubleEntries r = .ok trouble) :
    (ownEntries r trouble).map Prod.fst <+: contextNames.map Text.ofString := by
  rcases troubleEntries_eq_ok h with rfl | ⟨kind, said, trace, rfl⟩
  · exact ⟨["error_type", "error_message", "stack_trace"], rfl⟩
  · exact ⟨[], rfl⟩

theorem nodup_ownEntries (h : troubleEntries r = .ok trouble) :
    ((ownEntries r trouble).map Prod.fst).Nodup := by
  have hnames : (contextNames.map Text.ofString).Nodup := Text.nodup_map_ofString (by decide)
  exact hnames.sublist (map_fst_ownEntries h).sublist

/-- A name that a context has of its own comes back as it was. -/
theorem rejoined_own (h : troubleEntries r = .ok trouble) {name : Text}
    (hname : name ∈ (ownEntries r trouble).map Prod.fst) : Text.rejoined name = name := by
  obtain ⟨own, -, rfl⟩ := List.mem_map.1 ((map_fst_ownEntries h).subset hname)
  exact Text.rejoined_ofString own

/-- Nothing else comes back under a name that a context has of its own. -/
theorem eq_own_of_rejoined (h : troubleEntries r = .ok trouble) {name other : Text}
    (hname : name ∈ (ownEntries r trouble).map Prod.fst) (hother : Text.rejoined other = name) :
    other = name := by
  have hunits : contextNames.all (fun own => own.toList.all fun c => decide (c.toNat < 0x10000)) = true := by
    decide
  obtain ⟨own, hown, rfl⟩ := List.mem_map.1 ((map_fst_ownEntries h).subset hname)
  refine Text.eq_of_rejoined hother fun c hc => ?_
  obtain ⟨d, hd, rfl⟩ := List.mem_map.1 hc
  exact of_decide_eq_true (List.all_eq_true.1 (List.all_eq_true.1 hunits own hown) d hd)

end Layout

end ExtensionProbe.Log
