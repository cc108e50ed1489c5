import ExtensionProbe.Proofs.LogContext

/-!
# What is put over a context

A context tells of its record: the source, the place that it was made at, and its failure. The further attributes
of the record are put onto these, and a record refuses the names of its own attributes only. The names that a
context has of its own are mostly others, so an attribute under one of them is accepted and takes the place of what
the context has there.

* `Describes`, `troubleEntries_of_describes`: what a context tells of a failure.
* `lookup_context`: under a name of the context's own there is the further attribute of that name, if one is given.
* `own_told_unless_overwritten`: **a context tells of its record exactly if no further attribute says something
  else under a name of its own.**
* `place_overwritten`: a record whose context does not tell of it.
-/

namespace ExtensionProbe.Log.Layout

variable {limit : Nat} {r r' : Record} {line name : Text} {trouble shown further : List (Text × Data)}

/-! ## Records as a log makes them -/

/-- A record as a log makes it: its attributes are standard ones, and nothing stands in for its failure. -/
structure Made (r : Record) : Prop where
  standard : extras r = []
  trouble : r.get? "exc_info" = none

theorem made_make {clock number : Int} {source : Text} {template : Data} {values : List Data} {failure : Trouble}
    {site : Option Site} : Made (.make clock source number template values failure site) := by
  cases site with
  | none => exact ⟨rfl, rfl⟩
  | some s => exact ⟨rfl, rfl⟩

/-- The trace that a record shows: the one that is at hand, or else the one that is made. -/
def traceShown (r : Record) (made : Text) : Data :=
  if (r.get "exc_text").isNothing then .text made else r.get "exc_text"

/-- The entries that describe the failure of a record, if it has one: the name of its kind, what it says, and its
trace. -/
inductive Describes (r : Record) : List (Text × Data) → Prop
  | none (h : r.trouble = .none) : Describes r []
  | unknown (h : r.trouble = .unknown) :
      Describes r (failureEntries .null .null (traceShown r "NoneType: None"))
  | known {f : Failure} {said : Text} (h : r.trouble = .known f) (hsaid : f.message = .ok said) :
      Describes r (failureEntries (.text f.kind) (.text said) (traceShown r f.trace))

theorem looseEntries_unknown (cached : Data) : looseEntries (Trouble.value .unknown) cached =
    .ok (failureEntries .null .null (if cached.isNothing then .text "NoneType: None" else cached)) := by
  change (if (!cached.isNothing) = true then _ else _ : Except LineError (List (Text × Data))) = _
  cases cached.isNothing <;> rfl

/-- What a context tells of a failure describes it. -/
theorem troubleEntries_of_describes (hmade : Made r) (h : Describes r trouble) :
    troubleEntries r = .ok trouble := by
  unfold troubleEntries
  cases h with
  | none h =>
    rw [hmade.trouble, h]
    rfl
  | unknown h =>
    rw [hmade.trouble, h]
    exact looseEntries_unknown (r.get "exc_text")
  | known h hsaid =>
    rw [hmade.trouble, h]
    simp only [hsaid]
    rfl

/-! ## What a context tells -/

/-- A context tells of a record: its source, its place and its failure. -/
structure Faithful (r : Record) (trouble shown : List (Text × Data)) : Prop where
  source : shown.lookup (Text.ofString "logger_name") = some (r.get "name")
  inModule : shown.lookup (Text.ofString "module") = some (r.get "module")
  inFunction : shown.lookup (Text.ofString "function") = some (r.get "funcName")
  atLine : shown.lookup (Text.ofString "line") = some (r.get "lineno")
  failure : ∀ e ∈ trouble, shown.lookup e.1 = some e.2

theorem faithful_iff :
    Faithful r trouble shown ↔ ∀ e ∈ ownEntries r trouble, shown.lookup e.1 = some e.2 := by
  simp only [ownEntries, siteEntries, List.cons_append, List.nil_append, List.forall_mem_cons]
  constructor
  · intro h
    exact ⟨h.source, h.inModule, h.inFunction, h.atLine, h.failure⟩
  · rintro ⟨hsource, hmodule, hfunction, hline, htrouble⟩
    exact ⟨hsource, hmodule, hfunction, hline, htrouble⟩

/-- A line holds a context: it is written, where there is room for so many levels, of a record that has the
context. -/
def HoldsContext (limit : Nat) (line : Text) (shown : List (Text × Data)) : Prop :=
  ∃ level message time doc, line = Text.ofString doc ∧
    Json.write limit .line (.record
      [("level", level), ("message", message), ("timestamp", time), ("context", .mapping shown)]) = .ok doc

theorem holdsContext_structuredLine (hshown : contextEntries r = .ok shown)
    (hline : structuredLine limit true r = .ok line) : HoldsContext limit line shown := by
  unfold structuredLine at hline
  obtain ⟨context, hcontext, hline⟩ := exists_of_bind_eq_ok hline
  cases hshown.symm.trans hcontext
  obtain ⟨message, -, hline⟩ := exists_of_bind_eq_ok hline
  obtain ⟨time, -, hline⟩ := exists_of_bind_eq_ok hline
  obtain ⟨doc, hdoc, hline⟩ := exists_of_bind_eq_ok hline
  cases hline
  exact ⟨r.get "levelname", .text message, .text (time.textWith "T"), doc, rfl, eq_ok_of_mapError hdoc⟩

theorem lookup_filter_names {p : Text → Bool} {es : List (Text × Data)} (h : p name = true) :
    (es.filter fun a => p a.1).lookup name = es.lookup name := by
  induction es with
  | nil => rfl
  | cons e rest ih =>
    obtain ⟨own, value⟩ := e
    rw [List.filter_cons]
    by_cases hname : name = own
    · subst hname
      rw [if_pos h, List.lookup_cons, List.lookup_cons, beq_self_eq_true]
    · have hskip : ((own, value) :: rest).lookup name = rest.lookup name := by
        rw [List.lookup_cons, beq_false_of_ne hname]
      rw [hskip, ← ih]
      split
      · rw [List.lookup_cons, beq_false_of_ne hname]
      · rfl

/-- The attributes that are shown of a record as a log makes it are among those that it was given. -/
theorem extras_of_withExtras (hmade : Made r) (hgiven : r.withExtras further = .ok r') :
    extras r' = further.filter fun a => !standardNames.contains a.1 && !isPrivate a.1 := by
  obtain ⟨-, -, rfl⟩ := Record.withExtras_eq_ok_iff.1 hgiven
  rw [extras, List.filter_append]
  exact congrArg (· ++ _) hmade.standard

/-- Under a name of the context's own, what a record was given is shown. -/
theorem lookup_extras (hmade : Made r) (hgiven : r.withExtras further = .ok r')
    (hname : name ∈ contextNames.map Text.ofString) : (extras r').lookup name = further.lookup name := by
  -- the one name that is a standard one is refused, and the others are neither standard nor private
  have hnames : ∀ own ∈ contextNames, Text.ofString own = "module" ∨
      (!standardNames.contains (Text.ofString own) && !isPrivate (Text.ofString own)) = true := by decide
  obtain ⟨own, hown, rfl⟩ := List.mem_map.1 hname
  rw [extras_of_withExtras hmade hgiven]
  rcases hnames own hown with hmodule | hshown
  · have hnone : further.lookup (Text.ofString "module") = none :=
      Record.lookup_own_of_withExtras hgiven (by decide)
    rw [hmodule, hnone, Record.lookup_eq_none_iff]
    exact fun hmem => Record.lookup_eq_none_iff.1 hnone ((List.filter_sublist.map Prod.fst).subset hmem)
  · exact lookup_filter_names (p := fun n => !standardNames.contains n && !isPrivate n) hshown

/-- Under a name of the context's own there is the further attribute of that name, if one is given, and else what
the context has there. -/
theorem lookup_context (hmade : Made r) (htold : troubleEntries r = .ok trouble)
    (hgiven : r.withExtras further = .ok r') {e : Text × Data} (he : e ∈ ownEntries r trouble) :
    (context r' trouble).lookup e.1 = some ((further.lookup e.1).getD e.2) := by
  have hname : e.1 ∈ contextNames.map Text.ofString := (map_fst_ownEntries htold).subset (List.mem_map_of_mem he)
  have hnames : ((extras r').map Prod.fst).Nodup := by
    rw [extras_of_withExtras hmade hgiven]
    exact (Record.withExtras_eq_ok_iff.1 hgiven).1.sublist (List.filter_sublist.map Prod.fst)
  have hown : (ownEntries r' trouble).lookup e.1 = some e.2 := by
    rw [ownEntries_congr fun own => Record.get?_of_withExtras hgiven]
    exact Record.lookup_of_mem (nodup_ownEntries htold) he
  rw [context, Record.lookup_putAll hnames, lookup_extras hmade hgiven hname, hown]
  cases further.lookup e.1 <;> rfl

/-- A context tells of its record exactly if no further attribute says something else under a name of its own. -/
theorem faithful_context_iff (hmade : Made r) (htold : troubleEntries r = .ok trouble)
    (hgiven : r.withExtras further = .ok r') :
    Faithful r trouble (context r' trouble) ↔
      ∀ a ∈ further, ∀ e ∈ ownEntries r trouble, a.1 = e.1 → a.2 = e.2 := by
  rw [faithful_iff]
  constructor
  · intro h a ha e he hsame
    have hshown := (lookup_context hmade htold hgiven he).symm.trans (h e he)
    rw [← hsame, Record.lookup_of_mem (Record.withExtras_eq_ok_iff.1 hgiven).1 ha] at hshown
    exact Option.some.inj hshown
  · intro h e he
    rw [lookup_context hmade htold hgiven he]
    cases hlookup : further.lookup e.1 with
    | none => rfl
    | some value =>
      obtain ⟨before, after, rfl, -⟩ := List.lookup_eq_some_iff.1 hlookup
      exact congrArg some (h _ (List.mem_append_right _ List.mem_cons_self) e he rfl)

/-- **A context tells of its record exactly if no further attribute says something else under a name of its own.**
A log accepts such attributes: under each name that the context has of its own stands the further attribute of that
name, if one is given, and else what the context has there. Only the module is never replaced. -/
theorem own_told_unless_overwritten (hmade : Made r) (htold : Describes r trouble)
    (hgiven : r.withExtras further = .ok r') :
    ∃ shown, contextEntries r' = .ok shown ∧
      (∀ limit line, structuredLine limit true r' = .ok line → HoldsContext limit line shown) ∧
      (∀ e ∈ ownEntries r trouble, shown.lookup e.1 = some ((further.lookup e.1).getD e.2)) ∧
      shown.lookup (Text.ofString "module") = some (r.get "module") ∧
      (Faithful r trouble shown ↔ ∀ a ∈ further, ∀ e ∈ ownEntries r trouble, a.1 = e.1 → a.2 = e.2) := by
  have htold := troubleEntries_of_describes hmade htold
  have htold' : troubleEntries r' = .ok trouble := by
    rw [troubleEntries_congr fun own => Record.get?_of_withExtras hgiven, htold]
    rw [(Record.withExtras_eq_ok_iff.1 hgiven).2.2]
  have hshown := contextEntries_eq htold'
  have hlookup := fun e (he : e ∈ ownEntries r trouble) => lookup_context hmade htold hgiven he
  refine ⟨context r' trouble, hshown, fun limit line => holdsContext_structuredLine hshown, hlookup, ?_,
    faithful_context_iff hmade htold hgiven⟩
  have hmodule := hlookup ("module", r.get "module") (.tail _ (.head _))
  have hnone : further.lookup (Text.ofString "module") = none := Record.lookup_own_of_withExtras hgiven (by decide)
  rwa [hnone] at hmodule

/-- A record of a failure at the start of 1970. -/
def failed : Record :=
  .make 0 "strategyprobe.test" 40 (.text "m") [] (.known (.ofKind "ValueError" [.text "bad"]))
    (some ⟨.text "runner", .null, .int 42⟩)

/-- What describes this failure. -/
def badValue : List (Text × Data) :=
  failureEntries (.text "ValueError") (.text "bad") (.text "ValueError: bad")

theorem describes_failed : Describes failed badValue := by
  have h : Describes failed (failureEntries (.text "ValueError") (.text "bad")
      (traceShown failed (Failure.ofKind "ValueError" [.text "bad"]).trace)) :=
    @Describes.known failed (.ofKind "ValueError" [.text "bad"]) "bad" rfl rfl
  have htrace : (Failure.ofKind "ValueError" [.text "bad"]).trace = "ValueError: bad" := by decide +kernel
  rw [htrace] at h
  exact h

/-- A further attribute under a name that is none of the context's leaves what is told of the failure. -/
theorem own_told_unless_overwritten_capability :
    Made failed ∧ Describes failed badValue ∧
      ∃ r' shown, failed.withExtras [("capability", .text "c")] = .ok r' ∧ contextEntries r' = .ok shown ∧
        Faithful failed badValue shown := by
  have hmade : Made failed := made_make
  obtain ⟨r', hgiven⟩ : ∃ r', failed.withExtras [("capability", .text "c")] = .ok r' := ⟨_, rfl⟩
  obtain ⟨shown, hshown, -, -, -, hfaithful⟩ := own_told_unless_overwritten hmade describes_failed hgiven
  refine ⟨hmade, describes_failed, r', shown, hgiven, hshown, hfaithful.2 fun a ha e he hsame => ?_⟩
  have hnew : Text.ofString "capability" ∉ (ownEntries failed badValue).map Prod.fst := by decide
  cases List.mem_singleton.1 ha
  exact absurd (List.mem_map.2 ⟨e, he, hsame.symm⟩) hnew

/-- One under the name of the line is accepted too, and so is one under the name of the kind of the failure: the
context tells of another line than the record's, and of no failure. -/
theorem place_overwritten :
    ∃ r' shown, failed.withExtras [("line", .int 7), ("error_type", .null)] = .ok r' ∧
      contextEntries r' = .ok shown ∧ failed.get "lineno" = .int 42 ∧ Describes failed badValue ∧
      shown.lookup (Text.ofString "line") = some (.int 7) ∧
      shown.lookup (Text.ofString "error_type") = some .null ∧ ¬ Faithful failed badValue shown := by
  refine ⟨_, _, rfl, rfl, rfl, describes_failed, rfl, rfl, fun h => ?_⟩
  cases h.atLine

end ExtensionProbe.Log.Layout
