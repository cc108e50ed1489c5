import ExtensionProbe.Proofs.LogContext
import ExtensionProbe.Proofs.Loggable

/-!
# Lines that tell records in full

A structured line is one JSON object with the level, the message, the time and the context of a record. So if
the values in the context are told in full, the line is printable ASCII, and what is read of it is what comes
back of each of them.

* `Tellable`: a record whose line can be written; `Tellable.make`, `Tellable.withExtras`: the records that a log
  makes, and those with further attributes, are such records.
* `Tells`, `TellsExactly`: what is read of a line.
* `structuredLine_tells`: **the line of such a record is printable ASCII and tells its level, its message and
  its further attributes, and no others.**
* `pair_joins_in_line`: what a line does not keep apart.
-/

namespace ExtensionProbe.Log.Layout

open Json

variable {n limit : Nat} {r : Record} {level message : Text} {time : Timestamp} {d : Data}
  {trouble fields : List (Text × Data)} {entry read : List (Data × Data)}

/-! ## The line -/

/-- A value that is told in full, nested no more than so many levels deep. -/
abbrev Told (n : Nat) (d : Data) : Prop := Loggable (fun _ => True) n d

/-- A record whose line can be written: its attributes have different names, its message is filled, its time is
in the calendar, its failure has its parts, and the values in its context are told in full, and are nested no more
than so many levels deep. -/
structure Tellable (n : Nat) (r : Record) (level message : Text) (trouble : List (Text × Data)) : Prop where
  names : (r.attributes.map Prod.fst).Nodup
  level : r.get "levelname" = .text level
  message : r.message = .ok message
  time : ∃ t, Clock.timestamp (r.get "created") = .ok t
  told : troubleEntries r = .ok trouble
  own : ∀ e ∈ ownEntries r trouble, Told n e.2
  extra : ∀ a ∈ extras r, Told n a.2

/-- What is read of the line of a record, and of the context in it. Every text, the names of attributes among
them, comes back with its pairs of halves joined; of attributes under names that come back as one, the last is
read. A further attribute under one of the names of a context takes the place of what the context has there. -/
structure Tells (r : Record) (level message : Text) (trouble : List (Text × Data))
    (entry read : List (Data × Data)) : Prop where
  level : Data.lookup entry "level" = some (.text (Text.rejoined level))
  message : Data.lookup entry "message" = some (.text (Text.rejoined message))
  context : Data.lookup entry "context" = some (.map read)
  extra : ∀ earlier a later, extras r = earlier ++ a :: later →
    (∀ b ∈ later, Text.rejoined b.1 ≠ Text.rejoined a.1) →
    Data.lookup read (Text.rejoined a.1) = some (reread a.2)
  own : ∀ e ∈ ownEntries r trouble, e.1 ∉ (extras r).map Prod.fst → Data.lookup read e.1 = some (reread e.2)
  only : ∀ e ∈ read, ∃ name : Text, e.1 = .text (Text.rejoined name) ∧
    (name ∈ (ownEntries r trouble).map Prod.fst ∨ name ∈ (extras r).map Prod.fst)

/-- What is read where no text has a pair: each text as it was, and each value with its days, times and paths
as texts. -/
structure TellsExactly (n : Nat) (r : Record) (level message : Text) (trouble : List (Text × Data))
    (entry read : List (Data × Data)) : Prop where
  level : ¬ level.Paired → Data.lookup entry "level" = some (.text level)
  message : ¬ message.Paired → Data.lookup entry "message" = some (.text message)
  extra : (∀ a ∈ extras r, ¬ a.1.Paired) → ∀ a ∈ extras r,
    Loggable (fun t => ¬ t.Paired) n a.2 → Data.lookup read a.1 = some a.2.spelled
  own : ∀ e ∈ ownEntries r trouble, e.1 ∉ (extras r).map Prod.fst →
    Loggable (fun t => ¬ t.Paired) n e.2 → Data.lookup read e.1 = some e.2.spelled

theorem Tells.exactly (h : Tells r level message trouble entry read)
    (hnames : ((extras r).map Prod.fst).Nodup) : TellsExactly n r level message trouble entry read where
  level hunpaired := by rw [h.level, Text.rejoined_of_unpaired hunpaired]
  message hunpaired := by rw [h.message, Text.rejoined_of_unpaired hunpaired]
  extra hkeys a ha hunpaired := by
    obtain ⟨earlier, later, heq⟩ := List.append_of_mem ha
    rw [heq, List.map_append, List.map_cons, List.nodup_append] at hnames
    have hlast : ∀ b ∈ later, Text.rejoined b.1 ≠ Text.rejoined a.1 := by
      intro b hb hsame
      have hmem : b ∈ extras r := heq ▸ List.mem_append_right _ (List.mem_cons_of_mem _ hb)
      rw [Text.rejoined_of_unpaired (hkeys b hmem), Text.rejoined_of_unpaired (hkeys a ha)] at hsame
      exact (List.nodup_cons.1 hnames.2.1).1 (hsame ▸ List.mem_map_of_mem hb)
    have hread := h.extra earlier a later heq hlast
    rwa [Text.rejoined_of_unpaired (hkeys a ha), reread_of_loggable hunpaired] at hread
  own e he hfree hunpaired := by rw [h.own e he hfree, reread_of_loggable hunpaired]

/-- The fields of a line. -/
def lineFields (level message : Text) (time : Timestamp) (context : List (Text × Data)) :
    List (String × Data) :=
  [("level", .text level), ("message", .text message), ("timestamp", .text (time.textWith "T")),
    ("context", .mapping context)]

theorem nodup_lineFields : ((lineFields level message time fields).map Prod.fst).Nodup := by
  change ["level", "message", "timestamp", "context"].Nodup
  decide

/-- A line is what is written of its fields. -/
theorem structuredLine_eq (hlevel : r.get "levelname" = .text level) (hmessage : r.message = .ok message)
    (htime : Clock.timestamp (r.get "created") = .ok time) (htold : troubleEntries r = .ok trouble) :
    structuredLine limit true r = (Text.ofString <$>
      Json.write limit .line (.record (lineFields level message time (context r trouble)))).mapError .json := by
  unfold structuredLine
  rw [contextEntries_eq htold, hmessage, htime, hlevel]
  change ((Json.write limit .line (.record (lineFields level message time (context r trouble)))).mapError
    LineError.json >>= fun s => pure (Text.ofString s)) = _
  cases Json.write limit .line (.record (lineFields level message time (context r trouble))) with
  | error e => rfl
  | ok doc => rfl

namespace Tellable

theorem nodup_extras (h : Tellable n r level message trouble) : ((extras r).map Prod.fst).Nodup :=
  h.names.sublist (List.filter_sublist.map Prod.fst)

theorem nodup_context (h : Tellable n r level message trouble) : ((context r trouble).map Prod.fst).Nodup :=
  Record.nodup_putAll (nodup_ownEntries h.told)

theorem loggable_context (h : Tellable n r level message trouble) :
    ∀ e ∈ context r trouble, Told n e.2 := by
  intro e he
  rcases Record.of_mem_putAll he with he | he
  · exact h.extra e he
  · exact h.own e he

/-- The fields of a line are told in full; the values of its context are two levels down. -/
theorem loggable_line (h : Tellable n r level message trouble) (time : Timestamp) :
    Told (n + 2) (.record (lineFields level message time (context r trouble))) := by
  refine loggable_record nodup_lineFields (fun _ _ => trivial) ?_
  simp only [lineFields, List.forall_mem_cons, List.not_mem_nil, false_implies, implies_true, and_true]
  exact ⟨.text trivial, .text trivial, .text trivial,
    loggable_mapping h.nodup_context (fun _ _ => trivial) h.loggable_context⟩

/-- The line of a record is written in printable ASCII if there is room for it, and read up to its end where there
is. -/
theorem exists_line (h : Tellable n r level message trouble) (hroom : n + 2 ≤ limit) :
    ∃ doc time, structuredLine limit true r = .ok (Text.ofString doc) ∧ doc.toList.all isPlain = true ∧
      ∀ depth, n + 2 ≤ depth → Json.read depth doc.toList =
        .ok (.map (rereadOnto [] (entriesOf (lineFields level message time (context r trouble))))) := by
  obtain ⟨time, htime⟩ := h.time
  have hloggable := h.loggable_line time
  have hwithin := within_of_loggable hloggable
  have hwrites : Writes limit .line 0 (.record (lineFields level message time (context r trouble))) :=
    writes_of_loggable hloggable (by omega)
  obtain ⟨cs, hcs⟩ := hwrites
  have hdoc : Json.write limit .line (.record (lineFields level message time (context r trouble))) =
      .ok (String.ofList cs) := by
    rw [Json.write, hcs]
    rfl
  refine ⟨String.ofList cs, time, ?_, ?_, fun depth hdepth => ?_⟩
  · rw [structuredLine_eq h.level h.message htime h.told, hdoc]
    rfl
  · rw [String.toList_ofList]
    exact writeAt_plain _ 0 cs hwithin.1 hcs
  · have hread : Json.read depth ((String.ofList cs).toList ++ []) = .ok (reread (.record _)) :=
      read_write (hwithin.mono hdepth) hdoc rfl
    rwa [List.append_nil, reread_record] at hread

/-- What is read of a further attribute, if none that is put later comes back under its name. -/
theorem lookup_extra (h : Tellable n r level message trouble) {earlier later : List (Text × Data)}
    {a : Text × Data} (heq : extras r = earlier ++ a :: later)
    (hlast : ∀ b ∈ later, Text.rejoined b.1 ≠ Text.rejoined a.1) :
    Data.lookup (rereadOnto [] (underTexts (context r trouble))) (Text.rejoined a.1) = some (reread a.2) := by
  -- under a name of the context it stands among the first, but nothing else comes back under such a name
  by_cases hown : a.1 ∈ (ownEntries r trouble).map Prod.fst
  · have hmem : a ∈ extras r := heq ▸ List.mem_append_right _ List.mem_cons_self
    refine lookup_reread_of_only h.nodup_context (Record.mem_putAll h.nodup_extras hmem) fun w _ hsame => ?_
    exact eq_own_of_rejoined h.told hown (hsame.trans (rejoined_own h.told hown))
  · obtain ⟨before, after, hcontext, hafter⟩ := Record.exists_putAll_of_new (heq ▸ h.nodup_extras) hown
    rw [context, heq, hcontext]
    exact lookup_reread_last fun w hw => hlast w (hafter w hw)

/-- What is read of what a context has of its own, if no further attribute takes its place. -/
theorem lookup_own (h : Tellable n r level message trouble) {e : Text × Data}
    (he : e ∈ ownEntries r trouble) (hfree : e.1 ∉ (extras r).map Prod.fst) :
    Data.lookup (rereadOnto [] (underTexts (context r trouble))) e.1 = some (reread e.2) := by
  have hname : e.1 ∈ (ownEntries r trouble).map Prod.fst := List.mem_map_of_mem he
  have hsame := rejoined_own h.told hname
  have hread := lookup_reread_of_only h.nodup_context (Record.mem_putAll_of_mem he hfree) fun w _ hw =>
    eq_own_of_rejoined h.told hname (hw.trans hsame)
  rwa [hsame] at hread

/-- What is read of the fields of a line. -/
theorem tells (h : Tellable n r level message trouble) (time : Timestamp) :
    Tells r level message trouble
      (rereadOnto [] (entriesOf (lineFields level message time (context r trouble))))
      (rereadOnto [] (underTexts (context r trouble))) where
  level := lookup_reread_record nodup_lineFields (d := .text level) (.head _)
  message := lookup_reread_record nodup_lineFields (d := .text message) (.tail _ (.head _))
  context := by
    rw [← reread_mapping]
    exact lookup_reread_record nodup_lineFields (.tail _ (.tail _ (.tail _ (.head _))))
  extra _ _ _ heq hlast := h.lookup_extra heq hlast
  own _ he hfree := h.lookup_own he hfree
  only e he := by
    rcases of_mem_rereadOnto he with ⟨f, hf, -⟩ | ⟨f, hf, hkey⟩
    · cases hf
    · obtain ⟨a, ha, rfl⟩ := List.mem_map.1 hf
      refine ⟨a.1, hkey, ?_⟩
      rcases Record.of_mem_putAll ha with ha | ha
      · exact .inr (List.mem_map_of_mem ha)
      · exact .inl (List.mem_map_of_mem ha)

/-- A further attribute under a free name leaves what was told of a record. -/
theorem set {name : Text} (h : Tellable n r level message trouble) (hfree : r.isTaken name = false)
    (hd : Told n d) : Tellable n (r.set name d) level message trouble := by
  have hname := Record.not_mem_ownNames_of_free hfree
  have hget? : ∀ own ∈ Record.ownNames, (r.set name d).get? own = r.get? own := fun own hown =>
    Record.get?_set_of_ne (ne_of_mem_of_not_mem hown hname)
  have hget : ∀ own ∈ Record.ownNames, (r.set name d).get own = r.get own := fun own hown =>
    congrArg (·.getD .null) (hget? own hown)
  have hown : ownEntries (r.set name d) trouble = ownEntries r trouble := ownEntries_congr hget?
  have htold : troubleEntries (r.set name d) = troubleEntries r := troubleEntries_congr hget? rfl
  refine ⟨Record.nodup_put h.names, ?_, ?_, ?_, htold.trans h.told, hown ▸ h.own, fun a ha => ?_⟩
  · rw [hget "levelname" (by decide), h.level]
  · rw [Record.message_set hname, h.message]
  · rw [hget "created" (by decide)]
    exact h.time
  · obtain ⟨ha, hshown⟩ := List.mem_filter.1 ha
    rcases Record.of_mem_put ha with rfl | ha
    · exact hd
    · exact h.extra a (List.mem_filter.2 ⟨ha, hshown⟩)

/-- So do all further attributes that a record is given. -/
theorem withExtras {further : List (Text × Data)} {r' : Record} (h : Tellable n r level message trouble)
    (hr : r.withExtras further = .ok r')
    (hfurther : ∀ a ∈ further, Told n a.2) :
    Tellable n r' level message trouble := by
  induction further generalizing r with
  | nil =>
    cases hr
    exact h
  | cons a rest ih =>
    rw [Record.withExtras] at hr
    split at hr
    · cases hr
    · next hfree =>
      have hset := h.set (Bool.eq_false_iff.2 hfree) (hfurther a List.mem_cons_self)
      exact ih hset hr fun b hb => hfurther b (List.mem_cons_of_mem _ hb)

/-- A record that a log makes is told in full if its message is filled, its time is in the calendar and what is
told of its failure and its place is. -/
theorem make {clock number : Int} {source : Text} {template : Data} {values : List Data}
    {failure : Trouble} {site : Site}
    (hmessage : (Record.make clock source number template values failure site).message = .ok message)
    (htime : ∃ t, Clock.timestamp (.float (Record.seconds clock)) = .ok t)
    (htold : troubleEntries (.make clock source number template values failure site) = .ok trouble)
    (htrouble : ∀ e ∈ trouble, Told n e.2)
    (hsite : ∀ d ∈ [site.inModule, site.inFunction, site.atLine], Told n d) :
    Tellable n (.make clock source number template values failure site) (Level.name number) message trouble where
  names := by
    have hnames : ["name", "msg", "args", "levelname", "levelno", "module", "lineno", "funcName", "exc_text",
        "stack_info", "created", "msecs", "threadName", "processName"].Nodup := by decide
    exact Text.nodup_map_ofString hnames
  level := rfl
  message := hmessage
  time := htime
  told := htold
  own := by
    simp only [List.forall_mem_cons, List.not_mem_nil, false_implies, implies_true, and_true] at hsite
    simp only [ownEntries, siteEntries, List.cons_append, List.nil_append, List.forall_mem_cons]
    exact ⟨.text trivial, hsite.1, hsite.2.1, hsite.2.2, htrouble⟩
  extra := by
    have hnone : extras (.make clock source number template values failure site) = [] := rfl
    rw [hnone]
    exact fun a ha => absurd ha List.not_mem_nil

end Tellable

/-! ## Records of a query -/

/-- A record of a query at the start of 1970. -/
def query (template : Data) (values : List Data) : Record :=
  .make 0 "strategyprobe.test" 20 template values .none (some ⟨.text "runner", .null, .int 42⟩)

variable {template : Data} {values : List Data}

theorem tellable_query (hmessage : (query template values).message = .ok message) :
    Tellable n (query template values) "INFO" message [] := by
  have htime : ((Clock.timestamp (.float (Record.seconds 0))).toOption.isSome) = true := by decide +kernel
  obtain ⟨t, ht⟩ := Option.isSome_iff_exists.1 htime
  refine Tellable.make hmessage ⟨t, eq_ok_of_toOption ht⟩ rfl nofun ?_
  simp only [List.forall_mem_cons, List.not_mem_nil, false_implies, implies_true, and_true]
  exact ⟨.text trivial, .null, .int (by decide)⟩

/-- What is told beside a message: a text, and a mapping with a path and a row in it. -/
def origin : List (Text × Data) :=
  [("capability", .text "c"),
    ("origin", .record [("file", .path "r.json"), ("hosts", .list [.int 2, .null])])]

theorem loggable_origin : ∀ a ∈ origin, Told 2 a.2 := by
  have hhosts : Told 1 (.list [.int 2, .null]) := by
    refine .list ?_
    simp only [List.forall_mem_cons, List.not_mem_nil, false_implies, implies_true, and_true]
    exact ⟨.int (by decide), .null⟩
  have horigin : Told 2 (.record [("file", .path "r.json"), ("hosts", .list [.int 2, .null])]) := by
    refine loggable_record (by decide) (fun _ _ => trivial) ?_
    simp only [List.forall_mem_cons, List.not_mem_nil, false_implies, implies_true, and_true]
    exact ⟨.path trivial, hhosts⟩
  simp only [origin, List.forall_mem_cons, List.not_mem_nil, false_implies, implies_true, and_true]
  exact ⟨.text trivial, horigin⟩

/-! ## What a line tells -/

/-- **The line of a record tells it in full.** If there is room for the values in its context, which are two levels
down, it is one JSON object in printable ASCII characters, for every reader that has room for it. What is read of
it has the level and the message of the record, and a context with every further attribute that is not standard or
private; beside these the context has only what it has of its own, where no attribute takes the place of it. Texts
come back as they were but for pairs of halves. -/
theorem structuredLine_tells (h : Tellable n r level message trouble) (hroom : n + 2 ≤ limit) :
    ∃ doc entry read, structuredLine limit true r = .ok (Text.ofString doc) ∧
      (∀ c ∈ doc.toList, isPlain c = true) ∧
      (∀ depth, n + 2 ≤ depth → Json.read depth doc.toList = .ok (.map entry)) ∧
      Tells r level message trouble entry read ∧ TellsExactly n r level message trouble entry read := by
  obtain ⟨doc, time, hline, hplain, hread⟩ := h.exists_line hroom
  have htells := h.tells time
  exact ⟨doc, _, _, hline, List.all_eq_true.1 hplain, hread, htells, htells.exactly h.nodup_extras⟩

/-- The line of a record with a path and a row beside its message, where there is room for four levels. -/
theorem structuredLine_tells_origin :
    ∃ r, (query (.text "probing %s") [.text "c"]).withExtras origin = .ok r ∧
      Tellable 2 r "INFO" "probing c" [] ∧ 2 + 2 ≤ 4 ∧
      ∃ doc entry read, structuredLine 4 true r = .ok (Text.ofString doc) ∧
        (∀ c ∈ doc.toList, isPlain c = true) ∧
        (∀ depth, 2 + 2 ≤ depth → Json.read depth doc.toList = .ok (.map entry)) ∧
        Tells r "INFO" "probing c" [] entry read ∧ TellsExactly 2 r "INFO" "probing c" [] entry read := by
  obtain ⟨r, hr⟩ : ∃ r, (query (.text "probing %s") [.text "c"]).withExtras origin = .ok r := ⟨_, rfl⟩
  have hmessage : (query (.text "probing %s") [.text "c"]).message = .ok "probing c" := by decide +kernel
  have htellable := (tellable_query hmessage).withExtras hr loggable_origin
  exact ⟨r, hr, htellable, by decide, structuredLine_tells htellable (by decide)⟩

/-! ## What a line does not tell -/

/-- The two halves of one character. -/
def pairOfHalves : Text := Text.ofNumbers [0xD83D, 0xDE00]

/-- A record with these halves as the two values of its message. -/
def queryOfHalves : Record :=
  query (.text "%s%s") [.text (Text.ofNumbers [0xD83D]), .text (Text.ofNumbers [0xDE00])]

/-- A message of two halves comes back as the one character that they stand for. -/
theorem pair_joins_in_line :
    ∃ doc entry, structuredLine 4 true queryOfHalves = .ok (Text.ofString doc) ∧
      queryOfHalves.message = .ok pairOfHalves ∧ Json.read 4 doc.toList = .ok (.map entry) ∧
      Data.lookup entry "message" ≠ some (.text pairOfHalves) := by
  have hmessage : queryOfHalves.message = .ok pairOfHalves := by decide +kernel
  have h : Tellable 2 queryOfHalves "INFO" pairOfHalves [] := tellable_query hmessage
  have hroom : 2 + 2 ≤ 4 := by decide
  obtain ⟨doc, time, hline, -, hread⟩ := h.exists_line hroom
  refine ⟨doc, _, hline, hmessage, hread 4 hroom, fun hsame => ?_⟩
  have hjoined := (h.tells time).message.symm.trans hsame
  have hdiffer : Text.rejoined pairOfHalves ≠ pairOfHalves := by decide
  exact hdiffer (Data.text.inj (Option.some.inj hjoined))

end ExtensionProbe.Log.Layout
