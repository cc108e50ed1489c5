import ExtensionProbe.Proofs.ExitCode
import ExtensionProbe.Proofs.LogFile
import ExtensionProbe.Proofs.ReportDocument
import ExtensionProbe.Proofs.Sources

/-!
# How a run exits

A run loads its settings, sets up its log, reads the registry, and probes it. It answers for input that it
cannot load and for a malformed listing with one code, and else exits by its checks. Setting up the log comes
before the registry is read and may make a file, but only an empty one, so the files as they were at the start
tell how the run exits.

* `course`: how far a run gets. The form that is asked for matters only once there is a report.
* `refuses_or_reports`: a run that ends has refused its input or printed the report of its probe.
* `run_exits_by_inputs`: **the exit code of a run from what it is given, and what it prints in JSON.**
-/

namespace ExtensionProbe.Command

open Settings Probe

variable {w : Surroundings} {q : ProbeRequest} {e : Ended} {s : Settings} {reg : Snapshot}
  {host : Option Version} {view : List Descriptor} {checks : List Check} {r : Report}

/-! ## The course of a run -/

/-- A request for the same probe, in JSON or in words. -/
def inForm (q : ProbeRequest) (asJson : Bool) : ProbeRequest := { q with asJson }

/-- How far a run gets. Its form only matters once there is a report. -/
inductive Course (w : Surroundings) (q : ProbeRequest) : Prop
  | unset {why : Refused} (hs : settings w q.config q.overrides = .error why)
    (h : ∀ b, runProbe w (inForm q b) = endRefused w.console w.files [] "Could not load config: " why)
  | unlogged {s : Settings} {x : Log.SetupError} (hs : settings w q.config q.overrides = .ok s)
    (hlog : (Log.Setup.configure (logRequest q s.logging) w.files).1 = .error x)
    (h : ∀ b, runProbe w (inForm q b) = .error (.setup x))
  | unread {s : Settings} {files : Files} {why : Refused} (hs : settings w q.config q.overrides = .ok s)
    (hfiles : w.files.Touched files) (hreg : snapshot w.room.registry files q.registry = .error why)
    (h : ∀ b, runProbe w (inForm q b) = endRefused w.console files [] "Could not load registry listing: " why)
  | probed {s : Settings} {files after : Files} {reg : Snapshot} {loaded : Log.Event} {written : Text}
    (hs : settings w q.config q.overrides = .ok s) (hfiles : w.files.Touched files)
    (hreg : snapshot w.room.registry files q.registry = .ok (reg, loaded))
    (h : ∀ b, runProbe w (inForm q b) = endProbe w b after written
      (Probe.probe s.leastExtensions Snapshot.client s.checks s.capability s.hostVersion reg).1.outcome)

theorem course (w : Surroundings) (q : ProbeRequest) : Course w q := by
  have hrun (b : Bool) : (inForm q b).config = q.config ∧ (inForm q b).overrides = q.overrides ∧
      (inForm q b).registry = q.registry ∧ (inForm q b).asJson = b ∧
      ∀ l, logRequest (inForm q b) l = logRequest q l := ⟨rfl, rfl, rfl, rfl, fun _ => rfl⟩
  cases hs : settings w q.config q.overrides with
  | error why =>
    refine .unset hs fun b => ?_
    obtain ⟨hconfig, ho, -⟩ := hrun b
    unfold runProbe
    rw [hconfig, ho, hs]
  | ok s =>
    rcases hc : Log.Setup.configure (logRequest q s.logging) w.files with ⟨x | log, files⟩
    · refine .unlogged hs (congrArg Prod.fst hc) fun b => ?_
      obtain ⟨hconfig, ho, -, -, hl⟩ := hrun b
      unfold runProbe
      rw [hconfig, ho, hs]
      simp only [hl, hc]
    · have hfiles := Log.Setup.touched_of_configure hc
      rcases hreg : snapshot w.room.registry files q.registry with why | ⟨reg, loaded⟩
      · refine .unread hs hfiles hreg fun b => ?_
        obtain ⟨hconfig, ho, hr, -, hl⟩ := hrun b
        unfold runProbe
        rw [hconfig, ho, hs]
        simp only [hl, hc, hr, hreg]
      · let run := (Probe.probe s.leastExtensions Snapshot.client s.checks s.capability s.hostVersion
          reg).1
        rcases hlog : log.emitEvents w.room.log w.clock files (loaded :: run.events) with ⟨written, after⟩
        refine @Course.probed w q s files after reg loaded written hs hfiles hreg fun b => ?_
        obtain ⟨hconfig, ho, hr, hj, hl⟩ := hrun b
        unfold runProbe
        rw [hconfig, ho, hs]
        simp only [hl, hc, hr, hreg, hj, run] at hlog ⊢
        rw [hlog]

/-! ## What a run is given -/

/-- The settings in effect: those of a file that is accepted, under the surroundings and the command line. -/
def Effective (w : Surroundings) (q : ProbeRequest) (s : Settings) : Prop :=
  ∃ es f, Entries w.room.settings w.files q.config es ∧ Settings.decode (.map es) = .ok f ∧
    CapabilityAllowed q.overrides ∧ LeastAllowed q.overrides ∧
    s = (f.withSurroundings w.hostVersion).override q.overrides

/-- The registry that is recorded in the file that is named. -/
def Recorded (w : Surroundings) (q : ProbeRequest) (reg : Snapshot) : Prop :=
  ∃ es, Document.load w.room.registry w.files (Path.ofText q.registry) = .ok es ∧ Snapshot.ofData es = .ok reg

/-- The listing that is recorded for a capability is malformed: there is none, or it is empty, or too short,
or has an entry without a name. -/
def Unfit (reg : Snapshot) (capability : Text) (least : Int) : Prop :=
  reg.list capability = [] ∨ ((reg.list capability).length : Int) < least ∨
    ∃ d ∈ reg.list capability, d.simpleName = []

/-- What a run answers with an error. -/
inductive Refuses (w : Surroundings) (q : ProbeRequest) : Prop
  | settings (h : ¬ ∃ s, Effective w q s)
  | registry (h : ¬ ∃ reg, Recorded w q reg)
  | listing {s : Settings} {reg : Snapshot} (hs : Effective w q s) (hreg : Recorded w q reg)
    (h : Unfit reg s.capability s.leastExtensions)

theorem effective_iff : Effective w q s ↔ settings w q.config q.overrides = .ok s :=
  settings_eq_ok_iff.symm

theorem Effective.unique {s' : Settings} (h : Effective w q s) (h' : Effective w q s') : s = s' :=
  Except.ok.inj ((effective_iff.1 h).symm.trans (effective_iff.1 h'))

theorem Recorded.unique {reg' : Snapshot} (h : Recorded w q reg) (h' : Recorded w q reg') : reg = reg' := by
  obtain ⟨es, hes, hreg⟩ := h
  obtain ⟨es', hes', hreg'⟩ := h'
  cases hes.symm.trans hes'
  exact Except.ok.inj (hreg.symm.trans hreg')

theorem snapshot_eq_ok_iff {levels : Levels} {fs : Files} {path : Text} :
    (∃ loaded, snapshot levels fs path = .ok (reg, loaded)) ↔
      ∃ es, Document.load levels fs (Path.ofText path) = .ok es ∧ Snapshot.ofData es = .ok reg := by
  constructor
  · rintro ⟨loaded, h⟩
    obtain ⟨es, hes, h⟩ := exists_of_bind_eq_ok h
    obtain ⟨reg', hreg, h⟩ := exists_of_bind_eq_ok h
    cases h
    exact ⟨es, eq_ok_of_mapError hes, eq_ok_of_mapError hreg⟩
  · rintro ⟨es, hes, hreg⟩
    refine ⟨Snapshot.loadedEvent path es.length, ?_⟩
    unfold snapshot
    rw [hes]
    simp only [Except.mapError, bind, Except.bind, hreg, pure, Except.pure]

/-- A registry that is read after the log is set up was recorded before, or it is a new file and lists
nothing. -/
theorem recorded_or_empty {files : Files} {loaded : Log.Event} (hfiles : w.files.Touched files)
    (h : snapshot w.room.registry files q.registry = .ok (reg, loaded)) :
    Recorded w q reg ∨ (¬ ∃ reg, Recorded w q reg) ∧ ∀ capability, reg.list capability = [] := by
  obtain ⟨es, hes, hreg⟩ := snapshot_eq_ok_iff.1 ⟨loaded, h⟩
  rcases Document.load_of_touched hfiles (Path.ofText q.registry) with hsame | ⟨hmissing, hempty⟩
  · exact .inl ⟨es, hsame ▸ hes, hreg⟩
  · refine .inr ⟨?_, ?_⟩
    · rintro ⟨reg', es', hes', -⟩
      cases hmissing.symm.trans hes'
    · cases hempty es hes
      cases hreg
      exact fun capability => rfl

/-- A registry that is recorded is read after the log is set up, too. -/
theorem exists_of_recorded {files : Files} (hfiles : w.files.Touched files) (h : Recorded w q reg) :
    ∃ loaded, snapshot w.room.registry files q.registry = .ok (reg, loaded) := by
  obtain ⟨es, hes, hreg⟩ := h
  refine snapshot_eq_ok_iff.2 ⟨es, ?_, hreg⟩
  rcases Document.load_of_touched hfiles (Path.ofText q.registry) with hsame | ⟨hmissing, -⟩
  · exact hsame.trans hes
  · cases hmissing.symm.trans hes

/-! ## The listing of a run -/

variable {least : Int} {capability : Text} {raw : Option Text}

theorem usable_iff_not_unfit :
    usable least (some capability) (Snapshot.client capability reg).1 = .ok view ↔
      view = reg.list capability ∧ ¬ Unfit reg capability least := by
  have hclient : (Snapshot.client capability reg).1 = some ((reg.list capability).map some) := rfl
  have hunfit : ¬ Unfit reg capability least ↔ reg.list capability ≠ [] ∧
      least ≤ (reg.list capability).length ∧ ∀ d ∈ reg.list capability, d.simpleName ≠ [] := by
    unfold Unfit
    simp only [not_or, not_exists, not_and, Int.not_lt, ne_eq]
  rw [hclient, hunfit]
  constructor
  · intro h
    cases eq_of_usable_map_some h
    exact ⟨rfl, (usable_eq_ok_iff.1 h).2⟩
  · rintro ⟨rfl, h⟩
    exact usable_eq_ok_iff.2 ⟨rfl, h⟩

/-! ## How a run exits -/

theorem exitCode_ne_errorExit (r : Report) : r.exitCode ≠ errorExit := by
  unfold Report.exitCode errorExit
  split <;> decide

/-- What is reported with settings, over a registry, on a host. -/
def reported (s : Settings) (reg : Snapshot) (host : Option Version) : Report where
  capability := s.capability
  rawHostVersion := s.hostVersion
  hostVersion := host
  observed := reg.list s.capability
  results := s.checks.map (Check.verdict (reg.list s.capability) host)

/-- What a run that printed a report has been given, and what it made of it. -/
structure Reports (w : Surroundings) (q : ProbeRequest) (e : Ended) (s : Settings) (reg : Snapshot)
    (host : Option Version) : Prop where
  effective : Effective w q s
  recorded : Recorded w q reg
  fit : ¬ Unfit reg s.capability s.leastExtensions
  read : (Version.parseLenient s.hostVersion).outcome = .ok host
  exit : e.exit = (reported s reg host).exitCode
  output : present w q.asJson (reported s reg host) = .ok e.output

/-- A run that ends has refused its input, in every form, or has printed the report of its probe in the form
that was asked for. -/
theorem refuses_or_reports (h : runProbe w q = .ok e) :
    (e.exit = errorExit ∧ Refuses w q ∧ ∀ b, runProbe w (inForm q b) = .ok e) ∨
      ∃ s reg host, Reports w q e s reg host ∧
        ∀ b, runProbe w (inForm q b) = endProbe w b e.files e.log (.ok (reported s reg host)) := by
  have hform : inForm q q.asJson = q := rfl
  rw [← hform] at h
  cases course w q with
  | unset hs hrun =>
    rw [hrun] at h
    refine .inl ⟨endRefused_exit h, .settings ?_, fun b => (hrun b).trans h⟩
    rintro ⟨s, hs'⟩
    cases hs.symm.trans (effective_iff.1 hs')
  | unlogged hs hlog hrun =>
    rw [hrun] at h
    cases h
  | unread hs hfiles hreg hrun =>
    rw [hrun] at h
    refine .inl ⟨endRefused_exit h, .registry ?_, fun b => (hrun b).trans h⟩
    rintro ⟨reg, hrec⟩
    obtain ⟨loaded, hreg'⟩ := exists_of_recorded hfiles hrec
    cases hreg.symm.trans hreg'
  | @probed s files after reg loaded written hs hfiles hreg hrun =>
    cases hp : (Probe.probe s.leastExtensions Snapshot.client s.checks s.capability s.hostVersion
        reg).1.outcome with
    | ok r =>
      rw [hp] at hrun
      rw [hrun] at h
      obtain ⟨host, view, hhost, hu, rfl⟩ := report_of_probe hp
      obtain ⟨rfl, hfit⟩ := usable_iff_not_unfit.1 hu
      obtain ⟨output, houtput, rfl⟩ := exists_of_map_eq_ok h
      rcases recorded_or_empty hfiles hreg with hrec | ⟨-, hempty⟩
      · exact .inr ⟨s, reg, host, ⟨effective_iff.2 hs, hrec, hfit, hhost, rfl, houtput⟩, hrun⟩
      · exact absurd (.inl (hempty _)) hfit
    | error x =>
      rw [hp] at hrun
      rw [hrun] at h
      cases x with
      | malformed m =>
        refine .inl ⟨endRefused_exit h, ?_, fun b => (hrun b).trans h⟩
        obtain ⟨-, hu⟩ := malformed_of_probe hp
        have hunfit : Unfit reg s.capability s.leastExtensions := by
          by_contra hfit
          cases hu.symm.trans (usable_iff_not_unfit.2 ⟨rfl, hfit⟩)
        rcases recorded_or_empty hfiles hreg with hrec | ⟨hnone, -⟩
        · exact .listing (effective_iff.2 hs) hrec hunfit
        · exact .registry hnone
      | unwritable x => cases h
      | leastBelowOne n => cases h

theorem Reports.not_refuses (h : Reports w q e s reg host) : ¬ Refuses w q := by
  rintro (hnone | hnone | ⟨hs, hreg, hunfit⟩)
  · exact hnone ⟨s, h.effective⟩
  · exact hnone ⟨reg, h.recorded⟩
  · cases hs.unique h.effective
    cases hreg.unique h.recorded
    exact h.fit hunfit

/-- There is a check that is not skipped on a host and that nothing in a view satisfies. -/
def Missing (checks : List Check) (host : Option Version) (view : List Descriptor) : Prop :=
  ∃ c ∈ checks, ¬ c.SkippedOn host ∧ ∀ d ∈ view, ¬ c.policy.Satisfied d

theorem not_met_iff_missing : ¬ Met checks host view ↔ Missing checks host view := by
  unfold Met Missing
  simp only [not_forall, not_exists, not_and, exists_prop]

/-- The entries of a result tell the label and the outcome of a check. -/
structure Tells (item : List (Data × Data)) (c : Check) (host : Option Version) (view : List Descriptor) :
    Prop where
  label : Data.lookup item "label" = some (.text (Text.ofString c.label))
  outcome : ∃ o : Outcome, Data.lookup item "outcome" = some (.text (Text.ofString o.name)) ∧
    (o = .skip ↔ c.SkippedOn host) ∧
    (o = .pass ↔ ¬ c.SkippedOn host ∧ ∃ d ∈ view, c.policy.Satisfied d) ∧
    (o = .fail ↔ ¬ c.SkippedOn host ∧ ∀ d ∈ view, ¬ c.policy.Satisfied d)

/-- An output is one JSON document, for every reader that has room for a report. It says whether a run succeeded
and has a result for each check, in order. -/
def Prints (output : Text) (success : Bool) (checks : List Check) (host : Option Version)
    (view : List Descriptor) : Prop :=
  ∃ doc es items, output = Text.ofString doc ∧
    (∀ depth, Report.nesting ≤ depth → Json.read depth doc.toList = .ok (.map es)) ∧
    Data.lookup es "success" = some (.bool success) ∧ Data.lookup es "results" = some (.list items) ∧
    items.length = checks.length ∧
    ∀ (i : Nat) c, checks[i]? = some c → ∃ item, items[i]? = some (.map item) ∧ Tells item c host view

theorem tells_verdict (view : List Descriptor) (host : Option Version) (c : Check) :
    Tells (c.verdict view host).entriesRead c host view := by
  have hc := verdict_classified view host c
  refine ⟨?_, (c.verdict view host).outcome, Result.lookup_outcome _, hc.skip_iff, hc.pass_iff,
    hc.fail_iff⟩
  rw [Result.lookup_label, hc.label, Text.rejoined_ofString]

theorem Reports.prints (h : Reports w q e s reg host) (hj : q.asJson = true) :
    Prints e.output (reported s reg host).success s.checks host (reg.list s.capability) := by
  have houtput := h.output
  rw [hj] at houtput
  obtain ⟨doc, hdoc, hread⟩ := read_json (eq_ok_of_mapError houtput)
  refine ⟨doc, (reported s reg host).entriesRead, _, hdoc, hread, (reported s reg host).lookup_success,
    (reported s reg host).lookup_results, ?_, ?_⟩
  · simp only [reported, List.length_map]
  · intro i c hc
    refine ⟨_, ?_, tells_verdict _ _ c⟩
    simp only [reported, List.getElem?_map, hc, Option.map_some]

theorem Reports.exit_eq_zero_iff (h : Reports w q e s reg host) :
    e.exit = 0 ↔ ¬ Missing s.checks host (reg.list s.capability) := by
  have hresults : (reported s reg host).results =
      s.checks.map (Check.verdict (reg.list s.capability) host) := rfl
  rw [h.exit, exitCode_of_verdicts hresults, ← not_met_iff_missing, not_not]

theorem Reports.exit_eq_one_iff (h : Reports w q e s reg host) :
    e.exit = 1 ↔ Missing s.checks host (reg.list s.capability) := by
  have hzero := h.exit_eq_zero_iff
  rw [h.exit] at hzero ⊢
  rw [exitCode_eq_one_iff, ne_eq, hzero, not_not]

/-- A run in JSON ends once there is a report of a host that can be written, if there is room for it. -/
theorem endProbe_json (hroom : Report.nesting ≤ w.room.report) (files : Files) (log : Text)
    (h : HostWritable r.hostVersion) :
    ∃ e, endProbe w true files log (.ok r) = .ok e ∧ e.exit = r.exitCode := by
  obtain ⟨out, hout⟩ := exists_json hroom h
  have hpresent : present w true r = .ok out := congrArg (Except.mapError CommandFault.writing) hout
  refine ⟨{ exit := r.exitCode, output := out, log, files }, ?_, rfl⟩
  simp only [endProbe, hpresent]
  rfl

/-- A run in JSON ends if it has settings, a log and a registry, and its probe reports. -/
theorem exists_run {log : Log.Setup} (hroom : Report.nesting ≤ w.room.report) (hs : Effective w q s)
    (hreg : Recorded w q reg)
    (hlog : (Log.Setup.configure (logRequest q s.logging) w.files).1 = .ok log)
    (hp : (Probe.probe s.leastExtensions Snapshot.client s.checks s.capability s.hostVersion
      reg).1.outcome = .ok r) :
    ∃ e, runProbe w (inForm q true) = .ok e ∧ e.exit = r.exitCode := by
  have hsettings := effective_iff.1 hs
  cases course w q with
  | unset hs' => cases hsettings.symm.trans hs'
  | unlogged hs' hlog' =>
    cases hsettings.symm.trans hs'
    cases hlog.symm.trans hlog'
  | unread hs' hfiles hreg' =>
    obtain ⟨loaded, hread⟩ := exists_of_recorded hfiles hreg
    cases hreg'.symm.trans hread
  | @probed s' files after reg' loaded written hs' hfiles hreg' hrun =>
    cases hsettings.symm.trans hs'
    obtain ⟨loaded', hread⟩ := exists_of_recorded hfiles hreg
    cases hreg'.symm.trans hread
    obtain ⟨host, view, hhost, -, hr⟩ := report_of_probe hp
    have hwritable : HostWritable r.hostVersion := by
      rw [hr]
      exact Version.writable_of_parseLenient hhost
    obtain ⟨e, he, hexit⟩ := endProbe_json hroom after written hwritable
    refine ⟨e, ?_, hexit⟩
    rw [hrun, hp]
    exact he

/-- **A run exits by its inputs.** A run in JSON that ends has exit code two exactly if there are no settings in
effect, or no registry is recorded, or the listing in it is malformed. Else it has exit code one exactly if a
check that is not skipped is satisfied by nothing in the listing, and zero if there is none, and what it prints
is one document that says so, whether or not the log is on. -/
theorem run_exits_by_inputs (h : runProbe w q = .ok e) (hj : q.asJson = true) :
    (e.exit = 2 ↔ Refuses w q) ∧
    (e.exit ≠ 2 → ∃ s reg host, Effective w q s ∧ Recorded w q reg ∧
      (Version.parseLenient s.hostVersion).outcome = .ok host ∧
      (e.exit = 1 ↔ Missing s.checks host (reg.list s.capability)) ∧
      (e.exit = 0 ↔ ¬ Missing s.checks host (reg.list s.capability)) ∧
      Prints e.output (e.exit == 0) s.checks host (reg.list s.capability)) := by
  rcases refuses_or_reports h with ⟨hexit, hrefuses, -⟩ | ⟨s, reg, host, hr, -⟩
  · exact ⟨iff_of_true hexit hrefuses, fun hne => absurd hexit hne⟩
  · have hne : e.exit ≠ 2 := by
      rw [hr.exit]
      exact exitCode_ne_errorExit _
    refine ⟨iff_of_false hne hr.not_refuses, fun _ => ⟨s, reg, host, hr.effective, hr.recorded, hr.read,
      hr.exit_eq_one_iff, hr.exit_eq_zero_iff, ?_⟩⟩
    have hsuccess : (e.exit == 0) = (reported s reg host).success := by
      rw [hr.exit, Bool.eq_iff_iff, beq_iff_eq, success_iff_exitCode]
    rw [hsuccess]
    exact hr.prints hj

/-- A mapping in which one extension is listed for one capability. -/
def loneData : Data := .record [("c", .list [.text "StandardStrategyImpl"])]

/-- A file that holds it, and no settings. -/
def lone : Surroundings :=
  plain (Files.empty.put ["r.json"] (.file "\x7b\"c\": [\"StandardStrategyImpl\"]\x7d".toUTF8))

/-- A run over that file in JSON, with the log on. -/
def loneRequest : ProbeRequest where
  registry := "r.json"
  overrides := { capability := some "c" }
  asJson := true
  debug := true

/-- The registry that is recorded in that file. -/
def loneRegistry : Snapshot := ⟨[("c", [⟨"StandardStrategyImpl", [], []⟩])]⟩

theorem recorded_lone : Recorded lone loneRequest loneRegistry := by
  have hplain : Json.Within 100 loneData := ⟨⟨⟨trivial, trivial⟩, trivial⟩, by decide⟩
  have hwritten : Json.write 100 .line loneData = .ok "\x7b\"c\": [\"StandardStrategyImpl\"]\x7d" := by
    unfold Json.write loneData Data.record
    simp only [List.map, Json.writeAt, Json.writeEntries, Json.writeArray, Json.writeItems]
    rfl
  have hload : Document.load lone.room.registry lone.files (Path.ofText "r.json") =
      .ok [(.text "c", .list [.text "StandardStrategyImpl"])] :=
    Document.load_of_written rfl rfl rfl hplain hwritten (by decide) rfl
  exact ⟨_, hload, rfl⟩

theorem effective_lone : Effective lone loneRequest { capability := "c" } :=
  ⟨[], {}, .missing (.inl rfl) rfl, decode_nothing, fun _ ht => ⟨"c", (Option.some.inj ht).symm⟩, nofun, rfl⟩

/-- The built-in checks where only one of the strategies is registered: one of them fails. -/
theorem exists_run_lone : ∃ e, runProbe lone loneRequest = .ok e ∧ e.exit = 1 := by
  obtain ⟨r, hp, hone⟩ : ∃ r, (Probe.probe 1 Snapshot.client Check.defaults "c" none
      loneRegistry).1.outcome = .ok r ∧ r.exitCode = 1 := ⟨_, rfl, rfl⟩
  obtain ⟨e, he, hexit⟩ := exists_run (by decide) effective_lone recorded_lone rfl hp
  exact ⟨e, he, hexit.trans hone⟩

/-- The run with the log on: it prints one document, in which the run has not succeeded. -/
theorem run_exits_by_inputs_lone :
    ∃ e, runProbe lone loneRequest = .ok e ∧ e.exit = 1 ∧
      ∃ s reg host, Effective lone loneRequest s ∧ Recorded lone loneRequest reg ∧
        Missing s.checks host (reg.list s.capability) ∧
        Prints e.output false s.checks host (reg.list s.capability) := by
  obtain ⟨e, he, hexit⟩ := exists_run_lone
  obtain ⟨-, hreports⟩ := run_exits_by_inputs he rfl
  obtain ⟨s, reg, host, hs, hreg, -, hmissing, -, hprints⟩ := hreports (by rw [hexit]; decide)
  rw [hexit] at hprints
  exact ⟨e, he, hexit, s, reg, host, hs, hreg, hmissing.1 hexit, hprints⟩

end ExtensionProbe.Command
