import ExtensionProbe.Proofs.LogTemplate
import ExtensionProbe.Proofs.Reload
import ExtensionProbe.Proofs.Unloadable

/-!
# Logs from accepted settings

Settings name a level of a log and give the format of its lines. The level is checked when the settings are
read, the format only when the log is set up: any text is accepted as a setting, and a text that is not empty
and has no named field in it is no template of lines. A run with such a format ends in a fault, where settings
that are not accepted are answered with an error.

* `Logging.accepted_iff`: settings of a log are accepted exactly if their level is known.
* `Logging.Lined`: settings whose lines can be written.
* `Log.Setup.configure_of_lined`, `configure_of_not_lined`: setting up a log from accepted settings.
* `Command.accepted_log_starts_or_fieldless`: **a log is set up from accepted settings exactly if its lines can
  be written, and a run ends in a fault otherwise.**
* `Command.fieldless_format_escapes`: the format `hello` is accepted, and no log is set up from it.
-/

namespace ExtensionProbe

open Checked Decode Log

namespace Logging

variable {l : Logging} {d : Data}

/-- Settings of a log are accepted exactly if their level is one of five. Whatever their format is, nothing is
asked of it. -/
theorem accepted_iff : (∃ d, decode d = .ok l) ↔ l.level ∈ levels :=
  ⟨fun ⟨_, hd⟩ => known_of_decode hd, fun h => ⟨l.dump, decode_dump h⟩⟩

/-- The lines of a log can be written as the settings ask: they are structured, or their format is empty and
the usual one stands in for it, or it has a named field. -/
def Lined (l : Logging) : Prop :=
  l.structured = true ∨ l.format = [] ∨ Layout.HasField l.format

/-- How the lines are written then. -/
def layout (l : Logging) : Layout :=
  if l.structured then .structured false
  else .plain (if l.format = [] then ({} : Logging).format else l.format)

end Logging

namespace Log.Setup

variable {l : Logging} {q : ProbeRequest} {fs : Files}

/-- Every level that settings may hold is the name of a level, and so is that for looking into a fault. -/
theorem exists_threshold (h : l.level ∈ Logging.levels) (q : ProbeRequest) :
    ∃ threshold, Level.ofName? (Command.logRequest q l).level = some threshold := by
  have hnames : ∀ name ∈ "DEBUG" :: Logging.levels, (Level.ofName? name).isSome = true := by decide
  rw [← Option.isSome_iff_exists]
  refine hnames _ ?_
  unfold Command.logRequest
  split
  · exact List.mem_cons_self
  · exact List.mem_cons_of_mem _ h

theorem given_format (l : Logging) :
    Text.given (some l.format) = if l.format = [] then none else some l.format := by
  unfold Text.given
  by_cases hempty : l.format = []
  · simp [hempty]
  · simp [hempty, Option.filter]

/-- The usual format has named fields. -/
theorem usual_isTemplate : Layout.isTemplate ({} : Logging).format = true := by decide

theorem layoutOf_of_lined (h : l.Lined) : layoutOf (Command.logRequest q l) = .ok l.layout := by
  unfold layoutOf Command.logRequest Logging.layout
  simp only [given_format]
  by_cases hstructured : l.structured = true
  · rw [if_pos hstructured, if_pos hstructured]
  rw [if_neg hstructured, if_neg hstructured]
  rcases h with h | h | h
  · exact absurd h hstructured
  · rw [if_pos h, if_pos h, Option.getD_none, if_pos usual_isTemplate]
  · have hne : l.format ≠ [] := by
      intro hempty
      rw [hempty] at h
      cases Layout.isTemplate_iff.2 h
    rw [if_neg hne, if_neg hne, Option.getD_some, if_pos (Layout.isTemplate_iff.2 h)]

theorem layoutOf_of_not_lined (h : ¬ l.Lined) :
    layoutOf (Command.logRequest q l) = .error (.template l.format) := by
  obtain ⟨hstructured, h⟩ := not_or.1 h
  obtain ⟨hempty, hfield⟩ := not_or.1 h
  unfold layoutOf Command.logRequest
  simp only [given_format]
  rw [if_neg hstructured, if_neg hempty, Option.getD_some, if_neg (mt Layout.isTemplate_iff.1 hfield)]

theorem openSink_console (hfile : l.filename = none) :
    openSink (Command.logRequest q l) fs = .ok (.console, fs) := by
  unfold openSink Command.logRequest
  rw [hfile]
  rfl

theorem configure_of_lined (hlevel : l.level ∈ Logging.levels) (hfile : l.filename = none) (h : l.Lined) :
    ∃ threshold, Level.ofName? (Command.logRequest q l).level = some threshold ∧
      ∀ fs, configure (Command.logRequest q l) fs =
        (.ok { threshold, handler := some ⟨.console, l.layout⟩ }, fs) := by
  obtain ⟨threshold, hthreshold⟩ := exists_threshold hlevel q
  refine ⟨threshold, hthreshold, fun fs => ?_⟩
  unfold configure
  rw [hthreshold]
  simp only [openSink_console hfile, layoutOf_of_lined h, Except.map]

theorem configure_of_not_lined (hlevel : l.level ∈ Logging.levels) (hfile : l.filename = none)
    (h : ¬ l.Lined) (fs : Files) :
    configure (Command.logRequest q l) fs = (.error (.template l.format), fs) := by
  obtain ⟨threshold, hthreshold⟩ := exists_threshold hlevel q
  unfold configure
  rw [hthreshold]
  simp only [openSink_console hfile, layoutOf_of_not_lined h, Except.map]

end Log.Setup

namespace Command

/-- **A log is set up from accepted settings exactly if its lines can be written.** Let settings of a log that
name no file be accepted. If they are structured, or their format is empty or has a named field, the log writes
to the console from its level on, in the layout that is asked for. Otherwise the format is refused as a
template, and a run under such settings ends with that fault. The files stay as they are. -/
theorem accepted_log_starts_or_fieldless {d : Data} {l : Logging} (hd : Logging.decode d = .ok l)
    (hfile : l.filename = none) (q : ProbeRequest) :
    (l.Lined → ∃ threshold, Level.ofName? (logRequest q l).level = some threshold ∧
      ∀ fs, Setup.configure (logRequest q l) fs =
        (.ok { threshold, handler := some ⟨.console, l.layout⟩ }, fs)) ∧
    (¬ l.Lined →
      (∀ fs, Setup.configure (logRequest q l) fs = (.error (.template l.format), fs)) ∧
      ∀ w s, Effective w q s → s.logging = l → runProbe w q = .error (.setup (.template l.format))) := by
  have hlevel := Logging.known_of_decode hd
  constructor
  · intro h
    exact Setup.configure_of_lined hlevel hfile h
  · intro h
    refine ⟨Setup.configure_of_not_lined hlevel hfile h, ?_⟩
    rintro w s hs rfl
    exact runProbe_of_unlogged hs (congrArg Prod.fst (Setup.configure_of_not_lined hlevel hfile h w.files))

/-- Settings in which nothing is said of the log give the usual one, which writes to the console from warnings
on. -/
theorem accepted_log_starts_by_default :
    Logging.decode (.record []) = .ok {} ∧ ({} : Logging).filename = none ∧
      Setup.configure (logRequest encodedRequest {}) .empty =
        (.ok { threshold := 30, handler := some ⟨.console, .plain ({} : Logging).format⟩ }, .empty) := by
  have hlined : ({} : Logging).Lined := .inr (.inr (Layout.isTemplate_iff.1 Setup.usual_isTemplate))
  obtain ⟨threshold, hthreshold, hconfigure⟩ :=
    (accepted_log_starts_or_fieldless (d := .record []) rfl rfl encodedRequest).1 hlined
  cases hthreshold
  exact ⟨rfl, rfl, hconfigure .empty⟩

/-- Settings in which the lines of the log are a greeting. -/
def greetingData : Data := .record [("logging", .record [("format", .text "hello")])]

/-- A file that holds them. -/
def greeting : Surroundings :=
  plain (Files.empty.put ["c.json"] (.file "\x7b\"logging\": \x7b\"format\": \"hello\"\x7d\x7d".toUTF8))

/-- A run under the settings in that file. -/
def greetingRequest : ProbeRequest where
  registry := "r.json"
  config := some "c.json"

theorem effective_greeting : Effective greeting greetingRequest { logging := { format := "hello" } } := by
  have hplain : Json.Within 100 greetingData := ⟨⟨⟨trivial, trivial⟩, trivial⟩, by decide⟩
  have hwritten : Json.write 100 .line greetingData =
      .ok "\x7b\"logging\": \x7b\"format\": \"hello\"\x7d\x7d" := by
    unfold Json.write greetingData Data.record
    simp only [List.map, Json.writeAt, Json.writeEntries]
    rfl
  have hload : Document.load greeting.room.settings greeting.files (Path.ofText "c.json") =
      .ok [(.text "logging", .map [(.text "format", .text "hello")])] :=
    Document.load_of_written rfl rfl rfl hplain hwritten (by decide) rfl
  exact ⟨_, _, .named rfl (by decide) hload, rfl, nofun, nofun, rfl⟩

/-- **The format `hello` is accepted, and no log is set up from it.** A run under a file of settings with this
format ends in the fault of the log, not with the exit code of an error. -/
theorem fieldless_format_escapes :
    (∃ d, Logging.decode d = .ok { format := "hello" }) ∧
      (∀ fs, Setup.configure (logRequest greetingRequest { format := "hello" }) fs =
        (.error (.template "hello"), fs)) ∧
      runProbe greeting greetingRequest = .error (.setup (.template "hello")) := by
  have hlevel : ({ format := "hello" } : Logging).level ∈ Logging.levels := by decide
  have hbare : ¬ ({ format := "hello" } : Logging).Lined := by
    rintro (h | h | h)
    · cases h
    · cases h
    · exact absurd (Layout.isTemplate_iff.2 h) (by decide)
  have hrefused : ∀ fs, Setup.configure (logRequest greetingRequest { format := "hello" }) fs =
      (.error (.template "hello"), fs) := Setup.configure_of_not_lined hlevel rfl hbare
  exact ⟨Logging.accepted_iff.2 hlevel, hrefused,
    runProbe_of_unlogged effective_greeting (congrArg Prod.fst (hrefused greeting.files))⟩

end Command

end ExtensionProbe
