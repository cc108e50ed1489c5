import ExtensionProbe.Command.Execute
import ExtensionProbe.Proofs.JsonDocument
import ExtensionProbe.Proofs.Reload

/-!
# Where settings come from

The settings of a command are those of a file, under a host version from the surroundings that fills a gap,
under the command line. Each source has its own way of saying nothing: a file leaves a field out or holds
null for it, a variable and a text on the command line are empty, a number is not given.

* `given_eq_some_iff`, `given_eq_none_iff`: when a text of the surroundings or the command line says
  something.
* `load_eq_ok_iff`: settings are loaded exactly if the entries of their file are accepted.
* `settings_eq_ok_iff`: which settings a command has.
* `settings_by_precedence`: **when a command has settings, and from which source each of them is.**
-/

namespace ExtensionProbe

open Checked Decode

namespace Settings

variable {o : Option Text} {t : Text} {levels : Levels} {fs : Files} {config : Option Text}
  {es : List (Data × Data)} {f s : Settings} {environment : Option Text}

/-- A text that says nothing: it is missing or empty. -/
def Silent (o : Option Text) : Prop := o = none ∨ o = some []

theorem given_eq_some_iff : Text.given o = some t ↔ o = some t ∧ t ≠ [] := by
  simp [Text.given, Option.filter_eq_some_iff]

theorem given_eq_none_iff : Text.given o = none ↔ Silent o := by
  cases o with
  | none => simp [Text.given, Silent]
  | some u => simp [Text.given, Silent]

/-! ## The file -/

/-- The entries that settings are read from: those of the file that is named; if none is, those of the usual
one, and none if that is missing. -/
inductive Entries (levels : Levels) (fs : Files) (config : Option Text) : List (Data × Data) → Prop
  | named {name : Text} {es : List (Data × Data)} (hname : config = some name) (hne : name ≠ [])
      (hload : Document.load levels fs (Path.ofText name) = .ok es) : Entries levels fs config es
  | usual {es : List (Data × Data)} (hname : Silent config)
      (hload : Document.load levels fs (Path.ofText defaultFile) = .ok es) : Entries levels fs config es
  | missing (hname : Silent config) (hnone : fs.look (Path.ofText defaultFile) = .ok none) :
    Entries levels fs config []

theorem exist_of_load {p : Path} (h : Document.load levels fs p = .ok es) : fs.exist p = .ok true := by
  unfold Document.load at h
  split at h <;> first | cases h | assumption

theorem exist_eq_false_iff {p : Path} : fs.exist p = .ok false ↔ fs.look p = .ok none := by
  unfold Files.exist
  cases fs.look p with
  | error e => exact iff_of_false nofun nofun
  | ok entry => cases entry <;> simp [Functor.map, Except.map]

theorem decode_nothing : decode (.map []) = .ok {} := rfl

theorem ofFile_eq_ok_iff {p : Path} :
    ofFile levels fs p = .ok f ↔
      ∃ es, Document.load levels fs p = .ok es ∧ decode (.map es) = .ok f := by
  unfold ofFile
  cases Document.load levels fs p with
  | error e => exact iff_of_false nofun fun ⟨es, h, _⟩ => nomatch h
  | ok es =>
    simp only [Except.ok.injEq, exists_eq_left']
    change (decode (.map es)).mapError SettingsError.invalid = .ok f ↔ _
    cases decode (.map es) <;> simp [Except.mapError]

theorem load_named {p : Path} :
    load levels fs (some p) environment = .ok s ↔
      ∃ f, ofFile levels fs p = .ok f ∧ s = f.withSurroundings environment := by
  unfold load
  cases h : ofFile levels fs p with
  | error e => simp only [h]; exact iff_of_false nofun fun ⟨f, hf, _⟩ => nomatch hf
  | ok f => simp only [h, bind, Except.bind, pure, Except.pure, Except.ok.injEq, exists_eq_left', eq_comm]

theorem load_usual :
    load levels fs none environment = .ok s ↔
      (∃ f, fs.exist (Path.ofText defaultFile) = .ok true ∧
        ofFile levels fs (Path.ofText defaultFile) = .ok f ∧ s = f.withSurroundings environment) ∨
      fs.exist (Path.ofText defaultFile) = .ok false ∧ s = withSurroundings {} environment := by
  unfold load
  cases hx : fs.exist (Path.ofText defaultFile) with
  | error e => simp [hx, bind, Except.bind]
  | ok found =>
    cases found with
    | false => simp [hx, bind, Except.bind, pure, Except.pure, eq_comm]
    | true =>
      cases h : ofFile levels fs (Path.ofText defaultFile) <;>
        simp [hx, h, bind, Except.bind, pure, Except.pure, eq_comm]

/-- Settings are loaded exactly if their file has entries that are accepted. -/
theorem load_eq_ok_iff :
    load levels fs ((Text.given config).map Path.ofText) environment = .ok s ↔
      ∃ es f, Entries levels fs config es ∧ decode (.map es) = .ok f ∧ s = f.withSurroundings environment := by
  cases hg : Text.given config with
  | some name =>
    obtain ⟨hname, hne⟩ := given_eq_some_iff.1 hg
    have hspeaks : ¬ Silent config := by rw [← given_eq_none_iff, hg]; nofun
    rw [Option.map_some, load_named]
    constructor
    · rintro ⟨f, hf, rfl⟩
      obtain ⟨es, hes, hd⟩ := ofFile_eq_ok_iff.1 hf
      exact ⟨es, f, .named hname hne hes, hd, rfl⟩
    · rintro ⟨es, f, hes, hd, rfl⟩
      refine ⟨f, ofFile_eq_ok_iff.2 ⟨es, ?_, hd⟩, rfl⟩
      cases hes with
      | named hname' _ hload => cases hname.symm.trans hname'; exact hload
      | usual hs _ => exact absurd hs hspeaks
      | missing hs _ => exact absurd hs hspeaks
  | none =>
    have hs := given_eq_none_iff.1 hg
    rw [Option.map_none, load_usual]
    constructor
    · rintro (⟨f, -, hf, rfl⟩ | ⟨hnone, rfl⟩)
      · obtain ⟨es, hes, hd⟩ := ofFile_eq_ok_iff.1 hf
        exact ⟨es, f, .usual hs hes, hd, rfl⟩
      · exact ⟨[], {}, .missing hs (exist_eq_false_iff.1 hnone), decode_nothing, rfl⟩
    · rintro ⟨es, f, hes, hd, rfl⟩
      cases hes with
      | named hname hne _ =>
        exact absurd (given_eq_some_iff.2 ⟨hname, hne⟩) (by rw [hg]; nofun)
      | usual _ hload => exact .inl ⟨f, exist_of_load hload, ofFile_eq_ok_iff.2 ⟨es, hload, hd⟩, rfl⟩
      | missing _ hnone =>
        cases decode_nothing.symm.trans hd
        exact .inr ⟨exist_eq_false_iff.2 hnone, rfl⟩

theorem not_silent {name : Text} (h : config = some name) (hne : name ≠ []) : ¬ Silent config := by
  rintro (h' | h')
  · cases h.symm.trans h'
  · exact hne (Option.some.inj (h.symm.trans h'))

/-- There is one row of entries at most that settings are read from. -/
theorem Entries.unique {es' : List (Data × Data)} (h : Entries levels fs config es)
    (h' : Entries levels fs config es') : es = es' := by
  cases h with
  | named hname hne hload =>
    cases h' with
    | named hname' _ hload' =>
      cases hname.symm.trans hname'
      exact Except.ok.inj (hload.symm.trans hload')
    | usual hs _ => exact absurd hs (not_silent hname hne)
    | missing hs _ => exact absurd hs (not_silent hname hne)
  | usual hs hload =>
    cases h' with
    | named hname hne _ => exact absurd hs (not_silent hname hne)
    | usual _ hload' => exact Except.ok.inj (hload.symm.trans hload')
    | missing _ hnone => cases (exist_of_load hload).symm.trans (exist_eq_false_iff.2 hnone)
  | missing hs hnone =>
    cases h' with
    | named hname hne _ => exact absurd hs (not_silent hname hne)
    | usual _ hload => cases (exist_of_load hload).symm.trans (exist_eq_false_iff.2 hnone)
    | missing _ _ => rfl

/-- A field that is read from entries: the usual value if it is left out, else what is made of it. -/
def FieldIs {α : Type} (es : List (Data × Data)) (name : String) (usual : α)
    (decode : Data → Checked α) (x : α) : Prop :=
  (Data.lookup es name = none ∧ usual = x) ∨ ∃ d, Data.lookup es name = some d ∧ decode d = .ok x

/-- Settings as their entries have them. A host version is left open by entries without it and by null, and
by nothing else. -/
structure ReadFrom (es : List (Data × Data)) (f : Settings) : Prop where
  capability : FieldIs es "capability" strategyCapability nonEmptyText f.capability
  hostVersion : FieldIs es "host_version" none decodeHostVersion f.hostVersion
  hostVersion_open : f.hostVersion = none ↔
    Data.lookup es "host_version" = none ∨ Data.lookup es "host_version" = some .null
  leastExtensions : FieldIs es "min_extensions" 1 decodeLeast f.leastExtensions
  checks : FieldIs es "checks" Check.defaults Check.decodeAll f.checks
  logging : FieldIs es "logging" {} Logging.decode f.logging

theorem decodeHostVersion_eq_none_iff {d : Data} : decodeHostVersion d = .ok none ↔ d = .null := by
  constructor
  · intro h
    cases d with
    | null => rfl
    | int n =>
      unfold decodeHostVersion at h
      simp only at h
      split at h <;> cases h
    | text t => cases h
    | bytes b =>
      obtain ⟨t, -, ht⟩ := map_eq_ok_iff.1 h
      cases ht
    | _ => cases h
  · rintro rfl
    rfl

theorem readFrom_of_decode (h : decode (.map es) = .ok f) : ReadFrom es f := by
  unfold decode at h
  obtain ⟨p, hp, rfl⟩ := map_eq_ok_iff.1 h
  obtain ⟨-, hparts, -⟩ := closed_eq_ok_iff.1 hp
  obtain ⟨hcapability, hparts⟩ := both_eq_ok_iff.1 hparts
  obtain ⟨hhost, hparts⟩ := both_eq_ok_iff.1 hparts
  obtain ⟨hleast, hparts⟩ := both_eq_ok_iff.1 hparts
  obtain ⟨hchecks, hlogging⟩ := both_eq_ok_iff.1 hparts
  refine ⟨withDefault_eq_ok_iff.1 hcapability, withDefault_eq_ok_iff.1 hhost, ?_,
    withDefault_eq_ok_iff.1 hleast, withDefault_eq_ok_iff.1 hchecks, withDefault_eq_ok_iff.1 hlogging⟩
  rcases withDefault_eq_ok_iff.1 hhost with ⟨hnone, hopen⟩ | ⟨d, hd, hdecode⟩
  · exact iff_of_true hopen.symm (.inl hnone)
  · rw [hd]
    simp only [reduceCtorEq, false_or, Option.some.injEq]
    rw [← decodeHostVersion_eq_none_iff, hdecode, Except.ok.injEq]

/-! ## Over the file -/

/-- The capability on a command line, if there is one, is a string: it has no halves. -/
def CapabilityAllowed (o : Overrides) : Prop := ∀ t, o.capability = some t → ∃ name : String, t = name

theorem capabilityAllowed_of_string {o : Overrides} {name : Option String}
    (h : o.capability = name.map Text.ofString) : CapabilityAllowed o := by
  intro t ht
  obtain ⟨s, -, hs⟩ := Option.map_eq_some_iff.1 (h.symm.trans ht)
  exact ⟨s, hs.symm⟩

/-- The number on a command line, if there is one, is at least one. -/
def LeastAllowed (o : Overrides) : Prop := ∀ n, o.leastExtensions = some n → 1 ≤ n

theorem checkGiven_eq_ok_iff {α : Type} {name : String} {decode : Data → Checked α} {d : Option Data} :
    checkGiven name decode d = .ok () ↔ ∀ value, d = some value → ∃ x, decode value = .ok x := by
  cases d with
  | none => exact iff_of_true rfl nofun
  | some value =>
    simp only [checkGiven, map_eq_ok_iff, under_eq_ok_iff, and_true, Option.some.injEq, forall_eq']

theorem nonEmptyText_text_iff (hne : t ≠ []) :
    (∃ name, nonEmptyText (.text t) = .ok name) ↔ ∃ name : String, t = name := by
  constructor
  · rintro ⟨name, h⟩
    refine ⟨name, Text.toString?_eq_some_iff.1 ?_⟩
    have hname := (nonEmptyText_eq_ok_iff.1 h).1
    simp only [string, Decode.text, bind, Except.bind] at hname
    split at hname
    · next name' hname' =>
      rw [hname', Except.ok.inj hname]
    · cases hname
  · rintro ⟨name, rfl⟩
    refine ⟨name, nonEmptyText_text ?_⟩
    rintro rfl
    exact hne rfl

theorem capabilityAllowed_iff {o : Overrides} :
    CapabilityAllowed o ↔
      checkGiven "capability" nonEmptyText ((Text.given o.capability).map .text) = .ok () := by
  rw [checkGiven_eq_ok_iff]
  constructor
  · intro h value hvalue
    obtain ⟨t, ht, rfl⟩ := Option.map_eq_some_iff.1 hvalue
    obtain ⟨ht, hne⟩ := given_eq_some_iff.1 ht
    exact (nonEmptyText_text_iff hne).2 (h t ht)
  · intro h t ht
    by_cases hne : t = []
    · exact ⟨"", hne⟩
    · refine (nonEmptyText_text_iff hne).1 (h _ ?_)
      rw [given_eq_some_iff.2 ⟨ht, hne⟩, Option.map_some]

theorem decodeLeast_int (n : Int) : decodeLeast (.int n) = if n < 1 then issue .tooSmall else .ok n := rfl

theorem leastAllowed_iff {o : Overrides} :
    LeastAllowed o ↔ checkGiven "min_extensions" decodeLeast (o.leastExtensions.map .int) = .ok () := by
  rw [checkGiven_eq_ok_iff]
  constructor
  · intro h value hvalue
    obtain ⟨n, hn, rfl⟩ := Option.map_eq_some_iff.1 hvalue
    exact ⟨n, (decodeLeast_int n).trans (if_neg (Int.not_lt.2 (h n hn)))⟩
  · intro h n hn
    obtain ⟨m, hm⟩ := h (.int n) (by rw [hn, Option.map_some])
    rw [decodeLeast_int] at hm
    split at hm
    · cases hm
    · omega

theorem overrideChecked_eq_ok_iff {o : Overrides} :
    f.overrideChecked o = .ok s ↔ CapabilityAllowed o ∧ LeastAllowed o ∧ s = f.override o := by
  rw [capabilityAllowed_iff, leastAllowed_iff]
  constructor
  · intro h
    obtain ⟨_, hcapability, h⟩ := exists_of_bind_eq_ok h
    obtain ⟨_, hleast, h⟩ := exists_of_bind_eq_ok h
    exact ⟨hcapability, hleast, (Except.ok.inj h).symm⟩
  · rintro ⟨hcapability, hleast, rfl⟩
    unfold overrideChecked
    rw [hcapability, hleast]
    rfl

/-- Settings by precedence: `f` as the file has them, under the host version that the surroundings tell, under
a command line. -/
structure Ruled (f : Settings) (environment : Option Text) (o : Overrides) (s : Settings) : Prop where
  host_line : ∀ t, o.hostVersion = some t → t ≠ [] → s.hostVersion = some t
  host_file : Silent o.hostVersion → ∀ t, f.hostVersion = some t → s.hostVersion = some t
  host_environment : Silent o.hostVersion → f.hostVersion = none → ∀ t, environment = some t → t ≠ [] →
    s.hostVersion = some t
  host_unknown : Silent o.hostVersion → f.hostVersion = none → Silent environment → s.hostVersion = none
  capability_line : ∀ t, o.capability = some t → t ≠ [] → Text.ofString s.capability = t
  capability_file : Silent o.capability → s.capability = f.capability
  least_line : ∀ n, o.leastExtensions = some n → s.leastExtensions = n
  least_file : o.leastExtensions = none → s.leastExtensions = f.leastExtensions
  checks : s.checks = f.checks
  logging : s.logging = f.logging

theorem given_of_speaking (h : o = some t) (hne : t ≠ []) : Text.given o = some t :=
  given_eq_some_iff.2 ⟨h, hne⟩

theorem withSurroundings_eq (f : Settings) (environment : Option Text) :
    f.withSurroundings environment =
      { f with hostVersion := f.hostVersion.or (Text.given environment) } := by
  obtain ⟨capability, hostVersion, least, checks, logging⟩ := f
  cases hostVersion <;> rfl

theorem ruled_override (f : Settings) (environment : Option Text) {o : Overrides}
    (ho : CapabilityAllowed o) : Ruled f environment o ((f.withSurroundings environment).override o) := by
  rw [withSurroundings_eq]
  refine ⟨?_, ?_, ?_, ?_, ?_, ?_, ?_, ?_, rfl, rfl⟩
  · intro t h hne
    simp [override, given_of_speaking h hne]
  · intro hs t ht
    simp [override, given_eq_none_iff.2 hs, ht]
  · intro hs hopen t h hne
    simp [override, given_eq_none_iff.2 hs, hopen, given_of_speaking h hne]
  · intro hs hopen henv
    simp [override, given_eq_none_iff.2 hs, hopen, given_eq_none_iff.2 henv]
  · intro t h hne
    obtain ⟨name, rfl⟩ := ho t h
    simp [override, given_of_speaking h hne]
  · intro hs
    simp [override, given_eq_none_iff.2 hs]
  · intro n hn
    simp [override, hn]
  · intro hn
    simp [override, hn]

end Settings

namespace Command

open Settings

variable {w : Surroundings} {config : Option Text} {o : Overrides} {s : Settings}

/-- The settings of a command: those of its file, under the surroundings, under the command line. -/
theorem settings_eq_ok_iff :
    settings w config o = .ok s ↔
      ∃ es f, Entries w.room.settings w.files config es ∧ decode (.map es) = .ok f ∧
        CapabilityAllowed o ∧ LeastAllowed o ∧ s = (f.withSurroundings w.hostVersion).override o := by
  constructor
  · intro h
    obtain ⟨b, hb, hs⟩ := exists_of_bind_eq_ok h
    obtain ⟨es, f, hes, hd, rfl⟩ := load_eq_ok_iff.1 (eq_ok_of_mapError hb)
    exact ⟨es, f, hes, hd, overrideChecked_eq_ok_iff.1 (eq_ok_of_mapError hs)⟩
  · rintro ⟨es, f, hes, hd, hallowed⟩
    unfold settings
    simp only [load_eq_ok_iff.2 ⟨es, f, hes, hd, rfl⟩, Except.mapError, bind, Except.bind,
      overrideChecked_eq_ok_iff.2 hallowed]

theorem exists_settings_iff : (∃ s, settings w config o = .ok s) ↔
    (∃ es f, Entries w.room.settings w.files config es ∧ decode (.map es) = .ok f) ∧
      CapabilityAllowed o ∧ LeastAllowed o := by
  constructor
  · rintro ⟨s, hs⟩
    obtain ⟨es, f, hes, hd, hcapability, hleast, -⟩ := settings_eq_ok_iff.1 hs
    exact ⟨⟨es, f, hes, hd⟩, hcapability, hleast⟩
  · rintro ⟨⟨es, f, hes, hd⟩, hcapability, hleast⟩
    exact ⟨_, settings_eq_ok_iff.2 ⟨es, f, hes, hd, hcapability, hleast, rfl⟩⟩

/-- **Settings by precedence.** Where the capability on its command line is any string, a command has settings
exactly if the entries of its file are accepted and the number on its command line is at least one, whatever else
the command line and the surroundings say. A capability with a half, which is no string, is the only other thing
that is refused. Each setting is then the one of the command line if that says anything, else that of the file,
and a host version that both leave open is the one of the surroundings. -/
theorem settings_by_precedence (w : Surroundings) (config : Option Text) (o : Overrides) :
    (∀ name : Option String, o.capability = name.map Text.ofString →
      ((∃ s, settings w config o = .ok s) ↔
        (∃ es f, Entries w.room.settings w.files config es ∧ decode (.map es) = .ok f) ∧ LeastAllowed o)) ∧
    ((∃ s, settings w config o = .ok s) ↔
      (∃ es f, Entries w.room.settings w.files config es ∧ decode (.map es) = .ok f) ∧
        CapabilityAllowed o ∧ LeastAllowed o) ∧
    ∀ es f, Entries w.room.settings w.files config es → decode (.map es) = .ok f →
      ReadFrom es f ∧ ∀ s, settings w config o = .ok s → Ruled f w.hostVersion o s := by
  refine ⟨fun name hname => ?_, exists_settings_iff, ?_⟩
  · rw [exists_settings_iff, and_iff_right (capabilityAllowed_of_string hname)]
  · intro es f hes hd
    refine ⟨readFrom_of_decode hd, ?_⟩
    intro s hs
    obtain ⟨es', f', hes', hd', hcapability, -, rfl⟩ := settings_eq_ok_iff.1 hs
    cases hes.unique hes'
    cases hd.symm.trans hd'
    exact ruled_override f w.hostVersion hcapability

/-- A mapping with an empty host version and a capability. -/
def emptyHostData : Data := .record [("host_version", .text ""), ("capability", .text "a")]

/-- Surroundings with these files: a console of eighty columns that writes no halves and knows no names of
characters, and room for a hundred levels everywhere. -/
def plain (files : Files) : Surroundings where
  files
  console := ⟨80, fun _ => false, fun _ => false⟩
  room := ⟨⟨100, 100⟩, ⟨100, 100⟩, 100, 100⟩

/-- A file that holds it, in surroundings that tell a host version. -/
def emptyHost : Surroundings :=
  { plain (Files.empty.put ["c.json"] (.file
      "\x7b\"host_version\": \"\", \"capability\": \"a\"\x7d".toUTF8)) with
    hostVersion := some "2.530" }

/-- An empty host version of the file counts; an empty capability of the command line does not. -/
theorem settings_by_precedence_emptyHost :
    ∃ s, settings emptyHost (some "c.json") ⟨some [], none, some 2⟩ = .ok s ∧
      s.hostVersion = some [] ∧ s.capability = "a" ∧ s.leastExtensions = 2 := by
  have hplain : Json.Within 100 emptyHostData := ⟨⟨trivial, trivial, trivial⟩, by decide⟩
  have hwritten : Json.write 100 .line emptyHostData =
      .ok "\x7b\"host_version\": \"\", \"capability\": \"a\"\x7d" := by
    unfold Json.write emptyHostData Data.record
    simp only [List.map, Json.writeAt, Json.writeEntries]
    rfl
  have hload : Document.load emptyHost.room.settings emptyHost.files (Path.ofText "c.json") =
      .ok [(.text "host_version", .text ""), (.text "capability", .text "a")] :=
    Document.load_of_written rfl rfl rfl hplain hwritten (by decide) rfl
  have hes : Entries emptyHost.room.settings emptyHost.files (some "c.json")
      [(.text "host_version", .text ""), (.text "capability", .text "a")] :=
    .named rfl (by decide) hload
  have hd : decode (.map [(.text "host_version", .text ""), (.text "capability", .text "a")]) =
      .ok { capability := "a", hostVersion := some "" } := rfl
  obtain ⟨hsettings, -, hruled⟩ := settings_by_precedence emptyHost (some "c.json") ⟨some [], none, some 2⟩
  obtain ⟨s, hs⟩ := (hsettings (some "") rfl).2 ⟨⟨_, _, hes, hd⟩, fun n hn => by cases hn; decide⟩
  have h := (hruled _ _ hes hd).2 s hs
  exact ⟨s, hs, h.host_file (.inl rfl) _ rfl, h.capability_file (.inr rfl), h.least_line 2 rfl⟩

end Command

end ExtensionProbe
