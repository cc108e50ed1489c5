import ExtensionProbe.Proofs.Reload
import ExtensionProbe.Schema.Assign

/-!
# Runs of assignments

Settings that were checked are assigned to, along one way after another, with any values. A field of the
settings takes what it takes when settings are read; a field of the logging section takes anything; nothing
else changes, whatever is assigned to it. This goes for ways of names that fields may have. There is a name
for all that a record holds, which starts with an underscore as no field does: what is assigned to it is
checked by nothing.

* `Draft.Frozen.assign_eq`: a value without settings in it is the same after any assignment.
* `SettingsState.assigned`: what an assignment may do, by its way.
* `SettingsState.Assigned.refused`: one that is refused does nothing.
* `SettingsState.Assigned.exists_state`: what holds of settings that were checked holds after an assignment.
* `Draft.assignments_checked`: **any run of assignments keeps settings in order, and what each assignment
  does.**
* `Draft.held_replaced`: one assignment to all that settings hold.
-/

namespace ExtensionProbe

open Checked Decode

variable {α : Type} {name other : String} {way : List String} {value : Data}

/-! ## Names -/

/-- A way of names that fields may have: none of them starts with an underscore. -/
def PlainWay (way : List String) : Prop := ∀ step ∈ way, isBeside step = false

theorem PlainWay.head (h : PlainWay (name :: way)) : isBeside name = false := h name List.mem_cons_self

theorem PlainWay.tail (h : PlainWay (name :: way)) : PlainWay way :=
  fun step hstep => h step (List.mem_cons_of_mem name hstep)

theorem not_told_of_field (h : name ∈ RecordKind.settings.fieldNames) :
    isBeside name = false ∧ toldNames.contains name = false := by
  simp only [RecordKind.fieldNames, List.mem_cons, List.not_mem_nil, or_false] at h
  rcases h with rfl | rfl | rfl | rfl | rfl <;> exact ⟨by decide, by decide⟩

theorem Decode.withDefault_single {default : α} {decode : Data → Checked α} :
    withDefault [(.text name, value)] other default decode =
      if name = other then under (.field other) (decode value) else .ok default := by
  unfold withDefault
  by_cases h : name = other <;> simp [Data.lookup, Data.sameKey_text, h]

namespace Draft

variable {d e part : Draft} {held : List (Data × Draft)} {step : String}

/-! ## Parts -/

theorem exists_of_find? (h : find? held name = some part) :
    ∃ key, (key, part) ∈ held ∧ key.sameKey (.text name) = true := by
  obtain ⟨entry, hentry, rfl⟩ := Option.map_eq_some_iff.1 h
  have hkey := List.find?_some hentry
  exact ⟨entry.1, List.mem_of_find?_eq_some hentry, hkey⟩

theorem exists_of_follow {kind : RecordKind} {origin : Origin}
    (h : (record kind origin held).follow step = .ok part) :
    ∃ key, (key, part) ∈ held ∧ key.sameKey (.text step) = true := by
  unfold follow at h
  split at h
  · cases h
  · unfold Draft.part at h
    simp only at h
    split at h
    · next hpart =>
      cases h
      exact exists_of_find? hpart
    · cases h

theorem mem_of_follow_named {kind : RecordKind} {fields : List (String × Draft)}
    (h : (named kind fields).follow step = .ok part) : (step, part) ∈ fields := by
  obtain ⟨key, hmem, hkey⟩ := exists_of_follow h
  obtain ⟨f, hf, heq⟩ := List.mem_map.1 hmem
  cases heq
  rw [Data.sameKey_text, beq_iff_eq, Text.ofString_inj] at hkey
  rwa [← hkey]

theorem put_of_find? (h : find? held name = some part) : put held (.text name) part = held := by
  induction held with
  | nil => cases h
  | cons entry rest ih =>
    unfold find? at h
    rw [List.find?_cons] at h
    unfold put
    cases hkey : entry.1.sameKey (.text name) with
    | true =>
      rw [hkey] at h
      cases h
      rfl
    | false =>
      rw [hkey] at h
      simp only [Bool.false_eq_true, if_false, ih h]

/-- A value is the same if a part of it is replaced by itself. -/
theorem replace_of_follow (h : d.follow step = .ok part) : d.replace step part = d := by
  unfold follow at h
  unfold replace
  cases hindex : index? step with
  | some index =>
    rw [hindex] at h
    cases d with
    | row fixed items =>
      unfold item at h
      simp only at h ⊢
      split at h
      · next hpart =>
        cases h
        obtain ⟨hlt, heq⟩ := List.getElem?_eq_some_iff.1 hpart
        rw [← heq, List.set_getElem_self]
      · cases h
    | record | outcome | plain => rfl
  | none =>
    rw [hindex] at h
    cases d with
    | record kind origin held =>
      unfold Draft.part at h
      simp only at h ⊢
      split at h
      · next hpart =>
        cases h
        rw [put_of_find? hpart]
      · cases h
    | row | outcome | plain => rfl

/-! ## Frozen values -/

/-- A value that has no settings and no logging section in it. -/
inductive Frozen : Draft → Prop
  | record {kind : RecordKind} {origin : Origin} {held : List (Data × Draft)}
    (hkind : kind ≠ .settings ∧ kind ≠ .logging) (h : ∀ entry ∈ held, Frozen entry.2) :
    Frozen (.record kind origin held)
  | row {fixed : Bool} {items : List Draft} (h : ∀ item ∈ items, Frozen item) : Frozen (.row fixed items)
  | outcome (o : Outcome) : Frozen (.outcome o)
  | plain (d : Data) : Frozen (.plain d)

theorem Frozen.ofPolicy (p : Policy) : (ofPolicy p).Frozen := by
  have hkind : p.kind.recordKind ≠ .settings ∧ p.kind.recordKind ≠ .logging := by
    cases p.kind <;> decide
  exact .record hkind (by simp [ofText, Frozen.plain])

theorem Frozen.ofOption {o : Option Draft} (h : ∀ d ∈ o, d.Frozen) : (ofOption o).Frozen := by
  cases o with
  | none => exact .plain _
  | some d => exact h d rfl

theorem Frozen.ofGate (g : Gate) : (ofGate g).Frozen :=
  .record (by decide) (by simp [ofNat, Frozen.plain])

theorem Frozen.ofCheck (c : Check) : (ofCheck c).Frozen := by
  have hgate : (Draft.ofOption (c.gate.map Draft.ofGate)).Frozen := by
    refine .ofOption fun d hd => ?_
    obtain ⟨g, -, rfl⟩ := Option.map_eq_some_iff.1 hd
    exact .ofGate g
  exact .record (by decide) (by simp [ofText, Frozen.plain, Frozen.ofPolicy, hgate])

theorem Frozen.of_follow (hd : d.Frozen) (h : d.follow step = .ok part) : part.Frozen := by
  cases hd with
  | record hkind hheld =>
    obtain ⟨key, hkey, -⟩ := exists_of_follow h
    exact hheld _ hkey
  | row hitems =>
    unfold follow item at h
    split at h
    · simp only at h
      split at h
      · next hpart =>
        cases h
        exact hitems _ (List.mem_of_getElem? hpart)
      · cases h
    · cases h
  | outcome | plain =>
    unfold follow at h
    split at h
    · obtain ⟨d, -, rfl⟩ := exists_of_map_eq_ok h
      exact .plain d
    · cases h

theorem Frozen.set_eq (hd : d.Frozen) (hname : isBeside name = false) (value : Data) :
    (d.set name value).1 = d := by
  cases hd with
  | record hkind hheld => rw [set_frozen hkind hname]
  | outcome | row | plain => rfl

/-- **A value without settings in it is the same after any assignment.** -/
theorem Frozen.assign_eq (hd : d.Frozen) (hway : PlainWay way) (value : Data) : (d.assign value way).1 = d := by
  -- along the way each part of a frozen value is frozen, and is put back where it was
  induction way generalizing d with
  | nil => rfl
  | cons step rest ih =>
    cases rest with
    | nil => exact hd.set_eq hway.head value
    | cons next more =>
      cases hfollow : d.follow step with
      | error e => rw [assign_of_not_follow value hfollow]
      | ok part =>
        rw [assign_of_follow value hfollow, ih (hd.of_follow hfollow) hway.tail]
        exact replace_of_follow hfollow

end Draft

/-! ## Settings under assignment -/

/-- A logging section under assignment: it holds whatever it was given. -/
structure LoggingState where
  level : Data
  format : Data
  structured : Data
  filename : Data

namespace LoggingState

/-- A logging section that was checked. -/
def ofLogging (l : Logging) : LoggingState :=
  ⟨.text l.level, .text l.format, .bool l.structured, .ofOption l.filename⟩

/-- A logging section as a record. -/
def draft (l : LoggingState) : Draft :=
  .named .logging [("level", .plain l.level), ("format", .plain l.format),
    ("structured", .plain l.structured), ("filename", .plain l.filename)]

theorem draft_ofLogging (l : Logging) : (ofLogging l).draft = .ofLogging l := rfl

/-- A logging section with another value for a field. -/
def put (l : LoggingState) (name : String) (value : Data) : LoggingState :=
  match name with
  | "level" => { l with level := value }
  | "format" => { l with format := value }
  | "structured" => { l with structured := value }
  | "filename" => { l with filename := value }
  | _ => l

end LoggingState

/-- Settings under assignment: their fields are checked, but for those of the logging section. -/
structure SettingsState where
  capability : String
  hostVersion : Option Text
  leastExtensions : Int
  checks : List Check
  logging : LoggingState

namespace SettingsState

/-- Settings that were checked. -/
def ofSettings (s : Settings) : SettingsState :=
  ⟨s.capability, s.hostVersion, s.leastExtensions, s.checks, .ofLogging s.logging⟩

/-- The fields of settings. -/
def fields (s : SettingsState) : List (String × Draft) :=
  [("capability", .ofText s.capability), ("host_version", .plain (.ofOption s.hostVersion)),
    ("min_extensions", .plain (.int s.leastExtensions)), ("checks", .row false (s.checks.map .ofCheck)),
    ("logging", s.logging.draft)]

/-- Settings as a record. -/
def draft (s : SettingsState) : Draft := .named .settings s.fields

theorem draft_ofSettings (g : Settings) : (ofSettings g).draft = .ofSettings g := rfl

/-- Settings with one field as other settings have it. -/
def take (name : String) (g : Settings) (s : SettingsState) : SettingsState :=
  match name with
  | "capability" => { s with capability := g.capability }
  | "host_version" => { s with hostVersion := g.hostVersion }
  | "min_extensions" => { s with leastExtensions := g.leastExtensions }
  | "checks" => { s with checks := g.checks }
  | "logging" => { s with logging := .ofLogging g.logging }
  | _ => s

end SettingsState

namespace LoggingState

open Draft

/-- A field of a logging section takes any value. -/
theorem set_field (h : name ∈ RecordKind.logging.fieldNames) (l : LoggingState) (value : Data) :
    l.draft.set name value = ((l.put name value).draft, none) := by
  have hmem : RecordKind.logging.fieldNames.contains name = true := List.contains_iff_mem.2 h
  have hbeside : isBeside name = false := by
    simp only [RecordKind.fieldNames, List.mem_cons, List.not_mem_nil, or_false] at h
    rcases h with rfl | rfl | rfl | rfl <;> decide
  rw [draft, named, set_logging hbeside, setLogging, if_pos hmem]
  simp only [RecordKind.fieldNames, List.mem_cons, List.not_mem_nil, or_false] at h
  rcases h with rfl | rfl | rfl | rfl <;> simp [draft, named, Draft.put, Data.sameKey_text, LoggingState.put]

/-- An assignment to a logging section sets one of its fields, or does nothing. -/
theorem assign_cases (hway : PlainWay way) (l : LoggingState) (value : Data) :
    (∃ name ∈ RecordKind.logging.fieldNames, way = [name] ∧
      l.draft.assign value way = ((l.put name value).draft, none)) ∨
    (l.draft.assign value way).1 = l.draft := by
  cases way with
  | nil => exact .inr rfl
  | cons name rest =>
    cases rest with
    | nil =>
      by_cases hname : name ∈ RecordKind.logging.fieldNames
      · exact .inl ⟨name, hname, rfl, l.set_field hname value⟩
      · have hnone : RecordKind.logging.fieldNames.contains name = false := by simpa using hname
        refine .inr ?_
        rw [assign, draft, named, set_logging hway.head, setLogging, hnone]
        rfl
    | cons next more =>
      -- the fields are plain values, which have nothing to assign to
      refine .inr ?_
      cases hfollow : l.draft.follow name with
      | error e => rw [assign_of_not_follow value hfollow]
      | ok part =>
        have hfrozen : part.Frozen := by
          have hmem := mem_of_follow_named hfollow
          simp only [List.mem_cons, Prod.mk.injEq, List.not_mem_nil, or_false] at hmem
          rcases hmem with ⟨-, rfl⟩ | ⟨-, rfl⟩ | ⟨-, rfl⟩ | ⟨-, rfl⟩ <;> exact .plain _
        rw [assign_of_follow value hfollow, hfrozen.assign_eq hway.tail]
        exact replace_of_follow hfollow

end LoggingState

namespace SettingsState

open Draft

variable {s t : SettingsState} {g : Settings}

/-! ## One assignment -/

/-- The part of settings under a name. -/
def partOf (name : String) (g : Settings) : Draft :=
  match name with
  | "capability" => ofText g.capability
  | "host_version" => .plain (.ofOption g.hostVersion)
  | "min_extensions" => .plain (.int g.leastExtensions)
  | "checks" => .row false (g.checks.map ofCheck)
  | "logging" => Draft.ofLogging g.logging
  | _ => .plain .null

/-- A value is assigned to a field as settings with this field only are read. -/
theorem settingsField_eq (h : name ∈ RecordKind.settings.fieldNames) (value : Data) :
    settingsField name value = partOf name <$> Settings.decode (.record [(name, value)]) := by
  have hrecord : entries (.record [(name, value)]) = .ok [(.text name, value)] := rfl
  unfold Settings.decode settingsField partOf
  simp only [hrecord, withDefault_single]
  simp only [RecordKind.fieldNames, List.mem_cons, List.not_mem_nil, or_false] at h
  -- the one field that is given is read, and the others have their defaults
  rcases h with rfl | rfl | rfl | rfl | rfl
  · cases nonEmptyText value <;> rfl
  · cases Settings.decodeHostVersion value <;> rfl
  · cases Settings.decodeLeast value <;> rfl
  · cases Check.decodeAll value <;> rfl
  · cases Logging.decode value <;> rfl

theorem settingsField_of_not_mem (h : name ∉ RecordKind.settings.fieldNames) (value : Data) :
    settingsField name value = under (.field name) (issue .noSuchField) := by
  simp only [RecordKind.fieldNames, List.mem_cons, List.not_mem_nil, or_false, not_or] at h
  obtain ⟨h1, h2, h3, h4, h5⟩ := h
  unfold settingsField
  split <;> first | contradiction | rfl

theorem put_partOf (h : name ∈ RecordKind.settings.fieldNames) (s : SettingsState) (g : Settings) :
    Draft.record .settings {} (put (s.fields.map fun f => (.text f.1, f.2)) (.text name) (partOf name g)) =
      (s.take name g).draft := by
  simp only [RecordKind.fieldNames, List.mem_cons, List.not_mem_nil, or_false] at h
  rcases h with rfl | rfl | rfl | rfl | rfl <;>
    simp [fields, draft, named, put, Data.sameKey_text, partOf, take, LoggingState.draft_ofLogging]

/-- A field of settings takes what settings that have this field only are read as. -/
theorem assign_of_read (h : name ∈ RecordKind.settings.fieldNames) (s : SettingsState)
    (hread : Settings.decode (.record [(name, value)]) = .ok g) :
    s.draft.assign value [name] = ((s.take name g).draft, none) := by
  obtain ⟨hbeside, htold⟩ := not_told_of_field h
  have hfield : settingsField name value = .ok (partOf name g) := by
    rw [settingsField_eq h, hread]
    rfl
  rw [assign, draft, named, set_settings hbeside, setSettings, htold, ← put_partOf h]
  simp only [Origin.entries?, hfield, Bool.false_eq_true, if_false, if_true]
  rfl

/-- It refuses what settings that have this field only cannot be read from, for the same reasons. -/
theorem assign_of_not_read (h : name ∈ RecordKind.settings.fieldNames) (s : SettingsState) {issues : List Issue}
    (hread : Settings.decode (.record [(name, value)]) = .error issues) :
    s.draft.assign value [name] = (s.draft, some (.invalid .settings issues)) := by
  obtain ⟨hbeside, htold⟩ := not_told_of_field h
  have hfield : settingsField name value = .error issues := by
    rw [settingsField_eq h, hread]
    rfl
  rw [assign, draft, named, set_settings hbeside, setSettings, htold]
  simp only [Origin.entries?, hfield, Bool.false_eq_true, if_false]

/-- A name that no field has is refused, unless it starts with an underscore. -/
theorem assign_of_not_mem (h : name ∉ RecordKind.settings.fieldNames) (hbeside : isBeside name = false)
    (s : SettingsState) (value : Data) : ∃ e, s.draft.assign value [name] = (s.draft, some e) := by
  rw [assign, draft, named, set_settings hbeside, setSettings]
  split
  · exact ⟨_, rfl⟩
  · simp only [Origin.entries?, settingsField_of_not_mem h]
    exact ⟨_, rfl⟩

theorem replace_logging (s : SettingsState) (l : LoggingState) :
    s.draft.replace "logging" l.draft = { s with logging := l }.draft := by
  have hindex : index? "logging" = none := rfl
  unfold replace draft named
  rw [hindex]
  simp [fields, put, Data.sameKey_text]

/-- What an assignment may do: set a field of the settings to what is read for it, set a field of the logging
section, or leave all as it is. -/
inductive Assigned (s : SettingsState) (way : List String) (value : Data) (x : Draft × Option AssignError) : Prop
  | field {name : String} {g : Settings} (hway : way = [name])
    (hname : name ∈ RecordKind.settings.fieldNames)
    (hread : Settings.decode (.record [(name, value)]) = .ok g) (hx : x = ((s.take name g).draft, none))
  | logging {name : String} (hway : way = ["logging", name]) (hname : name ∈ RecordKind.logging.fieldNames)
    (hx : x = ({ s with logging := s.logging.put name value }.draft, none))
  | same (hx : x.1 = s.draft)

theorem assigned (hway : PlainWay way) (s : SettingsState) (value : Data) :
    Assigned s way value (s.draft.assign value way) := by
  cases way with
  | nil => exact .same rfl
  | cons step rest =>
    cases rest with
    | nil =>
      by_cases hname : step ∈ RecordKind.settings.fieldNames
      · cases hread : Settings.decode (.record [(step, value)]) with
        | ok g => exact .field rfl hname hread (assign_of_read hname s hread)
        | error issues => exact .same (congrArg Prod.fst (assign_of_not_read hname s hread))
      · obtain ⟨e, he⟩ := assign_of_not_mem hname hway.head s value
        exact .same (congrArg Prod.fst he)
    | cons next more =>
      cases hfollow : s.draft.follow step with
      | error e => exact .same (congrArg Prod.fst (assign_of_not_follow value hfollow))
      | ok part =>
        have hassign : s.draft.assign value (step :: next :: more) = _ := assign_of_follow value hfollow
        -- a step into a frozen part changes nothing, whatever follows
        have hfrozen (h : part.Frozen) : Assigned s (step :: next :: more) value
            (s.draft.assign value (step :: next :: more)) := by
          refine .same ?_
          rw [hassign, h.assign_eq hway.tail]
          exact replace_of_follow hfollow
        have hmem := mem_of_follow_named hfollow
        simp only [fields, List.mem_cons, Prod.mk.injEq, List.not_mem_nil, or_false] at hmem
        rcases hmem with ⟨-, rfl⟩ | ⟨-, rfl⟩ | ⟨-, rfl⟩ | ⟨-, rfl⟩ | ⟨rfl, rfl⟩
        · exact hfrozen (.plain _)
        · exact hfrozen (.plain _)
        · exact hfrozen (.plain _)
        · refine hfrozen (.row fun item hitem => ?_)
          obtain ⟨c, -, rfl⟩ := List.mem_map.1 hitem
          exact .ofCheck c
        · rcases s.logging.assign_cases hway.tail value with ⟨name, hname, hsingle, heq⟩ | heq
          · rw [hassign, heq, replace_logging, hsingle]
            exact .logging rfl hname rfl
          · refine .same ?_
            rw [hassign, heq]
            exact replace_of_follow hfollow

/-- Two settings are the same beside what a way leads to. -/
structure SameBeside (way : List String) (s t : SettingsState) : Prop where
  capability : way ≠ ["capability"] → t.capability = s.capability
  hostVersion : way ≠ ["host_version"] → t.hostVersion = s.hostVersion
  leastExtensions : way ≠ ["min_extensions"] → t.leastExtensions = s.leastExtensions
  checks : way ≠ ["checks"] → t.checks = s.checks
  level : way ≠ ["logging"] → way ≠ ["logging", "level"] → t.logging.level = s.logging.level
  format : way ≠ ["logging"] → way ≠ ["logging", "format"] → t.logging.format = s.logging.format
  structured : way ≠ ["logging"] → way ≠ ["logging", "structured"] →
    t.logging.structured = s.logging.structured
  filename : way ≠ ["logging"] → way ≠ ["logging", "filename"] → t.logging.filename = s.logging.filename

theorem SameBeside.refl (way : List String) (s : SettingsState) : SameBeside way s s := by
  constructor <;> intros <;> rfl

theorem sameBeside_take (h : name ∈ RecordKind.settings.fieldNames) (s : SettingsState) (g : Settings) :
    SameBeside [name] s (s.take name g) := by
  simp only [RecordKind.fieldNames, List.mem_cons, List.not_mem_nil, or_false] at h
  rcases h with rfl | rfl | rfl | rfl | rfl <;> constructor <;> intros <;> first | rfl | contradiction

theorem sameBeside_put (h : name ∈ RecordKind.logging.fieldNames) (s : SettingsState) (value : Data) :
    SameBeside ["logging", name] s { s with logging := s.logging.put name value } := by
  simp only [RecordKind.fieldNames, List.mem_cons, List.not_mem_nil, or_false] at h
  rcases h with rfl | rfl | rfl | rfl <;> constructor <;> intros <;> first | rfl | contradiction

/-! ## What holds of settings under assignment -/

/-- What holds of settings that were checked, however they are assigned to. A host version is a text or
missing by its type. -/
structure Sound (s : SettingsState) : Prop where
  capability : s.capability ≠ ""
  leastExtensions : 1 ≤ s.leastExtensions
  checks : ∀ c ∈ s.checks, Check.decode c.dump = .ok c

theorem sound_ofSettings (h : g.Valid) : (ofSettings g).Sound where
  capability := h.capability
  leastExtensions := h.leastExtensions
  checks c hc := Check.decode_dump (h.checks c hc)

theorem Sound.take (hs : s.Sound) (hname : name ∈ RecordKind.settings.fieldNames) (hg : (ofSettings g).Sound) :
    (s.take name g).Sound := by
  simp only [RecordKind.fieldNames, List.mem_cons, List.not_mem_nil, or_false] at hname
  rcases hname with rfl | rfl | rfl | rfl | rfl
  · exact ⟨hg.capability, hs.leastExtensions, hs.checks⟩
  · exact ⟨hs.capability, hs.leastExtensions, hs.checks⟩
  · exact ⟨hs.capability, hg.leastExtensions, hs.checks⟩
  · exact ⟨hs.capability, hs.leastExtensions, hg.checks⟩
  · exact ⟨hs.capability, hs.leastExtensions, hs.checks⟩

variable {x : Draft × Option AssignError} {e : AssignError}

/-- An assignment that is refused leaves all as it is. -/
theorem Assigned.refused (h : Assigned s way value x) (he : x.2 = some e) : x.1 = s.draft := by
  cases h with
  | field hway hname hread hx =>
    rw [hx] at he
    cases he
  | logging hway hname hx =>
    rw [hx] at he
    cases he
  | same hx => exact hx

/-- A step: an assignment to sound settings leaves sound settings, and changes nothing beside what its way leads
to. In particular what leads into a check changes no check. -/
theorem Assigned.exists_state (h : Assigned s way value x) (hs : s.Sound) :
    ∃ t : SettingsState, x.1 = t.draft ∧ t.Sound ∧ SameBeside way s t := by
  cases h with
  | @field name g hway hname hread hx =>
    subst hway hx
    have hg := sound_ofSettings (Settings.valid_of_decode hread)
    exact ⟨s.take name g, rfl, hs.take hname hg, sameBeside_take hname s g⟩
  | @logging name hway hname hx =>
    subst hway hx
    exact ⟨_, rfl, ⟨hs.capability, hs.leastExtensions, hs.checks⟩, sameBeside_put hname s value⟩
  | same hx => exact ⟨s, hx, hs, .refl way s⟩

end SettingsState

/-! ## Runs of assignments -/

/-- What is assigned, and along which way. -/
structure Assignment where
  way : List String
  value : Data

namespace Draft

variable {s : SettingsState}

/-- A record after an assignment, whether it takes it or not. -/
def step (d : Draft) (a : Assignment) : Draft := (d.assign a.value a.way).1

/-- A record after one assignment after another. -/
def after (d : Draft) (run : List Assignment) : Draft := run.foldl step d

/-- A run: sound settings are sound settings after any assignments. -/
theorem exists_after (hs : s.Sound) {run : List Assignment} (hrun : ∀ a ∈ run, PlainWay a.way) :
    ∃ t : SettingsState, s.draft.after run = t.draft ∧ t.Sound := by
  induction run generalizing s with
  | nil => exact ⟨s, rfl, hs⟩
  | cons a rest ih =>
    obtain ⟨ha, hrest⟩ := List.forall_mem_cons.1 hrun
    obtain ⟨t, ht, hsound, -⟩ := (SettingsState.assigned ha s a.value).exists_state hs
    rw [after, List.foldl_cons, step, ht]
    exact ih hsound hrest

/-- **Any run of assignments keeps settings in order**, if no name on their ways starts with an underscore. In
each state that is reached, an assignment that is refused changes nothing, and one that is accepted changes nothing
beside what its way leads to; a field of the settings takes a value exactly as settings with this field only are
read, and then has what is read; a name that is no field's is refused. -/
theorem assignments_checked {d : Data} {f : Settings} (h : Settings.decode d = .ok f) (run : List Assignment)
    (hrun : ∀ a ∈ run, PlainWay a.way) :
    ∃ s : SettingsState, (ofSettings f).after run = s.draft ∧ s.Sound ∧
      (∀ a : Assignment, PlainWay a.way →
        (∀ e, (s.draft.assign a.value a.way).2 = some e → s.draft.step a = s.draft) ∧
        ((s.draft.assign a.value a.way).2 = none →
          ∃ t : SettingsState, s.draft.step a = t.draft ∧ s.SameBeside a.way t)) ∧
      (∀ name ∈ RecordKind.settings.fieldNames, ∀ value,
        (∀ g, Settings.decode (.record [(name, value)]) = .ok g →
          s.draft.assign value [name] = ((s.take name g).draft, none)) ∧
        ∀ issues, Settings.decode (.record [(name, value)]) = .error issues →
          s.draft.assign value [name] = (s.draft, some (.invalid .settings issues))) ∧
      ∀ name, name ∉ RecordKind.settings.fieldNames → isBeside name = false →
        ∀ value, ∃ e, s.draft.assign value [name] = (s.draft, some e) := by
  have hstart := SettingsState.sound_ofSettings (Settings.valid_of_decode h)
  obtain ⟨s, hs, hsound⟩ := exists_after hstart hrun
  rw [SettingsState.draft_ofSettings] at hs
  refine ⟨s, hs, hsound, fun a ha => ?_, fun name hname value => ⟨fun g => SettingsState.assign_of_read hname s,
    fun issues => SettingsState.assign_of_not_read hname s⟩,
    fun name hname hbeside => SettingsState.assign_of_not_mem hname hbeside s⟩
  have hassigned := SettingsState.assigned ha s a.value
  obtain ⟨t, ht, -, hsame⟩ := hassigned.exists_state hsound
  exact ⟨fun e he => hassigned.refused he, fun _ => ⟨t, ht, hsame⟩⟩

/-- A whole number for the host version, a label for a check, and anything for the level. -/
def threeAssignments : List Assignment :=
  [⟨["host_version"], .int 2⟩, ⟨["checks", "0", "label"], .text "other"⟩, ⟨["logging", "level"], .int 7⟩]

/-- Three assignments to the usual settings: they stay sound. -/
theorem assignments_checked_three :
    Settings.decode (.map []) = .ok {} ∧ (∀ a ∈ threeAssignments, PlainWay a.way) ∧
      ∃ s : SettingsState, (ofSettings {}).after threeAssignments = s.draft ∧ s.Sound := by
  have hplain : ∀ a ∈ threeAssignments, PlainWay a.way := by
    unfold PlainWay
    decide
  obtain ⟨s, hs, hsound, -⟩ := assignments_checked (d := .map []) rfl threeAssignments hplain
  exact ⟨rfl, hplain, s, hs, hsound⟩

/-- All that settings hold, with no capability. -/
def emptied : Data :=
  .record [("capability", .text ""), ("host_version", .null), ("min_extensions", .int 1), ("checks", .list []),
    ("logging", Logging.dump {})]

/-- All that settings hold can be replaced by one assignment. It is accepted, and then the capability is
empty. -/
theorem held_replaced :
    ((ofSettings {}).assign emptied [heldName]).2 = none ∧
      ((ofSettings {}).after [⟨[heldName], emptied⟩]).part "capability" = .ok (ofText []) :=
  ⟨rfl, rfl⟩

end Draft

end ExtensionProbe
