import ExtensionProbe.Schema.Extension
import ExtensionProbe.Settings

/-!
# Settings as data

* `Logging.decode_dump`: what is dumped of logging settings with a known level is accepted and gives the
  same value.
-/

namespace ExtensionProbe

open Checked Decode

namespace Logging

/-- The name of a level that settings may hold. -/
def decodeLevel (d : Data) : Checked String := do
  let s ← Decode.string d
  if levels.contains s then .ok s else issue .notLevel

/-- Logging settings from a record; fields of other names are ignored. -/
def decode (d : Data) : Checked Logging :=
  match entries d with
  | .error es => .error es
  | .ok es =>
    let default : Logging := {}
    (fun p => ⟨p.1, p.2.1, p.2.2.1, p.2.2.2⟩) <$>
      both (withDefault es "level" default.level decodeLevel)
        (both (withDefault es "format" default.format Decode.text)
          (both (withDefault es "structured" default.structured boolean)
            (withDefault es "filename" default.filename (orNull Decode.text))))

/-- Logging settings as a record of their four fields. -/
def dump (l : Logging) : Data :=
  .record [("level", .text l.level), ("format", .text l.format),
    ("structured", .bool l.structured), ("filename", .ofOption l.filename)]

end Logging

namespace Settings

/-- A host version. A whole number is taken as its digits; any other number is refused, because it has
lost the zeros at its end. -/
def decodeHostVersion : Data → Checked (Option Text)
  | .float x => issue (.refused (.hostNumber x))
  | .int n =>
    match Decimal.writeInt n with
    | .ok s => .ok (some (Text.ofString s))
    | .error e => issue (.refused (.hostLength e))
  | d => orNull Decode.text d

/-- The least number of extensions, which is at least one. -/
def decodeLeast (d : Data) : Checked Int :=
  integerFrom 1 d

/-- Settings from a record of their five fields. -/
def decode (d : Data) : Checked Settings :=
  match entries d with
  | .error es => .error es
  | .ok es =>
    let default : Settings := {}
    (fun p => ⟨p.1, p.2.1, p.2.2.1, p.2.2.2.1, p.2.2.2.2⟩) <$>
      closed ["capability", "host_version", "min_extensions", "checks", "logging"] es
        (both (withDefault es "capability" default.capability nonEmptyText)
          (both (withDefault es "host_version" default.hostVersion decodeHostVersion)
            (both (withDefault es "min_extensions" default.leastExtensions decodeLeast)
              (both (withDefault es "checks" default.checks Check.decodeAll)
                (withDefault es "logging" default.logging Logging.decode)))))

/-- Settings as a record of their five fields. -/
def dump (s : Settings) : Data :=
  .record [("capability", .text s.capability), ("host_version", .ofOption s.hostVersion),
    ("min_extensions", .int s.leastExtensions), ("checks", Check.dumpAll s.checks),
    ("logging", s.logging.dump)]

/-- Checks what a command line gives for a field, if it gives anything. -/
def checkGiven {α : Type} (name : String) (decode : Data → Checked α) : Option Data → Checked Unit
  | none => .ok ()
  | some d => (fun _ => ()) <$> under (.field name) (decode d)

/-- Settings with those of a command line in force, each checked as if it stood in a file, up to the first
that is not fit for it. -/
def overrideChecked (s : Settings) (o : Overrides) : Checked Settings := do
  checkGiven "capability" nonEmptyText ((Text.given o.capability).map .text)
  checkGiven "min_extensions" decodeLeast (o.leastExtensions.map .int)
  pure (s.override o)

end Settings

theorem Logging.decode_dump {l : Logging} (h : l.level ∈ Logging.levels) :
    Logging.decode l.dump = .ok l := by
  obtain ⟨level, format, structured, filename⟩ := l
  simp only at h
  simp [Logging.decode, Logging.dump, Logging.decodeLevel, Data.record, entries, withDefault,
    Data.lookup, Data.sameKey_text, orNull_text_ofOption, under_ok, both, h,
    Functor.map, Except.map, bind, Except.bind]

end ExtensionProbe
