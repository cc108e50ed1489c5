import ExtensionProbe.Data.Decode
import ExtensionProbe.Gate

/-!
# Versions and gates as data

* `decode_dump` of each type: what is dumped is accepted and gives the same value.
-/

namespace ExtensionProbe

open Checked Decode

namespace Version

/-- A version from a record of its three fields. -/
def decode (d : Data) : Checked Version :=
  match entries d with
  | .error es => .error es
  | .ok es =>
    (fun p => ⟨p.1, p.2.1, p.2.2⟩) <$>
      closed ["major", "minor", "qualifier"] es
        (both (required es "major" natural)
          (both (required es "minor" natural)
            (withDefault es "qualifier" none (orNull Decode.text))))

/-- A version as a record of its three fields. -/
def dump (v : Version) : Data :=
  .record [("major", .int v.major), ("minor", .int v.minor), ("qualifier", .ofOption v.qualifier)]

end Version

namespace Gate

/-- A gate from a record of its two fields. -/
def ofRecord (d : Data) : Checked Gate :=
  match entries d with
  | .error es => .error es
  | .ok es =>
    (fun p => ⟨p.1, p.2⟩) <$>
      closed ["major", "minor"] es
        (both (required es "major" natural) (required es "minor" natural))

/-- A gate from a record, or from the text of the version that it asks for. A number that is not whole
is no such text: it has lost the zeros at its end. -/
def decode : Data → Checked Gate
  | .float x => issue (.refused (.gateNumber x))
  | .text s =>
    match Version.parse (some s) with
    | .ok v => .ok (ofVersion v)
    | .error e => issue (.refused (.gateText e))
  | d => ofRecord d

/-- A gate as a record of its two fields. -/
def dump (g : Gate) : Data :=
  .record [("major", .int g.major), ("minor", .int g.minor)]

end Gate

theorem orNull_text_ofOption (q : Option Text) :
    orNull Decode.text (Data.ofOption q) = .ok q := by
  cases q <;> rfl

theorem Version.decode_dump (v : Version) : Version.decode v.dump = .ok v := by
  obtain ⟨major, minor, qualifier⟩ := v
  simp [Version.decode, Version.dump, Data.record, entries, required, withDefault, Data.lookup,
    Data.sameKey_text, natural_int, orNull_text_ofOption, under_ok, both,
    closed, isTorn, whileKeeping, onlyFields, checkKey, Functor.map, Except.map]

theorem Gate.decode_dump (g : Gate) : Gate.decode g.dump = .ok g := by
  obtain ⟨major, minor⟩ := g
  simp [Gate.decode, Gate.ofRecord, Gate.dump, Data.record, entries, required, Data.lookup,
    Data.sameKey_text, natural_int, under_ok, both, closed, isTorn, whileKeeping, onlyFields,
    checkKey, Functor.map, Except.map]

end ExtensionProbe
