import ExtensionProbe.Report
import ExtensionProbe.Schema.Extension

/-!
# Results and reports as data

* `Outcome.ofName?_name`: the name of an outcome is read back as it.
-/

namespace ExtensionProbe

open Checked Decode

namespace Outcome

theorem ofName?_name (o : Outcome) : ofName? o.name = some o := by
  cases o <;> rfl

/-- An outcome by its name, which may be given as a text or as the bytes of one. -/
def decode (d : Data) : Checked Outcome :=
  match Decode.string d with
  | .ok s =>
    match ofName? s with
    | some o => .ok o
    | none => issue .notOutcome
  | .error _ => issue .notOutcome

theorem decode_name (o : Outcome) : decode (.text o.name) = .ok o := by
  simp [decode, string_text, ofName?_name]

end Outcome

namespace Result

/-- A result from a record of its six fields. -/
def decode (d : Data) : Checked Result :=
  match entries d with
  | .error es => .error es
  | .ok es =>
    (fun p => ⟨p.1, p.2.1, p.2.2.1, p.2.2.2.1, p.2.2.2.2.1, p.2.2.2.2.2⟩) <$>
      closed ["label", "outcome", "matched", "observed", "expected", "reason"] es
        (both (required es "label" Decode.text)
          (both (required es "outcome" Outcome.decode)
            (both (withDefault es "matched" none (orNull Descriptor.decode))
              (both (withDefault es "observed" [] (row .notTuple Descriptor.decode))
                (both (withDefault es "expected" [] Decode.text)
                  (withDefault es "reason" none (orNull Decode.text)))))))

/-- A result as a record of its six fields. -/
def dump (r : Result) : Data :=
  .record [("label", .text r.label), ("outcome", .text r.outcome.name),
    ("matched", Descriptor.dumpOption r.matched), ("observed", Descriptor.dumpAll r.observed),
    ("expected", .text r.expected), ("reason", .ofOption r.reason)]

end Result

namespace Report

/-- A report from a record of its five fields. -/
def decode (d : Data) : Checked Report :=
  match entries d with
  | .error es => .error es
  | .ok es =>
    (fun p => ⟨p.1, p.2.1, p.2.2.1, p.2.2.2.1, p.2.2.2.2⟩) <$>
      closed ["capability", "raw_host_version", "host_version", "observed", "results"] es
        (both (required es "capability" Decode.text)
          (both (withDefault es "raw_host_version" none (orNull Decode.text))
            (both (withDefault es "host_version" none (orNull Version.decode))
              (both (withDefault es "observed" [] (row .notTuple Descriptor.decode))
                (withDefault es "results" [] (row .notTuple Result.decode))))))

/-- The fields of a report. -/
def fields (r : Report) : List (String × Data) :=
  [("capability", .text r.capability), ("raw_host_version", .ofOption r.rawHostVersion),
    ("host_version", (r.hostVersion.map Version.dump).getD .null),
    ("observed", Descriptor.dumpAll r.observed), ("results", .list (r.results.map Result.dump))]

/-- A report as a record of its five fields. -/
def dump (r : Report) : Data := .record r.fields

/-- A report as a record that tells first whether the probe succeeded. -/
def dumpWithSuccess (r : Report) : Data :=
  .record (("success", .bool r.success) :: r.fields)

/-- Whether two reports tell the same, host versions by their numbers. -/
def agrees (a b : Report) : Bool :=
  let host :=
    match a.hostVersion, b.hostVersion with
    | some v, some w => v.agrees w
    | none, none => true
    | _, _ => false
  host && { a with hostVersion := none } == { b with hostVersion := none }

end Report

end ExtensionProbe
