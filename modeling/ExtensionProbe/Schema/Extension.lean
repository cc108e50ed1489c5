import ExtensionProbe.Check
import ExtensionProbe.Schema.Host

/-!
# Descriptors, policies and checks as data

* `decode_dump` of each type: what is dumped is accepted and gives the same value; of a policy and a
  check only if their texts are not empty.
-/

namespace ExtensionProbe

open Checked Decode

namespace Descriptor

/-- A descriptor from a record of its three fields. -/
def decode (d : Data) : Checked Descriptor :=
  match entries d with
  | .error es => .error es
  | .ok es =>
    (fun p => ⟨p.1, p.2.1, p.2.2⟩) <$>
      closed ["simple_name", "qualified_name", "markers"] es
        (both (required es "simple_name" Decode.text)
          (both (withDefault es "qualified_name" [] Decode.text)
            (withDefault es "markers" [] (row .notTuple Decode.text))))

/-- A descriptor as a record of its three fields. -/
def dump (d : Descriptor) : Data :=
  .record [("simple_name", .text d.simpleName), ("qualified_name", .text d.qualifiedName),
    ("markers", .list (d.markers.map .text))]

/-- An optional descriptor as data. -/
def dumpOption (d : Option Descriptor) : Data :=
  (d.map dump).getD .null

/-- Descriptors as data. -/
def dumpAll (ds : List Descriptor) : Data :=
  .list (ds.map dump)

/-- The descriptor of an implementation with markers from data. -/
def ofImplementation (i : Implementation) (markers : Data) : Checked Descriptor :=
  i.describe <$> under (.field "markers") (row .notTuple Decode.text markers)

end Descriptor

namespace Policy

/-- The kinds of policies. -/
inductive Kind where
  | exact | contains | marker
deriving DecidableEq, Repr

/-- The name of a kind. -/
def Kind.name : Kind → String
  | .exact => "exact"
  | .contains => "contains"
  | .marker => "marker"

/-- The name of the field that holds the text of a policy. -/
def Kind.field : Kind → String
  | .exact => "name"
  | .contains => "substring"
  | .marker => "marker"

/-- The policy of a kind with a text. -/
def Kind.policy : Kind → String → Policy
  | .exact => .exact
  | .contains => .contains
  | .marker => .marker

/-- The kind with a name. -/
def Kind.ofName? : String → Option Kind
  | "exact" => some .exact
  | "contains" => some .contains
  | "marker" => some .marker
  | _ => none

/-- The kind of a policy. -/
def kind : Policy → Kind
  | .exact _ => .exact
  | .contains _ => .contains
  | .marker _ => .marker

/-- The text of a policy. -/
def operand : Policy → String
  | .exact s => s
  | .contains s => s
  | .marker s => s

/-- The name of a kind, and of no other. -/
def kindName (k : Kind) : Data → Checked Unit
  | .text s => if s == Text.ofString k.name then .ok () else issue .wrongKind
  | _ => issue .wrongKind

/-- A policy of one kind from a record of its fields; the kind may be left out. -/
def decodeAs (k : Kind) (d : Data) : Checked Policy :=
  match entries d with
  | .error es => .error es
  | .ok es =>
    k.policy <$>
      closed ["kind", k.field] es
        (whileKeeping (required es k.field nonEmptyText) (withDefault es "kind" () (kindName k)))

/-- A policy from a record that tells its kind. -/
def decode : Data → Checked Policy
  | .map es =>
    match Data.lookup es "kind" with
    | none => issue .noKind
    | some (.text s) =>
      match s.toString?.bind Kind.ofName? with
      | none => issue .unknownKind
      | some k => under (.field k.name) (decodeAs k (.map es))
    | some _ => issue .unknownKind
  | _ => issue .notChoice

/-- A policy as a record of its kind and its text. -/
def dump (p : Policy) : Data :=
  .record [("kind", .text p.kind.name), (p.kind.field, .text p.operand)]

end Policy

namespace Check

/-- A check from a record of its four fields. -/
def decode (d : Data) : Checked Check :=
  match entries d with
  | .error es => .error es
  | .ok es =>
    (fun p => ⟨p.1, p.2.1, p.2.2.1, p.2.2.2⟩) <$>
      closed ["label", "policy", "gate", "description"] es
        (both (required es "label" nonEmptyText)
          (both (required es "policy" Policy.decode)
            (both (withDefault es "gate" none (orNull Gate.decode))
              (withDefault es "description" none (orNull Decode.text)))))

/-- A check as a record of its four fields. -/
def dump (c : Check) : Data :=
  .record [("label", .text c.label), ("policy", c.policy.dump),
    ("gate", (c.gate.map Gate.dump).getD .null), ("description", .ofOption c.description)]

/-- Checks from a row of records. -/
def decodeAll (d : Data) : Checked (List Check) :=
  row .notList decode d

/-- Checks as data. -/
def dumpAll (cs : List Check) : Data :=
  .list (cs.map dump)

end Check

theorem row_list_of_map {α : Type} {otherwise : IssueKind} {decode : Data → Checked α}
    {encode : α → Data} {xs : List α} (h : ∀ x ∈ xs, decode (encode x) = .ok x) :
    row otherwise decode (.list (xs.map encode)) = .ok xs := by
  have : each decode (xs.map encode) = .ok xs := by
    rw [each_eq_ok_iff, List.map_map]
    exact List.map_congr_left fun x hx => h x hx
  simpa [row, items] using this

theorem Descriptor.decode_dump (d : Descriptor) : Descriptor.decode d.dump = .ok d := by
  obtain ⟨name, qualified, markers⟩ := d
  have hm : row .notTuple Decode.text (.list (markers.map .text)) = .ok markers :=
    row_list_of_map fun x _ => text_text x
  simp [Descriptor.decode, Descriptor.dump, Data.record, entries, required, withDefault,
    Data.lookup, Data.sameKey_text, hm, under_ok, both, closed, isTorn, whileKeeping, onlyFields,
    checkKey, Functor.map, Except.map]

end ExtensionProbe
