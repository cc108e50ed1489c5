import ExtensionProbe.Log.Event
import ExtensionProbe.Registry
import ExtensionProbe.Schema.Extension

/-!
# Recorded registries

A snapshot is a registry read from data: a mapping from capabilities to rows of entries. An entry is a
descriptor, or the short name of one.

* `list_put_self`: the listing put last for a capability is its listing.
-/

namespace ExtensionProbe

/-- A registry read from data. -/
structure Snapshot where
  entries : List (Text × List Descriptor)
deriving DecidableEq, Repr

/-- Why data is no snapshot. -/
inductive SnapshotError where
  /-- The entries of a capability are not a row but something of another kind. -/
  | notList (capability : Text) (kind : String)
  /-- An entry is no descriptor. -/
  | entry (issues : List Issue)
  /-- A capability is not shown, such as a number that is too long to write. -/
  | unwritable (e : Data.DisplayError)
deriving DecidableEq, Repr

/-- The wording for entries that are not a row. -/
def SnapshotError.notListMessage (capability : Text) (kind : String) : Text :=
  "Entries for capability '" ++ capability ++ "' must be a list, got " ++ kind

namespace Snapshot

open Checked

/-- Puts a listing under a capability. A capability that is there keeps its place. -/
def put (capability : Text) (ds : List Descriptor) :
    List (Text × List Descriptor) → List (Text × List Descriptor)
  | [] => [(capability, ds)]
  | (c, old) :: rest =>
    if c = capability then (c, ds) :: rest else (c, old) :: put capability ds rest

/-- An entry: a descriptor, or the short name of one. -/
def decodeEntry : Data → Checked Descriptor
  | .text s => .ok { simpleName := s }
  | d => Descriptor.decode d

/-- Entries in order, up to the first that is no descriptor. -/
def decodeEntries : List Data → Except SnapshotError (List Descriptor)
  | [] => .ok []
  | d :: rest =>
    match decodeEntry d with
    | .error issues => .error (.entry issues)
    | .ok x => (x :: ·) <$> decodeEntries rest

/-- The entries of one capability; nothing is an empty row. -/
def decodeRow (key : Data) : Data → Except SnapshotError (List Descriptor)
  | .null => .ok []
  | .list items => decodeEntries items
  | other =>
    match key.display with
    | .ok capability => .error (.notList capability other.kindName)
    | .error e => .error (.unwritable e)

/-- Listings from a mapping, added to those read before. -/
def ofEntries (read : List (Text × List Descriptor)) :
    List (Data × Data) → Except SnapshotError (List (Text × List Descriptor))
  | [] => .ok read
  | (key, value) :: rest =>
    match decodeRow key value, key.display with
    | .error e, _ => .error e
    | .ok _, .error e => .error (.unwritable e)
    | .ok ds, .ok capability => ofEntries (put capability ds read) rest

/-- A snapshot from a mapping. -/
def ofData (es : List (Data × Data)) : Except SnapshotError Snapshot :=
  Snapshot.mk <$> ofEntries [] es

/-- The descriptors recorded for a capability, in order. -/
def list (s : Snapshot) (capability : Text) : List Descriptor :=
  Registry.lookup capability s.entries

/-- The capabilities of a snapshot, in the order of their texts. -/
def capabilities (s : Snapshot) : List Text :=
  (s.entries.map Prod.fst).mergeSort fun a b => !decide (b < a)

/-- The snapshot as a registry that can be asked; asking does not change it. -/
def client (capability : Text) (s : Snapshot) : Listing × Snapshot :=
  (some ((s.list capability).map some), s)

/-- The event that tells what was loaded: the file and the number of its capabilities. -/
def loadedEvent (path : Text) (count : Nat) : Log.Event :=
  ⟨.debug, "strategyprobe.core.registry.impl_snapshot",
    "Loaded registry snapshot from " ++ path ++ " (" ++ toString count ++ " capabilities)", none⟩

theorem list_put_self (capability : Text) (ds : List Descriptor)
    (es : List (Text × List Descriptor)) :
    Registry.lookup capability (put capability ds es) = ds := by
  induction es with
  | nil => simp [put, Registry.lookup]
  | cons e rest ih => by_cases h : e.1 = capability <;> simp [put, Registry.lookup, h, ih]

end Snapshot

end ExtensionProbe
