import ExtensionProbe.Descriptor

/-!
# A registry in memory

A registry keeps the descriptors registered for each capability in the order of registration.

* `list_register_self`, `list_register_of_ne`: registering adds one descriptor at the end of one listing.
* `size_register`: registering adds one to the size.
-/

namespace ExtensionProbe

/-- The descriptors registered for each capability, capabilities in the order of their first one. -/
structure Registry where
  entries : List (Text × List Descriptor)
deriving DecidableEq, Repr

namespace Registry

/-- The registry with nothing in it. -/
def empty : Registry := ⟨[]⟩

/-- The listing of a capability among entries. -/
def lookup (capability : Text) : List (Text × List Descriptor) → List Descriptor
  | [] => []
  | (c, ds) :: rest => if c = capability then ds else lookup capability rest

/-- Adds a descriptor to the listing of a capability among entries. -/
def append (capability : Text) (d : Descriptor) :
    List (Text × List Descriptor) → List (Text × List Descriptor)
  | [] => [(capability, [d])]
  | (c, ds) :: rest =>
    if c = capability then (c, ds ++ [d]) :: rest else (c, ds) :: append capability d rest

/-- The registry after one more registration. -/
def register (r : Registry) (capability : Text) (d : Descriptor) : Registry :=
  ⟨append capability d r.entries⟩

/-- The descriptors registered for a capability, in order. -/
def list (r : Registry) (capability : Text) : List Descriptor :=
  lookup capability r.entries

/-- The capabilities with a registration, in the order of their texts. -/
def capabilities (r : Registry) : List Text :=
  (r.entries.map Prod.fst).mergeSort fun a b => !decide (b < a)

/-- The number of registrations. -/
def size (r : Registry) : Nat :=
  r.entries.foldr (fun e count => e.2.length + count) 0

/-- The registry as one that can be asked; asking does not change it. -/
def client (capability : Text) (r : Registry) : Listing × Registry :=
  (some ((r.list capability).map some), r)

theorem list_register_self (r : Registry) (capability : Text) (d : Descriptor) :
    (r.register capability d).list capability = r.list capability ++ [d] := by
  simp only [register, list]
  induction r.entries with
  | nil => simp [append, lookup]
  | cons e rest ih => by_cases h : e.1 = capability <;> simp [append, lookup, h, ih]

theorem list_register_of_ne {r : Registry} {capability other : Text} {d : Descriptor}
    (h : other ≠ capability) : (r.register capability d).list other = r.list other := by
  simp only [register, list]
  induction r.entries with
  | nil => simp [append, lookup, h.symm]
  | cons e rest ih =>
    by_cases hc : e.1 = capability
    · simp [append, lookup, hc, h.symm]
    · by_cases ho : e.1 = other <;> simp [append, lookup, hc, ho, h, ih]

theorem size_register (r : Registry) (capability : Text) (d : Descriptor) :
    (r.register capability d).size = r.size + 1 := by
  simp only [register, size]
  induction r.entries with
  | nil => simp [append]
  | cons e rest ih => by_cases h : e.1 = capability <;> simp [append, h, ih] <;> omega

end Registry

end ExtensionProbe
