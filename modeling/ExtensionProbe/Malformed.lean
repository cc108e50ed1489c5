import ExtensionProbe.Descriptor
import ExtensionProbe.Number.Decimal

/-!
# Usable listings

A listing is usable if it is there, is not empty, has as many entries as asked for, and names each of
them. `Listing.view` gives the descriptors of a usable listing, or the first thing that is wrong.

* `view_eq_ok_iff`: a listing is usable exactly under these conditions, and its view is its entries.
-/

namespace ExtensionProbe

/-- What makes a listing unusable. -/
inductive Flaw where
  | noListing
  | empty
  | tooFew (least : Int) (found : Nat)
  | unnamed (index : Nat)
deriving DecidableEq, Repr

/-- A listing that cannot be used: for which capability, why, and what was there. -/
structure Malformed where
  capability : Option Text
  flaw : Flaw
  observed : List (Option Descriptor)
deriving DecidableEq, Repr

namespace Malformed

/-- The place that a message names. -/
def place (capability : Option Text) : Text :=
  match capability with
  | none => ""
  | some c => if c.isEmpty then "" else " for capability '" ++ c ++ "'"

/-- The wording of a malformed listing. -/
def message (m : Malformed) : Text :=
  let place := place m.capability
  match m.flaw with
  | .noListing => "Registry returned no listing" ++ place
  | .empty => "Registry listing is empty" ++ place
  | .tooFew least found =>
    "Expected at least " ++ toString least ++ " registered extensions" ++ place ++ ", found "
      ++ toString found
  | .unnamed index => "Registry entry " ++ toString index ++ place ++ " has no simple name"

end Malformed

namespace Listing

/-- Whether an entry names an extension. -/
def isNamed : Option Descriptor → Bool
  | none => false
  | some d => !d.simpleName.isEmpty

/-- The first thing that is wrong with a listing. -/
def flaw? (least : Int) : Listing → Option Flaw
  | none => some .noListing
  | some entries =>
    if entries.isEmpty then some .empty
    else if (entries.length : Int) < least then some (.tooFew least entries.length)
    else (entries.findIdx? (!isNamed ·)).map .unnamed

/-- What is reported of a listing with a flaw. Absent entries are left out where an entry is at fault. -/
def reported : Flaw → Listing → List (Option Descriptor)
  | _, none => []
  | .unnamed _, some entries => entries.filter Option.isSome
  | _, some entries => entries

/-- The descriptors that are there. -/
def present : Listing → List Descriptor
  | none => []
  | some entries => entries.filterMap id

/-- The descriptors of a usable listing. -/
def view (least : Int) (capability : Option Text) (l : Listing) :
    Except Malformed (List Descriptor) :=
  match flaw? least l with
  | some flaw => .error ⟨capability, flaw, reported flaw l⟩
  | none => .ok (present l)

theorem flaw?_eq_none_iff {least : Int} {l : Listing} :
    flaw? least l = none ↔
      ∃ entries, l = some entries ∧ entries ≠ [] ∧ least ≤ entries.length ∧
        ∀ e ∈ entries, isNamed e = true := by
  cases l with
  | none => simp [flaw?]
  | some entries =>
    by_cases hnil : entries = []
    · simp [flaw?, hnil]
    · by_cases hlen : (entries.length : Int) < least
      · simp only [flaw?, List.isEmpty_iff, hnil, if_false, hlen, if_true]
        constructor
        · intro h; cases h
        · rintro ⟨_, h, _, h', _⟩
          cases h; omega
      · simp only [flaw?, List.isEmpty_iff, hnil, if_false, hlen, Option.map_eq_none_iff,
          List.findIdx?_eq_none_iff, Bool.not_eq_false']
        constructor
        · intro h
          exact ⟨entries, rfl, hnil, by omega, h⟩
        · rintro ⟨_, h, _, _, h'⟩
          cases h; exact h'

theorem view_eq_ok_iff {least : Int} {capability : Option Text} {l : Listing}
    {view : List Descriptor} :
    l.view least capability = .ok view ↔ flaw? least l = none ∧ view = l.present := by
  unfold Listing.view
  cases flaw? least l <;> simp [eq_comm]

end Listing

end ExtensionProbe
