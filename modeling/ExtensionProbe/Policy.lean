import ExtensionProbe.Descriptor
import ExtensionProbe.Text.Quoted

/-!
# Match policies

A policy says how the extension that a check asks for is known: by its short name, by a part of it, or by
a marker. Matching goes by code point.

* `find?_eq_head?_findAll`: the extension found is the first of those that match.
-/

namespace ExtensionProbe

/-- How the extension that a check asks for is known. -/
inductive Policy where
  | exact (name : String)
  | contains (part : String)
  | marker (marker : String)
deriving DecidableEq, Repr

namespace Policy

/-- Whether an extension satisfies the policy. -/
def admits : Policy → Descriptor → Bool
  | .exact name, d => d.simpleName == Text.ofString name
  | .contains part, d => Text.occursIn part d.simpleName
  | .marker m, d => d.markers.contains (Text.ofString m)

/-- The policy in words. -/
def describe : Policy → String
  | .exact name => "simple name == " ++ Text.quote name
  | .contains part => "simple name contains " ++ Text.quote part
  | .marker m => "marker " ++ Text.quote m

/-- The first extension that satisfies the policy. -/
def find? (p : Policy) (view : List Descriptor) : Option Descriptor :=
  view.find? p.admits

/-- Every extension that satisfies the policy, in order. -/
def findAll (p : Policy) (view : List Descriptor) : List Descriptor :=
  view.filter p.admits

theorem find?_eq_head?_findAll (p : Policy) (view : List Descriptor) :
    p.find? view = (p.findAll view).head? := by
  simp [find?, findAll]

end Policy

end ExtensionProbe
