import ExtensionProbe.Text

/-!
# Extension descriptors

A descriptor is what a host tells about one registered extension: a short name, a qualified name and
the markers of what it can do.
-/

namespace ExtensionProbe

/-- What a host tells about one registered extension. -/
structure Descriptor where
  simpleName : Text
  qualifiedName : Text := []
  markers : List Text := []
deriving DecidableEq, Repr

namespace Descriptor

/-- The name that diagnostics show: the short name, with the qualified one if that adds to it. -/
def displayName (d : Descriptor) : Text :=
  if d.qualifiedName.isEmpty || d.qualifiedName == d.simpleName then d.simpleName
  else d.simpleName ++ " (" ++ d.qualifiedName ++ ")"

end Descriptor

/-- What a registry answers for a capability: nothing, or a listing in which an entry may be absent. -/
abbrev Listing := Option (List (Option Descriptor))

/-- An implementation that can be registered: its class's name, module and name within the module. -/
structure Implementation where
  name : String
  module : String
  nameInModule : String
deriving DecidableEq, Repr

/-- The descriptor of an implementation. -/
def Implementation.describe (i : Implementation) (markers : List Text) : Descriptor :=
  ⟨i.name, i.module ++ "." ++ i.nameInModule, markers⟩

end ExtensionProbe
