import ExtensionProbe.Log.Event
import ExtensionProbe.Registry
import ExtensionProbe.Schema.Extension

/-!
# Registering extensions

What is handed to a registry is a descriptor, or an implementation with markers for it. An implementation
whose markers are no texts has no descriptor, and then nothing is registered.

* `enroll_of_described`, `enroll_of_undescribed`: a registry changes exactly if there is a descriptor.
-/

namespace ExtensionProbe

open Log

/-- What is handed to a registry. -/
inductive Extension where
  | described (d : Descriptor)
  | implemented (i : Implementation) (markers : Data)

/-- The descriptor that an extension is registered by. -/
def Extension.descriptor : Extension → Checked Descriptor
  | .described d => .ok d
  | .implemented i markers => Descriptor.ofImplementation i markers

namespace Registry

/-- The event that tells of a registration. -/
def registeredEvent (capability : Text) (d : Descriptor) : Event :=
  ⟨.debug, "strategyprobe.core.registry.impl_memory",
    "Registered extension '" ++ d.simpleName ++ "' for capability '" ++ capability ++ "'", none⟩

/-- Registers an extension for a capability; the descriptor that was stored, and the registry after it. -/
def enroll (capability : Text) (e : Extension) (r : Registry) :
    Logged (List Issue) Descriptor × Registry :=
  match e.descriptor with
  | .error issues => (.fail issues, r)
  | .ok d => (⟨[registeredEvent capability d], .ok d⟩, r.register capability d)

theorem enroll_of_described {capability : Text} {e : Extension} {r : Registry} {d : Descriptor}
    (h : e.descriptor = .ok d) : (r.enroll capability e).2 = r.register capability d := by
  simp [enroll, h]

theorem enroll_of_undescribed {capability : Text} {e : Extension} {r : Registry}
    {issues : List Issue} (h : e.descriptor = .error issues) : (r.enroll capability e).2 = r := by
  simp [enroll, h]

end Registry

end ExtensionProbe
