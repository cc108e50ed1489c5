import ExtensionProbe.Gate
import ExtensionProbe.Policy

/-!
# Checks

A check is a named requirement on a registry: some extension satisfies its policy. With a gate it applies
only to host versions that pass the gate.

* `applies_of_no_gate`: without a gate a check applies to every host.
-/

namespace ExtensionProbe

/-- A named requirement on a registry. -/
structure Check where
  label : String
  policy : Policy
  gate : Option Gate := none
  description : Option Text := none
deriving DecidableEq, Repr

namespace Check

/-- Whether a check applies to a host version. -/
def applies (c : Check) (host : Option Version) : Bool :=
  match c.gate with
  | none => true
  | some g => g.admits host

theorem applies_of_no_gate {c : Check} (h : c.gate = none) (host : Option Version) :
    c.applies host = true := by
  simp [applies, h]

/-- The label of the check for the standard strategy. -/
def standardLabel : String := "standard-strategy"

/-- The label of the check for the strategy without delay. -/
def noDelayLabel : String := "no-delay-strategy"

/-- The label of the check for the strategy with a delay per node. -/
def nodeDelayLabel : String := "node-delay-strategy"

/-- The first host version that has the strategy with a delay per node. -/
def nodeDelayGate : Gate := ⟨2, 530⟩

/-- The checks of a host's provisioning strategies. -/
def defaults : List Check :=
  [ { label := standardLabel
      policy := .contains "Standard"
      description := some "Baseline provisioner strategy" },
    { label := noDelayLabel
      policy := .exact "NoDelayProvisionerStrategy"
      description := some "No-delay provisioner strategy" },
    { label := nodeDelayLabel
      policy := .exact "NodeDelayProvisionerStrategy"
      gate := some nodeDelayGate
      description := some "Node-delay provisioner strategy from the host core" } ]

end Check

/-- The extension point of provisioning strategies. -/
def strategyCapability : String := "hudson.slaves.NodeProvisioner.Strategy"

end ExtensionProbe
