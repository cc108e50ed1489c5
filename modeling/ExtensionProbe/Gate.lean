import ExtensionProbe.Version

/-!
# Version gates

A gate is the least host version on which a check applies.

* `admits_iff`: a gate admits exactly the known versions whose numbers are at least its own.
-/

namespace ExtensionProbe

/-- The least host version on which a check applies. -/
structure Gate where
  major : Nat
  minor : Nat
deriving DecidableEq, Repr

namespace Gate

/-- The gate that a version passes exactly. -/
def ofVersion (v : Version) : Gate := ⟨v.major, v.minor⟩

/-- Whether a host version passes the gate. An unknown one never does. -/
def admits (g : Gate) : Option Version → Bool
  | none => false
  | some v => v.atLeast g.major g.minor

theorem admits_iff {g : Gate} {host : Option Version} :
    g.admits host = true ↔
      ∃ v, host = some v ∧ (g.major < v.major ∨ g.major = v.major ∧ g.minor ≤ v.minor) := by
  cases host with
  | none => simp [admits]
  | some v =>
    simp only [admits, Version.atLeast, Bool.or_eq_true, Bool.and_eq_true, decide_eq_true_eq,
      beq_iff_eq, Option.some.injEq, exists_eq_left']
    omega

/-- A gate in writing. -/
def text (g : Gate) : Except Decimal.LimitError String := do
  let major ← Decimal.write g.major
  let minor ← Decimal.write g.minor
  pure (">=" ++ major ++ "." ++ minor)

end Gate

end ExtensionProbe
