import ExtensionProbe.Command.Usage
import ExtensionProbe.Settings

/-!
# Commands

There are three commands: to probe a recorded registry, to read a version, and to list checks. The words
of a command line may hold halves, which stand for bytes that are part of no character.
-/

namespace ExtensionProbe

/-- What a probe is asked to do on a command line. -/
structure ProbeRequest where
  registry : Text
  config : Option Text := none
  overrides : Settings.Overrides := {}
  asJson : Bool := false
  debug : Bool := false
deriving DecidableEq, Repr

/-- A command. -/
inductive Command where
  | probe (q : ProbeRequest)
  | version (raw : Text)
  | checks (config : Option Text)
deriving DecidableEq, Repr

namespace Command

open Usage

/-- What the words of a command line may be before the command is named. -/
def nameSpec : Spec := ⟨[], false⟩

/-- What the command to probe takes. -/
def probeSpec : Spec :=
  ⟨[⟨"registry", .text⟩, ⟨"config", .text⟩, ⟨"capability", .text⟩, ⟨"host-version", .text⟩,
    ⟨"min-extensions", .number⟩, ⟨"json", .mark⟩, ⟨"debug", .mark⟩], false⟩

/-- What the command to read a version takes. -/
def versionSpec : Spec := ⟨[], true⟩

/-- What the command to list checks takes. -/
def checksSpec : Spec := ⟨[⟨"config", .text⟩], false⟩

/-- What the words after a command give, if all of them have a use. -/
def given (spec : Spec) (surplus : Bool) (words : List Text) : Except Ending Given := do
  let g ← read spec words
  if surplus || g.surplus then .error .misuse else .ok g

/-- A value that must be given. -/
def required (value : Option Text) : Except Ending Text :=
  match value with
  | some s => .ok s
  | none => .error .misuse

/-- The command with a name. -/
def ofName (name : Text) (surplus : Bool) (words : List Text) : Except Ending Command :=
  match name.toString? with
  | some "run" => do
    let g ← given probeSpec surplus words
    let registry ← required (g.value? "registry")
    pure (.probe
      { registry
        config := g.value? "config"
        overrides :=
          { capability := g.value? "capability"
            hostVersion := g.value? "host-version"
            leastExtensions := g.number? "min-extensions" }
        asJson := g.has "json"
        debug := g.has "debug" })
  | some "parse-version" => do
    let g ← given versionSpec surplus words
    let raw ← required g.operand
    pure (.version raw)
  | some "checks" => do
    let g ← given checksSpec surplus words
    pure (.checks (g.value? "config"))
  | _ => .error .misuse

/-- The command that the words of a command line name, after those that were passed over. -/
def find (surplus : Bool) : List Text → Except Ending Command
  | [] => .error .misuse
  | s :: rest =>
    if s == separator then .error .misuse
    else do
      match ← classify nameSpec s with
      | .value name => ofName name surplus rest
      | .flag f short (some value) =>
        let _ ← addAttached f short value {}
        find surplus rest
      | .flag f _ none =>
        let _ ← addMark f {}
        find surplus rest
      | _ => find true rest

/-- The command of a command line. -/
def ofWords (words : List Text) : Except Ending Command := find false words

end Command

end ExtensionProbe
