import ExtensionProbe.Check

/-!
# Settings

What a probe is told to do: which capability, on which host, how many extensions at least, which checks,
and how to log.
-/

namespace ExtensionProbe

/-- How a program logs. -/
structure Logging where
  level : String := "WARNING"
  format : Text := "%(asctime)s - %(name)s - %(levelname)s - %(message)s"
  structured : Bool := false
  filename : Option Text := none
deriving DecidableEq, Repr

/-- The names of levels that settings may hold. -/
def Logging.levels : List String :=
  ["DEBUG", "INFO", "WARNING", "ERROR", "CRITICAL"]

/-- What a probe is told to do. -/
structure Settings where
  capability : String := strategyCapability
  hostVersion : Option Text := none
  leastExtensions : Int := 1
  checks : List Check := Check.defaults
  logging : Logging := {}
deriving DecidableEq, Repr

namespace Settings

/-- Settings given on a command line, over those of a file. -/
structure Overrides where
  capability : Option Text := none
  hostVersion : Option Text := none
  leastExtensions : Option Int := none
deriving DecidableEq, Repr

/-- Takes the host version from the surroundings if the settings have none. -/
def withSurroundings (s : Settings) (environment : Option Text) : Settings :=
  match s.hostVersion with
  | some _ => s
  | none => { s with hostVersion := Text.given environment }

/-- Settings with those of a command line in force, as far as they are fit for it. -/
def override (s : Settings) (o : Overrides) : Settings :=
  { s with
    capability := ((Text.given o.capability).bind Text.toString?).getD s.capability
    hostVersion := (Text.given o.hostVersion).or s.hostVersion
    leastExtensions := o.leastExtensions.getD s.leastExtensions }

/-- The variable that tells the host version. -/
def hostVariable : String := "STRATEGYPROBE_HOST_VERSION"

/-- The file that is read if none is named. -/
def defaultFile : Text := "strategyprobe.yaml"

end Settings

end ExtensionProbe
