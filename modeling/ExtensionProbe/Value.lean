import ExtensionProbe.Data
import ExtensionProbe.Report
import ExtensionProbe.Settings

/-!
# Values of every kind

What a version may be compared with: a record of any kind, or plain data. Whether two values of different
kinds are equal is asked of both of them; where neither knows, they are two things.
-/

namespace ExtensionProbe

/-- A value of any kind. -/
inductive Value where
  | version (v : Version)
  | gate (g : Gate)
  | descriptor (d : Descriptor)
  | policy (p : Policy)
  | check (c : Check)
  | result (r : Result)
  | report (r : Report)
  | logging (l : Logging)
  | settings (s : Settings)
  | data (d : Data)

/-- What a version answers when it is asked whether it equals a value: it knows other versions only. -/
def Version.answer (a : Version) : Value → Option Bool
  | .version b => some (a.agrees b)
  | _ => none

/-- What a value answers when it is asked whether it equals a version. A record of another kind denies it;
plain data does not know. -/
def Value.answer (a : Version) : Value → Option Bool
  | .version b => some (b.agrees a)
  | .data _ => none
  | _ => some false

/-- Whether a version equals a value: the version is asked first, then the value. -/
def Version.equals (a : Version) (x : Value) : Bool :=
  ((a.answer x).or (x.answer a)).getD false

end ExtensionProbe
