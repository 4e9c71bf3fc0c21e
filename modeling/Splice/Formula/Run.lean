import Splice.Draw
import Splice.Formula.Grammar

/-!
# Running code

Running code reads a formula and evaluates it in a fresh name space. The name space comes back next
to the result: what has been assigned there is for whoever keeps names for longer than one
evaluation.
-/

namespace Splice.Formula

/-- What some code evaluates to, and the name space that it has been evaluated in. -/
def run (code : String) (known : String → Option Object) : Compute (Object × Space) := do
  match Expr.ofCode code with
  | .error refused => throw (.ofMalformed refused)
  | .ok e =>
    let space ← Compute.newSpace known
    let result ← (e.fold code).eval Stream.draw ⟨space, [], code⟩
    return (result, ← Compute.getSpace space)

end Splice.Formula
