import Splice.Value.Filling

/-!
# Operations

The binary operations that both expression languages have. Before `%` a text or bytes are a pattern
whose places are filled in; everything else is arithmetic.
-/

namespace Splice

/-- The operations on two operands. -/
inductive Operation where
  | add
  | sub
  | mul
  | floorDiv
  | mod
  deriving DecidableEq, Repr, Inhabited

namespace Object

/-- Whether a value is a pattern with places to fill in. -/
def isPattern : Value → Bool
  | .text _ | .bytes _ | .buffer _ => true
  | _ => false

/-- Applies an operation. -/
def operate (op : Operation) (a b : Object) : Except Failure Object :=
  match op with
  | .add => (a.add b).mapError .ofFault
  | .sub => (a.sub b).mapError .ofFault
  | .mul => (a.mul b).mapError .ofFault
  | .floorDiv => (a.floorDiv b).mapError .ofFault
  | .mod =>
    if isPattern a.value then Filling.filled a b else (a.mod b).mapError .ofFault

end Object

end Splice
