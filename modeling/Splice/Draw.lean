import Splice.Formula.Eval
import Splice.Value.Display

/-!
# Taking items out of streams

A given stream hands out its items one by one, then fails if it was given a failure, and is
exhausted from then on. A computed stream takes items out of its source until one meets its
conditions, and hands out what its formula makes of that one; a failure on the way ends it. While it
is computing it cannot be asked again.

A stream may take its items from another one, and a formula may go through streams, so taking one
item can go down through several. `maxDepth` bounds how far.
-/

namespace Splice

open Formula

namespace Stream

/-- Takes an item out of a source; what is left comes with it. -/
def nextOf (draw : Nat → Compute (Option Object)) : Source → Compute (Option (Object × Source))
  | .items [] => return none
  | .items (v :: vs) => return some (v, .items vs)
  | .numbers _ _ 0 => return none
  | .numbers next step (left + 1) =>
    return some (.new (.int next), .numbers (next + step) step left)
  | .stream id => do return (← draw id).map fun v => (v, .stream id)

/-- The next value of a formula for which the conditions hold, and what is left of the source. No
more than `bound` items are tried. -/
def advance (draw : Nat → Compute (Option Object)) (g : Generation) :
    (bound : Nat) → Source → Compute (Option (Object × Source))
  | 0, _ => return none
  | bound + 1, source => do
    match ← nextOf draw source with
    | none => return none
    | some (v, source) =>
      Compute.setSlot g.slot v
      if ← Expr.holdAll draw g.frame g.conditions then
        return some (← Expr.eval draw g.frame g.element, source)
      else advance draw g bound source

/-- Runs a computed stream up to its next item. -/
def resume (draw : Nat → Compute (Option Object)) (id : Nat) (g : Generation) (source : Source) :
    Compute (Option Object) := do
  let bound := (← get).pending maxDepth id
  Compute.setStream id .running
  try
    match ← advance draw g bound source with
    | none =>
      Compute.setStream id finished
      return none
    | some (v, source) =>
      Compute.setStream id (.generation g source)
      return some v
  catch failure =>
    Compute.setStream id finished
    throw failure

/-- The next item of a stream, going through at most so many streams. -/
def drawWithin : (depth : Nat) → Nat → Compute (Option Object)
  | 0, _ => Compute.fail .tooDeep
  | depth + 1, id => do
    match (← get).streams[id]? with
    | none | some (.items [] none) => return none
    | some (.items [] (some failure)) =>
      Compute.setStream id finished
      throw failure
    | some (.items (v :: vs) failure) =>
      Compute.setStream id (.items vs failure)
      return some v
    | some (.generation g source) => resume (drawWithin depth) id g source
    | some .running => Compute.fail .alreadyRunning

/-- The next item of a stream, if there is one. -/
def draw : Nat → Compute (Option Object) :=
  drawWithin maxDepth

end Stream

/-! ## Tokens -/

/-- The tokens of a value: one for a value that renders as a whole, and otherwise one for each item.
Missing values show as the marker `na`. The items of a stream are taken out of it as they turn into
tokens. -/
def Value.tokens (na : String) (v : Value) : Compute (List String) := do
  if v.isScalar then return [← Compute.ofFailure (v.token na)]
  else
    Compute.filterMap Stream.draw (fun x => return some (← Compute.ofFailure (x.value.token na)))
      (← Compute.sourceOf v)

end Splice
