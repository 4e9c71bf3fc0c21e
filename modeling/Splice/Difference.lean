import Splice.Store

/-!
# Items of which each is there once

A set is made of the items of anything that has some. The keys and the entries of a dictionary are
no sets, but `-` takes items out of them as it does out of sets, and there the other operand may be
anything that has items. The items are taken one by one: one that may not be in a set ends this, and
those behind it stay where they are.
-/

namespace Splice

namespace Value

/-- Whether a value shows the keys or the entries of a dictionary. -/
def isSetView : Value → Bool
  | view p _ => p != .values
  | _ => false

end Value

namespace Compute

variable (draw : Nat → Compute (Option Object))

/-- The items of a value, each of them once. -/
def distinct (v : Value) : Compute (List Object) := do
  let found ← fold draw (fun found o => do
    let key ← ofFault o.asKey
    if ← ofFault (key.isAmong found) then return .yield found
    else return .yield ((← held key) :: found)) (← sourceOf v) ([] : List Object)
  return found.reverse

/-- What is left of some objects without those that match an item of a value. -/
def dropped (v : Value) (os : List Object) : Compute (List Object) := do
  fold draw (fun left o => do
    let key ← ofFault o.asKey
    return .yield (← ofFault (Object.without [key] left))) (← sourceOf v) os

/-- Applies an operation. -/
def operate (op : Operation) (a b : Object) : Compute Object := do
  match op with
  | .sub =>
    if (a.value.isSetView || b.value.isSetView) && a.value.undefined?.isNone then
      return .new (.set (← dropped draw b.value (← distinct draw a.value)))
    else ofFailure (a.operate op b)
  | _ => ofFailure (a.operate op b)

end Compute

end Splice
