import Splice.Formula.Builtin
import Splice.Formula.Call
import Splice.Formula.Constant

/-!
# Evaluating formulas

A formula is evaluated from left to right. Operators that need only one operand to decide leave the
other one alone, and so do conditions. Names are looked up among the loop names, then in the name
space, then among the functions that are always there; a name space may replace those by a
dictionary of its own.

Evaluation follows the formula and does not depend on how streams work: taking the next item of one
is a parameter. `Stream.draw` ties the knot, since the items of a computed stream are found by
evaluating again.
-/

namespace Splice.Formula

/-- The name under which a name space replaces the functions that are always there. -/
def builtinsName : String :=
  "__builtins__"

/-- The functions that are always there, as an object. -/
def builtinsObject : Object :=
  let shown := "<module 'builtins' (built-in)>"
  ⟨.inert shown shown "module", .word⟩

/-- What a name stands for when no name space knows it. -/
def fallbackName (known : String → Option Object) (n : String) : Compute Object :=
  match known builtinsName with
  | none =>
    match builtin? n with
    | some v => return ⟨v, .word⟩
    | none => if n == builtinsName then return builtinsObject else Compute.fail (.unbound n)
  | some replaced =>
    match replaced.value with
    | .dict entries => do
      match ← Compute.ofFault (Object.lookupKey (.new (.text n)) entries) with
      | some o => return o
      | none => Compute.fail (.unbound n)
    | _ =>
      match replaced.subscript (.new (.text n)) with
      | .ok o => return o
      | .error f => if f.kind == .keyError then Compute.fail (.unbound n) else throw f

/-- What a name stands for. -/
def resolve (frame : Frame) (n : String) : Compute Object := do
  match frame.loops.lookup n with
  | some slot => return ((← get).slots[slot]?).getD (.new .null)
  | none =>
    match (← get).spaces[frame.space]? with
    | none => Compute.fail (.unbound n)
    | some space =>
      match space.assigned.lookup n, space.known n with
      | some o, _ => return o
      | none, some o => return o
      | none, none => fallbackName space.known n

/-- Truth of a value. -/
def holds (o : Object) : Compute Bool :=
  Compute.ofFault o.value.truth

variable (draw : Nat → Compute (Option Object))

/-- Compares two objects. -/
def compareBy (c : Comparison) (l r : Object) : Compute Bool := do
  match c with
  | .equal => Compute.ofFault (l.equal r)
  | .unequal => return !(← Compute.ofFault (l.equal r))
  | .ordered rel => Compute.ofFault (l.related rel r)
  | .member => Compute.isIn draw l r
  | .notMember => return !(← Compute.isIn draw l r)
  | .same => return l.same r
  | .notSame => return !l.same r

namespace Expr

mutual

/-- The object that a formula evaluates to. -/
def eval (frame : Frame) : Expr → Compute Object
  | constant c => return c.object frame.code
  | name n => resolve frame n
  | list items => do Compute.list (← evalAll frame items)
  | tuple items => do Compute.tuple (← evalAll frame items)
  | set item => do Compute.singleton (← eval frame item)
  | dict entries => do Compute.dict (← evalEntries frame entries)
  | assign n e => do Compute.assign frame.space n (← eval frame e)
  | choose c yes no => do
    if ← holds (← eval frame c) then eval frame yes else eval frame no
  | both l r => do
    let o ← eval frame l
    if ← holds o then eval frame r else return o
  | either l r => do
    let o ← eval frame l
    if ← holds o then return o else eval frame r
  | negation e => do return .new (.bool !(← holds (← eval frame e)))
  | compare first rest => do evalChain frame (← eval frame first) rest
  | binary op l r => do
    let a ← eval frame l
    Compute.operate draw op a (← eval frame r)
  | negative e => do Compute.ofFault (← eval frame e).neg
  | subscript e index => do
    let a ← eval frame e
    Compute.ofFailure (a.subscript (← eval frame index))
  | member e n => do memberOf (← eval frame e) n
  | call f args => do
    let callee ← eval frame f
    Formula.call draw callee (← evalAll frame args)
  | listing element target source conditions => do
    let items ← Compute.sourceOf (← eval frame source).value
    let slot ← Compute.newSlot
    let inner : Frame := { frame with loops := (target, slot) :: frame.loops }
    let found ← Compute.filterMap draw (fun o => do
      Compute.setSlot slot o
      if ← holdAll inner conditions then return some (← eval inner element)
      else return none) items
    Compute.list found
  | generator element target source conditions => do
    let items ← Compute.sourceOf (← eval frame source).value
    let slot ← Compute.newSlot
    let inner : Frame := { frame with loops := (target, slot) :: frame.loops }
    let stream := Stream.generation ⟨inner, slot, element, conditions⟩ items
    Compute.newStream .computed stream

/-- The objects that several formulas evaluate to. -/
def evalAll (frame : Frame) : List Expr → Compute (List Object)
  | [] => return []
  | e :: es => do
    let o ← eval frame e
    return o :: (← evalAll frame es)

/-- The keys and values of a dictionary. -/
def evalEntries (frame : Frame) : List (Expr × Expr) → Compute (List (Object × Object))
  | [] => return []
  | (k, v) :: es => do
    let key ← eval frame k
    let value ← eval frame v
    return (key, value) :: (← evalEntries frame es)

/-- A chain of comparisons, up to the first that does not hold. -/
def evalChain (frame : Frame) (left : Object) : List (Comparison × Expr) → Compute Object
  | [] => return left
  | [(c, e)] => do return .new (.bool (← compareBy draw c left (← eval frame e)))
  | (c, e) :: rest => do
    let right ← eval frame e
    if ← compareBy draw c left right then evalChain frame right rest
    else return .new (.bool false)

/-- Whether all conditions hold. -/
def holdAll (frame : Frame) : List Expr → Compute Bool
  | [] => return true
  | e :: es => do
    if ← holds (← eval frame e) then holdAll frame es else return false

end

end Expr

end Splice.Formula
