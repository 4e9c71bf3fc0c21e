import Splice.Formula.Frame

/-!
# What evaluation remembers

Most values are complete when they are there. A stream is not: its items come one by one, each only
once, and the items of a computed stream are found by evaluating a formula when they are asked for.
The state of every stream is in a `Store`, next to what such formulas need: the loop names that they
mention, in slots, and the name spaces of the evaluations that made them. The store also counts the
objects that something has held, so that each of them has a number of its own.

A `Compute` is a computation on a store that may fail. It has no access to an environment, so
nothing computed here can assign a name outside its own name space.
-/

namespace Splice

open Formula

/-- Where a loop takes its items from. -/
inductive Source where
  | items (rest : List Object)
  /-- Whole numbers at equal distances, of which so many are left. -/
  | numbers (next step : Int) (left : Nat)
  | stream (id : Nat)
  deriving Inhabited

/-- The state of a stream. -/
inductive Stream where
  /-- The items that are left, and the failure that comes after them, if any. -/
  | items (rest : List Object) (failure : Option Failure)
  | generation (g : Generation) (source : Source)
  /-- A stream that is just computing an item. -/
  | running
  deriving Inhabited

namespace Stream

/-- A stream without items. -/
def finished : Stream :=
  items [] none

/-- How often items can still be taken out of what a stream itself holds. -/
def pending : Stream → Nat
  | items rest _ => rest.length + 1
  | generation _ (.items rest) => rest.length + 1
  | generation _ (.numbers _ _ left) => left + 1
  | generation _ (.stream _) | running => 1

end Stream

/-- The state of all streams, loop names and name spaces. -/
structure Store where
  streams : Array Stream
  slots : Array Object
  spaces : Array Space
  /-- How many objects have been given a number. -/
  objects : Nat
  deriving Inhabited

/-- How many streams may be taking items out of one another. -/
def maxDepth : Nat :=
  1000

namespace Store

def empty : Store :=
  ⟨#[], #[], #[], 0⟩

/-- How often a stream can be asked for an item before it is exhausted or fails, at most. It cannot
be asked more often than the last of the streams that take their items from one another, and where
those are more than `depth`, the first request fails. -/
def pending (store : Store) : (depth : Nat) → (id : Nat) → Nat
  | 0, _ => 1
  | depth + 1, id =>
    match store.streams[id]? with
    | some (.generation _ (.stream source)) => store.pending depth source
    | some stream => stream.pending
    | none => 1

end Store

/-- Computations on a store that may fail; what they did to the store stays done. -/
abbrev Compute := ExceptT Failure (StateM Store)

namespace Compute

def ofFault {α : Type} : Except Fault α → Compute α
  | .ok a => pure a
  | .error f => throw (.ofFault f)

def ofFailure {α : Type} : Except Failure α → Compute α
  | .ok a => pure a
  | .error f => throw f

def fail {α : Type} (f : Fault) : Compute α :=
  throw (.ofFault f)

/-! ## Objects -/

/-- An object that something holds from now on. -/
def held (o : Object) : Compute Object :=
  if o.mark.isHeld then pure o
  else
    modifyGet fun store =>
      (⟨o.value, .made store.objects⟩, { store with objects := store.objects + 1 })

/-- Gives numbers to those objects that need one, counting from `next`. -/
def numberFrom (next : Nat) : List Object → List Object × Nat
  | [] => ([], next)
  | o :: os =>
    if o.mark.isHeld then
      let (done, after) := numberFrom next os
      (o :: done, after)
    else
      let (done, after) := numberFrom (next + 1) os
      (⟨o.value, .made next⟩ :: done, after)

/-- Objects that something holds from now on. -/
def heldAll (os : List Object) : Compute (List Object) :=
  modifyGet fun store =>
    let (done, next) := numberFrom store.objects os
    (done, { store with objects := next })

/-- A list of these objects. -/
def list (os : List Object) : Compute Object := do
  return .new (.list (← heldAll os))

/-- A tuple of these objects. -/
def tuple (os : List Object) : Compute Object := do
  return .new (.tuple (← heldAll os))

/-- The set of one object. -/
def singleton (o : Object) : Compute Object := do
  return .new (.set [← held (← ofFault o.asKey)])

/-- Entries whose keys and values something holds from now on. -/
def heldEntries (entries : List (Object × Object)) : Compute (List (Object × Object)) := do
  return (← heldAll (entries.map (·.1))).zip (← heldAll (entries.map (·.2)))

/-- The dictionary with these entries. -/
def dict (entries : List (Object × Object)) : Compute Object := do
  return .new (← ofFault (Object.makeDict (← heldEntries entries)))

/-! ## Streams, slots and name spaces -/

/-- A new stream. -/
def newStream (kind : StreamKind) (s : Stream) : Compute Object :=
  modifyGet fun store =>
    (.new (.stream kind store.streams.size),
      { store with streams := store.streams.push s })

def setStream (id : Nat) (s : Stream) : Compute Unit :=
  modify fun store => { store with streams := store.streams.setIfInBounds id s }

/-- A slot for a loop name. -/
def newSlot : Compute Nat :=
  modifyGet fun store =>
    (store.slots.size, { store with slots := store.slots.push (.new .null) })

def setSlot (slot : Nat) (o : Object) : Compute Unit := do
  let o ← held o
  modify fun store => { store with slots := store.slots.setIfInBounds slot o }

def newSpace (known : String → Option Object) : Compute Nat :=
  modifyGet fun store =>
    (store.spaces.size, { store with spaces := store.spaces.push (.fresh known) })

/-- A name space as it is at the moment. -/
def getSpace (space : Nat) : Compute Space := do
  return ((← get).spaces[space]?).getD (.fresh fun _ => none)

/-- Makes a name of a space stand for an object. -/
def assign (space : Nat) (name : String) (o : Object) : Compute Object := do
  let o ← held o
  modify fun store => { store with spaces := store.spaces.modify space (·.assign name o) }
  return o

/-! ## Running through items -/

/-- Where the items of a value come from. -/
def sourceOf (v : Value) : Compute Source :=
  match v with
  | .stream _ id => return .stream id
  | .range start stop step => return .numbers start step (Value.rangeLength start stop step)
  | _ =>
    match v.items?, v.undefined? with
    | some xs, _ => return .items xs
    | none, some why => fail (.undefined why)
    | none, none => fail (.notIterable v.typeName)

/-- Passes items of a list to `f` until it is done. -/
def foldItems {β : Type} (f : β → Object → Compute (ForInStep β)) : List Object → β → Compute β
  | [], b => pure b
  | v :: vs, b => do
    match ← f b v with
    | .done b => pure b
    | .yield b => foldItems f vs b

/-- Passes `left` numbers at equal distances to `f` until it is done. -/
def foldNumbers {β : Type} (f : β → Object → Compute (ForInStep β)) (next step : Int) :
    (left : Nat) → β → Compute β
  | 0, b => pure b
  | left + 1, b => do
    match ← f b (.new (.int next)) with
    | .done b => pure b
    | .yield b => foldNumbers f (next + step) step left b

/-- Passes what `next` gives to `f` until it is done, but no more than `bound` times. -/
def foldNext {β : Type} (next : Compute (Option Object))
    (f : β → Object → Compute (ForInStep β)) : (bound : Nat) → β → Compute β
  | 0, b => pure b
  | bound + 1, b => do
    match ← next with
    | none => pure b
    | some v =>
      match ← f b v with
      | .done b => pure b
      | .yield b => foldNext next f bound b

/-- Passes the items of a source to `f` until it is done. `draw` takes the next item of a stream. -/
def fold {β : Type} (draw : Nat → Compute (Option Object))
    (f : β → Object → Compute (ForInStep β)) (source : Source) (b : β) : Compute β :=
  match source with
  | .items xs => foldItems f xs b
  | .numbers next step left => foldNumbers f next step left b
  | .stream id => do foldNext (draw id) f ((← get).pending maxDepth id) b

/-- What `f` makes of the items of a source; it may skip some. -/
def filterMap {α : Type} (draw : Nat → Compute (Option Object)) (f : Object → Compute (Option α))
    (source : Source) : Compute (List α) := do
  let done ← fold draw (fun done v => do
    match ← f v with
    | some a => return .yield (a :: done)
    | none => return .yield done) source ([] : List α)
  return done.reverse

/-- All items of a value. A range that is too long is refused before its first item is made. -/
def collect (draw : Nat → Compute (Option Object)) (v : Value) : Compute (List Object) := do
  let source ← sourceOf v
  match source with
  | .items xs => return xs
  | .numbers .. => if Object.maxStored < (← ofFault v.length) then fail .noRoom
  | .stream _ => pure ()
  filterMap draw (fun x => return some x) source

/-- Whether an object is among the items of a container. Looking for it in a stream takes the items
up to it out of the stream. -/
def isIn (draw : Nat → Compute (Option Object)) (o container : Object) : Compute Bool :=
  match container.value with
  | .stream _ id =>
    fold draw (fun _ x => do
      if ← ofFault (x.matchesItem o) then return .done true else return .yield false)
      (.stream id) false
  | _ => ofFault (o.isIn container)

end Compute

end Splice
