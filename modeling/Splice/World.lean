import Splice.Environment
import Splice.Store

/-!
# Rendering as a process

Rendering reads and assigns names, takes items out of streams, and leaves a trace: which codes
scripted evaluators were asked for, and what was noted for the log. A `World` is the state of all
this, and an `Action` is something that happens in it and may fail. A failure does not undo what was
done before.

Computations on streams are actions that only see the store, so they leave the rest of the world as
it is (`Action.compute_world`).
-/

namespace Splice

/-- The parts of the library that keep a log. -/
inductive Topic where
  | evaluation
  | hooks
  | rendering
  | splicing
  deriving DecidableEq, Repr, Inhabited

/-- An entry of the log; all of them serve debugging. -/
structure Notice where
  topic : Topic
  text : String
  deriving DecidableEq, Repr, Inhabited

/-- The state in which rendering takes place. -/
structure World where
  env : Environment
  store : Store
  /-- The codes that scripted evaluators and nested templates were asked for, in order. -/
  calls : List String
  notices : List Notice
  deriving Inhabited

/-- A world with this environment in which nothing has happened yet. -/
def World.new (env : Environment) (store : Store) : World :=
  ⟨env, store, [], []⟩

/-- Something that happens and may fail. -/
abbrev Action := ExceptT Failure (StateM World)

namespace Action

/-- Does a computation on the streams. -/
def compute {α : Type} (c : Compute α) : Action α := fun w =>
  let (result, store) := c.run.run w.store
  (result, { w with store })

/-- Writes to the log. -/
def note (topic : Topic) (text : String) : Action Unit :=
  modify fun w => { w with notices := w.notices ++ [⟨topic, text⟩] }

/-- Records that some code was asked for. -/
def recordCall (code : String) : Action Unit :=
  modify fun w => { w with calls := w.calls ++ [code] }

/-- What a name stands for. -/
def lookup (name : String) : Action Object := do
  match (← get).env.get? name with
  | some o => return o
  | none => throw (.missingKey (.new (.text name)))

/-- Makes a name stand for an object that something holds already. -/
def define (name : String) (o : Object) : Action Unit := do
  match (← get).env.assign name o with
  | .ok env => modify fun w => { w with env }
  | .error f => throw (.ofFault f)

/-- Makes a name stand for an object. -/
def assign (name : String) (o : Object) : Action Unit := do
  define name (← compute (Compute.held o))

/-- Does something in an environment with a fresh layer and the given ones in front, and leaves it
again, whatever came of it. -/
def within {α : Type} (maps : List Bindings) (act : Action α) : Action α := fun w =>
  let (result, w') := act.run.run { w with env := w.env.enter maps }
  (result, { w' with env := w'.env.leave })

/-! ## What actions leave alone -/

/-- A computation on the streams leaves everything but the streams alone. -/
theorem compute_world {α : Type} (c : Compute α) (w : World) :
    ((compute c).run.run w).2 = { w with store := (c.run.run w.store).2 } := rfl

end Action

end Splice
