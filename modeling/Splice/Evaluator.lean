import Splice.Filter.Eval
import Splice.Formula.Run
import Splice.World

/-!
# Evaluators

An evaluator gives code a value in an environment. There are two languages. Formulas can assign
names, and what they assign is written to the environment once the whole code has succeeded; filter
expressions only read. Either way a failure comes out as one kind of failure, which keeps the code
and the reason.

A scripted evaluator has an answer prepared for every code, for use in tests and demonstrations, and
a custom one is any function of a caller's. Evaluators are found by name in a `Registry`.
-/

namespace Splice

/-! ## Formulas -/

namespace Formula

/-- A way to run code that knows some names. It gives what the code evaluates to, and the name space
that it has been evaluated in. -/
abbrev Runner := String → (String → Option Object) → Compute (Object × Space)

/-- The names that have been rebound in a name space: those that stand for another object than
before, except for the name of the functions that are always there. -/
def Space.rebound (before : String → Option Object) (s : Space) : List (String × Object) :=
  s.assigned.filter fun e => e.1 != builtinsName && !(before e.1).any (·.same e.2)

end Formula

/-- The failure of some code for a reason. If the reason cannot be written, that is what fails. -/
def Failure.ofCode (code : String) (reason : Failure) : Failure :=
  if (Value.failure reason).isWritable then .evaluation code reason
  else .ofFault .tooManyDigits

namespace Formula

/-- Runs code that knows these names, then writes the names that it has rebound to the environment,
which takes over the objects that the name space held. -/
def runWriting (run : Runner) (code : String) (known : String → Option Object) : Action Object := do
  let (result, space) ← Action.compute (run code known)
  (space.rebound known).forM fun e => Action.define e.1 e.2
  return result

/-- Evaluates code whose names come from the environment and, behind it, from `globals`. Code that
fails writes nothing. -/
def evaluateBy (run : Runner) (globals : Bindings) (code : String) : Action Object := do
  if Text.allBlank code.toList then throw (.evaluation code (.ofFault .emptyCode))
  else
    let known := (← get).env.backedBy globals
    tryCatch (runWriting run code known) fun reason => throw (.ofCode code reason)

/-- Evaluates a formula. -/
def evaluate (globals : Bindings) (code : String) : Action Object :=
  evaluateBy run globals code

end Formula

/-! ## Filter expressions -/

/-- Evaluates a filter expression. -/
def Filter.evaluate (code : String) : Action Object := do
  let env := (← get).env
  try Action.compute (run code env.get?)
  catch reason => throw (.ofCode code reason)

/-! ## Scripts -/

/-- A prepared answer. An object is made anew for every request. -/
inductive Answer where
  | object (make : Compute Object)
  | failure (f : Failure)
  /-- What a name stands for. -/
  | lookup (name : String)
  /-- What the code stands for as a name. -/
  | lookupCode
  | code
  /-- The text of what a name stands for. -/
  | display (name : String)
  | assign (name : String) (make : Compute Object)

/-- Prepared answers by code, and one for every other code. -/
structure Script where
  answers : List (String × Answer)
  otherwise : Answer

/-- Gives a prepared answer. -/
def Answer.give (code : String) : Answer → Action Object
  | .object make => Action.compute make
  | .failure f => throw f
  | .lookup name => Action.lookup name
  | .lookupCode => Action.lookup code
  | .code => return .new (.text code)
  | .display name => do
    return .new (.text (← ofExcept (← Action.lookup name).value.display))
  | .assign name make => do
    let o ← Action.compute (do Compute.held (← make))
    Action.assign name o
    return o

/-- Answers some code, and records that it was asked for. -/
def Script.evaluate (s : Script) (code : String) : Action Object := do
  Action.recordCall code
  ((s.answers.lookup code).getD s.otherwise).give code

/-! ## Evaluators -/

/-- Something that evaluates code. -/
inductive Evaluator where
  /-- Formulas, with global names behind the environment. -/
  | formula (globals : Bindings)
  | filter
  | scripted (s : Script)
  /-- A function of a caller's, under a name. -/
  | custom (name : String) (evaluate : String → Action Object)

/-- What some code evaluates to. -/
def Evaluator.evaluate : Evaluator → String → Action Object
  | formula globals => Formula.evaluate globals
  | filter => Filter.evaluate
  | scripted s => s.evaluate
  | custom _ f => f

instance : Inhabited Evaluator := ⟨.filter⟩

/-! ## Finding evaluators by name -/

/-- Evaluators by name, with the name of the one that is used unless another is asked for. What is
registered under a name is a way to make an evaluator. It is taken to give one, the same every time,
without doing anything else, so the entries are the evaluators themselves. -/
structure Registry where
  entries : List (String × Evaluator)
  standardName : String
  deriving Inhabited

/-- How a caller says which evaluator to use. -/
inductive EvaluatorChoice where
  /-- The one that is used unless another is asked for. -/
  | standard
  | named (name : String)
  | given (e : Evaluator)
  /-- Something, in its quoted form, that is no evaluator. -/
  | unusable (shown : String)
  deriving Inhabited

namespace Registry

/-- The evaluators of this library under the names given; formulas are the standard. -/
def languages (formula filter : String) : Registry :=
  ⟨[(formula, .formula []), (filter, .filter)], formula⟩

def get? (r : Registry) (name : String) : Option Evaluator :=
  r.entries.lookup name

/-- Order of texts by code points. -/
def nameLe (s t : String) : Bool :=
  Text.order s.toList t.toList != .gt

/-- The known names, sorted. -/
def available (r : Registry) : List String :=
  (r.entries.map (·.1)).mergeSort nameLe

/-- Adds an evaluator under a new name. -/
def register (name : String) (e : Evaluator) (r : Registry) : Except Misuse Registry :=
  if (r.get? name).isSome then .error (.evaluatorTaken name)
  else .ok { r with entries := r.entries ++ [(name, e)] }

/-- The evaluator under a name. -/
def find (r : Registry) (name : String) : Action Evaluator := do
  match r.get? name with
  | none => throw (.ofMisuse (.unknownEvaluator name r.available))
  | some e =>
    Action.note .evaluation ("Creating " ++ name ++ " evaluator")
    return e

/-- The evaluator that a caller asks for. -/
def create (r : Registry) : EvaluatorChoice → Action Evaluator
  | .standard => r.find r.standardName
  | .named name => r.find name
  | .given e => return e
  | .unusable shown => throw (.ofMisuse (.notAnEvaluator shown))

end Registry

end Splice
