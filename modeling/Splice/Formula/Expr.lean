import Splice.Value.Literal
import Splice.Value.Operation

/-!
# Formulas

Formulas are the expressions of the assignment language: arithmetic on whole and real numbers,
texts, lists, tuples and dictionaries, conditions, calls of a few functions and methods, and
comprehensions. They can also assign: `name := formula` gives a name a value for whatever is
evaluated after it.

A comprehension has a loop name of its own. An assignment inside a comprehension reaches out of it,
which is why it may not assign a loop name, and why it may not stand where the loop takes its items
from. `Expr.wellScoped` checks this.
-/

namespace Splice.Formula

/-- How two values are compared. -/
inductive Comparison where
  | equal
  | unequal
  | ordered (r : Relation)
  | member
  | notMember
  | same
  | notSame
  deriving DecidableEq, Repr, Inhabited

/-- A constant of a formula: a literal, or a tuple of constants. -/
inductive Constant where
  | literal (l : Literal)
  | tuple (items : List Constant)
  deriving Inhabited

/-- A formula. -/
inductive Expr where
  | constant (c : Constant)
  | name (n : String)
  | list (items : List Expr)
  | tuple (items : List Expr)
  /-- A set of one element. -/
  | set (item : Expr)
  | dict (entries : List (Expr × Expr))
  | assign (name : String) (value : Expr)
  | choose (condition yes no : Expr)
  | both (l r : Expr)
  | either (l r : Expr)
  | negation (e : Expr)
  /-- A chain of comparisons, each operand compared with the next. -/
  | compare (first : Expr) (rest : List (Comparison × Expr))
  | binary (op : Operation) (l r : Expr)
  | negative (e : Expr)
  | subscript (e index : Expr)
  | member (e : Expr) (name : String)
  | call (f : Expr) (args : List Expr)
  /-- The list of an element's values, while the target runs through what meets the conditions. -/
  | listing (element : Expr) (target : String) (source : Expr) (conditions : List Expr)
  /-- The same values one by one, computed when they are asked for. -/
  | generator (element : Expr) (target : String) (source : Expr) (conditions : List Expr)
  deriving Inhabited

namespace Expr

mutual

/-- Whether the assignments in a formula stand where they may. `targets` are the loop names around
it, and `inSource` says that a loop takes its items from it. -/
def wellScoped (targets : List String) (inSource : Bool) : Expr → Bool
  | constant _ | name _ => true
  | list items | tuple items => allWellScoped targets inSource items
  | set e | negation e | negative e | member e _ => wellScoped targets inSource e
  | dict entries => entriesWellScoped targets inSource entries
  | assign n e => !inSource && !targets.contains n && wellScoped targets inSource e
  | choose c y n =>
    wellScoped targets inSource c && wellScoped targets inSource y && wellScoped targets inSource n
  | both l r | either l r | binary _ l r | subscript l r =>
    wellScoped targets inSource l && wellScoped targets inSource r
  | compare e rest => wellScoped targets inSource e && chainWellScoped targets inSource rest
  | call f args => wellScoped targets inSource f && allWellScoped targets inSource args
  | listing e t s cs | generator e t s cs =>
    wellScoped targets true s && wellScoped (t :: targets) inSource e &&
      allWellScoped (t :: targets) inSource cs

def allWellScoped (targets : List String) (inSource : Bool) : List Expr → Bool
  | [] => true
  | e :: es => wellScoped targets inSource e && allWellScoped targets inSource es

def entriesWellScoped (targets : List String) (inSource : Bool) : List (Expr × Expr) → Bool
  | [] => true
  | (k, v) :: es =>
    wellScoped targets inSource k && wellScoped targets inSource v &&
      entriesWellScoped targets inSource es

def chainWellScoped (targets : List String) (inSource : Bool) :
    List (Comparison × Expr) → Bool
  | [] => true
  | (_, e) :: es => wellScoped targets inSource e && chainWellScoped targets inSource es

end

/-! ## Depth -/

/-- Whether a formula is a chain of `or`. -/
def isAlternatives : Expr → Bool
  | either .. => true
  | _ => false

/-- Whether a formula is a chain of `and`. -/
def isConjunctions : Expr → Bool
  | both .. => true
  | _ => false

mutual

/-- How deep a formula is nested. Chains of `and` and of `or` count once. -/
def depth : Expr → Nat
  | constant _ | name _ => 0
  | list items | tuple items => depthOfAll items + 1
  | set e | negation e | negative e | member e _ | assign _ e => depth e + 1
  | dict entries => depthOfEntries entries + 1
  | choose c y n => max (depth c) (max (depth y) (depth n)) + 1
  | both l r => max (depth l + if isConjunctions l then 0 else 1) (depth r + 1)
  | either l r => max (depth l + if isAlternatives l then 0 else 1) (depth r + 1)
  | compare e rest => max (depth e) (depthOfChain rest) + 1
  | binary _ l r | subscript l r => max (depth l) (depth r) + 1
  | call f args => max (depth f) (depthOfAll args) + 1
  | listing e _ s cs | generator e _ s cs =>
    max (depth e) (max (depth s) (depthOfAll cs)) + 1

def depthOfAll : List Expr → Nat
  | [] => 0
  | e :: es => max (depth e) (depthOfAll es)

def depthOfEntries : List (Expr × Expr) → Nat
  | [] => 0
  | (k, v) :: es => max (max (depth k) (depth v)) (depthOfEntries es)

def depthOfChain : List (Comparison × Expr) → Nat
  | [] => 0
  | (_, e) :: es => max (depth e) (depthOfChain es)

end

/-- Formulas may not be nested deeper than this. -/
def maxNesting : Nat :=
  2968

end Expr

end Splice.Formula
