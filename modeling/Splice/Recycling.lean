import Splice.Failure

/-!
# Recycling columns into lines

Each block of a template yields a column of tokens, and each literal a column of one. Lines are read
across: line `i` joins the tokens at position `i` of every column. There are as many lines as the
longest column has tokens, and a shorter column starts again from its top. The strict policy lets
only columns of one token repeat. A column without tokens leaves no lines at all, whatever the
policy.
-/

namespace Splice

namespace Recycling

/-- How columns of different lengths combine. A policy may be given by a name that means nothing; it
is refused when columns are combined, not before. -/
inductive Policy where
  | cycle
  | strict
  | unknown (name : String)
  deriving DecidableEq, Repr, Inhabited

namespace Policy

def ofName (name : String) : Policy :=
  if name == "cycle" then cycle else if name == "strict" then strict else unknown name

def name : Policy → String
  | cycle => "cycle"
  | strict => "strict"
  | unknown n => n

end Policy

/-- Why columns cannot be combined. -/
inductive Refusal where
  /-- Two columns of different lengths, neither of them one; the lengths of all columns. -/
  | lengths (lengths : List Nat)
  | policy (name : String)
  deriving DecidableEq, Repr

/-- The length of the longest column, and one if there are no columns. -/
def height (columns : List (List String)) : Nat :=
  match columns with
  | [] => 1
  | _ => (columns.map List.length).foldl max 0

/-- The token that a column shows on line `i`. -/
def tokenAt (column : Array String) (i : Nat) : String :=
  column.getD (i % column.size) ""

/-- Line `i` of some columns. -/
def line (columns : List (Array String)) (i : Nat) : String :=
  String.join (columns.map (tokenAt · i))

/-- The lines of some columns. -/
def lines (policy : Policy) (columns : List (List String)) : Except Refusal (List String) :=
  let lengths := columns.map List.length
  let n := height columns
  let table := columns.map List.toArray
  if lengths.contains 0 then .ok []
  else
    match policy with
    | .unknown name => .error (.policy name)
    | .strict =>
      if lengths.all fun k => k == 1 || k == n then .ok ((List.range n).map (line table))
      else .error (.lengths lengths)
    | .cycle => .ok ((List.range n).map (line table))

end Recycling

/-- A refusal to combine columns as a failure. -/
def Failure.ofRefusal : Recycling.Refusal → Failure
  | .lengths ls => .of (.recycling (ls.map Int.ofNat))
  | .policy n => .ofMisuse (.unknownPolicy n)

end Splice
