import Splice.Value.Basic

/-!
# Literals

What code can write down as it is. Both expression languages know the same literals; everything else
is made by evaluating.
-/

namespace Splice

/-- A value that code writes down. -/
inductive Literal where
  | null
  | bool (b : Bool)
  | int (n : Int)
  | text (s : String)
  deriving DecidableEq, Repr, Inhabited

/-- The value that a literal writes. -/
def Literal.value : Literal → Value
  | null => .null
  | bool b => .bool b
  | int n => .int n
  | text s => .text s

end Splice
