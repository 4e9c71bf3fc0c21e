import Splice.Formula.Expr

/-!
# What a formula sees

A formula sees names: those of its own name space, which starts from the names that are known and
takes what the formula assigns, and the loop names around it, each of which has a slot. It also
belongs to some code, whose constants are objects of that code.
-/

namespace Splice.Formula

/-- The names of an evaluation: those it started with, and those it has assigned, each of them once.
-/
structure Space where
  known : String → Option Object
  assigned : List (String × Object)
  distinct : (assigned.map (·.1)).Nodup

namespace Space

/-- A name space in which nothing has been assigned. -/
def fresh (known : String → Option Object) : Space :=
  ⟨known, [], .nil⟩

/-- Makes a name stand for an object. -/
def assign (name : String) (o : Object) (s : Space) : Space where
  known := s.known
  assigned := (name, o) :: s.assigned.filter (·.1 != name)
  distinct := by
    rw [List.map_cons, List.nodup_cons]
    exact ⟨by simp, s.distinct.sublist (List.filter_sublist.map _)⟩

end Space

/-- What a formula sees: its name space, the slots of the loop names around it, and the code that it
is a part of. -/
structure Frame where
  space : Nat
  loops : List (String × Nat)
  code : String
  deriving Inhabited

/-- The formula part of a stream: what it yields for each item of its source. -/
structure Generation where
  frame : Frame
  slot : Nat
  element : Expr
  conditions : List Expr
  deriving Inhabited

end Splice.Formula
