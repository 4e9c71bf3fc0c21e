import Splice.Formula.Expr

/-!
# Constants of formulas

The parts of a formula that are made of nothing but constants are worked out before it is evaluated,
unless that fails or gives something large (`Expr.fold`). It makes no difference to values, but it
does to objects: all equal constants of some code are one object, also those that are worked out.
Texts that look like names are shared by all code, and single letters with all other texts.
-/

namespace Splice.Formula

/-! ## Constants as objects -/

/-- Whether all characters may stand in a name, as far as ASCII goes. -/
def looksLikeName (s : List Char) : Bool :=
  s.all fun c => c.isAlphanum || c == '_'

/-- Letters that the functions and methods of the language use as names of their own, so that they
are not the letters found in texts. -/
def ownLetters : List Char :=
  "abcdefhijklmnopqrstvwxyBCLST_".toList

namespace Constant

/-- Which object a constant of some code is. -/
def mark (code : String) : Constant → Mark
  | literal (.text s) =>
    match s.toList with
    | [c] =>
      if ownLetters.contains c then .word else if c.toNat < 256 then .letter else .constant code
    | cs => if looksLikeName cs then .word else .constant code
  | _ => .constant code

mutual

/-- The value of a constant of some code. -/
def value (code : String) : Constant → Value
  | literal l => l.value
  | tuple items => .tuple (objects code items)

/-- Constants of some code as objects. -/
def objects (code : String) : List Constant → List Object
  | [] => []
  | c :: cs => ⟨value code c, mark code c⟩ :: objects code cs

end

/-- A constant of some code as an object. -/
def object (code : String) (c : Constant) : Object :=
  ⟨c.value code, c.mark code⟩

mutual

/-- The constant that has a value, if there is one. -/
def ofValue? : Value → Option Constant
  | .null => some (literal .null)
  | .bool b => some (literal (.bool b))
  | .int n => some (literal (.int n))
  | .text s => some (literal (.text s))
  | .tuple items => (ofObjects? items).map tuple
  | _ => none

/-- The constants that have the values of some objects, if there are such. -/
def ofObjects? : List Object → Option (List Constant)
  | [] => some []
  | ⟨v, _⟩ :: os =>
    match ofValue? v, ofObjects? os with
    | some c, some cs => some (c :: cs)
    | _, _ => none

end

end Constant

/-! ## Working constants out -/

/-- How many binary digits a whole number has. -/
def bitCount (n : Int) : Nat :=
  if n == 0 then 0 else n.natAbs.log2 + 1

/-- How many items are copied by `*` at most when constants are worked out. -/
def mostCopies : Value → Nat
  | .text _ | .bytes _ => 4096
  | _ => 256

/-- Whether repeating a constant gives something small enough. -/
def smallRepetition (v : Value) (size : Nat) (n : Int) : Bool :=
  size == 0 || (0 ≤ n && n.toNat ≤ mostCopies v / size)

/-- Whether the product of two constants is small enough to be worked out. -/
def smallProduct (v w : Value) : Bool :=
  match Object.repeatable? v, Object.repeatable? w, v.asInt?, w.asInt? with
  | some size, none, _, some n => smallRepetition v size n
  | none, some size, some n, _ => smallRepetition w size n
  | none, none, some m, some n => m == 0 || n == 0 || bitCount m + bitCount n ≤ 128
  | _, _, _, _ => true

/-- Whether an operation on two constants is worked out. -/
def isFolded (op : Operation) (v w : Value) : Bool :=
  match op with
  | .mul => smallProduct v w
  | .mod => !Object.isPattern v
  | _ => true

/-- The constant that an operation on constants gives, unless it fails. -/
def worked? {ε : Type} (r : Except ε Object) (otherwise : Expr) : Expr :=
  match r.toOption.bind fun o => Constant.ofValue? o.value with
  | some c => .constant c
  | none => otherwise

/-- The constants among some formulas, if all are constants. -/
def constants? : List Expr → Option (List Constant)
  | [] => some []
  | .constant c :: es => (constants? es).map (c :: ·)
  | _ => none

namespace Expr

/-- Works an operation out if its operands are constants. -/
def foldBinary (code : String) (op : Operation) (l r : Expr) : Expr :=
  match l, r with
  | constant c, constant d =>
    let v := c.value code
    let w := d.value code
    if isFolded op v w then worked? (Object.operate op (.new v) (.new w)) (binary op l r)
    else binary op l r
  | _, _ => binary op l r

/-- Works an index out if everything is constant. -/
def foldSubscript (code : String) (e index : Expr) : Expr :=
  match e, index with
  | constant c, constant d =>
    worked? (Object.subscript (.new (c.value code)) (.new (d.value code))) (subscript e index)
  | _, _ => subscript e index

/-- Works a minus sign out in front of a constant. -/
def foldNegative (code : String) (e : Expr) : Expr :=
  match e with
  | constant c => worked? (Object.neg (.new (c.value code))) (negative e)
  | _ => negative e

/-- Works a negation out in front of a constant. -/
def foldNegation (code : String) (e : Expr) : Expr :=
  match e with
  | constant c => worked? ((c.value code).truth.map fun b => .new (.bool !b)) (negation e)
  | _ => negation e

/-- A tuple, which is a constant if all its items are. -/
def foldTuple (items : List Expr) : Expr :=
  match constants? items with
  | some cs => constant (.tuple cs)
  | none => tuple items

mutual

/-- A formula whose constant parts have been worked out. -/
def fold (code : String) : Expr → Expr
  | constant c => constant c
  | name n => name n
  | list items => list (foldAll code items)
  | tuple items => foldTuple (foldAll code items)
  | set item => set (fold code item)
  | dict entries => dict (foldEntries code entries)
  | assign n e => assign n (fold code e)
  | choose c y n => choose (fold code c) (fold code y) (fold code n)
  | both l r => both (fold code l) (fold code r)
  | either l r => either (fold code l) (fold code r)
  | negation e => foldNegation code (fold code e)
  | compare e rest => compare (fold code e) (foldChain code rest)
  | binary op l r => foldBinary code op (fold code l) (fold code r)
  | negative e => foldNegative code (fold code e)
  | subscript e index => foldSubscript code (fold code e) (fold code index)
  | member e n => member (fold code e) n
  | call f args => call (fold code f) (foldAll code args)
  | listing e t s cs => listing (fold code e) t (fold code s) (foldAll code cs)
  | generator e t s cs => generator (fold code e) t (fold code s) (foldAll code cs)

def foldAll (code : String) : List Expr → List Expr
  | [] => []
  | e :: es => fold code e :: foldAll code es

def foldEntries (code : String) : List (Expr × Expr) → List (Expr × Expr)
  | [] => []
  | (k, v) :: es => (fold code k, fold code v) :: foldEntries code es

def foldChain (code : String) : List (Comparison × Expr) → List (Comparison × Expr)
  | [] => []
  | (c, e) :: es => (c, fold code e) :: foldChain code es

end

end Expr

end Splice.Formula
