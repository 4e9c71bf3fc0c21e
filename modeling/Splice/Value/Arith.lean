import Splice.Value.Compare
import Splice.Value.Display

/-!
# Arithmetic, indexing and membership

The operators of expression code on objects that are already at hand. Whole numbers are unbounded
and divide towards the floor, so a remainder has the sign of its divisor. `+` also joins texts,
lists and tuples, `*` repeats them, and `-` takes elements out of sets. An operand that is undefined
is reported before anything else.

Joining or repeating what cannot change gives back an operand, and not a copy, if nothing is added
to it.
-/

namespace Splice.Object

/-- The least number that can count items, if they are counted backwards. -/
def minCount : Int :=
  -(Int.pow 2 63)

/-- The largest number that can count items. -/
def maxCount : Int :=
  Int.pow 2 63 - 1

/-- Whether a number can count items or say where one is. -/
def isCount (n : Int) : Bool :=
  minCount ≤ n && n ≤ maxCount

/-- More items than this cannot be stored. -/
def maxStored : Nat :=
  Nat.pow 2 32

/-! ## Numbers -/

/-- The real number nearest to a whole one, if there is any near it. -/
def realOf (n : Int) : Except Fault Binary64 :=
  let x := Binary64.ofInt n
  if x.isInfinite then .error .tooLarge else .ok x

/-- Applies an operation on two numbers, in whole or in real arithmetic. -/
def onNumbers (whole : Int → Int → Except Fault Value)
    (real : Binary64 → Binary64 → Except Fault Value) (otherwise : Fault) (a b : Object) :
    Except Fault Object :=
  match a.value.numeric?, b.value.numeric? with
  | some (.whole m), some (.whole n) => (whole m n).map new
  | some (.real x), some (.whole n) => do return new (← real x (← realOf n))
  | some (.whole m), some (.real y) => do return new (← real (← realOf m) y)
  | some (.real x), some (.real y) => (real x y).map new
  | _, _ => .error otherwise

/-- Does something with two operands that are both defined. -/
def ifDefined {α : Type} (a b : Object) (act : Except Fault α) : Except Fault α :=
  match undefinedAmong a b with
  | some why => .error (.undefined why)
  | none => act

/-- Sum of two numbers, or one sequence after the other. -/
def add (a b : Object) : Except Fault Object :=
  ifDefined a b <|
    let other := b.value.typeName
    match a.value, b.value with
    | .text s, .text t =>
      .ok (if t == "" then a else if s == "" then b else new (.text (s ++ t)))
    | .text _, _ => .error (.concatenation "str" other)
    | .list xs, .list ys => .ok (new (.list (xs ++ ys)))
    | .list _, _ => .error (.concatenation "list" other)
    | .tuple xs, .tuple ys =>
      .ok (if xs.isEmpty then b else if ys.isEmpty then a else new (.tuple (xs ++ ys)))
    | .tuple _, _ => .error (.concatenation "tuple" other)
    | .bytes s, .bytes t =>
      .ok (if s.isEmpty then b else if t.isEmpty then a else new (.bytes (s ++ t)))
    | .bytes s, .buffer t => .ok (if t.isEmpty then a else new (.bytes (s ++ t)))
    | .bytes _, _ => .error (.byteConcatenation "bytes" other)
    | .buffer s, .bytes t | .buffer s, .buffer t => .ok (new (.buffer (s ++ t)))
    | .buffer _, _ => .error (.byteConcatenation "bytearray" other)
    | _, _ =>
      onNumbers (fun m n => .ok (.int (m + n))) (fun x y => .ok (.real (x.add y)))
        (.operands "+" a.value.typeName other) a b

/-- The objects that match none of some others. -/
def without (ys : List Object) : List Object → Except Fault (List Object)
  | [] => .ok []
  | x :: xs => do
    let rest ← without ys xs
    return if ← x.isAmong ys then rest else x :: rest

/-- Difference of two numbers or of two sets. -/
def sub (a b : Object) : Except Fault Object :=
  ifDefined a b <|
    match a.value, b.value with
    | .set xs, .set ys => (without ys xs).map fun zs => new (.set zs)
    | _, _ =>
      onNumbers (fun m n => .ok (.int (m - n))) (fun x y => .ok (.real (x.sub y)))
        (.operands "-" a.value.typeName b.value.typeName) a b

/-- How many items `*` repeats, if it can repeat a value at all. -/
def repeatable? : Value → Option Nat
  | .text s => some s.length
  | .list xs | .tuple xs => some xs.length
  | .bytes bs | .buffer bs => some bs.length
  | _ => none

/-- `n` copies of a list, one after the other; a negative number counts as zero. -/
def copies {α : Type} (n : Int) (xs : List α) : List α :=
  (List.replicate n.toNat xs).flatten

/-- `n` copies of a text, one after the other. -/
def textCopies (n : Nat) (s : String) : String :=
  if n = 0 then ""
  else
    let half := textCopies (n / 2) s
    if n % 2 = 0 then half ++ half else half ++ half ++ s
termination_by n

/-- A sequence of `size` items repeated `n` times. -/
def repeated (a : Object) (size : Nat) (n : Int) : Except Fault Object :=
  if !isCount n then .error .uncountable
  else
    let total := size * n.toNat
    match a.value with
    | .text s =>
      if maxCount < total then .error (.tooManyCopies "string is")
      else if maxStored < total then .error .noRoom
      else .ok (if n == 1 then a else new (.text (textCopies n.toNat s)))
    | .bytes bs =>
      if maxCount < total then .error (.tooManyCopies "bytes are")
      else if maxStored < total then .error .noRoom
      else .ok (if n == 1 then a else new (.bytes (copies n bs)))
    | .tuple xs =>
      if maxStored < total then .error .noRoom
      else .ok (if n == 1 then a else new (.tuple (copies n xs)))
    | .list xs => if maxStored < total then .error .noRoom else .ok (new (.list (copies n xs)))
    | .buffer bs => if maxStored < total then .error .noRoom else .ok (new (.buffer (copies n bs)))
    | _ => .ok a

/-- Product of two numbers, or a sequence repeated. -/
def mul (a b : Object) : Except Fault Object :=
  ifDefined a b <|
    match repeatable? a.value, repeatable? b.value with
    | some size, _ =>
      match b.value.asInt? with
      | some n => repeated a size n
      | none => .error (.repetition b.value.typeName)
    | none, some size =>
      match a.value.asInt? with
      | some n => repeated b size n
      | none => .error (.repetition a.value.typeName)
    | none, none =>
      onNumbers (fun m n => .ok (.int (m * n))) (fun x y => .ok (.real (x.mul y)))
        (.operands "*" a.value.typeName b.value.typeName) a b

/-- The floor of a quotient. -/
def floorDiv (a b : Object) : Except Fault Object :=
  ifDefined a b <|
    onNumbers
      (fun m n => if n == 0 then .error .divisionByZero else .ok (.int (Int.fdiv m n)))
      (fun x y =>
        if y.significand == 0 then .error .realDivisionByZero
        else .ok (.real (x.floorDiv y)))
      (.operands "//" a.value.typeName b.value.typeName) a b

/-- Whether a whole number is its own remainder: it is kept as it is if the divisor is large. -/
def isOwnRemainder (a b : Value) : Bool :=
  match a, b with
  | .int m, .int n => Int.pow 2 30 ≤ n.natAbs && Int.fmod m n == m
  | _, _ => false

/-- The remainder that goes with `floorDiv`. -/
def mod (a b : Object) : Except Fault Object :=
  ifDefined a b <|
    if isOwnRemainder a.value b.value then .ok a
    else
      onNumbers
        (fun m n => if n == 0 then .error .remainderByZero else .ok (.int (Int.fmod m n)))
        (fun x y =>
          if y.significand == 0 then .error .realRemainderByZero
          else .ok (.real (x.mod y)))
        (.operands "%" a.value.typeName b.value.typeName) a b

/-- The negative of a number. -/
def neg (a : Object) : Except Fault Object :=
  match a.value.undefined?, a.value.numeric? with
  | some why, _ => .error (.undefined why)
  | none, some (.whole n) => .ok (new (.int (-n)))
  | none, some (.real x) => .ok (new (.real x.neg))
  | none, none => .error (.operand "-" a.value.typeName)

end Splice.Object

/-! ## Sizes -/

namespace Splice.Value

/-- The number of items. -/
def length (v : Value) : Except Fault Nat :=
  match v with
  | text s => .ok s.length
  | bytes bs | buffer bs => .ok bs.length
  | list xs | tuple xs | set xs => .ok xs.length
  | dict es | view _ es => .ok es.length
  | range a b c =>
    let n := rangeLength a b c
    if Object.maxCount < n then .error .tooLong else .ok n
  | undefined why => if why.isLenient then .ok 0 else .error (.undefined why)
  | _ => .error (.noLength v.typeName)

end Splice.Value

namespace Splice.Object

/-! ## Keys -/

/-- Refuses what cannot be a key. -/
def asKey (a : Object) : Except Fault Object :=
  match a.value.keyFault? with
  | some f => .error f
  | none => .ok a

/-- Looks a key up. -/
def lookupKey (k : Object) (entries : List (Object × Object)) : Except Fault (Option Object) :=
  findEntry (fun k' => k'.matchesItem k) entries

/-- Adds an entry; a key that matches keeps its place and its form and takes the new value. -/
def insertKey (k v : Object) : List (Object × Object) → Except Fault (List (Object × Object))
  | [] => .ok [(k, v)]
  | (k', v') :: es =>
    match k'.matchesItem k with
    | .ok true => .ok ((k', v) :: es)
    | .ok false => (insertKey k v es).map ((k', v') :: ·)
    | .error f => .error f

/-- The dictionary with these entries, later ones in the place of earlier ones. -/
def makeDict (entries : List (Object × Object)) : Except Fault Value := do
  let es ← entries.foldlM (fun es (k, v) => do insertKey (← k.asKey) v es) []
  return .dict es

/-! ## Indexing -/

/-- The position that an index means among `size` items; a negative one counts from the end. -/
def position? (size : Nat) (i : Int) : Option Nat :=
  let j := if i < 0 then i + size else i
  if 0 ≤ j && j < size then some j.toNat else none

/-- The item at an index. -/
def itemAt (container : String) (counted : Bool) (size : Nat) (get : Nat → Option Object)
    (index : Object) : Except Fault Object :=
  match index.value.asInt? with
  | none => .error (.indexNotWhole container index.value.typeName)
  | some i =>
    if counted && !isCount i then .error .indexUncountable
    else
      match (position? size i).bind get with
      | some item => .ok item
      | none => .error (.indexOutOfRange container)

/-- The value of a key. -/
def valueAt (entries : List (Object × Object)) (key : Object) : Except Failure Object := do
  match ← ((do lookupKey (← key.asKey) entries).mapError .ofFault : Except Failure _) with
  | some found => return found
  | none => throw (.missingKey key)

/-- The types that can be narrowed to a type for their items. -/
def parametricTypes : List String :=
  ["list", "tuple", "set", "dict", "type"]

/-- What a type is narrowed to, as its text shows it. -/
def parameterText (v : Value) : String :=
  match v with
  | .type n => n
  | .builtin f => f.name
  | v => v.quoted

/-- A type narrowed to some parameters. It is an object that can do nothing. -/
def narrowed (type : String) (parameters : Value) : Object :=
  let shown := match parameters with
    | .tuple [] => "()"
    | .tuple xs => ", ".intercalate (xs.map fun x => parameterText x.value)
    | v => parameterText v
  let text := type ++ "[" ++ shown ++ "]"
  new (.inert text text "types.GenericAlias")

/-- What `a[index]` is. -/
def subscript (a index : Object) : Except Failure Object :=
  let item (container : String) (counted : Bool) (size : Nat) (get : Nat → Option Object) :
      Except Failure Object :=
    (itemAt container counted size get index).mapError .ofFault
  let byteItem (container : String) (bs : List UInt8) : Except Failure Object :=
    item container true bs.length fun i => bs[i]?.map fun b => new (.int b.toNat)
  match a.value with
  | .list xs => item "list" true xs.length (xs[·]?)
  | .tuple xs => item "tuple" true xs.length (xs[·]?)
  | .text s => item "string" true s.length fun i => (s.drop i).front?.map ofChar
  | .bytes bs => byteItem "byte" bs
  | .buffer bs => byteItem "bytearray" bs
  | .range x y z =>
    item "range" false (Value.rangeLength x y z) fun i => some (new (.int (x + z * (i : Int))))
  | .dict es => valueAt es index
  | .type n =>
    if parametricTypes.contains n then .ok (narrowed n index.value)
    else .error (.ofFault (.typeNotSubscriptable (Value.lastName n)))
  | .undefined why => .error (.ofFault (.undefined why))
  | v => .error (.ofFault (.notSubscriptable v.typeName))

/-! ## Membership -/

/-- Whether one list occurs in another, without gaps. -/
def occursIn {α : Type} [BEq α] (needle : List α) : List α → Bool
  | [] => needle.isEmpty
  | c :: rest => needle.isPrefixOf (c :: rest) || occursIn needle rest

/-- Whether a value is one of these bytes, or a run of them. -/
def isAmongBytes (v : Value) (bs : List UInt8) : Except Fault Bool :=
  match v with
  | .bytes t | .buffer t => .ok (occursIn t bs)
  | _ =>
    match v.asInt? with
    | none => .error (.notBytes v.typeName)
    | some n =>
      if 0 ≤ n && n < 256 then .ok (bs.any fun b => (b.toNat : Int) == n) else .error .noByte

/-- Whether an object is among the entries of a dictionary, as key and value. -/
def isEntry (a : Object) (entries : List (Object × Object)) : Except Fault Bool :=
  match a.value with
  | .tuple [k, v] => do
    match ← lookupKey (← k.asKey) entries with
    | some found => found.matchesItem v
    | none => return false
  | _ => .ok false

/-- Whether an object is among `left` numbers, from the first one on at equal distances. -/
def isAmongNumbers (a : Object) (first step : Int) : (left : Nat) → Except Fault Bool
  | 0 => .ok false
  | left + 1 =>
    match (new (.int first)).matchesItem a with
    | .ok false => isAmongNumbers a (first + step) step left
    | r => r

/-- Whether an object is among the items of a container that is not a stream. -/
def isIn (a container : Object) : Except Fault Bool :=
  match container.value with
  | .text s =>
    match a.value with
    | .text t => .ok (occursIn t.toList s.toList)
    | v => .error (.memberNotText v.typeName)
  | .dict es | .view .keys es => do return (← lookupKey (← a.asKey) es).isSome
  | .view .items es => isEntry a es
  | .view .values es => a.isAmong (es.map (·.2))
  | .set xs =>
    match a.value with
    | .set _ => .ok false
    | _ => do (← a.asKey).isAmong xs
  | .range x y z =>
    match a.value.asInt? with
    | some n =>
      .ok (if 0 < z then x ≤ n && n < y && Int.fmod (n - x) z == 0
        else n ≤ x && y < n && Int.fmod (x - n) (-z) == 0)
    | none => a.isAmongNumbers x z (Value.rangeLength x y z)
  | .list xs | .tuple xs => a.isAmong xs
  | .bytes bs | .buffer bs => isAmongBytes a.value bs
  | .undefined why => if why.isLenient then .ok false else .error (.undefined why)
  | v => .error (.noMembers v.typeName)

end Splice.Object
