import Splice.Value.Basic

/-!
# Equality and order of objects

Numbers are equal when they are the same number, whatever their type; truth values count as zero and
one. Lists and tuples compare item by item and dictionaries entry by entry, but a list never equals
a tuple. The keys of a dictionary compare like a set, and so do its entries. Values of which nothing
is known, and failures, equal only themselves. Order exists between numbers, between texts, between
bytes, between sets, of which one may hold the other, and between lists or tuples, which are ordered
by their first difference. Everything else is unequal and unordered.

Containers take an object to equal itself without looking at its value, so a list with a
not-a-number in it equals itself although the number does not (`Object.matchesItem`).

An undefined value can be neither compared nor ordered: reaching one is a fault.
-/

namespace Splice

namespace Value

/-- The number that a value is: a whole one or a real one. -/
inductive Numeric where
  | whole (n : Int)
  | real (x : Binary64)

def numeric? : Value → Option Numeric
  | int n => some (.whole n)
  | bool b => some (.whole (if b then 1 else 0))
  | real x => some (.real x)
  | _ => none

/-- Order of two numbers, decided exactly; none if one is not a number. -/
def Numeric.compare? : Numeric → Numeric → Option Ordering
  | .whole a, .whole b => some (compare a b)
  | .real x, .whole b => x.compareInt? b
  | .whole a, .real y => (y.compareInt? a).map Ordering.swap
  | .real x, .real y => x.compare? y

/-- Equality of two ranges as sequences of items. -/
def rangeEqual (a b c a' b' c' : Int) : Bool :=
  let n := rangeLength a b c
  n == rangeLength a' b' c' && (n == 0 || a == a' && (n == 1 || c == c'))

/-! ## Keys -/

mutual

/-- Keys of dictionaries and elements of sets must not be able to change: the result says which part
of a value is in the way. -/
def keyFault? : Value → Option Fault
  | list _ => some (.unhashable "list")
  | dict _ => some (.unhashable "dict")
  | set _ => some (.unhashable "set")
  | view .values _ => none
  | view p _ => some (.unhashable p.typeName)
  | buffer _ => some (.unhashable "bytearray")
  | tuple xs => keyFaultAmong? xs
  | undefined why => if why.isLenient then none else some (.undefined why)
  | _ => none

/-- The first part of some objects that is in the way. -/
def keyFaultAmong? : List Object → Option Fault
  | [] => none
  | ⟨v, _⟩ :: xs => (keyFault? v).or (keyFaultAmong? xs)

end

/-- Whether a value looks for things by what they are as keys: sets and the keys of a dictionary do,
its entries do not. -/
def looksUpKeys : Value → Bool
  | set _ | view .keys _ => true
  | _ => false

/-- Some objects up to the first that cannot be a key, and what is in its way. -/
def keysBefore : List Object → List Object × Option Fault
  | [] => ([], none)
  | x :: xs =>
    match x.value.keyFault? with
    | some f => ([], some f)
    | none =>
      let (found, fault) := keysBefore xs
      (x :: found, fault)

end Value

namespace Object

/-- The operand that is undefined and good for nothing at all, the left one first. -/
def uselessAmong (a b : Object) : Option Missing :=
  a.value.useless?.or b.value.useless?

/-- The operand that is undefined, the left one first. -/
def undefinedAmong (a b : Object) : Option Missing :=
  a.value.undefined?.or b.value.undefined?

/-- Equality of two values that are not made of others; none if each of them equals only itself. -/
def valueEqual? (v w : Value) : Option Bool :=
  match v, w with
  | .null, .null => some true
  | .text s, .text t => some (s == t)
  | .bytes s, .bytes t | .bytes s, .buffer t | .buffer s, .bytes t | .buffer s, .buffer t =>
    some (s == t)
  | .range a b c, .range a' b' c' => some (Value.rangeEqual a b c a' b' c')
  | .method r m, .method s k => some (r.same s && m == k)
  | .inert d s t, .inert d' s' t' => some (d == d' && s == s' && t == t')
  | .undefined _, .undefined _ => some true
  | v, w =>
    match v.numeric?, w.numeric? with
    | some m, some n => some (m.compare? n == some .eq)
    | _, _ => none

/-- Equality of two objects that are not made of others. -/
def leafEqual (a b : Object) : Except Fault Bool :=
  match uselessAmong a b with
  | some why => .error (.undefined why)
  | none => .ok ((valueEqual? a.value b.value).getD (a.same b))

/-- Whether some entry has a key for which the test holds, and then its value. -/
def findEntry (test : Object → Except Fault Bool) :
    List (Object × Object) → Except Fault (Option Object)
  | [] => .ok none
  | (k, v) :: es =>
    match test k with
    | .ok true => .ok (some v)
    | .ok false => findEntry test es
    | .error f => .error f

/-- Whether the test holds for some object. -/
def anyOf (test : Object → Except Fault Bool) : List Object → Except Fault Bool
  | [] => .ok false
  | x :: xs =>
    match test x with
    | .ok false => anyOf test xs
    | r => r

mutual

/-- Equality of two objects. -/
def equal : Object → Object → Except Fault Bool
  | ⟨.list xs, _⟩, ⟨.list ys, _⟩ =>
    if xs.length == ys.length then equalAll xs ys else .ok false
  | ⟨.tuple xs, _⟩, ⟨.tuple ys, _⟩ =>
    if xs.length == ys.length then equalAll xs ys else .ok false
  | ⟨.set xs, m⟩, b =>
    match b.value.setItems? with
    | some ys =>
      if xs.length == ys.length then do
        let (keys, fault) := Value.keysBefore ys
        if (← matched xs keys) != keys.length then return false
        else fault.elim (.ok true) .error
      else .ok false
    | none => leafEqual ⟨.set xs, m⟩ b
  | ⟨.view p es, m⟩, b =>
    match p, b.value.setItems? with
    | .keys, some ys => if es.length == ys.length then keysWithin es ys else .ok false
    | .items, some ys =>
      if es.length == ys.length then entriesWithin b.value.looksUpKeys es ys else .ok false
    | _, _ => leafEqual ⟨.view p es, m⟩ b
  | ⟨.dict es, _⟩, ⟨.dict fs, _⟩ =>
    if es.length == fs.length then equalEntries es fs else .ok false
  | ⟨v, m⟩, b => leafEqual ⟨v, m⟩ b
termination_by structural a => a

/-- Equality item by item; an item matches itself. -/
def equalAll : List Object → List Object → Except Fault Bool
  | x :: xs, y :: ys =>
    if x.same y then equalAll xs ys
    else
      match equal x y with
      | .ok true => equalAll xs ys
      | r => r
  | [], [] => .ok true
  | _, _ => .ok false
termination_by structural xs => xs

/-- How many objects have a counterpart. -/
def matched : List Object → List Object → Except Fault Nat
  | [], _ => .ok 0
  | x :: xs, ys => do
    let found ← anyOf (fun y => if x.same y then .ok true else equal x y) ys
    return (if found then 1 else 0) + (← matched xs ys)
termination_by structural xs => xs

/-- Whether every key has a counterpart. -/
def keysWithin : List (Object × Object) → List Object → Except Fault Bool
  | [], _ => .ok true
  | (k, _) :: es, ys =>
    match anyOf (fun y => if k.same y then .ok true else equal k y) ys with
    | .ok true => keysWithin es ys
    | r => r
termination_by structural es => es

/-- Whether every entry has a counterpart among pairs, which may have to be looked up. -/
def entriesWithin (lookedUp : Bool) : List (Object × Object) → List Object → Except Fault Bool
  | [], _ => .ok true
  | (k, v) :: es, ys =>
    match if lookedUp then v.value.keyFault? else none with
    | some f => .error f
    | none =>
      match anyOf (fun y =>
        match y.value with
        | .tuple [k', v'] => do
          if ← if k.same k' then .ok true else equal k k' then
            if v.same v' then return true else equal v v'
          else return false
        | _ => .ok false) ys with
      | .ok true => entriesWithin lookedUp es ys
      | r => r
termination_by structural es => es

/-- Whether every entry has a counterpart with an equal key and an equal value. -/
def equalEntries : List (Object × Object) → List (Object × Object) → Except Fault Bool
  | [], _ => .ok true
  | (k, v) :: es, fs =>
    match findEntry (fun k' => if k.same k' then .ok true else equal k k') fs with
    | .ok (some w) =>
      if v.same w then equalEntries es fs
      else
        match equal v w with
        | .ok true => equalEntries es fs
        | r => r
    | .ok none => .ok false
    | .error f => .error f
termination_by structural es => es

end

/-- Whether an object counts as an item of a container: they are the same, or equal. -/
def matchesItem (item x : Object) : Except Fault Bool :=
  if item.same x then .ok true else item.equal x

/-- Whether some item matches the given object. -/
def isAmong (x : Object) (items : List Object) : Except Fault Bool :=
  anyOf (fun item => item.matchesItem x) items

end Object

/-! ## Order -/

/-- The four order relations of expression code. -/
inductive Relation where
  | lt
  | le
  | gt
  | ge
  deriving DecidableEq, Repr, Inhabited

namespace Relation

def symbol : Relation → String
  | lt => "<"
  | le => "<="
  | gt => ">"
  | ge => ">="

/-- Whether the relation holds of things in this order. -/
def holds : Relation → Ordering → Bool
  | lt, o => o == .lt
  | le, o => o != .gt
  | gt, o => o == .gt
  | ge, o => o != .lt

end Relation

/-- Order of two texts, by code points from the left. -/
def Text.order : List Char → List Char → Ordering
  | [], [] => .eq
  | [], _ :: _ => .lt
  | _ :: _, [] => .gt
  | a :: as, b :: bs =>
    match compare a.toNat b.toNat with
    | .eq => Text.order as bs
    | o => o

/-- Order of two byte strings. -/
def Text.bytesOrder (s t : List UInt8) : Ordering :=
  Text.order (s.map fun b => Char.ofNat b.toNat) (t.map fun b => Char.ofNat b.toNat)

namespace Object

/-- Order of two objects that are not made of others. -/
def leafRelated (r : Relation) (a b : Object) : Except Fault Bool :=
  match a.value, b.value with
  | .text s, .text t => .ok (r.holds (Text.order s.toList t.toList))
  | .bytes s, .bytes t | .bytes s, .buffer t | .buffer s, .bytes t | .buffer s, .buffer t =>
    .ok (r.holds (Text.bytesOrder s t))
  | v, w =>
    match v.numeric?, w.numeric?, (uselessAmong a b).or (undefinedAmong a b) with
    | some m, some n, _ => .ok ((m.compare? n).any r.holds)
    | _, _, some why => .error (.undefined why)
    | _, _, none => .error (.incomparable r.symbol v.typeName w.typeName)

/-- Whether every object has a counterpart, which may have to be looked up. -/
def within (lookedUp : Bool) : List Object → List Object → Except Fault Bool
  | [], _ => .ok true
  | x :: xs, ys =>
    match if lookedUp then x.value.keyFault? else none with
    | some f => .error f
    | none =>
      match anyOf (fun y => y.matchesItem x) ys with
      | .ok true => within lookedUp xs ys
      | r => r

/-- Whether one set stands in an order relation to another: the smaller one has to be part of the
larger one. -/
def setRelated (r : Relation) (a b : Value) (xs ys : List Object) : Except Fault Bool :=
  match r with
  | .le => if xs.length ≤ ys.length then within b.looksUpKeys xs ys else .ok false
  | .ge => if ys.length ≤ xs.length then within a.looksUpKeys ys xs else .ok false
  | .lt => if xs.length < ys.length then within b.looksUpKeys xs ys else .ok false
  | .gt => if ys.length < xs.length then within a.looksUpKeys ys xs else .ok false

mutual

/-- Whether one object stands in an order relation to another. -/
def related (r : Relation) : Object → Object → Except Fault Bool
  | ⟨.list xs, _⟩, ⟨.list ys, _⟩ | ⟨.tuple xs, _⟩, ⟨.tuple ys, _⟩ => relatedAll r xs ys
  | ⟨v, m⟩, b =>
    match v.setItems?, b.value.setItems? with
    | some xs, some ys => setRelated r v b.value xs ys
    | _, _ => leafRelated r ⟨v, m⟩ b
termination_by structural a => a

/-- Order of lists: the first items that do not match decide, and a list comes after what it
extends. -/
def relatedAll (r : Relation) : List Object → List Object → Except Fault Bool
  | [], [] => .ok (r.holds .eq)
  | [], _ :: _ => .ok (r.holds .lt)
  | _ :: _, [] => .ok (r.holds .gt)
  | x :: xs, y :: ys =>
    match x.matchesItem y with
    | .ok true => relatedAll r xs ys
    | .ok false => related r x y
    | .error f => .error f
termination_by structural xs => xs

end

end Object

end Splice
