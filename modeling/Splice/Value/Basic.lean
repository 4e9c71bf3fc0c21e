import Splice.Number.Binary64
import Splice.Reason

/-!
# Values and objects

The values that code evaluates to and that environments hold. Most are plain data. A stream is a
source of items that can be read once only: the value holds the number under which the world keeps
what is left of it. Functions, types and methods are values as well, because code can name them, and
so are failures, because a fallback may look at the failure that it stands in for. A failure may in
turn hold a value (the key that was not found), so values and failures are defined together.

Code can ask whether two names hold the very same object, and containers look for an item by asking
that first. An `Object` is therefore a value with a `Mark` that says which object it is.

An undefined value is what the filter language gets for a name or an item that does not exist. It
can be passed around, and nearly any use of it fails.
-/

namespace Splice

/-! ## Functions and methods -/

/-- Functions that code can call by name. -/
inductive Builtin where
  | len
  | sum
  | sorted
  /-- The function of the filter language that makes ranges, though not too long ones. -/
  | shortRange
  deriving DecidableEq, Repr, Inhabited

namespace Builtin

def name : Builtin → String
  | len => "len"
  | sum => "sum"
  | sorted => "sorted"
  | shortRange => "safe_range"

/-- The quoted form of a function. -/
def shown (f : Builtin) : String :=
  match f with
  | shortRange => "<function " ++ f.name ++ ">"
  | _ => "<built-in function " ++ f.name ++ ">"

/-- The name of a function's type. -/
def typeName : Builtin → String
  | shortRange => "function"
  | _ => "builtin_function_or_method"

end Builtin

/-- The parts of a dictionary that can be gone through. -/
inductive DictPart where
  | items
  | keys
  | values
  deriving DecidableEq, Repr, Inhabited

namespace DictPart

def name : DictPart → String
  | items => "items"
  | keys => "keys"
  | values => "values"

/-- The name of the type of such a part. -/
def typeName (p : DictPart) : String :=
  "dict_" ++ p.name

end DictPart

/-- Methods of texts, of bytes and of dictionaries. -/
inductive Method where
  | upper
  | lower
  | strip
  | join
  | part (p : DictPart)
  | get
  deriving DecidableEq, Repr, Inhabited

namespace Method

def name : Method → String
  | upper => "upper"
  | lower => "lower"
  | strip => "strip"
  | join => "join"
  | part p => p.name
  | get => "get"

/-- The method of texts and of bytes with a name. -/
def ofText? : String → Option Method
  | "upper" => some .upper
  | "lower" => some .lower
  | "strip" => some .strip
  | "join" => some .join
  | _ => none

/-- The method of dictionaries with a name. -/
def ofDict? : String → Option Method
  | "items" => some (.part .items)
  | "keys" => some (.part .keys)
  | "values" => some (.part .values)
  | "get" => some .get
  | _ => none

end Method

/-- Where the items of a stream come from: a given list, or code that computes them. -/
inductive StreamKind where
  | given
  | computed
  deriving DecidableEq, Repr, Inhabited

namespace StreamKind

/-- The name of a stream's type. -/
def typeName : StreamKind → String
  | given => "list_iterator"
  | computed => "generator"

/-- The quoted form of a stream. -/
def shown : StreamKind → String
  | given => "<list_iterator object>"
  | computed => "<generator object <genexpr>>"

end StreamKind

/-! ## Which object a value is -/

/-- Which object a value is. Two objects with equal marks are the same one, constants provided that
they are equal too, and unless they are on their way. -/
inductive Mark where
  /-- An object on its way, which nothing has held yet. -/
  | passing
  /-- An object that has been given a number, since something holds it. -/
  | made (id : Nat)
  /-- A constant of some code; all equal constants of the code are one object. -/
  | constant (code : String)
  /-- A constant that looks like a name; all code shares these. -/
  | word
  /-- The text of one Latin character, as it is found in other texts. -/
  | letter
  /-- A part of an object, by its name. -/
  | part (name : String) (whole : Mark)
  deriving DecidableEq, Repr, Inhabited

namespace Mark

/-- Whether the object has been held. -/
def isHeld : Mark → Bool
  | passing => false
  | part _ whole => whole.isHeld
  | _ => true

end Mark

/-! ## Values, objects and failures -/

mutual

/-- A value of template code. -/
inductive Value where
  | null
  | bool (b : Bool)
  | int (n : Int)
  | real (x : Binary64)
  | text (s : String)
  | bytes (bs : List UInt8)
  /-- Bytes in a container that could change. -/
  | buffer (bs : List UInt8)
  | list (items : List Object)
  | tuple (items : List Object)
  /-- A set, in order of insertion. Expressions write sets of one element only. -/
  | set (items : List Object)
  /-- Entries in order of insertion, with distinct keys. -/
  | dict (entries : List (Object × Object))
  /-- A part of a dictionary with these entries. -/
  | view (p : DictPart) (entries : List (Object × Object))
  | range (start stop step : Int)
  | stream (kind : StreamKind) (id : Nat)
  /-- An object of which nothing is known but its text. -/
  | object (display : String)
  /-- An object that fails when it is turned into text. -/
  | mute (failure : Failure)
  /-- An object that can do nothing, with its display form, its quoted form and its type. -/
  | inert (display shown type : String)
  | failure (f : Failure)
  | type (name : String)
  | builtin (f : Builtin)
  | method (receiver : Object) (m : Method)
  | undefined (why : Missing)

/-- A value, and which object it is. Objects that others are made of have been held before code gets
at them. -/
structure Object where
  value : Value
  mark : Mark

/-- Why something failed. -/
inductive Cause where
  | fault (fault : Fault)
  /-- A key that a dictionary does not have. -/
  | missingKey (key : Object)
  | misuse (misuse : Misuse)
  | malformed (what : Malformed)
  | invalidOptions (issues : List OptionIssue)
  /-- A failure raised by a caller, of a kind that needs no more than a message. -/
  | raised (kind : PlainKind) (message : Option String)
  /-- A marker without a counterpart; a caller may word it differently. -/
  | unmatched (position : Int) (marker : String) (wording : Option String)
  | nesting (position : Int) (marker : String)
  /-- Code that failed to parse or run. -/
  | evaluation (code : String) (inner : Failure)
  /-- A fallback that failed for some code, with the reason why evaluating it failed. -/
  | fallback (fallback code : String) (inner : Failure)
  | recycling (lengths : List Int)

/-- What leaves a scan, an evaluation or a render that did not succeed: a cause, and the tags
collected on the way out. -/
structure Failure where
  cause : Cause
  span : Option Span
  code : Option String
  notes : List String

end

instance : Inhabited Value := ⟨.null⟩

instance : Inhabited Object := ⟨⟨.null, .passing⟩⟩

instance : Inhabited Failure := ⟨⟨.fault .emptyCode, none, none, []⟩⟩

/-- Names with what they stand for, in order of insertion. -/
abbrev Bindings := List (String × Object)

/-! ## Making failures -/

/-- The family that a cause belongs to. -/
def Cause.kind : Cause → Kind
  | fault f => f.kind
  | missingKey _ => .keyError
  | misuse m => m.kind
  | malformed w => w.kind
  | invalidOptions _ => .validationError
  | raised k _ => k.kind
  | unmatched .. => .unmatchedDelimiterError
  | nesting .. => .nestingError
  | evaluation .. => .evaluationError
  | fallback .. => .transformerError
  | recycling _ => .recycleError

namespace Failure

def kind (f : Failure) : Kind :=
  f.cause.kind

/-- A failure without tags. -/
def of (c : Cause) : Failure :=
  ⟨c, none, none, []⟩

def ofFault (f : Fault) : Failure :=
  of (.fault f)

def ofMisuse (m : Misuse) : Failure :=
  of (.misuse m)

def ofMalformed (w : Malformed) : Failure :=
  of (.malformed w)

def ofScan : ScanError → Failure
  | .unmatched p m => of (.unmatched p m none)
  | .nesting p m => of (.nesting p m)

/-- Code that failed for the given reason; the code is its tag from the start. -/
def evaluation (code : String) (inner : Failure) : Failure :=
  ⟨.evaluation code inner, none, some code, []⟩

/-- A key that was not found. -/
def missingKey (key : Object) : Failure :=
  of (.missingKey key)

end Failure

/-! ## Objects -/

namespace Object

/-- A new object. -/
def new (v : Value) : Object :=
  ⟨v, .passing⟩

/-- The text of one character. -/
def ofChar (c : Char) : Object :=
  ⟨.text (String.singleton c), if c.toNat < 256 then .letter else .passing⟩

/-- A part of an object. -/
def part (o : Object) (name : String) (v : Value) : Object :=
  ⟨v, .part name o.mark⟩

end Object

namespace Value

/-! ## Types -/

/-- The last part of a name with dots. -/
def lastName (n : String) : String :=
  String.ofList (n.toList.reverse.takeWhile (· != '.')).reverse

/-- The name of a value's type, as faults mention it. -/
def typeName : Value → String
  | null => "NoneType"
  | bool _ => "bool"
  | int _ => "int"
  | real _ => "float"
  | text _ => "str"
  | bytes _ => "bytes"
  | buffer _ => "bytearray"
  | list _ => "list"
  | tuple _ => "tuple"
  | set _ => "set"
  | dict _ => "dict"
  | view p _ => p.typeName
  | range .. => "range"
  | stream k _ => k.typeName
  | object _ => "Obj"
  | mute _ => "BadStr"
  | inert _ _ t => t
  | failure f => f.kind.name
  | type _ => "type"
  | builtin f => f.typeName
  | method .. => "builtin_function_or_method"
  | undefined why => if why.isLenient then "Undefined" else "StrictUndefined"

/-- The name of a value's type with the place where the type is defined, unless that is everywhere.
-/
def qualifiedTypeName : Value → String
  | object _ => "__main__.Obj"
  | mute _ => "__main__.BadStr"
  | failure f => f.kind.qualifiedName
  | v => v.typeName

/-- Missing values are rendered by a marker of the caller's choice: the null value and not-a-number.
-/
def isMissing : Value → Bool
  | null => true
  | real x => x.isNaN
  | _ => false

/-- Values that render as several tokens, one per item. Texts, bytes and dictionaries could be
iterated as well, but they render as one token. -/
def isIterable : Value → Bool
  | list _ | tuple _ | set _ | view .. | range .. | stream .. | undefined _ => true
  | _ => false

/-- Values that render as one token. -/
def isScalar (v : Value) : Bool :=
  !v.isIterable

/-- The whole number that a value is, if it is one; truth values count as one and zero. -/
def asInt? : Value → Option Int
  | int n => some n
  | bool b => some (if b then 1 else 0)
  | _ => none

/-- Why a value is undefined. -/
def undefined? : Value → Option Missing
  | undefined why => some why
  | _ => none

/-- Why a value is undefined and good for nothing at all. -/
def useless? : Value → Option Missing
  | undefined why => if why.isLenient then none else some why
  | _ => none

/-! ## Items -/

/-- How many items a range has. -/
def rangeLength (start stop step : Int) : Nat :=
  if 0 < step then (Int.fdiv (stop - start + step - 1) step).toNat
  else if step < 0 then (Int.fdiv (start - stop - step - 1) (-step)).toNat
  else 0

/-- The items of a part of a dictionary with these entries. -/
def viewItems (p : DictPart) (entries : List (Object × Object)) : List Object :=
  match p with
  | .items => entries.map fun (k, v) => .new (tuple [k, v])
  | .keys => entries.map (·.1)
  | .values => entries.map (·.2)

/-- The items that a value holds. A range holds none, since its items are made when they are asked
for. -/
def items? : Value → Option (List Object)
  | list xs | tuple xs | set xs => some xs
  | dict es => some (es.map (·.1))
  | view p es => some (viewItems p es)
  | text s => some (s.toList.map Object.ofChar)
  | bytes bs | buffer bs => some (bs.map fun b => .new (int b.toNat))
  | undefined why => if why.isLenient then some [] else none
  | _ => none

/-- The items of a value that is a set, or that compares like one: the keys and the entries of a
dictionary do. -/
def setItems? : Value → Option (List Object)
  | set xs => some xs
  | view .values _ => none
  | view p es => some (viewItems p es)
  | _ => none

/-- Truth of a value: false are null, zero and what is empty. An undefined value has none, unless it
can be used as something empty. -/
def truth : Value → Except Fault Bool
  | null => .ok false
  | bool b => .ok b
  | int n => .ok (n != 0)
  | real x => .ok (x.isNaN || x.isInfinite || x.significand != 0)
  | text s => .ok (s != "")
  | bytes bs | buffer bs => .ok !bs.isEmpty
  | list xs | tuple xs | set xs => .ok !xs.isEmpty
  | dict es | view _ es => .ok !es.isEmpty
  | range a b c => .ok (rangeLength a b c != 0)
  | undefined why => if why.isLenient then .ok false else .error (.undefined why)
  | stream .. | object _ | mute _ | inert .. | failure _ | type _ | builtin _ | method .. =>
    .ok true

/-! ## Sameness -/

/-- Whether two values of this kind are always one object when they are equal, and these two are
equal: null, truth values, small whole numbers, what is empty and cannot change, functions, types,
and streams, which are known by number. -/
def alwaysSame : Value → Value → Bool
  | null, null => true
  | bool a, bool b => a == b
  | int a, int b => a == b && -5 ≤ a && a ≤ 256
  | text a, text b => a == "" && b == ""
  | bytes [], bytes [] => true
  | tuple [], tuple [] => true
  | type a, type b => a == b
  | builtin a, builtin b => a == b
  | stream _ a, stream _ b => a == b
  | _, _ => false

mutual

/-- Whether two constants are written alike: they have the same type and the same content. -/
def alike : Value → Value → Bool
  | null, null => true
  | bool a, bool b => a == b
  | int a, int b => a == b
  | real a, real b => a.bits == b.bits
  | text a, text b => a == b
  | tuple xs, tuple ys => allAlike xs ys
  | inert d s t, inert d' s' t' => d == d' && s == s' && t == t'
  | _, _ => false

/-- Whether two lists of constants are written alike. -/
def allAlike : List Object → List Object → Bool
  | [], [] => true
  | ⟨v, _⟩ :: xs, ⟨w, _⟩ :: ys => alike v w && allAlike xs ys
  | _, _ => false

end

end Value

namespace Object

/-- Whether two objects are one. -/
def same (a b : Object) : Bool :=
  a.value.alwaysSame b.value ||
    (a.mark.isHeld && a.mark == b.mark &&
      match a.mark with
      | .constant _ | .word | .letter => a.value.alike b.value
      | _ => true)

end Object

end Splice
