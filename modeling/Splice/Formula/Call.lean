import Splice.Formula.Construct
import Splice.Text.Casing
import Splice.Value.Member
import Splice.Value.Sorting

/-!
# Functions and methods of formulas

The functions that formulas can name, and the methods and members of values. Functions that go
through the items of a value take them one after the other, so that a stream is read only as far as
they get.

Some functions give back an object that they were given if they have nothing to change about it.
-/

namespace Splice.Formula

variable (draw : Nat → Compute (Option Object))

/-! ## Functions -/

/-- Why a sum may not start with this value, if it may not. -/
def unsummable? : Value → Option String
  | .text _ => some "sum() can't sum strings [use ''.join(seq) instead]"
  | .bytes _ => some "sum() can't sum bytes [use b''.join(seq) instead]"
  | .buffer _ => some "sum() can't sum bytearray [use b''.join(seq) instead]"
  | _ => none

/-- Adds the items of a value to a start value, from the left. -/
def sumOf (v : Value) (start : Object) : Compute Object := do
  let source ← Compute.sourceOf v
  match unsummable? start.value with
  | some complaint => refuse complaint
  | none =>
    Compute.fold draw (fun total x => do
      return .yield (← Compute.ofFault (total.add x))) source start

/-- Calls a function. -/
def callBuiltin (f : Builtin) (args : List Object) : Compute Object := do
  match f with
  | .len =>
    match args with
    | [o] => return .new (.int (← Compute.ofFault o.value.length))
    | _ => refuse ("len() takes exactly one argument " ++ given args)
  | .sum =>
    match args with
    | [] => refuse "sum() takes at least 1 positional argument (0 given)"
    | [o] => sumOf draw o.value (.new (.int 0))
    | [o, start] => sumOf draw o.value start
    | _ => refuse ("sum() takes at most 2 arguments " ++ given args)
  | .sorted =>
    match args with
    | [o] =>
      let items ← Compute.collect draw o.value
      Compute.list (← Compute.ofFault (Sorting.sorted items))
    | _ => refuse ("sorted expected 1 argument, " ++ got args)
  | .shortRange => return .new (← makeRange args)

/-! ## Methods -/

/-- Checks that all items are texts. -/
def textItems : (position : Nat) → List Object → Except Fault (List String)
  | _, [] => .ok []
  | i, o :: rest =>
    match o.value with
    | .text s => (textItems (i + 1) rest).map (s :: ·)
    | v => .error (.itemNotText i v.typeName)

/-- Checks that all items are bytes. -/
def byteItems : (position : Nat) → List Object → Except Fault (List (List UInt8))
  | _, [] => .ok []
  | i, o :: rest =>
    match o.value with
    | .bytes bs | .buffer bs => (byteItems (i + 1) rest).map (bs :: ·)
    | v => .error (.itemNotBytes i v.typeName)

/-- The items of a value that are to be joined. -/
def itemsToJoin (v : Value) : Compute (List Object) :=
  if !v.isIterable && v.items?.isNone then Compute.fail .notJoinable
  else Compute.collect draw v

/-- The items of a value, joined by a text. A single item stays the object that it is. -/
def joinItems (separator : String) (v : Value) : Compute Object := do
  let items ← itemsToJoin draw v
  let parts ← Compute.ofFault (textItems 0 items)
  match items with
  | [o] => return o
  | _ => return .new (.text (separator.intercalate parts))

/-- A text without what `drop` drops; it stays the object that it is if that is nothing. -/
def stripped (self : Object) (s : String) (drop : List Char → List Char) : Object :=
  let kept := drop s.toList
  if kept == s.toList then self else newText kept

/-- Takes away blanks at both ends of a text, or the characters of a set given by a text. -/
def strip (self : Object) (s : String) (args : List Object) : Compute Object :=
  match args with
  | [] => return stripped self s Text.strip
  | [o] =>
    match o.value with
    | .null => return stripped self s Text.strip
    | .text set =>
      let among (c : Char) : Bool := set.toList.contains c
      return stripped self s (Text.dropAround among)
    | _ => refuse "strip arg must be None or str"
  | _ => refuse ("strip expected at most 1 argument, " ++ got args)

/-- Calls a method of a text. -/
def callText (self : Object) (s : String) (m : Method) (args : List Object) : Compute Object := do
  match m, args with
  | .upper, [] => return .new (.text (String.ofList (Text.upper s.toList)))
  | .lower, [] => return .new (.text (String.ofList (Text.lower s.toList)))
  | .strip, _ => strip self s args
  | .join, [o] => joinItems draw s o.value
  | .join, _ => refuse ("str.join() takes exactly one argument " ++ given args)
  | _, _ => refuse ("str." ++ m.name ++ "() takes no arguments " ++ given args)

/-- Bytes between separators. -/
def joinBytes (separator : List UInt8) (parts : List (List UInt8)) : List UInt8 :=
  (parts.intersperse separator).flatten

/-- Calls a method of bytes. What it gives are bytes of the same kind, which `rebuild` makes; bytes
that cannot change stay the object that they are if there is nothing to change about them. -/
def callBytes (self : Object) (rebuild : List UInt8 → Value) (bs : List UInt8) (m : Method)
    (args : List Object) : Compute Object := do
  let type := self.value.typeName
  let fixed := type == "bytes"
  let stripOf (among : UInt8 → Bool) : Object :=
    let kept := Text.dropAround among bs
    if fixed && kept == bs then self else .new (rebuild kept)
  let isBlankByte (b : UInt8) : Bool := Text.isPlainBlank (Char.ofNat b.toNat)
  match m, args with
  | .upper, [] =>
    return .new (rebuild (bs.map fun b => if 97 ≤ b && b ≤ 122 then b - 32 else b))
  | .lower, [] =>
    return .new (rebuild (bs.map fun b => if 65 ≤ b && b ≤ 90 then b + 32 else b))
  | .strip, [] => return stripOf isBlankByte
  | .strip, [o] =>
    match o.value with
    | .null => return stripOf isBlankByte
    | .bytes set | .buffer set => return stripOf set.contains
    | v => Compute.fail (.notBytes v.typeName)
  | .strip, _ => refuse ("strip expected at most 1 argument, " ++ got args)
  | .join, [o] =>
    let items ← itemsToJoin draw o.value
    let parts ← Compute.ofFault (byteItems 0 items)
    match fixed, items with
    | true, [⟨.bytes one, mark⟩] => return ⟨.bytes one, mark⟩
    | _, _ => return .new (rebuild (joinBytes bs parts))
  | .join, _ => refuse (type ++ ".join() takes exactly one argument " ++ given args)
  | _, _ => refuse (type ++ "." ++ m.name ++ "() takes no arguments " ++ given args)

/-- Calls a method of a dictionary. -/
def callDict (entries : List (Object × Object)) (m : Method) (args : List Object) :
    Compute Object := do
  match m, args with
  | .part p, [] => return .new (.view p entries)
  | .get, [] => refuse ("get expected at least 1 argument, " ++ got args)
  | .get, [key] =>
    return (← Compute.ofFault (do (← key.asKey).lookupKey entries)).getD (.new .null)
  | .get, [key, otherwise] =>
    return (← Compute.ofFault (do (← key.asKey).lookupKey entries)).getD otherwise
  | .get, _ => refuse ("get expected at most 2 arguments, " ++ got args)
  | _, _ => refuse ("dict." ++ m.name ++ "() takes no arguments " ++ given args)

/-- Calls a method of an object. -/
def callMethod (receiver : Object) (m : Method) (args : List Object) : Compute Object :=
  match receiver.value with
  | .text s => callText draw receiver s m args
  | .bytes bs => callBytes draw receiver .bytes bs m args
  | .buffer bs => callBytes draw receiver .buffer bs m args
  | .dict entries => callDict entries m args
  | v => Compute.fail (.noAttribute v.typeName m.name)

/-- Calls a value. -/
def call (f : Object) (args : List Object) : Compute Object :=
  match f.value with
  | .type t => callType draw t args
  | .builtin b => callBuiltin draw b args
  | .method receiver m => callMethod draw receiver m args
  | .undefined why => Compute.fail (.undefined why)
  | v => Compute.fail (.notCallable v.typeName)

/-! ## Members -/

/-- The items of a part of something, as objects. -/
def itemsOf (part : String) (whole : Mark) : (position : Nat) → List Value → List Object
  | _, [] => []
  | i, v :: vs => ⟨v, .part (toString i) (.part part whole)⟩ :: itemsOf part whole (i + 1) vs

/-- The span of something as a value. -/
def spanValue (whole : Mark) : Option Span → Value
  | none => .null
  | some s => .tuple (itemsOf "span" whole 0 [.int s.start, .int s.stop])

/-- What a failure was made from. -/
def failureArguments (f : Failure) : List Value :=
  match f.cause with
  | .missingKey key => [key.value]
  | .raised _ m => m.toList.map .text
  | .invalidOptions _ | .fault .noRoom | .malformed .tooDeep => []
  | .fault (.undecodable e bs first last reason) =>
    [.text e, .bytes bs, .int first, .int (last + 1), .text reason]
  | c => [.text c.words]

/-- Whether a failure of this kind knows the name that it is about. -/
def knowsName (k : Kind) : Bool :=
  k == .nameError || k == .attributeError

/-- What a failure says about itself, if it has a member of this name. -/
def failureMember? (whole : Mark) (f : Failure) (name : String) : Option Value :=
  match name, f.cause with
  | "args", .missingKey key => some (.tuple [key])
  | "args", _ => some (.tuple (itemsOf "args" whole 0 (failureArguments f)))
  | "code", _ => if f.kind.concernsTemplate then some ((f.code.map .text).getD .null) else none
  | "span", _ => if f.kind.concernsTemplate then some (spanValue whole f.span) else none
  | "cause", .evaluation _ inner => some (.failure inner)
  | "position", .unmatched p _ _ | "position", .nesting p _ => some (.int p)
  | "marker", .unmatched _ m _ | "marker", .nesting _ m => some (.text m)
  | "lengths", .recycling ls =>
    some (.list (itemsOf "lengths" whole 0 (ls.map .int)))
  | "name", .fault (.unbound n) | "name", .fault (.noAttribute _ n)
  | "name", .fault (.noMember _ n) => some (.text n)
  | "name", _ => if knowsName f.kind then some .null else none
  | "encoding", .fault (.undecodable e _ _ _ _) => some (.text e)
  | "object", .fault (.undecodable _ bs _ _ _) => some (.bytes bs)
  | "start", .fault (.undecodable _ _ first _ _) => some (.int first)
  | "end", .fault (.undecodable _ _ _ last _) => some (.int (last + 1))
  | "reason", .fault (.undecodable _ _ _ _ reason) => some (.text reason)
  | "msg", .fault .emptyCode => some (.text f.text)
  | "message", _ => if f.kind.concernsFilters then some (.text f.text) else none
  | _, _ => none

/-- A member of an object that code is expected to use, if it has one of this name. -/
def usefulMember? (o : Object) (name : String) : Option Object :=
  match o.value with
  | .text _ | .bytes _ | .buffer _ => (Method.ofText? name).map fun m => .new (.method o m)
  | .dict _ => (Method.ofDict? name).map fun m => .new (.method o m)
  | .failure f => (failureMember? o.mark f name).map (o.part name)
  | _ => none

/-- A member of an object, if it has one of this name. -/
def member? (o : Object) (name : String) : Option Object :=
  (usefulMember? o name).or ((o.value.plainMember? name).map (o.part name))

/-- A member of an object. -/
def memberOf (o : Object) (name : String) : Compute Object := do
  let o ← Compute.held o
  match o.value with
  | .undefined why => Compute.fail (.undefined why)
  | .type n =>
    if name == "__name__" then return .new (.text (Value.lastName n))
    else if name == "__class__" then return .new (.type "type")
    else Compute.fail (.noMember (Value.lastName n) name)
  | v =>
    if name == "__class__" then return .new (.type v.qualifiedTypeName)
    else
      match member? o name with
      | some found => return found
      | none => Compute.fail (.noAttribute v.typeName name)

end Splice.Formula
