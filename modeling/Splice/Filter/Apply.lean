import Splice.Draw
import Splice.Filter.Expr
import Splice.Filter.Guard

/-!
# Filters, members and calls

What the filter language does with values. A member or an item that does not exist is an undefined
value, which remembers what was looked for. Members on the inside of a value are not given away:
they are undefined as well, and using one fails.
-/

namespace Splice.Filter

/-- An undefined value. -/
def undefined (why : Missing) : Object :=
  .new (.undefined why)

/-! ## Members and items -/

/-- The type of a value as reports on undefined values name it. -/
def holderName (v : Value) : String :=
  match v with
  | .null => "None"
  | _ => v.qualifiedTypeName ++ " object"

/-- The member of an object, if it has one of this name. -/
def attribute? (o : Object) (n : String) : Option Object :=
  if isInner o.value n then some (undefined (.guarded n o.value.typeName))
  else Formula.member? o n

/-- What an object has at an index, if it has indices and this is one of them. -/
def itemAt? (o index : Object) : Except Failure (Option Object) :=
  match index.value.useless?, o.value with
  | some why, .dict _ => .error (.ofFault (.undefined why))
  | some _, _ => .ok none
  | none, _ =>
    match o.subscript index with
    | .ok item => .ok (some item)
    | .error f =>
      if f.kind == .typeError || f.kind == .indexError || f.kind == .keyError then .ok none
      else .error f

/-- The member `o.n`, or else the item `o['n']`. -/
def memberOf (o : Object) (n : String) : Compute Object := do
  let o ← Compute.held o
  match attribute? o n, o.value with
  | some found, _ => return found
  | none, .undefined why => Compute.fail (.undefined why)
  | none, v =>
    return (← Compute.ofFailure (itemAt? o (.new (.text n)))).getD
      (undefined (.member (holderName v) n))

/-- The item `o[index]`, or else, if the index is a text, the member of that name. -/
def itemOf (o index : Object) : Compute Object := do
  let o ← Compute.held o
  match o.value with
  | .undefined why => Compute.fail (.undefined why)
  | v =>
    match ← Compute.ofFailure (itemAt? o index), index.value with
    | some item, _ => return item
    | none, .text n => return (attribute? o n).getD (undefined (.member (holderName v) n))
    | none, i => return undefined (.element (holderName v) i.quoted)

/-- The text of a value. -/
def textOf (v : Value) : Compute String :=
  Compute.ofFailure v.display

/-! ## Arguments -/

/-- An option that a function does not have. -/
def unknownOption {α : Type} (function name : String) : Compute α :=
  Formula.refuse (function ++ "() got an unexpected keyword argument " ++ Text.quoted name)

/-- Refuses more arguments than a function takes. -/
def tooMany {α : Type} (function : String) (least most count : Nat) : Compute α :=
  let taken :=
    if least = most then toString most
    else "from " ++ toString least ++ " to " ++ toString most
  let noun := if most = 1 then "argument" else "arguments"
  Formula.refuse (function ++ "() takes " ++ taken ++ " positional " ++ noun ++ " but " ++
    toString count ++ " were given")

/-- The arguments of a function: those by position first, then those by name. The filter itself
gives the parameters in `fixed` their arguments. -/
def bind (function : String) (fixed parameters : List String) (args : List Object)
    (options : List (String × Object)) : Compute (List (String × Object)) := do
  let placed := parameters.zip args
  let isTaken (n : String) : Bool := fixed.contains n || (placed.lookup n).isSome
  match options.find? fun (n, _) => isTaken n || !parameters.contains n with
  | some (n, _) =>
    if isTaken n then
      Formula.refuse (function ++ "() got multiple values for argument " ++ Text.quoted n)
    else unknownOption function n
  | none =>
    if parameters.length < args.length then
      tooMany function fixed.length (fixed.length + parameters.length) (fixed.length + args.length)
    else return placed ++ options

/-! ## Calls -/

/-- Ranges longer than this are refused. -/
def maxRange : Nat :=
  100000

/-- A range that is not too long. -/
def makeShortRange (args : List Object) : Compute Object := do
  let made ← Formula.makeRange args
  if maxRange < (← Compute.ofFault made.length) then Compute.fail .rangeTooLong
  else return .new made

/-- How reports name a method. -/
def methodName (receiver : Value) (m : Method) : String :=
  receiver.typeName ++ "." ++ m.name

/-- A dictionary made of another one or of pairs, with options as further entries. -/
def makeDict (args : List Object) (options : List (String × Object)) : Compute Object := do
  let made ← Formula.callType Stream.draw "dict" args
  match made.value with
  | .dict es => Compute.dict (es ++ options.map fun (n, o) => (.new (.text n), o))
  | _ => return made

/-- Calls an object. -/
def call (f : Object) (args : List Object) (options : List (String × Object)) :
    Compute Object := do
  match f.value, options with
  | .builtin .shortRange, [] => makeShortRange args
  | .builtin .shortRange, (n, _) :: _ => unknownOption Builtin.shortRange.name n
  | .method receiver m, [] => Formula.callMethod Stream.draw receiver m args
  | .method receiver m, _ :: _ =>
    Formula.refuse (methodName receiver.value m ++ "() takes no keyword arguments")
  | .type "dict", _ => makeDict args options
  | .undefined why, _ => Compute.fail (.undefined why)
  | v, _ => Compute.fail (.notCallable v.typeName)

/-! ## Filters -/

/-- What a text counts as when letter case does not matter. -/
def foldCase (o : Object) : Object :=
  match o.value with
  | .text s => .new (.text (String.ofList (Text.lower s.toList)))
  | _ => o

/-- The way to a part of an item, step by step: a text with dots takes several, and digits are an
index. Without a way, the item itself is meant. -/
def pathOf : Option Object → List Object
  | none => []
  | some o =>
    match o.value with
    | .null => []
    | .text s =>
      (s.splitOn ".").map fun step =>
        if step != "" && step.toList.all Char.isDigit then
          .new (.int (step.toList.foldl (fun n d => 10 * n + (d.toNat - 48)) 0))
        else .new (.text step)
    | _ => [o]

/-- The part of an item that a way leads to. -/
def follow (path : List Object) (item : Object) : Compute Object :=
  path.foldlM itemOf item

/-- Passes the parts of the items of a value to `f`. -/
def foldParts {β : Type} (path : List Object) (f : β → Object → Compute (ForInStep β)) (v : Value)
    (b : β) : Compute β := do
  Compute.fold Stream.draw (fun b item => do f b (← follow path item)) (← Compute.sourceOf v) b

/-- The greatest or the least item, by the part that a way leads to; of equal ones the first. -/
def extreme (r : Relation) (caseMatters : Bool) (path : List Object) (v : Value) :
    Compute Object := do
  let key (item : Object) : Compute Object := do
    let part ← follow path item
    return if caseMatters then part else foldCase part
  let best ← Compute.fold Stream.draw (fun best item => do
    let k ← key item
    match best with
    | none => return .yield (some (item, k))
    | some (_, bestKey) =>
      if ← Compute.ofFault (k.related r bestKey) then return .yield (some (item, k))
      else return .yield best) (← Compute.sourceOf v) none
  return (best.map (·.1)).getD (undefined (.hint "No aggregated item, sequence was empty."))

/-- The first item. -/
def firstOf (v : Value) : Compute Object := do
  let source ← Compute.sourceOf v
  let found ← Compute.fold Stream.draw (fun _ o => return .done (some o)) source none
  return found.getD (undefined (.hint "No first item, sequence was empty."))

/-- The last number of a range. -/
def lastNumber (start stop step : Int) : Option Object :=
  match Value.rangeLength start stop step with
  | 0 => none
  | left + 1 => some (.new (.int (start + step * (left : Int))))

/-- The last item of a value that can be read backwards. -/
def lastOf (v : Value) : Compute Object :=
  let nothing := undefined (.hint "No last item, sequence was empty.")
  match v, v.items? with
  | .set _, _ | .stream .., _ => Compute.fail (.notReversible v.typeName)
  | .range start stop step, _ => return (lastNumber start stop step).getD nothing
  | _, some items => return items.getLast?.getD nothing
  | .undefined why, none => Compute.fail (.undefined why)
  | _, none => Compute.fail (.notReversible v.typeName)

/-- The texts of the items of a value, or of parts of them, joined. -/
def joinTexts (separator : Option Object) (path : List Object) (v : Value) : Compute Object := do
  if !path.isEmpty then let _ ← Compute.sourceOf v
  let between ← match separator with
    | none => pure ""
    | some d => textOf d.value
  let parts ← foldParts path (fun done o => do
    return .yield ((← textOf o.value) :: done)) v []
  return .new (.text (between.intercalate parts.reverse))

/-- Adds the items of a value, or parts of them, to a start value. -/
def sumParts (path : List Object) (start : Object) (v : Value) : Compute Object := do
  let _ ← Compute.sourceOf v
  match Formula.unsummable? start.value with
  | some complaint => Formula.refuse complaint
  | none =>
    foldParts path (fun total o => do return .yield (← Compute.ofFault (total.add o))) v start

/-- The truth of an option, which is false if it is not given. -/
def optionTruth (given : List (String × Object)) (name : String) : Compute Bool :=
  match given.lookup name with
  | none => return false
  | some o => Compute.ofFault o.value.truth

/-- Applies a filter. -/
def applyFilter (filter : String) (o : Object) (args : List Object)
    (options : List (String × Object)) : Compute Object := do
  let v := o.value
  match filter with
  | "upper" =>
    let _ ← bind "do_upper" ["s"] [] args options
    return .new (.text (String.ofList (Text.upper (← textOf v).toList)))
  | "trim" =>
    let given ← bind "do_trim" ["value"] ["chars"] args options
    let s ← textOf v
    Formula.strip (.new (.text s)) s (given.lookup "chars").toList
  | "join" =>
    let given ← bind "sync_do_join" ["eval_ctx", "value"] ["d", "attribute"] args options
    joinTexts (given.lookup "d") (pathOf (given.lookup "attribute")) v
  | "length" =>
    match args, options with
    | [], [] => return .new (.int (← Compute.ofFault v.length))
    | _, [] =>
      Formula.refuse ("len() takes exactly one argument (" ++ toString (1 + args.length) ++
        " given)")
    | _, _ => Formula.refuse "len() takes no keyword arguments"
  | "first" =>
    let _ ← bind "sync_do_first" ["environment", "seq"] [] args options
    firstOf v
  | "last" =>
    let _ ← bind "do_last" ["environment", "seq"] [] args options
    lastOf v
  | "sum" =>
    let given ← bind "sync_do_sum" ["environment", "iterable"] ["attribute", "start"] args
      options
    sumParts (pathOf (given.lookup "attribute")) ((given.lookup "start").getD (.new (.int 0))) v
  | "max" =>
    let given ← bind "do_max" ["environment", "value"] ["case_sensitive", "attribute"] args options
    extreme .gt (← optionTruth given "case_sensitive") (pathOf (given.lookup "attribute")) v
  | "min" =>
    let given ← bind "do_min" ["environment", "value"] ["case_sensitive", "attribute"] args options
    extreme .lt (← optionTruth given "case_sensitive") (pathOf (given.lookup "attribute")) v
  | "default" =>
    let given ← bind "do_default" ["value"] ["default_value", "boolean"] args options
    let otherwise := (given.lookup "default_value").getD (.new (.text ""))
    match v with
    | .undefined _ => return otherwise
    | _ =>
      if ← optionTruth given "boolean" then
        if ← Compute.ofFault v.truth then return o else return otherwise
      else return o
  | _ => Compute.fail (.noFilter filter)

/-- Applies a test. -/
def applyTest (test : String) (v : Value) (args : List Object)
    (options : List (String × Object)) : Compute Bool := do
  match test with
  | "defined" =>
    let _ ← bind "test_defined" ["value"] [] args options
    return v.undefined?.isNone
  | _ => Compute.fail (.noTest test)

end Splice.Filter
