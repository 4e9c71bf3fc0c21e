import Splice.Difference
import Splice.Text.Blank
import Splice.Text.Digit
import Splice.Text.Encoding

/-!
# Making values of a type

A type can be called like a function. It then makes a value of its own from what it is given, or
gives back a value that is of the type already. Numbers can be made from the texts that write them.
-/

namespace Splice.Formula

/-! ## Arguments -/

/-- A call with arguments that a function does not take. -/
def refuse {α : Type} (complaint : String) : Compute α :=
  Compute.fail (.arguments complaint)

/-- Says how many arguments were given. -/
def given (args : List Object) : String :=
  "(" ++ toString args.length ++ " given)"

/-- Says how many arguments were got. -/
def got (args : List Object) : String :=
  "got " ++ toString args.length

/-! ## Ranges -/

/-- A whole number given as an argument. -/
def wholeArgument (o : Object) : Compute Int :=
  match o.value.asInt? with
  | some n => return n
  | none => Compute.fail (.notWhole o.value.typeName)

/-- The range with these limits; the step must not be zero. -/
def makeRange (args : List Object) : Compute Value := do
  match args with
  | [] => refuse ("range expected at least 1 argument, " ++ got args)
  | [stop] => return .range 0 (← wholeArgument stop) 1
  | [start, stop] =>
    let a ← wholeArgument start
    return .range a (← wholeArgument stop) 1
  | [start, stop, step] =>
    let a ← wholeArgument start
    let b ← wholeArgument stop
    let c ← wholeArgument step
    if c == 0 then Compute.fail .zeroStep else return .range a b c
  | _ => refuse ("range expected at most 3 arguments, " ++ got args)

/-! ## Texts -/

/-- A new text; if it has one character, it may be the one that is found in other texts. -/
def newText (s : List Char) : Object :=
  match s with
  | [c] => .ofChar c
  | _ => .new (.text (String.ofList s))

/-- What stands for bytes that mean nothing in an encoding, for a way of handling them. `lookedUp`
is the name of the encoding if it had to be looked up. -/
def repaired (all : List UInt8) (e : Text.Encoding) (lookedUp : Option String) (handler : String)
    (position : Nat) (bad : List UInt8) (reason : String) : Except Fault (List Char) :=
  match handler with
  | "strict" => .error (.undecodable e.name all position (position + bad.length - 1) reason)
  | "ignore" => .ok []
  | "replace" => .ok [Char.ofNat 0xfffd]
  | "backslashreplace" => .ok (bad.flatMap fun b => '\\' :: 'x' :: Text.hexDigits 2 b.toNat)
  | _ => .error (.unknownHandler handler lookedUp)

/-- The text that bytes write in an encoding. -/
def decodedText (bs : List UInt8) (encoding handler : String) : Compute Object :=
  if bs.isEmpty then return .new (.text "")
  else
    match Text.Encoding.ofName? encoding bs with
    | none => Compute.fail (.unknownEncoding encoding)
    | some ⟨e, bs, marks⟩ => do
      let lookedUp := if Text.Encoding.isLookedUp encoding then some encoding else none
      let repair := repaired bs e lookedUp handler
      return newText (← Compute.ofFault (e.decode repair bs.length marks (bs.drop marks)))

/-- An argument that has to be a text. -/
def textArgument (name : String) (o : Object) : Compute String :=
  match o.value with
  | .text s => return s
  | v =>
    let shown := match v with
      | .null => "None"
      | _ => v.typeName
    refuse ("str() argument '" ++ name ++ "' must be str, not " ++ shown)

/-- The text of a value, or the one that bytes write; a text stays the object that it is. -/
def makeText (args : List Object) : Compute Object := do
  match args with
  | [] => return .new (.text "")
  | [o] =>
    match o.value with
    | .text _ => return o
    | v => return .new (.text (← Compute.ofFailure v.display))
  | o :: encoding :: rest =>
    if rest.length > 1 then refuse ("str() takes at most 3 arguments " ++ given args)
    else
      let encoding ← textArgument "encoding" encoding
      let handler ← match rest.head? with
        | some h => textArgument "errors" h
        | none => pure "strict"
      match o.value with
      | .bytes bs | .buffer bs => decodedText bs encoding handler
      | .text _ => refuse "decoding str is not supported"
      | v => refuse ("decoding to str: need a bytes-like object, " ++ v.typeName ++ " found")

/-! ## Real numbers -/

/-- A character of a text that writes a number: the digits of all scripts count, and so do the
blanks above ASCII. -/
def plainCharacter (c : Char) : Char :=
  if c.toNat < 128 then c else if Text.isBlank c then ' ' else Text.plainDigit c

/-- The characters that bytes stand for one by one. -/
def charactersOf (bs : List UInt8) : List Char :=
  bs.map fun b => Char.ofNat b.toNat

/-- The real number that characters write, possibly between blanks of ASCII. -/
def readReal (s : List Char) (shown : String) : Compute Object :=
  match Binary64.ofText? (Text.dropAround Text.isPlainBlank s) with
  | some x => return .new (.real x)
  | none => Compute.fail (.notANumber shown)

/-- The real number that a value is or writes. -/
def makeReal (args : List Object) : Compute Object := do
  match args with
  | [] => return .new (.real (.ofInt 0))
  | [o] =>
    match o.value with
    | .real _ => return o
    | .text s => readReal (s.toList.map plainCharacter) o.value.quoted
    | .bytes bs | .buffer bs => readReal (charactersOf bs) o.value.quoted
    | .undefined why => Compute.fail (.undefined why)
    | v =>
      match v.asInt? with
      | some n => return .new (.real (← Compute.ofFault (Object.realOf n)))
      | none => Compute.fail (.notNumeric v.typeName)
  | _ => refuse ("float expected at most 1 argument, " ++ got args)

/-! ## Whole numbers -/

/-- The value of a digit; the letters go on where the decimal digits end. -/
def digitIn? (base : Nat) (c : Char) : Option Nat :=
  let n :=
    if c.isDigit then c.toNat - 48
    else if c.isLower then c.toNat - 87
    else if c.isUpper then c.toNat - 55
    else base
  if n < base then some n else none

/-- The digits at the end of a number; a single underscore may stand in front of each. -/
def moreDigits? (base : Nat) : List Char → Option (List Nat)
  | [] => some []
  | '_' :: c :: cs => do return (← digitIn? base c) :: (← moreDigits? base cs)
  | c :: cs => do return (← digitIn? base c) :: (← moreDigits? base cs)

/-- The digits of a number, at least one. -/
def digitsIn? (base : Nat) : List Char → Option (List Nat)
  | [] => none
  | c :: cs => do return (← digitIn? base c) :: (← moreDigits? base cs)

/-- The base that a letter behind a zero announces. -/
def baseOfLetter? (c : Char) : Option Nat :=
  match c.toLower with
  | 'x' => some 16
  | 'o' => some 8
  | 'b' => some 2
  | _ => none

/-- The digits of a number and their base. A base of zero leaves it to the number to announce its
base; one that announces none is decimal, and starts with a zero only if it is zero. -/
def announced? (base : Nat) (s : List Char) : Option (Nat × List Nat) :=
  let plain : Option (Nat × List Nat) := do
    let b := if base == 0 then 10 else base
    let ds ← digitsIn? b s
    if base == 0 && ds.head? == some 0 && ds.any (· != 0) then none else return (b, ds)
  match s with
  | '0' :: c :: cs =>
    match baseOfLetter? c with
    | some b =>
      if base == 0 || base == b then
        (digitsIn? b (if cs.head? == some '_' then cs.drop 1 else cs)).map fun ds => (b, ds)
      else plain
    | none => plain
  | _ => plain

/-- The whole number that characters write, possibly between blanks of ASCII. Numbers with very many
digits are refused, unless their base is a power of two. -/
def readWhole (base : Nat) (s : List Char) (shown : String) : Compute Object :=
  let (minus, body) := match Text.dropAround Text.isPlainBlank s with
    | '-' :: cs => (true, cs)
    | '+' :: cs => (false, cs)
    | cs => (false, cs)
  match announced? base body with
  | none => Compute.fail (.notAWhole base shown)
  | some (b, ds) =>
    if maxDigits < ds.length && !([2, 4, 8, 16, 32].contains b) then
      throw (.ofMalformed (.scalar (.digits ds.length)))
    else
      let n : Nat := ds.foldl (fun n d => b * n + d) 0
      return .new (.int (if minus then -(n : Int) else n))

/-- The whole number that a value is or writes. A base is given for texts only. -/
def makeWhole (args : List Object) : Compute Object := do
  match args with
  | [] => return .new (.int 0)
  | [o] =>
    match o.value with
    | .int _ => return o
    | .text s => readWhole 10 (s.toList.map plainCharacter) o.value.quoted
    | .bytes bs | .buffer bs => readWhole 10 (charactersOf bs) (Value.bytes bs).quoted
    | .real x =>
      if x.isNaN then Compute.fail (.noWholePart false)
      else if x.isInfinite then Compute.fail (.noWholePart true)
      else return .new (.int x.truncated)
    | .undefined why => Compute.fail (.undefined why)
    | v =>
      match v.asInt? with
      | some n => return .new (.int n)
      | none =>
        refuse ("int() argument must be a string, a bytes-like object or a real number, not '" ++
          v.typeName ++ "'")
  | [o, base] =>
    let base ← wholeArgument base
    if base != 0 && (base < 2 || 36 < base) then Compute.fail .noBase
    else
      match o.value with
      | .text s => readWhole base.toNat (s.toList.map plainCharacter) o.value.quoted
      | .bytes bs | .buffer bs => readWhole base.toNat (charactersOf bs) (Value.bytes bs).quoted
      | _ => refuse "int() can't convert non-string with explicit base"
  | _ => refuse ("int() takes at most 2 arguments " ++ given args)

/-! ## Collections -/

variable (draw : Nat → Compute (Option Object))

/-- What a type makes of at most one value. -/
def makeOfOne (type : String) (none : Compute Object) (some : Object → Compute Object)
    (args : List Object) : Compute Object :=
  match args with
  | [] => none
  | [o] => some o
  | _ => refuse (type ++ " expected at most 1 argument, " ++ got args)

/-- The entry that a pair stands for, which is number `i` of several. -/
def entryOf (i : Nat) (pair : Object) : Compute (Object × Object) := do
  let iterates := pair.value.isIterable || pair.value.items?.isSome
  if !iterates then Compute.fail (.noPair i)
  else
    match ← Compute.collect draw pair.value with
    | [k, v] => return (k, v)
    | parts => Compute.fail (.pairLength i parts.length)

/-- The entries that pairs stand for, of which the first is number `i`. -/
def entriesOf : (i : Nat) → List Object → Compute (List (Object × Object))
  | _, [] => return []
  | i, o :: os => do return (← entryOf draw i o) :: (← entriesOf (i + 1) os)

/-- The dictionary with the entries of another one, or with those that pairs stand for. -/
def makeDictionary (o : Object) : Compute Object := do
  match o.value with
  | .dict es => return .new (.dict es)
  | v => Compute.dict (← entriesOf draw 0 (← Compute.collect draw v))

/-- Calls a type. -/
def callType (type : String) (args : List Object) : Compute Object :=
  match type with
  | "range" => do return .new (← makeRange args)
  | "str" => makeText args
  | "float" => makeReal args
  | "int" => makeWhole args
  | "bool" =>
    makeOfOne type (return .new (.bool false))
      (fun o => do return .new (.bool (← Compute.ofFault o.value.truth))) args
  | "list" =>
    makeOfOne type (return .new (.list []))
      (fun o => do Compute.list (← Compute.collect draw o.value)) args
  | "tuple" =>
    makeOfOne type (return .new (.tuple []))
      (fun o => do
        match o.value with
        | .tuple _ => return o
        | v => Compute.tuple (← Compute.collect draw v)) args
  | "dict" => makeOfOne type (return .new (.dict [])) (makeDictionary draw) args
  | "set" =>
    makeOfOne type (return .new (.set []))
      (fun o => do return .new (.set (← Compute.distinct draw o.value))) args
  | "type" =>
    match args with
    | [o] => return .new (.type o.value.qualifiedTypeName)
    | _ => refuse "type() takes 1 or 3 arguments"
  | "NoneType" => if args.isEmpty then return .new .null else refuse "NoneType takes no arguments"
  | "generator" | "list_iterator" | "builtin_function_or_method" | "dict_items" | "dict_keys" |
    "dict_values" => refuse ("cannot create '" ++ type ++ "' instances")
  | _ => Compute.fail (.notCallable "type")

end Splice.Formula
