import Splice.Number.Layout
import Splice.Value.Arith

/-!
# Texts with places to fill in

A text before `%` may have places to fill in, as in `'%5d of %s' % (n, name)`. A place says how a
value is turned into text: by its letter, and between the percent sign and the letter by a name in
parentheses, by flags, a width and a precision. A width or a precision written as `*` is taken from
the values.

The values are the items of a tuple, or one value of any other kind. If that value has items under
names, places may name them, and need not use the value up.

Bytes have places as well. They take bytes for `%s`, and what they quote is written in ASCII.
-/

namespace Splice.Filling

/-- What a place says between the percent sign and the letter. -/
structure Place where
  left : Bool := false
  plus : Bool := false
  blank : Bool := false
  alternate : Bool := false
  zero : Bool := false
  width : Nat := 0
  precision : Option Nat := none
  deriving Inhabited

/-- The state of filling in: what is left of the pattern, how much of it has been read, and the
values that are left. -/
structure State where
  rest : List Char
  position : Nat
  values : List Object

/-- A piece of the result; it may be an object as it was. -/
structure Piece where
  text : List Char
  whole : Option Object := none

/-- A failure of filling in. -/
def fail {α : Type} (f : PatternFault) : Except Failure α :=
  .error (.ofFault (.pattern f))

/-- Whether a value has items that places can name. -/
def isNamed (bytes : Bool) : Value → Bool
  | .dict _ | .list _ | .range .. | .undefined _ => true
  | .bytes _ | .buffer _ => !bytes
  | _ => false

/-! ## Reading a place -/

/-- Splits a name off that ends at the parenthesis that closes it. -/
def nameFrom : (depth : Nat) → List Char → Option (List Char × List Char)
  | _, [] => none
  | depth, c :: rest =>
    if c == ')' && depth == 0 then some ([], rest)
    else
      let depth := if c == '(' then depth + 1 else if c == ')' then depth - 1 else depth
      (nameFrom depth rest).map fun (n, r) => (c :: n, r)

/-- Reads the flags of a place. -/
def readFlags (p : Place) (s : State) : Place × State :=
  go p s.rest s.position
where
  go (p : Place) : List Char → Nat → Place × State
    | '-' :: rest, n => go { p with left := true } rest (n + 1)
    | '+' :: rest, n => go { p with plus := true } rest (n + 1)
    | ' ' :: rest, n => go { p with blank := true } rest (n + 1)
    | '#' :: rest, n => go { p with alternate := true } rest (n + 1)
    | '0' :: rest, n => go { p with zero := true } rest (n + 1)
    | rest, n => (p, ⟨rest, n, s.values⟩)

/-- The next value. -/
def nextValue (s : State) : Except Failure (Object × State) :=
  match s.values with
  | v :: vs => .ok (v, { s with values := vs })
  | [] => fail .tooFew

/-- Goes on behind `n` characters of the pattern. -/
def State.skip (n : Nat) (s : State) : State :=
  { s with rest := s.rest.drop n, position := s.position + n }

/-- Reads a number that is written out, not greater than `most`. -/
def readNumber (most : Int) (tooBig : PatternFault) (s : State) :
    Except Failure (Nat × State) :=
  let ds := s.rest.takeWhile Char.isDigit
  let n : Nat := ds.foldl (fun n d => 10 * n + (d.toNat - 48)) 0
  if most < (n : Int) then fail tooBig else .ok (n, s.skip ds.length)

/-- The greatest precision, which is that of a signed number of 32 bits. -/
def maxPrecision : Int :=
  Int.pow 2 31 - 1

/-- Takes a width or a precision from the values; it has to be a signed number that is not greater
than `most`. -/
def sizeValue (most : Int) (tooBig : Fault) (s : State) : Except Failure (Int × State) := do
  let (v, s) ← nextValue s
  match v.value.asInt? with
  | some n => if -most - 1 ≤ n && n ≤ most then return (n, s) else throw (.ofFault tooBig)
  | none => fail .sizeNotWhole

/-- Reads the width of a place; a negative one means the left side. -/
def readWidth (p : Place) (s : State) : Except Failure (Place × State) := do
  match s.rest with
  | '*' :: _ =>
    let (n, s) ← sizeValue Object.maxCount .tooLong (s.skip 1)
    return ({ p with width := n.natAbs, left := p.left || n < 0 }, s)
  | _ =>
    let (n, s) ← readNumber Object.maxCount .widthTooBig s
    return ({ p with width := n }, s)

/-- Reads the precision of a place, if it has one. -/
def readPrecision (bytes : Bool) (p : Place) (s : State) : Except Failure (Place × State) := do
  match s.rest with
  | '.' :: '*' :: _ =>
    let (n, s) ← sizeValue maxPrecision .tooLongForWord (s.skip 2)
    return ({ p with precision := some n.toNat }, s)
  | '.' :: _ =>
    let (n, s) ← readNumber maxPrecision (.precisionTooBig bytes) (s.skip 1)
    return ({ p with precision := some n }, s)
  | _ => return (p, s)

/-- Skips a letter that says how large numbers are, which means nothing. -/
def skipSize (s : State) : State :=
  match s.rest with
  | c :: _ => if c == 'h' || c == 'l' || c == 'L' then s.skip 1 else s
  | [] => s

/-! ## Laying values out -/

/-- Puts blanks in front of a text or behind it. -/
def pad (p : Place) (s : List Char) : List Char :=
  let blanks := List.replicate (p.width - s.length) ' '
  if p.left then s ++ blanks else blanks ++ s

/-- Lays out a number from its sign, a mark of its base and its digits. Zeros fill the width behind
the sign and the mark, unless the number stands on the left. -/
def padNumber (p : Place) (negative : Bool) (mark digits : List Char) : List Char :=
  let sign := if negative then ['-'] else if p.plus then ['+'] else if p.blank then [' '] else []
  let front := sign ++ mark
  if p.zero && !p.left then
    front ++ List.replicate (p.width - (front.length + digits.length)) '0' ++ digits
  else pad p (front ++ digits)

/-- A text cut off at the precision. -/
def padText (p : Place) (s : List Char) : List Char :=
  pad p (match p.precision with
    | some n => s.take n
    | none => s)

/-- The whole number that a value gives for a decimal place. -/
def decimalOf (letter : Char) (v : Value) : Except Failure Int :=
  match v with
  | .real x =>
    if x.isNaN then .error (.ofFault (.noWholePart false))
    else if x.isInfinite then .error (.ofFault (.noWholePart true))
    else .ok x.truncated
  | .undefined why => .error (.ofFault (.undefined why))
  | _ =>
    match v.asInt? with
    | some n => .ok n
    | none => fail (.notNumber letter v.typeName)

/-- A whole number with at least as many digits as the precision says. -/
def padWhole (p : Place) (n : Int) (mark digits : List Char) : List Char :=
  let zeros := List.replicate (p.precision.getD 0 - digits.length) '0'
  padNumber p (n < 0) mark (zeros ++ digits)

/-- A whole number in decimal digits. -/
def decimal (p : Place) (letter : Char) (v : Value) : Except Failure (List Char) := do
  let n ← decimalOf letter v
  if Value.isShort n then return padWhole p n [] (toString n.natAbs).toList
  else throw (.ofFault .tooManyDigits)

/-- A whole number to another base. -/
def based (p : Place) (letter : Char) (v : Value) : Except Failure (List Char) :=
  match v.asInt? with
  | none => fail (.notWhole letter v.typeName)
  | some n =>
    let digits := Nat.toDigits (if letter == 'o' then 8 else 16) n.natAbs
    let mark := if p.alternate then ['0', letter] else []
    .ok (padWhole p n mark (if letter == 'X' then digits.map Char.toUpper else digits))

/-- The real number that a value is. -/
def realValue (bytes : Bool) (v : Value) : Except Failure Binary64 :=
  match v with
  | .real x => .ok x
  | .undefined why => .error (.ofFault (.undefined why))
  | _ =>
    match v.asInt? with
    | some n => (Object.realOf n).mapError .ofFault
    | none => fail (.notReal bytes v.typeName)

/-- A real number in the layout of a letter. -/
def realText (bytes : Bool) (p : Place) (letter : Char) (v : Value) :
    Except Failure (List Char) := do
  let x ← realValue bytes v
  let layout : Binary64.Layout :=
    match letter.toLower with
    | 'f' => .fixed
    | 'e' => .scientific
    | _ => .general
  let digits := x.laidOut layout (p.precision.getD 6) p.alternate
  let digits := if letter.isUpper then digits.map Char.toUpper else digits
  return padNumber p (x.isNegative && !x.isNaN) [] digits

/-- One character, given as such or by its number. -/
def character (p : Place) (v : Value) : Except Failure (List Char) :=
  match v with
  | .text s =>
    match s.toList with
    | [c] => .ok (pad p [c])
    | _ => fail .notCharacter
  | _ =>
    match v.asInt? with
    | some n =>
      if 0 ≤ n && n < 0x110000 then .ok (pad p [Char.ofNat n.toNat]) else fail .noCharacter
    | none => fail .notCharacter

/-- The characters that stand for bytes. -/
def charsOf (bs : List UInt8) : List Char :=
  bs.map fun b => Char.ofNat b.toNat

/-- One byte, given as such or as a number. -/
def byte (p : Place) (v : Value) : Except Failure (List Char) :=
  match v with
  | .bytes [b] | .buffer [b] => .ok (pad p (charsOf [b]))
  | _ =>
    match v.asInt? with
    | some n => if 0 ≤ n && n < 256 then .ok (pad p [Char.ofNat n.toNat]) else fail .noByte
    | none => fail .notByte

/-- The display form of a value; a text that fills its place exactly stays the object that it is. -/
def displayed (p : Place) (o : Object) : Except Failure Piece := do
  let s ← o.value.display
  let shown := padText p s.toList
  let isText := match o.value with
    | .text t => shown == t.toList
    | _ => false
  return ⟨shown, if isText then some o else none⟩

/-- What a value shows as in a place with some letter, which stands at this position. -/
def fill (bytes : Bool) (p : Place) (letter : Char) (position : Nat) (o : Object) :
    Except Failure Piece := do
  let v := o.value
  match letter with
  | 'd' | 'i' | 'u' => return ⟨← decimal p letter v, none⟩
  | 'o' | 'x' | 'X' => return ⟨← based p letter v, none⟩
  | 'e' | 'E' | 'f' | 'F' | 'g' | 'G' => return ⟨← realText bytes p letter v, none⟩
  | 'c' => return ⟨← if bytes then byte p v else character p v, none⟩
  | 'r' | 'a' =>
    let s ← v.shown.mapError Failure.ofFault
    return ⟨padText p (if bytes || letter == 'a' then Text.plain s.toList else s.toList), none⟩
  | 's' | 'b' =>
    match bytes, letter, v with
    | false, 's', _ => displayed p o
    | true, _, .bytes bs | true, _, .buffer bs => return ⟨padText p (charsOf bs), none⟩
    | true, _, _ => fail (.notBytes v.typeName)
    | false, _, _ => fail (.unknownLetter letter.toNat position)
  | _ => fail (.unknownLetter letter.toNat position)

/-! ## Filling in -/

/-- Fills one place, which starts behind a percent sign. `named` is the value whose items places can
name. -/
def fillPlace (bytes : Bool) (named : Option Object) (s : State) :
    Except Failure (Piece × State) := do
  let s ← (match s.rest, named with
    | '(' :: _, none => fail .notNamed
    | '(' :: rest, some o => do
      match nameFrom 0 rest with
      | none => fail .incompleteName
      | some (n, rest) =>
        let key : Value :=
          if bytes then .bytes (n.map fun c => UInt8.ofNat c.toNat) else .text (String.ofList n)
        let found ← o.subscript (.new key)
        return ⟨rest, s.position + n.length + 2, [found]⟩
    | _, _ => return s : Except Failure State)
  let (p, s) := readFlags {} s
  let (p, s) ← readWidth p s
  let (p, s) ← readPrecision bytes p s
  let s := skipSize s
  match s.rest with
  | [] => fail .incomplete
  | letter :: rest =>
    let (o, s) ← nextValue s
    let hasRoom := p.width ≤ Object.maxStored
    let piece ← fill bytes (if hasRoom then p else { p with width := 0 }) letter s.position o
    if hasRoom then return (piece, { s with rest, position := s.position + 1 })
    else throw (.ofFault .noRoom)

/-- Fills all places of a pattern; the result are its pieces. -/
def fillAll (bytes : Bool) (named : Option Object) :
    (fuel : Nat) → State → Except Failure (List Piece)
  | 0, _ => .ok []
  | fuel + 1, s => do
    match s.rest with
    | [] =>
      if s.values.isEmpty || named.isSome then return [] else fail (.tooMany bytes)
    | '%' :: '%' :: _ =>
      return ⟨['%'], none⟩ :: (← fillAll bytes named fuel (s.skip 2))
    | '%' :: _ =>
      let (piece, s) ← fillPlace bytes named (s.skip 1)
      return piece :: (← fillAll bytes named fuel s)
    | _ =>
      let literal := s.rest.takeWhile (· != '%')
      return ⟨literal, none⟩ :: (← fillAll bytes named fuel (s.skip literal.length))

/-- A pattern with its places filled by the values in `args`. -/
def pieces (bytes : Bool) (pattern : List Char) (args : Object) : Except Failure (List Piece) :=
  let values := match args.value with
    | .tuple xs => xs
    | _ => [args]
  let named := if isNamed bytes args.value then some args else none
  fillAll bytes named (pattern.length + 1) ⟨pattern, 0, values⟩

/-- The text, or the bytes, `a` with its places filled by the values in `args`. -/
def filled (a args : Object) : Except Failure Object := do
  let bytesOf (ps : List Piece) : List UInt8 :=
    (ps.flatMap Piece.text).map fun c => UInt8.ofNat c.toNat
  match a.value with
  | .text s =>
    match ← pieces false s.toList args with
    | [⟨_, some o⟩] => return o
    | ps =>
      if s.toList.contains '%' then return .new (.text (String.ofList (ps.flatMap Piece.text)))
      else return a
  | .bytes bs => return .new (.bytes (bytesOf (← pieces true (charsOf bs) args)))
  | .buffer bs => return .new (.buffer (bytesOf (← pieces true (charsOf bs) args)))
  | _ => return a

end Splice.Filling
