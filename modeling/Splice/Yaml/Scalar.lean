import Splice.Value.Basic
import Splice.Yaml.Timestamp

/-!
# Scalars of YAML documents

What a scalar without quotes means: a truth value, a number, a date, the null value, one of two
marks with a meaning of their own, or else a text. Numbers may group their digits by underscores,
and a number may be written to the base sixty, with colons between its digits.
-/

namespace Splice.Yaml

/-- What a scalar means. -/
inductive Meaning where
  | value (v : Value)
  /-- The mark that merges mappings. -/
  | merge
  /-- The mark of a default value. -/
  | standard
  deriving Inhabited

namespace Scalar

/-- Whether all characters are digits or underscores, and the first is a digit. -/
def isGrouped (s : List Char) : Bool :=
  (s.head?.any Char.isDigit) && s.all fun c => c.isDigit || c == '_'

/-- The number that decimal digits write. -/
def decimal (s : List Char) : Nat :=
  (s.filter Char.isDigit).foldl (fun n d => 10 * n + (d.toNat - 48)) 0

/-- Splits off a sign; true is minus. -/
def sign (s : List Char) : Bool × List Char :=
  match s with
  | '-' :: rest => (true, rest)
  | '+' :: rest => (false, rest)
  | _ => (false, s)

/-- The pieces between colons. -/
def pieces (s : List Char) : List (List Char) :=
  match s with
  | [] => [[]]
  | c :: cs =>
    if c == ':' then [] :: pieces cs
    else
      match pieces cs with
      | [] => [[c]]
      | p :: ps => (c :: p) :: ps

/-- Whether a piece is a digit to the base sixty. -/
def isSixtieth (s : List Char) : Bool :=
  match s with
  | [d] => d.isDigit
  | [t, d] => '0' ≤ t && t ≤ '5' && d.isDigit
  | _ => false

/-- A number to a base that is a power of two, if these are digits of it and underscores. -/
def based? (base : Nat) (accepts : Char → Bool) (s : List Char) : Option (Except Unreadable Nat) :=
  if s.isEmpty || !s.all fun c => accepts c || c == '_' then none
  else
    let digit (c : Char) : Nat :=
      if c.isDigit then c.toNat - 48 else if c.isLower then c.toNat - 87 else c.toNat - 55
    match s.filter (· != '_') with
    | [] => some (.error (.noDigits base))
    | ds => some (.ok (ds.foldl (fun n c => base * n + digit c) 0))

/-- The number that decimal digits write, if there are not too many. -/
def shortDecimal (s : List Char) : Except Unreadable Nat :=
  let count := (s.filter Char.isDigit).length
  if maxDigits < count then .error (.digits count) else .ok (decimal s)

/-- The number that digits to the base sixty write. -/
def sixtiethsWhole (places : List (List Char)) : Except Unreadable Nat :=
  places.foldlM (fun n q => do return 60 * n + (← shortDecimal q)) 0

/-- A whole number without its sign. -/
def whole? (s : List Char) : Option (Except Unreadable Nat) :=
  match s with
  | ['0'] => some (.ok 0)
  | '0' :: 'b' :: rest => based? 2 (fun c => c == '0' || c == '1') rest
  | '0' :: 'x' :: rest =>
    based? 16 (fun c => c.isDigit || ('a' ≤ c && c ≤ 'f') || ('A' ≤ c && c ≤ 'F')) rest
  | '0' :: rest => based? 8 (fun c => '0' ≤ c && c ≤ '7') ('0' :: rest)
  | _ =>
    match pieces s with
    | [p] => if isGrouped p then some (shortDecimal p) else none
    | p :: ps =>
      if isGrouped p && ps.all isSixtieth then some (sixtiethsWhole (p :: ps)) else none
    | [] => none

/-- A whole number. -/
def int? (s : List Char) : Option (Except Unreadable Int) :=
  let (minus, rest) := sign s
  (whole? rest).map fun n => n.map fun n => if minus then -(n : Int) else n

/-- An exponent of ten, which needs a sign, or nothing. -/
def exponent? (s : List Char) : Option Int :=
  match s with
  | [] => some 0
  | e :: rest =>
    let digits := (sign rest).2
    if (e == 'e' || e == 'E') && digits.length + 1 == rest.length && !digits.isEmpty &&
        digits.all Char.isDigit then
      some (if (sign rest).1 then -(decimal digits : Int) else decimal digits)
    else none

/-- The characters in front of a point and behind it. -/
def split? (s : List Char) : Option (List Char × List Char) :=
  match s.dropWhile (· != '.') with
  | [] => none
  | _ :: rest => some (s.takeWhile (· != '.'), rest)

/-- A real number to the base sixty: its places, the last of which has a fraction. -/
def sixtieths (minus : Bool) (places : List (List Char)) (fraction : List Char) : Binary64 :=
  let last := Binary64.ofDecimal false (decimal (places.getLastD [] ++ fraction))
    (-(fraction.filter Char.isDigit).length)
  let front := places.dropLast.map fun p => Binary64.ofInt (decimal p)
  let (total, _) := (last :: front.reverse).foldl
    (fun (total, base) x =>
      (Binary64.add total (Binary64.mul x base), Binary64.mul base (.ofInt 60)))
    (Binary64.ofInt 0, Binary64.ofInt 1)
  if minus then total.neg else total

/-- A real number. -/
def real? (s : List Char) : Option Binary64 :=
  let (minus, rest) := sign s
  let name := String.ofList rest
  if name == ".inf" || name == ".Inf" || name == ".INF" then some (.infinity minus)
  else if s == rest && (name == ".nan" || name == ".NaN" || name == ".NAN") then some .nan
  else do
    let (front, back) ← split? rest
    let places := back.takeWhile fun c => c.isDigit || c == '_'
    let power ← exponent? (back.drop places.length)
    let count := (places.filter Char.isDigit).length
    match pieces front with
    | [p] =>
      let written := if p.isEmpty then s == rest && isGrouped places else isGrouped p
      if written then return .ofDecimal minus (decimal (p ++ places)) (power - count) else none
    | p :: ps =>
      if isGrouped p && ps.all isSixtieth && places.length == back.length then
        return sixtieths minus (p :: ps) places
      else none
    | [] => none

/-- A truth value in one of the spellings there are. -/
def truth? (s : String) : Option Bool :=
  let spelled (words : List String) : Bool :=
    words.any fun w => s == w || s == w.capitalize || s == w.toUpper
  if spelled ["yes", "true", "on"] then some true
  else if spelled ["no", "false", "off"] then some false
  else none

end Scalar

/-- A date or a time as a value. -/
def Timestamp.value (t : Timestamp) : Value :=
  .inert t.text t.quoted t.typeName

/-- What a scalar without quotes means. It may look like a number or a date, and be none. -/
def Meaning.ofPlain (s : String) : Except Unreadable Meaning := do
  let cs := s.toList
  match Scalar.truth? s, Scalar.real? cs, Scalar.int? cs, Timestamp.ofText? cs with
  | some b, _, _, _ => return .value (.bool b)
  | none, some x, _, _ => return .value (.real x)
  | none, none, some n, _ => return .value (.int (← n))
  | none, none, none, some t =>
    match t.objection? with
    | some why => throw why
    | none => return .value t.value
  | none, none, none, none =>
    if s == "<<" then return .merge
    else if s == "=" then return .standard
    else if s == "" || s == "~" || s == "null" || s == "Null" || s == "NULL" then
      return .value .null
    else return .value (.text s)

end Splice.Yaml
