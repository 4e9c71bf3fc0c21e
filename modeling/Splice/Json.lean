import Splice.Text.Escape
import Splice.Value.Basic

/-!
# JSON texts

Readers for JSON, each from the characters in front of it to what it read and the characters left.
Numbers without a fraction and an exponent are whole numbers of any size; the others are rounded to
real numbers, and those too large for one are refused. Of two equal keys of an object the later one
counts.
-/

namespace Splice.Json

/-- Drops blanks. -/
def skip : List Char → List Char :=
  List.dropWhile fun c => c == ' ' || c == '\t' || c == '\n' || c == '\r'

/-! ## Texts -/

/-- Four hexadecimal digits. -/
def unit? (s : List Char) : Option (Nat × List Char) := do
  let shown := s.take 4
  guard (shown.length == 4)
  let n ← shown.foldlM (fun n c => (Text.hexValue c).map (16 * n + ·)) 0
  return (n, s.drop 4)

/-- Reads what follows a backslash. A character outside the basic plane is written as two units. -/
def escaped : List Char → Option (Char × List Char)
  | 'b' :: rest => some (Char.ofNat 8, rest)
  | 'f' :: rest => some (Char.ofNat 12, rest)
  | 'n' :: rest => some ('\n', rest)
  | 'r' :: rest => some ('\r', rest)
  | 't' :: rest => some ('\t', rest)
  | 'u' :: rest => do
    let (n, rest) ← unit? rest
    if 0xd800 ≤ n && n < 0xdc00 then
      match rest with
      | '\\' :: 'u' :: rest =>
        let (m, rest) ← unit? rest
        guard (0xdc00 ≤ m && m < 0xe000)
        return (Char.ofNat (0x10000 + (n - 0xd800) * 0x400 + (m - 0xdc00)), rest)
      | _ => none
    else
      guard n.isValidChar
      return (Char.ofNat n, rest)
  | c :: rest => if c == '"' || c == '\\' || c == '/' then some (c, rest) else none
  | [] => none

/-- Reads a text after its opening quote. -/
def text : (fuel : Nat) → List Char → Option (List Char × List Char)
  | 0, _ => none
  | _, [] => none
  | fuel + 1, c :: rest =>
    if c == '"' then some ([], rest)
    else if c.toNat < 32 then none
    else if c == '\\' then do
      let (x, rest) ← escaped rest
      let (more, rest) ← text fuel rest
      return (x :: more, rest)
    else (text fuel rest).map fun (more, rest) => (c :: more, rest)

/-! ## Numbers -/

/-- The number that decimal digits write. -/
def decimal (ds : List Char) : Nat :=
  ds.foldl (fun n d => 10 * n + (d.toNat - 48)) 0

/-- Reads at least one digit. -/
def digits? (s : List Char) : Option (List Char × List Char) :=
  match s.takeWhile Char.isDigit with
  | [] => none
  | ds => some (ds, s.dropWhile Char.isDigit)

/-- Reads an exponent, if there is one. -/
def exponent? (s : List Char) : Option (Option Int × List Char) :=
  match s with
  | c :: rest =>
    if c == 'e' || c == 'E' then
      let (minus, rest) := match rest with
        | '-' :: rest => (true, rest)
        | '+' :: rest => (false, rest)
        | rest => (false, rest)
      (digits? rest).map fun (ds, rest) =>
        (some (if minus then -(decimal ds : Int) else decimal ds), rest)
    else some (none, s)
  | [] => some (none, s)

/-- What a reader got, or that the text is malformed. -/
def wellFormed {α : Type} : Option α → Except Malformed α
  | some a => .ok a
  | none => .error .fallbackText

/-- Reads a number. -/
def number (s : List Char) : Except Malformed (Value × List Char) := do
  let (minus, rest) := match s with
    | '-' :: rest => (true, rest)
    | rest => (false, rest)
  let (whole, rest) ← wellFormed (digits? rest)
  if whole.head? == some '0' && whole.length != 1 then throw .fallbackText
  let (places, rest) ← match rest with
    | '.' :: rest => (wellFormed (digits? rest)).map fun (ds, rest) => (some ds, rest)
    | rest => pure (none, rest)
  let (power, rest) ← wellFormed (exponent? rest)
  match places, power with
  | none, none =>
    if maxDigits < whole.length then throw .fallbackShape
    else return (.int (if minus then -(decimal whole : Int) else decimal whole), rest)
  | _, _ =>
    let fraction := places.getD []
    let e := power.getD 0 - fraction.length
    let x := Binary64.ofDecimal minus (decimal (whole ++ fraction)) e
    if x.isInfinite then throw .fallbackText else return (.real x, rest)

/-! ## Values -/

/-- How many brackets may be open. -/
def maxOpen : Nat :=
  990

/-- Puts a field into an object. -/
def putField (k : List Char) (v : Object) : List (Object × Object) → List (Object × Object)
  | [] => [(.new (.text (String.ofList k)), v)]
  | (name, old) :: rest =>
    match name.value with
    | .text n =>
      if n == String.ofList k then (name, v) :: rest else (name, old) :: putField k v rest
    | _ => (name, old) :: putField k v rest

mutual

/-- Reads a value inside so many brackets. -/
def value : (fuel depth : Nat) → List Char → Except Malformed (Value × List Char)
  | 0, _, _ => .error .fallbackText
  | fuel + 1, depth, s =>
    match skip s with
    | 'n' :: 'u' :: 'l' :: 'l' :: rest => .ok (.null, rest)
    | 't' :: 'r' :: 'u' :: 'e' :: rest => .ok (.bool true, rest)
    | 'f' :: 'a' :: 'l' :: 's' :: 'e' :: rest => .ok (.bool false, rest)
    | '"' :: rest =>
      (wellFormed (text (rest.length + 1) rest)).map fun (t, r) => (.text (String.ofList t), r)
    | '[' :: rest =>
      match skip rest with
      | ']' :: rest => .ok (.list [], rest)
      | rest =>
        if maxOpen ≤ depth then .error .fallbackDepth
        else (elements fuel (depth + 1) rest).map fun (vs, r) => (.list vs, r)
    | '\x7b' :: rest =>
      match skip rest with
      | '\x7d' :: rest => .ok (.dict [], rest)
      | rest =>
        if maxOpen ≤ depth then .error .fallbackDepth
        else (fields fuel (depth + 1) [] rest).map fun (es, r) => (.dict es, r)
    | rest => number rest

/-- Reads the elements of a list and its end. -/
def elements : (fuel depth : Nat) → List Char → Except Malformed (List Object × List Char)
  | 0, _, _ => .error .fallbackText
  | fuel + 1, depth, s => do
    let (v, rest) ← value fuel depth s
    match skip rest with
    | ',' :: rest =>
      let (vs, rest) ← elements fuel depth rest
      return (.new v :: vs, rest)
    | ']' :: rest => return ([.new v], rest)
    | _ => throw .fallbackText

/-- Reads the fields of an object and its end. -/
def fields : (fuel depth : Nat) → List (Object × Object) → List Char →
    Except Malformed (List (Object × Object) × List Char)
  | 0, _, _, _ => .error .fallbackText
  | fuel + 1, depth, done, s =>
    match skip s with
    | '"' :: rest => do
      let (k, rest) ← wellFormed (text (rest.length + 1) rest)
      match skip rest with
      | ':' :: rest =>
        let (v, rest) ← value fuel depth rest
        match skip rest with
        | ',' :: rest => fields fuel depth (putField k (.new v) done) rest
        | '\x7d' :: rest => return (putField k (.new v) done, rest)
        | _ => throw .fallbackText
      | _ => throw .fallbackText
    | _ => .error .fallbackText

end

end Splice.Json
