/-!
# Binary floating point numbers and their text

A floating point value is kept as its 64 bits, so that equality of values is equality of bits, and
every rule about it can be said in exact arithmetic on a significand `m` and a binary exponent `q`.

The text of a finite number has the fewest digits that read back as the same number, and among those
the digits closest to it. It is positional while the decimal point falls within the first sixteen
digits or at most four places before them, and scientific with an exponent of at least two digits
otherwise. Reading a decimal rounds its exact value to the nearest number, ties to even.
-/

namespace Splice

/-- A binary64 value, by its bits. -/
structure Binary64 where
  bits : UInt64
  deriving DecidableEq, Inhabited

namespace Binary64

/-- The sign bit. -/
def isNegative (x : Binary64) : Bool :=
  x.bits >>> 63 == 1

/-- The eleven exponent bits. -/
def exponentField (x : Binary64) : Nat :=
  ((x.bits >>> 52) &&& 0x7ff).toNat

/-- The fraction bits. -/
def fraction (x : Binary64) : Nat :=
  (x.bits &&& 0xfffffffffffff).toNat

def isNaN (x : Binary64) : Bool :=
  x.exponentField == 0x7ff && x.fraction != 0

def isInfinite (x : Binary64) : Bool :=
  x.exponentField == 0x7ff && x.fraction == 0

/-- The significand of a finite value. -/
def significand (x : Binary64) : Nat :=
  if x.exponentField == 0 then x.fraction else x.fraction + Nat.pow 2 52

/-- The exponent that goes with `significand`: the magnitude is `significand * 2 ^ exponent`. -/
def exponent (x : Binary64) : Int :=
  if x.exponentField == 0 then -1074 else (x.exponentField : Int) - 1075

def infinity (negative : Bool) : Binary64 :=
  ⟨if negative then 0xfff0000000000000 else 0x7ff0000000000000⟩

def nan : Binary64 :=
  ⟨0x7ff8000000000000⟩

def ofFloat (x : Float) : Binary64 :=
  ⟨x.toBits⟩

def toFloat (x : Binary64) : Float :=
  Float.ofBits x.bits

/-! ## Exact values -/

/-- The exact value of a finite number as a fraction. -/
def toFraction (x : Binary64) : Int × Nat :=
  let m : Int := if x.isNegative then -(x.significand : Int) else x.significand
  if x.exponent < 0 then (m, Nat.pow 2 (-x.exponent).toNat)
  else (m * Int.pow 2 x.exponent.toNat, 1)

/-- The whole number that a number is, if it is one. -/
def whole? (x : Binary64) : Option Int :=
  if x.isNaN || x.isInfinite then none
  else
    let (a, b) := x.toFraction
    if a % b == 0 then some (a / b) else none

/-- The quotient rounded to the nearest whole number, ties to even. -/
def roundedQuotient (num den : Nat) : Nat :=
  let q := num / den
  let r := num % den
  if 2 * r < den then q
  else if den < 2 * r then q + 1
  else if q % 2 == 0 then q else q + 1

/-- The number nearest to `num / den`, ties to even; beyond the largest finite one, infinity. -/
def ofFraction (negative : Bool) (num den : Nat) : Binary64 :=
  let sign : UInt64 := if negative then 0x8000000000000000 else 0
  if num == 0 || den == 0 then ⟨sign⟩
  else
    -- a first guess of the binary exponent, off by at most one
    let guess : Int := (num.log2 : Int) - den.log2 - 52
    let scaled (q : Int) : Nat × Nat :=
      if q < 0 then (num * Nat.pow 2 (-q).toNat, den) else (num, den * Nat.pow 2 q.toNat)
    let tooBig (q : Int) : Bool := let (n, d) := scaled q; Nat.pow 2 53 * d ≤ n
    let tooSmall (q : Int) : Bool := let (n, d) := scaled q; n < Nat.pow 2 52 * d
    let q := if tooBig guess then guess + 1 else if tooSmall guess then guess - 1 else guess
    let q := if q < -1074 then -1074 else q
    let (n, d) := scaled q
    let m := roundedQuotient n d
    let (m, q) := if m == Nat.pow 2 53 then (Nat.pow 2 52, q + 1) else (m, q)
    if q + 1075 ≥ 0x7ff then infinity negative
    else if m < Nat.pow 2 52 then ⟨sign ||| UInt64.ofNat m⟩
    else ⟨sign ||| (UInt64.ofNat (q + 1075).toNat <<< 52) ||| UInt64.ofNat (m - Nat.pow 2 52)⟩

/-- The number nearest to a whole number. -/
def ofInt (n : Int) : Binary64 :=
  ofFraction (n < 0) n.natAbs 1

/-- The number nearest to `digits * 10 ^ exponent`. Exponents far outside the range are settled by
the number of digits, so no huge power is ever formed. -/
def ofDecimal (negative : Bool) (digits : Nat) (exponent : Int) : Binary64 :=
  let size : Int := digits.log2 / 3 + exponent
  if digits == 0 then ofFraction negative 0 1
  else if size > 400 then infinity negative
  else if (digits.log2 : Int) + 4 * exponent < -1400 && exponent < -400 && size < -400 then
    ofFraction negative 0 1
  else if exponent < 0 then ofFraction negative digits (Nat.pow 10 (-exponent).toNat)
  else ofFraction negative (digits * Nat.pow 10 exponent.toNat) 1

/-! ## Shortest digits -/

/-- The interval of reals that round to a positive number, in quarters of its unit `2 ^ exponent`:
lower end, value, upper end. The lower half is narrower at a power of two. -/
def quarters (x : Binary64) : Nat × Nat × Nat :=
  let m := x.significand
  let narrow := x.fraction == 0 && x.exponentField > 1
  (if narrow then 4 * m - 1 else 4 * m - 2, 4 * m, 4 * m + 2)

/-- The power of ten of the leading digit of `num / den`, for positive `num`: the unique `k` with
`10 ^ k ≤ num / den < 10 ^ (k + 1)`. -/
def leadingPower (num den : Nat) : Int :=
  if den ≤ num then ((toString (num / den)).length : Int) - 1
  else
    let up := (toString (den / num)).length
    if den ≤ num * Nat.pow 10 (up - 1) then 1 - (up : Int) else -(up : Int)

/-- Looks for a decimal of `n` digits that reads back, then for one with one digit more, and so on:
the result is the digits as a number, and the power of ten of the last digit. -/
def shortestFrom (lo mid hi den : Nat) (closed : Bool) (power : Int) :
    (fuel n : Nat) → Nat × Int
  | 0, _ => (0, 0)
  | fuel + 1, n =>
    let last : Int := power - n + 1
    -- one unit of the last digit is `unitNum / unitDen` quarters
    let unitNum := if last < 0 then den else den * Nat.pow 10 last.toNat
    let unitDen := if last < 0 then Nat.pow 10 (-last).toNat else 1
    let c := mid * unitDen / unitNum
    let inside (k : Nat) : Bool :=
      let v := k * unitNum
      if closed then lo * unitDen ≤ v && v ≤ hi * unitDen
      else lo * unitDen < v && v < hi * unitDen
    let below := mid * unitDen - c * unitNum
    let above := (c + 1) * unitNum - mid * unitDen
    match inside c, inside (c + 1) with
    | true, true =>
      if below < above then (c, last)
      else if above < below then (c + 1, last)
      else if c % 2 == 0 then (c, last) else (c + 1, last)
    | true, false => (c, last)
    | false, true => (c + 1, last)
    | false, false => shortestFrom lo mid hi den closed power fuel (n + 1)

/-- The shortest digits of a positive finite number, and the power of ten of the last one. -/
def shortest (x : Binary64) : Nat × Int :=
  let (lo, mid, hi) := x.quarters
  let q := x.exponent - 2
  let scale := if q < 0 then 1 else Nat.pow 2 q.toNat
  let den := if q < 0 then Nat.pow 2 (-q).toNat else 1
  let power := leadingPower (mid * scale) den
  shortestFrom (lo * scale) (mid * scale) (hi * scale) den (x.significand % 2 == 0) power 17 1

/-- Digits without the zeros at their end; the zeros are counted. -/
def trimZeros (digits : List Char) : List Char :=
  let kept := (digits.reverse.dropWhile (· == '0')).reverse
  if kept.isEmpty then ['0'] else kept

/-- Where the decimal point may stand: with `point` digits before it, the text is positional from
three zeros after the point up to sixteen digits before it. -/
def isPositional (point : Int) : Bool :=
  -4 < point && point ≤ 16

/-- The text of a magnitude from its digits and the place of the point. -/
def layOut (digits : List Char) (point : Int) : List Char :=
  if isPositional point then
    if point ≤ 0 then
      ['0', '.'] ++ List.replicate (-point).toNat '0' ++ digits
    else
      let k := point.toNat
      let whole := digits.take k ++ List.replicate (k - digits.length) '0'
      let rest := digits.drop k
      whole ++ '.' :: (if rest.isEmpty then ['0'] else rest)
  else
    let e := point - 1
    let mantissa :=
      match digits with
      | [] => ['0']
      | d :: [] => [d]
      | d :: rest => d :: '.' :: rest
    let size := (toString e.natAbs).toList
    mantissa ++ 'e' :: (if e < 0 then '-' else '+') ::
      (if size.length < 2 then '0' :: size else size)

/-- The text of a number. -/
def text (x : Binary64) : String :=
  if x.isNaN then "nan"
  else
    let sign := if x.isNegative then "-" else ""
    if x.isInfinite then sign ++ "inf"
    else if x.significand == 0 then sign ++ "0.0"
    else
      let (digits, last) := x.shortest
      let shown := (toString digits).toList
      sign ++ String.ofList (layOut (trimZeros shown) (last + shown.length))

/-! ## Order -/

/-- Order of two numbers; none when one of them is not a number. -/
def compare? (x y : Binary64) : Option Ordering :=
  if x.isNaN || y.isNaN then none
  else if x.isInfinite || y.isInfinite then
    let rank (z : Binary64) : Int := if !z.isInfinite then 0 else if z.isNegative then -1 else 1
    some (compare (rank x) (rank y))
  else
    let (a, b) := x.toFraction
    let (c, d) := y.toFraction
    some (compare (a * d) (c * b))

/-- Order of a number and a whole number, decided exactly. -/
def compareInt? (x : Binary64) (n : Int) : Option Ordering :=
  if x.isNaN then none
  else if x.isInfinite then some (if x.isNegative then .lt else .gt)
  else
    let (a, b) := x.toFraction
    some (compare a (n * b))

/-! ## Arithmetic -/

def add (x y : Binary64) : Binary64 := ofFloat (x.toFloat + y.toFloat)

def sub (x y : Binary64) : Binary64 := ofFloat (x.toFloat - y.toFloat)

def mul (x y : Binary64) : Binary64 := ofFloat (x.toFloat * y.toFloat)

def div (x y : Binary64) : Binary64 := ofFloat (x.toFloat / y.toFloat)

def neg (x : Binary64) : Binary64 := ⟨x.bits ^^^ 0x8000000000000000⟩

/-- Zero with a sign. -/
def zero (negative : Bool) : Binary64 :=
  ofFraction negative 0 1

/-- The remainder with the sign of the divisor, exact. Both are finite and the divisor is not zero.
-/
def finiteMod (x y : Binary64) : Binary64 :=
  let (a, b) := x.toFraction
  let (c, d) := y.toFraction
  -- over the common denominator `b * d`
  let r := Int.fmod (a * d) (c * b)
  if r == 0 then zero y.isNegative
  else ofFraction (r < 0) r.natAbs (b * d)

/-- The remainder that goes with floor division, for a divisor that is not zero. -/
def mod (x y : Binary64) : Binary64 :=
  if x.isNaN || y.isNaN || x.isInfinite then nan
  else if y.isInfinite then
    if x.significand == 0 then zero y.isNegative
    else if x.isNegative == y.isNegative then x else y
  else finiteMod x y

/-- The remainder with the sign of the dividend, exact. Both are finite and the divisor is not zero.
-/
def truncatedMod (x y : Binary64) : Binary64 :=
  let (a, b) := x.toFraction
  let (c, d) := y.toFraction
  ofFraction x.isNegative (Int.tmod (a * d) (c * b)).natAbs (b * d)

/-- The greatest whole number that is not greater. -/
def floor (x : Binary64) : Binary64 :=
  if x.isNaN || x.isInfinite then x
  else
    let (a, b) := x.toFraction
    ofInt (Int.fdiv a b)

/-- The whole number next to a quotient that is nearly whole, and otherwise the floor. -/
def settle (q : Binary64) : Binary64 :=
  let f := q.floor
  if (q.sub f).compare? (ofFraction false 1 2) == some .gt then f.add (ofInt 1) else f

/-- The floor of the quotient, for a divisor that is not zero. It is found in steps, each of which
rounds: the dividend less its exact remainder is divided, and the quotient taken down by one if the
remainder has the wrong sign. -/
def floorDiv (x y : Binary64) : Binary64 :=
  let different := x.isNegative != y.isNegative
  if x.isNaN || y.isNaN || x.isInfinite then nan
  else if y.isInfinite then
    if x.significand == 0 || !different then zero different else ofInt (-1)
  else
    let r := x.truncatedMod y
    let q := (x.sub r).div y
    let q := if r.significand != 0 && r.isNegative != y.isNegative then q.sub (ofInt 1) else q
    if q.significand == 0 then zero different else q.settle

/-! ## Reading -/

/-- Reads decimal digits, with single underscores allowed between digits. -/
def readDigits : List Char → Option Nat
  | cs =>
    let rec go (seen : Bool) (n : Nat) : List Char → Option Nat
      | [] => if seen then some n else none
      | '_' :: d :: rest =>
        if seen && d.isDigit then go true (10 * n + (d.toNat - 48)) rest else none
      | d :: rest => if d.isDigit then go true (10 * n + (d.toNat - 48)) rest else none
    go false 0 cs

/-- Splits a leading sign off; true is minus. -/
def splitSign : List Char → Bool × List Char
  | '-' :: r => (true, r)
  | '+' :: r => (false, r)
  | r => (false, r)

/-- Reads an unsigned decimal with optional fraction and exponent. -/
def readDecimal (negative : Bool) (cs : List Char) : Option Binary64 := do
  let (mantissa, power) := cs.span fun c => c != 'e' && c != 'E'
  let e : Int ← match power with
    | [] => some 0
    | _ :: rest =>
      let (minus, digits) := splitSign rest
      (readDigits digits).map fun n => if minus then -(n : Int) else n
  let (whole, frac) := mantissa.span (· != '.')
  match frac with
  | [] => (readDigits whole).map fun n => ofDecimal negative n e
  | _ :: places =>
    if whole.isEmpty && places.isEmpty then none
    else
      let w ← if whole.isEmpty then some 0 else readDigits whole
      let f ← if places.isEmpty then some 0 else readDigits places
      let k := (places.filter Char.isDigit).length
      some (ofDecimal negative (w * Nat.pow 10 k + f) (e - k))

/-- Reads a number: a decimal, or a name of infinity or of not-a-number, in any letter case. -/
def ofText? (s : List Char) : Option Binary64 :=
  let (negative, body) := splitSign s
  let name := String.ofList (body.map Char.toLower)
  if name == "nan" then some nan
  else if name == "inf" || name == "infinity" then some (infinity negative)
  else readDecimal negative body

end Binary64

end Splice
