import Splice.Number.Binary64

/-!
# Real numbers with a given number of digits

A finite number is a fraction, so it can be rounded exactly: to a number of places behind the point
(`fixed`), or to a number of places behind the first digit that counts (`scientific`). The general
layout takes the positional form as long as the point is near the digits, and drops zeros at the end
(`general`). Of two neighbours at the same distance the even one is taken.

Everything here is about magnitudes; the sign is put in front by whoever lays a number out.
-/

namespace Splice.Binary64

/-- How a number is laid out. -/
inductive Layout where
  | fixed
  | scientific
  | general
  deriving DecidableEq, Repr, Inhabited

/-- The magnitude of a finite number as a fraction. -/
def magnitude (x : Binary64) : Nat × Nat :=
  let (a, b) := x.toFraction
  (a.natAbs, b)

/-- Decimal digits, at least `width` of them. -/
def padded (width n : Nat) : List Char :=
  let ds := (toString n).toList
  List.replicate (width - ds.length) '0' ++ ds

/-- Digits with a point in front of the last `places`; `point` keeps a point that nothing follows.
-/
def withPoint (point : Bool) (places : Nat) (digits : List Char) : List Char :=
  let k := digits.length - places
  digits.take k ++ (if places == 0 && !point then [] else '.' :: digits.drop k)

/-- A magnitude rounded to a number of places. -/
def fixedDigits (x : Binary64) (places : Nat) : List Char :=
  let (a, b) := x.magnitude
  padded (places + 1) (roundedQuotient (a * Nat.pow 10 places) b)

/-- A magnitude as a number with `places + 1` digits and the power of ten of its first digit. -/
def scientificDigits (x : Binary64) (places : Nat) : List Char × Int :=
  let (a, b) := x.magnitude
  if a == 0 then (List.replicate (places + 1) '0', 0)
  else
    let e := leadingPower a b
    let shift : Int := places - e
    let n :=
      if shift < 0 then roundedQuotient a (b * Nat.pow 10 (-shift).toNat)
      else roundedQuotient (a * Nat.pow 10 shift.toNat) b
    if n == Nat.pow 10 (places + 1) then (padded (places + 1) (Nat.pow 10 places), e + 1)
    else (padded (places + 1) n, e)

/-- An exponent of ten, with its sign and at least two digits. -/
def exponentText (e : Int) : List Char :=
  'e' :: (if e < 0 then '-' else '+') :: padded 2 e.natAbs

/-- Drops the zeros behind a point, and the point if nothing is left behind it. -/
def dropZeros (s : List Char) : List Char :=
  if s.contains '.' then
    let kept := (s.reverse.dropWhile (· == '0')).reverse
    if kept.getLast? == some '.' then kept.dropLast else kept
  else s

/-- A finite magnitude in some layout; `point` keeps a point, and zeros at the end, that say
nothing.
-/
def layOutMagnitude (x : Binary64) (layout : Layout) (precision : Nat) (point : Bool) : List Char :=
  match layout with
  | .fixed => withPoint point precision (x.fixedDigits precision)
  | .scientific =>
    let (ds, e) := x.scientificDigits precision
    withPoint point precision ds ++ exponentText e
  | .general =>
    let p := if precision == 0 then 1 else precision
    let (ds, e) := x.scientificDigits (p - 1)
    let trim (s : List Char) : List Char := if point then s else dropZeros s
    if -4 ≤ e && e < p then
      let places := ((p : Int) - 1 - e).toNat
      trim (withPoint point places (x.fixedDigits places))
    else trim (withPoint point (p - 1) ds) ++ exponentText e

/-- A magnitude in some layout. Infinity and not-a-number are words in every layout. -/
def laidOut (x : Binary64) (layout : Layout) (precision : Nat) (point : Bool) : List Char :=
  if x.isNaN then ['n', 'a', 'n']
  else if x.isInfinite then ['i', 'n', 'f']
  else x.layOutMagnitude layout precision point

/-- The whole part of a finite number. -/
def truncated (x : Binary64) : Int :=
  let (a, b) := x.toFraction
  Int.tdiv a b

end Splice.Binary64
