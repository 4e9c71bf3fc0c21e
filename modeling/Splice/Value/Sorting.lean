import Splice.Value.Compare

/-!
# Sorting objects

Sorting is stable and asks only whether one object comes before another. It starts from the runs
that are there already: a stretch in which no object comes before its predecessor, or in which each
does, which is then turned around. Short runs are made longer by inserting what follows them, and
runs are merged in pairs until one is left.

Which comparisons are made matters, because some objects cannot be compared: the first two that meet
are reported. It matters also where the order is none, as with a not-a-number among numbers.
-/

namespace Splice.Sorting

/-- Whether one object comes before another. -/
def before (a b : Object) : Except Fault Bool :=
  a.related .lt b

/-- Goes on with a run for as long as coming before the last object is what `down` says. The run is
kept with its last object in front. -/
def extend (down : Bool) (last : Object) (run : List Object) :
    List Object → Except Fault (List Object × List Object)
  | [] => .ok (run, [])
  | x :: xs => do
    if (← before x last) == down then extend down x (x :: run) xs
    else return (run, x :: xs)

/-- The run at the front of a list, in increasing order, and what follows it. -/
def takeRun : List Object → Except Fault (List Object × List Object)
  | [] => .ok ([], [])
  | [x] => .ok ([x], [])
  | x :: y :: rest => do
    let down ← before y x
    let (run, rest) ← extend down y [y, x] rest
    return (if down then run else run.reverse, rest)

/-- The place of an object between `low` and `high` in a sorted array, behind everything that it
does not come before. -/
def place (sorted : Array Object) (x : Object) : (fuel low high : Nat) → Except Fault Nat
  | 0, low, _ => .ok low
  | fuel + 1, low, high => do
    if high ≤ low then return low
    else
      let middle := (low + high) / 2
      if ← before x (sorted[middle]?.getD x) then place sorted x fuel low middle
      else place sorted x fuel (middle + 1) high

/-- Inserts an object into a sorted array. -/
def insert (sorted : Array Object) (x : Object) : Except Fault (Array Object) := do
  let i ← place sorted x (sorted.size + 1) 0 sorted.size
  return (sorted.toList.take i ++ x :: sorted.toList.drop i).toArray

/-- How long runs are made at least when there are `n` objects to sort: all of them if they are few,
and otherwise so many that their number is a power of two or a little less. -/
def leastRun (n : Nat) : Nat :=
  go n n 0
where
  go : (fuel n odd : Nat) → Nat
    | 0, n, odd => n + odd
    | fuel + 1, n, odd => if n < 64 then n + odd else go fuel (n / 2) (max odd (n % 2))

/-- The runs of a list, each of at least `least` objects except for the last one. -/
def runs (least : Nat) : (fuel : Nat) → List Object → Except Fault (List (List Object))
  | 0, _ | _, [] => .ok []
  | fuel + 1, x :: xs => do
    let (run, rest) ← takeRun (x :: xs)
    let more := least - run.length
    let run ← (rest.take more).foldlM insert run.toArray
    return run.toList :: (← runs least fuel (rest.drop more))

/-- Merges two runs; of objects that do not come before one another those of the first run come
first. The result so far is kept in reverse. -/
def merge (done : List Object) : List Object → List Object → Except Fault (List Object)
  | [], ys => .ok (done.reverse ++ ys)
  | xs, [] => .ok (done.reverse ++ xs)
  | x :: xs, y :: ys => do
    if ← before y x then merge (y :: done) (x :: xs) ys else merge (x :: done) xs (y :: ys)
termination_by xs ys => xs.length + ys.length

/-- Merges neighbouring runs. -/
def mergePairs : List (List Object) → Except Fault (List (List Object))
  | xs :: ys :: rest => do return (← merge [] xs ys) :: (← mergePairs rest)
  | rest => .ok rest

/-- Merges runs until one is left. -/
def mergeAll : (fuel : Nat) → List (List Object) → Except Fault (List Object)
  | _, [] => .ok []
  | _, [run] => .ok run
  | 0, rest => .ok rest.flatten
  | fuel + 1, rest => do mergeAll fuel (← mergePairs rest)

/-- Some objects in increasing order. -/
def sorted (xs : List Object) : Except Fault (List Object) := do
  let parts ← runs (leastRun xs.length) xs.length xs
  mergeAll parts.length parts

end Splice.Sorting
