import Splice.Scan

/-!
# Cursors

A cursor hands out the segments of one template, one at a time. It is the place that a scan has
reached, so advancing it is one step of the scan; after the end, or after an error, there is nothing
left and it reports the end for ever. Whoever needs all segments that are left collects them
(`Cursor.collect`), and has none if there is an error after some. Several cursors over one pair of
delimiters share nothing: a `Shelf` keeps them by name, and each command touches the cursor that it
names.
-/

namespace Splice

/-- A place in a template. -/
structure Cursor where
  position : Nat
  rest : List Char
  deriving DecidableEq, Repr, Inhabited

/-- What advancing a cursor gives. -/
inductive Advance where
  | ended
  | failed (error : ScanError)
  | segment (segment : Segment)
  deriving DecidableEq, Repr

namespace Cursor

/-- A cursor at the start of a template. -/
def start (template : String) : Cursor :=
  ⟨0, template.toList⟩

/-- The next segment, and the cursor behind it. -/
def next (d : Delimiters) (c : Cursor) : Advance × Cursor :=
  match d.step c.position c.rest with
  | .done => (.ended, ⟨c.position, []⟩)
  | .failed e => (.failed e, ⟨c.position, []⟩)
  | .segment s rest => (.segment s, ⟨s.source.span.stop.toNat, rest⟩)

/-- A segment leaves the cursor with less of the template. -/
theorem length_of_next {d : Delimiters} {c c' : Cursor} {x : Segment}
    (h : c.next d = (.segment x, c')) : c'.rest.length < c.rest.length := by
  unfold next at h
  split at h
  · cases h
  · cases h
  · rename_i hstep
    cases h
    exact Delimiters.length_of_step hstep

/-- Advances a cursor until there is nothing left, and collects the segments on the way. An error
takes the place of all of them. -/
def collect (d : Delimiters) (c : Cursor) : Except ScanError (List Segment) :=
  match _ : c.next d with
  | (.ended, _) => .ok []
  | (.failed e, _) => .error e
  | (.segment x, c') => (x :: ·) <$> collect d c'
termination_by c.rest.length
decreasing_by exact length_of_next ‹c.next d = (.segment x, c')›

end Cursor

/-- Cursors by name. -/
abbrev Shelf := List (String × Cursor)

/-- What can be asked of a shelf. -/
inductive CursorCommand where
  /-- Put a fresh cursor under this name, in place of any other. -/
  | start (name template : String)
  | next (name : String)
  deriving DecidableEq, Repr

namespace Shelf

/-- Puts a cursor under a name. -/
def put (name : String) (c : Cursor) : Shelf → Shelf
  | [] => [(name, c)]
  | (n, old) :: rest => if n = name then (n, c) :: rest else (n, old) :: put name c rest

/-- Carries out a command; starting a cursor has no answer. -/
def perform (d : Delimiters) (s : Shelf) : CursorCommand → Option Advance × Shelf
  | .start name template => (none, put name (.start template) s)
  | .next name =>
    match s.lookup name with
    | none => (some .ended, s)
    | some c =>
      let (answer, c') := c.next d
      (some answer, put name c' s)

/-- Carries out commands one after another. -/
def run (d : Delimiters) (s : Shelf) : List CursorCommand → List (Option Advance)
  | [] => []
  | c :: cs =>
    let (answer, s') := perform d s c
    answer :: run d s' cs

end Shelf

end Splice
