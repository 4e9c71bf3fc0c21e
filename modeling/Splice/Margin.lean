import Splice.Segment
import Splice.Text.Blank

/-!
# Trimming the margin of a template

A template is often written indented, on lines of its own. Trimming takes that layout off the
literal text and leaves the blocks alone.

First the two edges. Indentation in front of the first line goes, and with it the line break if the
line is then empty; indentation behind the last line goes, and the line break in front of it if that
line is then empty. Then the margin: the least indentation of the lines that begin in literal text
and hold anything but indentation is taken off every line that begins there. The first line has no
margin unless the edge took a line break away.

A literal is worked on as its lines. Whether a line that shows nothing but indentation is blank is
decided by what ends it: a line break does, and so does the end of the template, but a block does
not.
-/

namespace Splice

namespace Margin

open Text

/-- The lines of a text, without their line breaks; there is always at least one. -/
def splitLines : List Char → List (List Char)
  | [] => [[]]
  | c :: cs =>
    if c = '\n' then [] :: splitLines cs
    else
      match splitLines cs with
      | [] => [[c]]
      | l :: ls => (c :: l) :: ls

/-- The text with these lines. -/
def joinLines : List (List Char) → List Char
  | [] => []
  | [l] => l
  | l :: ls => l ++ '\n' :: joinLines ls

/-- Takes the indentation of the first line away, and the line if nothing is left of it. The second
component says that the line went. -/
def trimStart (text : List Char) : List Char × Bool :=
  match text.dropWhile isIndent with
  | '\n' :: rest => (rest, true)
  | rest => (rest, false)

/-- Takes the indentation behind the last line away, and the line if nothing is left of it. -/
def trimEnd (text : List Char) : List Char :=
  let kept := dropEndWhile isIndent text
  if kept.getLast? = some '\n' then kept.dropLast else kept

/-- A literal after the edges are trimmed: its text, whether its first line has a margin, and
whether the template ends with it. -/
structure Piece where
  text : List Char
  fresh : Bool
  final : Bool
  deriving DecidableEq, Repr

/-- Trims the edges of the text at index `i` of `n` segments. -/
def piece (i n : Nat) (text : List Char) : Piece :=
  let (front, fresh) := if i = 0 then trimStart text else (text, false)
  let final := i + 1 == n
  ⟨if final then trimEnd front else front, fresh, final⟩

/-- How far a line is indented. -/
def indentOf (line : List Char) : Nat :=
  (line.takeWhile isIndent).length

/-- The lines of a piece that have a margin: all but the first, and the first if it is fresh. -/
def Piece.marginLines (p : Piece) : List (List Char) :=
  if p.fresh then splitLines p.text else (splitLines p.text).tail

/-- The indentations that count for the margin. A line of indentation alone counts only where a
block ends it, which is on the last line of a literal that does not end the template. -/
def indents (final : Bool) : List (List Char) → List Nat
  | [] => []
  | [l] => if final && l.all isIndent then [] else [indentOf l]
  | l :: ls => if l.all isIndent then indents final ls else indentOf l :: indents final ls

/-- The least of some numbers. -/
def least : List Nat → Option Nat
  | [] => none
  | n :: ns =>
    match least ns with
    | none => some n
    | some m => some (min n m)

/-- Takes at most `margin` characters of indentation off a line. -/
def dedentLine (margin : Nat) (line : List Char) : List Char :=
  line.drop (min margin (indentOf line))

/-- The text of a piece without its margin. -/
def Piece.dedent (margin : Nat) (p : Piece) : List Char :=
  match splitLines p.text with
  | [] => []
  | l :: ls =>
    joinLines ((if p.fresh then dedentLine margin l else l) :: ls.map (dedentLine margin))

/-- The pieces of the literals among some segments, the first of which has index `i` of `n`. -/
def pieces (n : Nat) : (i : Nat) → List Segment → List Piece
  | _, [] => []
  | i, .literal t _ :: rest => piece i n t.toList :: pieces n (i + 1) rest
  | i, .block .. :: rest => pieces n (i + 1) rest

/-- Puts the trimmed literals back; those that became empty are left out. -/
def rebuild (margin n : Nat) : (i : Nat) → List Segment → List Segment
  | _, [] => []
  | i, .literal t s :: rest =>
    match (piece i n t.toList).dedent margin with
    | [] => rebuild margin n (i + 1) rest
    | text => .literal (String.ofList text) s :: rebuild margin n (i + 1) rest
  | i, .block c s :: rest => .block c s :: rebuild margin n (i + 1) rest

/-- The margin of some segments. -/
def margin (segments : List Segment) : Nat :=
  let n := segments.length
  (least ((pieces n 0 segments).flatMap fun p => indents p.final p.marginLines)).getD 0

/-- The segments of a template without the layout around it. -/
def trim (segments : List Segment) : List Segment :=
  rebuild (margin segments) segments.length 0 segments

end Margin

end Splice
