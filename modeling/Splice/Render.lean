import Splice.Cursor
import Splice.Draw
import Splice.Recycling
import Splice.World

/-!
# Rendering segments

A renderer turns segments into text. Literals stand for themselves; the code of a block goes through
a transform, and the value that comes back becomes tokens. Blocks are transformed one at a time in
the order of the template, so what one of them assigns is visible to those after it.

`Renderer.render` joins the tokens of each block and everything into one text.
`Renderer.renderLines` takes the tokens of a block as a column and reads lines across the columns.
Both render the segments that they are given, or (`renderFrom`, `renderLinesFrom`) all those that a
cursor has left.

A failure of the transform is tagged with the block. Turning the value into tokens happens after the
transform has returned and is not part of it.
-/

namespace Splice

/-- How code becomes a value. -/
abbrev Transform := String → Action Object

/-- The marker for missing values unless another is asked for. -/
def standardMissing : String :=
  "NA"

/-- A transform, and how its values are laid out. -/
structure Renderer where
  transform : Transform
  /-- What joins the tokens of one block. -/
  separator : String := ""
  /-- What missing values show as. -/
  missing : String := standardMissing
  /-- How columns of different lengths combine. -/
  policy : Recycling.Policy := .cycle

namespace Renderer

/-- Does something for a block; a failure is tagged with the block. -/
def tagged {α : Type} (code : String) (source : Extent) (act : Action α) : Action α :=
  tryCatch act fun f => throw (f.tag code source.raw source.span)

/-- The tokens of a block. -/
def tokens (r : Renderer) (code : String) (source : Extent) : Action (List String) := do
  let o ← tagged code source (r.transform code)
  Action.compute (o.value.tokens r.missing)

/-- The texts of the segments, one for each. -/
def texts (r : Renderer) : List Segment → Action (List String)
  | [] => return []
  | .literal t _ :: rest => do
    return t :: (← texts r rest)
  | .block code source :: rest => do
    let parts ← r.tokens code source
    return r.separator.intercalate parts :: (← texts r rest)

/-- The columns of the segments, one for each. -/
def columns (r : Renderer) : List Segment → Action (List (List String))
  | [] => return []
  | .literal t _ :: rest => do
    return [t] :: (← columns r rest)
  | .block code source :: rest => do
    let column ← r.tokens code source
    return column :: (← columns r rest)

/-- Renders segments to one text. -/
def render (r : Renderer) (segments : List Segment) : Action String := do
  Action.note .rendering ("Rendering " ++ toString segments.length ++ " segments")
  return String.join (← r.texts segments)

/-- Renders segments to lines. -/
def renderLines (r : Renderer) (segments : List Segment) : Action (List String) := do
  Action.note .rendering ("Rendering " ++ toString segments.length ++ " segments as lines")
  let columns ← r.columns segments
  match Recycling.lines r.policy columns with
  | .ok lines => return lines
  | .error refusal => throw (.ofRefusal refusal)

end Renderer

/-- The segments that a cursor has left, or the failure of the scan. -/
def Cursor.segments (d : Delimiters) (c : Cursor) : Action (List Segment) :=
  match c.collect d with
  | .ok segments => return segments
  | .error e => throw (.ofScan e)

namespace Renderer

/-- Renders what a cursor has left to one text. The segments are collected before the first of them
is looked at. -/
def renderFrom (r : Renderer) (d : Delimiters) (c : Cursor) : Action String := do
  r.render (← c.segments d)

/-- Renders what a cursor has left to lines. -/
def renderLinesFrom (r : Renderer) (d : Delimiters) (c : Cursor) : Action (List String) := do
  r.renderLines (← c.segments d)

end Renderer

/-- The segments of a template, or the failure of the scan. Nothing is rendered unless the whole
template scans. -/
def Delimiters.segments (d : Delimiters) (template : String) : Action (List Segment) :=
  match (d.scan template).result with
  | .ok segments => return segments
  | .error e => throw (.ofScan e)

end Splice
