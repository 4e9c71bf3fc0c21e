import Splice.Failure

/-!
# Segments

A template splits into segments: literal text, and blocks of code. Each remembers the piece of the
template that it was read from, because a literal may have lost escapes and a block has lost its
markers.
-/

namespace Splice

/-- A piece of a template and where it stands. -/
structure Extent where
  raw : String
  span : Span
  deriving DecidableEq, Repr, Inhabited

/-- Literal text, or the code of a block. -/
inductive Segment where
  | literal (text : String) (source : Extent)
  | block (code : String) (source : Extent)
  deriving DecidableEq, Repr, Inhabited

namespace Segment

def source : Segment → Extent
  | literal _ s => s
  | block _ s => s

/-- The text of a literal or the code of a block. -/
def content : Segment → String
  | literal t _ => t
  | block c _ => c

def isLiteral : Segment → Bool
  | literal .. => true
  | block .. => false

/-- The same segment of a text that starts `k` characters earlier. -/
def shift (k : Nat) : Segment → Segment
  | literal t s => literal t ⟨s.raw, ⟨k + s.span.start, k + s.span.stop⟩⟩
  | block c s => block c ⟨s.raw, ⟨k + s.span.start, k + s.span.stop⟩⟩

end Segment

/-- The extent of the characters `raw` that start at `start`. -/
def Extent.at (start : Nat) (raw : List Char) : Extent :=
  ⟨String.ofList raw, ⟨start, start + raw.length⟩⟩

end Splice
