import Splice.Value.Display

/-!
# Tags of failures

A failure is tagged with the block it came from on its way out: a failure that concerns templates
keeps a span and the block's code, every other failure collects notes. Only the first span and the
first code are kept, while each rendering level adds a note of its own.
-/

namespace Splice.Failure

/-- The note that a rendering level leaves on a failure that does not concern templates. -/
def noteFor (raw : String) (span : Span) : String :=
  "while rendering " ++ Text.quoted raw ++ " at " ++ toString span.start ++ ":" ++
    toString span.stop

/-- Tags a failure with the block it came from. -/
def tag (code raw : String) (at_ : Span) : Failure → Failure
  | ⟨c, span, old, notes⟩ =>
    if c.kind.concernsTemplate then ⟨c, span.or (some at_), old.or (some code), notes⟩
    else ⟨c, span, old, notes ++ [noteFor raw at_]⟩

@[simp] theorem cause_tag (code raw : String) (s : Span) (f : Failure) :
    (f.tag code raw s).cause = f.cause := by
  rcases f with ⟨c, sp, old, notes⟩
  unfold tag
  by_cases h : c.kind.concernsTemplate = true <;> simp [h]

@[simp] theorem kind_tag (code raw : String) (s : Span) (f : Failure) :
    (f.tag code raw s).kind = f.kind := by
  simp [kind]

end Splice.Failure
