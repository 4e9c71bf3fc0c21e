import Splice.Proofs.Tagging
import Splice.Splicer

/-!
# What rendering is made of

Apart from evaluating code, rendering does a few things only: it looks names up, makes tokens, holds
failures, writes to the log, records codes, enters an environment, and fails. Everything else is how
these are put together (`Assembled`). So whatever is true of evaluations and of these parts, and
stays true when actions are put together, is true of hooks, renderers and splicers.
-/

open Splice.Action

namespace Splice

/-- An action that is put together from evaluations, about which `E` is known, and from what
rendering does besides. -/
inductive Action.Assembled (E : Action Object → Prop) : {α : Type} → Action α → Prop
  | evaluation {act : Action Object} (h : E act) : Assembled E act
  | pure {α : Type} (a : α) : Assembled E (Pure.pure a : Action α)
  | throw {α : Type} (f : Failure) : Assembled E (throw f : Action α)
  | tokens (v : Value) (na : String) : Assembled E (compute (v.tokens na))
  | held (o : Object) : Assembled E (compute (Compute.held o))
  | note (topic : Topic) (text : String) : Assembled E (note topic text)
  | recordCall (code : String) : Assembled E (recordCall code)
  | lookup (name : String) : Assembled E (lookup name)
  | bind {α β : Type} {act : Action α} {next : α → Action β} (hact : Assembled E act)
    (hnext : ∀ a, Assembled E (next a)) : Assembled E (act >>= next)
  | tryCatch {α : Type} {act : Action α} {handle : Failure → Action α} (hact : Assembled E act)
    (hhandle : ∀ f, Assembled E (handle f)) : Assembled E (MonadExcept.tryCatch act handle)
  | within {α : Type} {act : Action α} (maps : List Bindings) (hact : Assembled E act) :
    Assembled E (within maps act)

variable {E : Action Object → Prop}

/-! ## Renderers -/

namespace Renderer

variable {r : Renderer} (h : ∀ code, (r.transform code).Assembled E)
include h

theorem assembled_tokens (code : String) (source : Extent) : (r.tokens code source).Assembled E :=
  .bind (.tryCatch (h code) fun _ => .throw _) fun _ => .tokens ..

theorem assembled_columns (segs : List Segment) : (r.columns segs).Assembled E := by
  induction segs with
  | nil => exact .pure []
  | cons seg segs ih =>
    cases seg with
    | literal => exact .bind ih fun _ => .pure _
    | block code source =>
      exact .bind (assembled_tokens h code source) fun _ => .bind ih fun _ => .pure _

theorem assembled_render (segs : List Segment) : (r.render segs).Assembled E := by
  rw [render, texts_eq]
  refine .bind (.note ..) fun _ => .bind ?_ fun _ => .pure _
  rw [map_eq_pure_bind]
  exact .bind (assembled_columns h segs) fun _ => .pure _

theorem assembled_renderLines (segs : List Segment) : (r.renderLines segs).Assembled E := by
  refine .bind (.note ..) fun _ => .bind (assembled_columns h segs) fun columns => ?_
  split
  · exact .pure _
  · exact .throw _

end Renderer

namespace Settings

theorem assembled_segments (s : Settings) (template : String) :
    (s.segments template).Assembled E := by
  refine .bind ?_ fun _ => .bind (.note ..) fun _ => .pure _
  rw [Delimiters.segments]
  split
  · exact .pure _
  · exact .throw _

variable (s : Settings) {t : Transform} (h : ∀ code, (t code).Assembled E) (template : String)
include h

theorem assembled_render : (s.render t template).Assembled E :=
  .bind (s.assembled_segments template) fun segs =>
    Renderer.assembled_render (r := s.renderer t) h segs

theorem assembled_renderLines : (s.renderLines t template).Assembled E :=
  .bind (s.assembled_segments template) fun segs =>
    Renderer.assembled_renderLines (r := s.renderer t) h segs

end Settings

/-! ## Hooks -/

namespace Hook

/-- The evaluator that the code of a block gets to in the end. -/
def evaluator : Hook → Evaluator
  | plain e | collapsing _ _ _ _ e | recovering _ e => e
  | nested _ inner => inner.evaluator

section

variable {e : Evaluator} (h : ∀ code, E (e.evaluate code))
include h

theorem assembled_runCollapsing (mark : Pattern) (separator last missing code : String) :
    (runCollapsing mark separator last missing e code).Assembled E := by
  rw [runCollapsing]
  split
  · exact .evaluation (h code)
  · exact .bind (.evaluation (h _)) fun _ => .bind (.tokens ..) fun _ => .pure _

theorem assembled_recover (fallback : Fallback) (code : String) (f reason : Failure) :
    (recover fallback e code f reason).Assembled E := by
  refine .bind (.note ..) fun _ => ?_
  cases fallback with
  | value v => exact .pure _
  | computation expr =>
    refine .bind (.bind (.held _) fun _ => .pure _) fun bindings =>
      .tryCatch (.within _ (.evaluation (h expr))) fun second => ?_
    split
    · exact .throw _
    · exact .throw _

theorem assembled_runRecovering (fallback : Fallback) (code : String) :
    (runRecovering fallback e code).Assembled E := by
  refine .tryCatch (.evaluation (h code)) fun f => ?_
  split
  · exact assembled_recover h ..
  · exact .throw _

end

/-- What a hook makes of a code is put together from evaluations. -/
theorem assembled_run {hook : Hook} (h : ∀ code, E (hook.evaluator.evaluate code)) (code : String) :
    (hook.run code).Assembled E := by
  induction hook generalizing code with
  | plain e => exact .evaluation (h code)
  | collapsing mark separator last missing e => exact assembled_runCollapsing h ..
  | recovering fallback e => exact assembled_runRecovering h ..
  | nested s inner ih =>
    refine .bind (.recordCall code) fun _ => .bind (.lookup code) fun o => ?_
    split
    · exact .bind (s.assembled_render (ih h) _) fun _ => .pure _
    · exact .throw _

end Hook

/-! ## Splicers -/

namespace Splicer

variable {s : Splicer} (h : ∀ code, E (s.hook.evaluator.evaluate code)) (template : String)
include h

theorem assembled_render : (s.render template).Assembled E :=
  s.settings.assembled_render (Hook.assembled_run h) template

theorem assembled_renderLines : (s.renderLines template).Assembled E :=
  s.settings.assembled_renderLines (Hook.assembled_run h) template

end Splicer

end Splice
