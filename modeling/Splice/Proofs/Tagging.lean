import Splice.Proofs.Actions
import Splice.Render

/-!
# Which failures are tagged

Rendering a block has two stages: the transform makes a value of the code, and the value is turned
into tokens. Either can fail, the second when a value refuses to be displayed or a stream fails on
the way. `Raises` follows the two stages through some segments and says where a failure first comes
up, before anything is done to it.

A failure leaves a render with the tags of its block if it came up in the transform, and as it was
if it came up in the tokens. So the tags are missing exactly where the tokens fail with something
that still needs them (`failure_tagged_iff`); they are not a property of rendering as a whole
(`not_every_failure_tagged`).
-/

open Splice.Action

namespace Splice

/-! ## Tags -/

namespace Failure

/-- The second failure is the first with the tags of a block: where it concerns templates, it has a
span and a code, those of the block unless it had others, and otherwise it has one more note. -/
def Tagged (code : String) (source : Extent) (f₀ f : Failure) : Prop :=
  f.cause = f₀.cause ∧
    if f₀.kind.concernsTemplate = true then
      f.span = some (f₀.span.getD source.span) ∧ f.code = some (f₀.code.getD code) ∧
        f.notes = f₀.notes
    else
      f.span = f₀.span ∧ f.code = f₀.code ∧
        f.notes = f₀.notes ++ [noteFor source.raw source.span]

/-- A failure that concerns templates and has a span and a code. -/
def Settled (f : Failure) : Prop :=
  f.kind.concernsTemplate = true ∧ f.span.isSome = true ∧ f.code.isSome = true

theorem tagged_tag (code : String) (source : Extent) (f : Failure) :
    f.Tagged code source (f.tag code source.raw source.span) := by
  rcases f with ⟨cause, span, old, notes⟩
  refine ⟨cause_tag .., ?_⟩
  split
  · rename_i h
    have hc : cause.kind.concernsTemplate = true := h
    rw [tag, if_pos hc]
    cases span <;> cases old <;> exact ⟨rfl, rfl, rfl⟩
  · rename_i h
    have hc : ¬ cause.kind.concernsTemplate = true := h
    rw [tag, if_neg hc]
    exact ⟨rfl, rfl, rfl⟩

/-- Only a settled failure has the tags of a block without being tagged. -/
theorem tagged_self_iff {code : String} {source : Extent} {f : Failure} :
    f.Tagged code source f ↔ f.Settled := by
  rw [Tagged, Settled]
  by_cases h : f.kind.concernsTemplate = true
  · rw [if_pos h]
    cases f.span <;> cases f.code <;> simp [h]
  · simp [h]

end Failure

namespace Renderer

variable (r : Renderer)

/-! ## Blocks -/

/-- The part of rendering a block that a failure comes up in. -/
inductive Stage where
  | transform
  | tokens
  deriving DecidableEq, Repr

/-- The code of a block becomes these tokens. -/
def Yields (code : String) (w : World) (column : List String) (w' : World) : Prop :=
  ∃ o w₁, outcome (r.transform code) w = (.ok o, w₁) ∧
    outcome (compute (o.value.tokens r.missing)) w₁ = (.ok column, w')

/-- Rendering the code of a block comes to this failure, before it is tagged. -/
inductive Fails (code : String) (w : World) : Stage → Failure → World → Prop
  | transform {f : Failure} {w' : World} (h : outcome (r.transform code) w = (.error f, w')) :
    Fails code w .transform f w'
  | tokens {o : Object} {f : Failure} {w₁ w' : World}
    (h : outcome (r.transform code) w = (.ok o, w₁))
    (htokens : outcome (compute (o.value.tokens r.missing)) w₁ = (.error f, w')) :
    Fails code w .tokens f w'

/-- What leaves a block in which a failure came up. -/
def Stage.leaving (code : String) (source : Extent) (f : Failure) : Stage → Failure
  | transform => f.tag code source.raw source.span
  | tokens => f

theorem outcome_tagged_eq_ok_iff {α : Type} {code : String} {source : Extent} {act : Action α}
    {w w' : World} {a : α} :
    outcome (tagged code source act) w = (.ok a, w') ↔ outcome act w = (.ok a, w') := by
  rw [tagged, outcome_tryCatch]
  rcases outcome act w with ⟨_ | a, w₁⟩
  · simp [outcome_throw]
  · rfl

theorem outcome_tagged_eq_error_iff {α : Type} {code : String} {source : Extent} {act : Action α}
    {w w' : World} {f : Failure} :
    outcome (tagged code source act) w = (.error f, w') ↔
      ∃ f₀, outcome act w = (.error f₀, w') ∧ f = f₀.tag code source.raw source.span := by
  rw [tagged, outcome_tryCatch]
  rcases outcome act w with ⟨f₀ | a, w₁⟩
  · simp only [outcome_throw, Prod.mk.injEq, Except.error.injEq]
    constructor
    · rintro ⟨rfl, rfl⟩
      exact ⟨f₀, ⟨rfl, rfl⟩, rfl⟩
    · rintro ⟨_, ⟨rfl, rfl⟩, rfl⟩
      exact ⟨rfl, rfl⟩
  · simp

theorem outcome_tokens_eq_ok_iff {code : String} {source : Extent} {w w' : World}
    {column : List String} :
    outcome (r.tokens code source) w = (.ok column, w') ↔ r.Yields code w column w' := by
  simp only [tokens, outcome_bind_eq_ok_iff, outcome_tagged_eq_ok_iff, Yields]

/-- A block fails as one of its stages does; the transform's failures are tagged. -/
theorem outcome_tokens_eq_error_iff {code : String} {source : Extent} {w w' : World} {f : Failure} :
    outcome (r.tokens code source) w = (.error f, w') ↔
      ∃ stage f₀, r.Fails code w stage f₀ w' ∧ f = stage.leaving code source f₀ := by
  rw [tokens, outcome_bind_eq_error_iff, outcome_tagged_eq_error_iff]
  constructor
  · rintro (⟨f₀, h, rfl⟩ | ⟨o, w₁, h, htokens⟩)
    · exact ⟨.transform, f₀, .transform h, rfl⟩
    · exact ⟨.tokens, f, .tokens (outcome_tagged_eq_ok_iff.mp h) htokens, rfl⟩
  · rintro ⟨stage, f₀, h | ⟨h, htokens⟩, rfl⟩
    · exact .inl ⟨f₀, h, rfl⟩
    · exact .inr ⟨_, _, outcome_tagged_eq_ok_iff.mpr h, htokens⟩

/-! ## Segments -/

/-- Going through some segments comes to this failure at this block, before it is tagged: literals
and the blocks before it are rendered, and it is not. -/
inductive Raises : List Segment → World → String → Extent → Stage → Failure → World → Prop
  | here {code : String} {source : Extent} {rest : List Segment} {w w' : World} {stage : Stage}
    {f : Failure} (h : r.Fails code w stage f w') :
    Raises (.block code source :: rest) w code source stage f w'
  | literal {t : String} {s : Extent} {rest : List Segment} {w w' : World} {code : String}
    {source : Extent} {stage : Stage} {f : Failure} (h : Raises rest w code source stage f w') :
    Raises (.literal t s :: rest) w code source stage f w'
  | block {c : String} {s : Extent} {rest : List Segment} {w w₁ w' : World} {column : List String}
    {code : String} {source : Extent} {stage : Stage} {f : Failure} (hc : r.Yields c w column w₁)
    (h : Raises rest w₁ code source stage f w') :
    Raises (.block c s :: rest) w code source stage f w'

theorem outcome_columns_eq_error_iff {segs : List Segment} {w w' : World} {f : Failure} :
    outcome (r.columns segs) w = (.error f, w') ↔
      ∃ code source stage f₀, r.Raises segs w code source stage f₀ w' ∧
        f = stage.leaving code source f₀ := by
  induction segs generalizing w with
  | nil =>
    rw [columns, outcome_pure]
    constructor
    · intro h
      cases h
    · rintro ⟨code, source, stage, f₀, h, -⟩
      cases h
  | cons x rest ih =>
    cases x with
    | literal t s =>
      rw [columns, outcome_bind_eq_error_iff, ih]
      constructor
      · rintro (⟨code, source, stage, f₀, h, rfl⟩ | ⟨columns, w₁, -, h⟩)
        · exact ⟨code, source, stage, f₀, .literal h, rfl⟩
        · cases h
      · rintro ⟨code, source, stage, f₀, h | h | _, rfl⟩
        exact .inl ⟨code, source, stage, f₀, h, rfl⟩
    | block c s =>
      rw [columns, outcome_bind_eq_error_iff, outcome_tokens_eq_error_iff]
      simp only [outcome_tokens_eq_ok_iff, outcome_bind_eq_error_iff, ih]
      constructor
      · rintro (⟨stage, f₀, h, rfl⟩ |
          ⟨column, w₁, hc, ⟨code, source, stage, f₀, h, rfl⟩ | ⟨columns, w₂, -, h⟩⟩)
        · exact ⟨c, s, stage, f₀, .here h, rfl⟩
        · exact ⟨code, source, stage, f₀, .block hc h, rfl⟩
        · cases h
      · rintro ⟨code, source, stage, f₀, h | _ | ⟨hc, h⟩, rfl⟩
        · exact .inl ⟨stage, f₀, h, rfl⟩
        · exact .inr ⟨_, _, hc, .inl ⟨code, source, stage, f₀, h, rfl⟩⟩

/-- The texts of segments are their columns, joined by the separator. -/
theorem texts_eq (segs : List Segment) :
    r.texts segs = List.map r.separator.intercalate <$> r.columns segs := by
  induction segs with
  | nil => simp [texts, columns]
  | cons x rest ih =>
    cases x with
    | literal t s => simp [texts, columns, ih]
    | block c s => simp [texts, columns, ih]

/-! ## Renders -/

/-- The world in which a renderer goes through segments: it has announced them in the log. -/
def started (segs : List Segment) (manner : String) (w : World) : World :=
  w.noting .rendering ("Rendering " ++ toString segs.length ++ manner)

/-- Rendering to one text fails as going through the segments does. -/
theorem outcome_render_eq_error_iff {segs : List Segment} {w w' : World} {f : Failure} :
    outcome (r.render segs) w = (.error f, w') ↔
      ∃ code source stage f₀,
        r.Raises segs (started segs " segments" w) code source stage f₀ w' ∧
          f = stage.leaving code source f₀ := by
  rw [render, outcome_bind, outcome_note]
  change outcome (String.join <$> r.texts segs) _ = _ ↔ _
  rw [outcome_map_eq_error_iff, texts_eq, outcome_map_eq_error_iff, outcome_columns_eq_error_iff]
  rfl

/-- Rendering to lines fails as going through the segments does, or because the columns do not
combine. -/
theorem outcome_renderLines_eq_error_iff {segs : List Segment} {w w' : World} {f : Failure} :
    outcome (r.renderLines segs) w = (.error f, w') ↔
      (∃ code source stage f₀,
        r.Raises segs (started segs " segments as lines" w) code source stage f₀ w' ∧
          f = stage.leaving code source f₀) ∨
      ∃ columns refusal,
        outcome (r.columns segs) (started segs " segments as lines" w) = (.ok columns, w') ∧
          Recycling.lines r.policy columns = .error refusal ∧ f = .ofRefusal refusal := by
  rw [renderLines, outcome_bind, outcome_note]
  change outcome (r.columns segs >>= _) (started segs " segments as lines" w) = _ ↔ _
  rw [outcome_bind_eq_error_iff, outcome_columns_eq_error_iff]
  refine or_congr Iff.rfl ?_
  constructor
  · rintro ⟨columns, w₁, hcolumns, h⟩
    cases hlines : Recycling.lines r.policy columns with
    | ok lines =>
      rw [hlines, outcome_pure] at h
      cases h
    | error refusal =>
      rw [hlines, outcome_throw] at h
      cases h
      exact ⟨columns, refusal, hcolumns, hlines, rfl⟩
  · rintro ⟨columns, refusal, hcolumns, hlines, rfl⟩
    refine ⟨columns, w', hcolumns, ?_⟩
    rw [hlines, outcome_throw]

/-- What leaves a block has its tags if it came up in the transform or needs none. -/
theorem Stage.tagged_leaving_iff {code : String} {source : Extent} {f : Failure} {stage : Stage} :
    f.Tagged code source (stage.leaving code source f) ↔ stage = .transform ∨ f.Settled := by
  cases stage with
  | transform => simp [leaving, Failure.tagged_tag]
  | tokens => simp [leaving, Failure.tagged_self_iff]

/-- A failure that comes up while segments are rendered, to one text or to lines, leaves with the
tags of its block if and only if it came up in the transform or needs no tags; from the tokens it
leaves as it is. Nothing else makes a render fail, except that columns may not combine. -/
theorem failure_tagged_iff (segs : List Segment) (w : World) :
    (∀ code source stage f₀ w',
      r.Raises segs (started segs " segments" w) code source stage f₀ w' →
        ∃ f, outcome (r.render segs) w = (.error f, w') ∧
          (f₀.Tagged code source f ↔ stage = .transform ∨ f₀.Settled) ∧
          (stage = .tokens → f = f₀)) ∧
    (∀ code source stage f₀ w',
      r.Raises segs (started segs " segments as lines" w) code source stage f₀ w' →
        ∃ f, outcome (r.renderLines segs) w = (.error f, w') ∧
          (f₀.Tagged code source f ↔ stage = .transform ∨ f₀.Settled) ∧
          (stage = .tokens → f = f₀)) ∧
    (∀ f w', outcome (r.render segs) w = (.error f, w') →
      ∃ code source stage f₀,
        r.Raises segs (started segs " segments" w) code source stage f₀ w') ∧
    ∀ f w', outcome (r.renderLines segs) w = (.error f, w') →
      (∃ code source stage f₀,
        r.Raises segs (started segs " segments as lines" w) code source stage f₀ w') ∨
      ∃ columns refusal,
        outcome (r.columns segs) (started segs " segments as lines" w) = (.ok columns, w') ∧
          Recycling.lines r.policy columns = .error refusal ∧ f = .ofRefusal refusal := by
  refine ⟨fun code source stage f₀ w' h => ?_, fun code source stage f₀ w' h => ?_,
    fun f w' h => ?_, fun f w' h => ?_⟩
  · refine ⟨stage.leaving code source f₀, ?_, Stage.tagged_leaving_iff, ?_⟩
    · exact r.outcome_render_eq_error_iff.mpr ⟨code, source, stage, f₀, h, rfl⟩
    · rintro rfl
      rfl
  · refine ⟨stage.leaving code source f₀, ?_, Stage.tagged_leaving_iff, ?_⟩
    · exact r.outcome_renderLines_eq_error_iff.mpr (.inl ⟨code, source, stage, f₀, h, rfl⟩)
    · rintro rfl
      rfl
  · obtain ⟨code, source, stage, f₀, hraises, -⟩ := r.outcome_render_eq_error_iff.mp h
    exact ⟨code, source, stage, f₀, hraises⟩
  · rcases r.outcome_renderLines_eq_error_iff.mp h with ⟨code, source, stage, f₀, hraises, -⟩ | h
    · exact .inl ⟨code, source, stage, f₀, hraises⟩
    · exact .inr h

/-- The renderer that looks the code of a block up as a name. -/
def byName : Renderer where
  transform := Action.lookup

/-- A world in which nothing has happened, with these names. -/
def named (vars : Bindings) : World :=
  .new (.chain vars []) .empty

/-- Behind a literal and a block that renders, a name that nothing has fails in the transform. -/
theorem unknown_name_tagged :
    ∃ f, outcome
        (byName.renderLines
          [.literal "a" ⟨"a", ⟨0, 1⟩⟩, .block "y" ⟨"<y>", ⟨1, 4⟩⟩, .block "x" ⟨"<x>", ⟨4, 7⟩⟩])
        (named [("y", .new (.text "b"))]) =
          (.error f, (named [("y", .new (.text "b"))]).noting .rendering
            "Rendering 3 segments as lines") ∧
      (Failure.missingKey (.new (.text "x"))).Tagged "x" ⟨"<x>", ⟨4, 7⟩⟩ f := by
  obtain ⟨f, hf, htagged, -⟩ :=
    (byName.failure_tagged_iff
      [.literal "a" ⟨"a", ⟨0, 1⟩⟩, .block "y" ⟨"<y>", ⟨1, 4⟩⟩, .block "x" ⟨"<x>", ⟨4, 7⟩⟩]
      (named [("y", .new (.text "b"))])).2.1 "x" ⟨"<x>", ⟨4, 7⟩⟩ .transform _ _
      (.literal (.block ⟨_, _, rfl, rfl⟩ (.here (.transform rfl))))
  exact ⟨f, hf, htagged.mpr (.inl rfl)⟩

/-- A value that refuses to be displayed fails in the tokens of its block, and that failure leaves
the render without a note. -/
theorem not_every_failure_tagged :
    ¬ ∀ (r : Renderer) (segs : List Segment) (w : World) (code : String) (source : Extent)
        (stage : Stage) (f₀ : Failure) (w' : World),
      r.Raises segs (started segs " segments" w) code source stage f₀ w' →
        ∃ f, outcome (r.render segs) w = (.error f, w') ∧ f₀.Tagged code source f := by
  intro hall
  obtain ⟨f, hf, htagged⟩ :=
    hall byName [.block "x" ⟨"<x>", ⟨0, 3⟩⟩]
      (named [("x", .new (.mute (.of (.raised ⟨.valueError, rfl⟩ "boom"))))]) "x" ⟨"<x>", ⟨0, 3⟩⟩
      .tokens _ _ (.here (.tokens rfl rfl))
  have hleft : f = .of (.raised ⟨.valueError, rfl⟩ "boom") :=
    (Except.error.inj (congrArg Prod.fst hf)).symm
  rw [hleft] at htagged
  exact absurd (Failure.tagged_self_iff.mp htagged).1 (by decide)

end Renderer

end Splice
