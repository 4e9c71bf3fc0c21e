import Splice.Proofs.Templates

/-!
# Failures from deep inside

A block may name a template, whose blocks may name templates again. So when a transform fails, a
number of blocks are being transformed, each inside the one before it, and the failure passes
through the renders of all of them on its way out. `Descends` says how a rendering gets to such a
place: past what is rendered before a block, and into the template that a block names.

Each render tags the failure, but a failure that concerns templates keeps the first span and the
first code that it gets, which are those of the innermost block, while every other failure collects
a note from each render (`nested_failure_tags`). A template that does not scan fails before any of
its blocks: the block that names it is the innermost one, and if no block names it, there is none.
-/

open Splice.Action

namespace Splice

/-! ## Tags of several blocks -/

namespace Failure

/-- A failure that has passed through the renders that were transforming some blocks, the outermost
of them first. -/
def passing (blocks : List (String × Extent)) (f : Failure) : Failure :=
  blocks.foldr (fun (code, source) f => f.tag code source.raw source.span) f

/-- The first failure came up in the transform of a block, while the blocks `outer` were being
transformed around it, the outermost first; the second is what has become of it outside of them all.
If it concerns templates, it has the span and the code of the innermost block, unless it had others,
and no new notes. If not, there is a note about each block, the innermost first. -/
def TaggedThrough (outer : List (String × Extent)) (code : String) (source : Extent)
    (f₀ f : Failure) : Prop :=
  f.cause = f₀.cause ∧
    if f₀.kind.concernsTemplate = true then
      f.span = some (f₀.span.getD source.span) ∧ f.code = some (f₀.code.getD code) ∧
        f.notes = f₀.notes
    else
      f.message = f₀.message ∧ f.span = f₀.span ∧ f.code = f₀.code ∧
        f.notes = f₀.notes ++ noteFor source.raw source.span ::
          outer.reverse.map fun b => noteFor b.2.raw b.2.span

/-- What a failure that does not concern templates says depends on its cause alone. -/
theorem message_eq_of_cause_eq {f f₀ : Failure} (h : f.cause = f₀.cause)
    (hkind : ¬ f₀.kind.concernsTemplate = true) : f.message = f₀.message := by
  rcases f with ⟨c, span, code, notes⟩
  rcases f₀ with ⟨c₀, span₀, code₀, notes₀⟩
  obtain rfl : c = c₀ := h
  have hc : ¬ c.kind.concernsTemplate = true := hkind
  simp [message, isReported, text, hc]

/-- Passing through one more render, outside of the others, is being tagged once more. -/
theorem taggedThrough_tag {outer : List (String × Extent)} {code c : String}
    {source e : Extent} {f₀ f : Failure} (h : f₀.TaggedThrough outer code source f) :
    f₀.TaggedThrough ((c, e) :: outer) code source (f.tag c e.raw e.span) := by
  obtain ⟨hcause, h⟩ := h
  obtain ⟨hcause', h'⟩ := tagged_tag c e f
  have hkind : f.kind = f₀.kind := congrArg Cause.kind hcause
  refine ⟨hcause'.trans hcause, ?_⟩
  rw [hkind] at h'
  split
  · rename_i hc
    rw [if_pos hc] at h h'
    obtain ⟨hspan, hcode, hnotes⟩ := h
    obtain ⟨hspan', hcode', hnotes'⟩ := h'
    exact ⟨by rw [hspan', hspan]; rfl, by rw [hcode', hcode]; rfl, hnotes'.trans hnotes⟩
  · rename_i hc
    rw [if_neg hc] at h h'
    obtain ⟨-, hspan, hcode, hnotes⟩ := h
    obtain ⟨hspan', hcode', hnotes'⟩ := h'
    refine ⟨message_eq_of_cause_eq (hcause'.trans hcause) hc, hspan'.trans hspan,
      hcode'.trans hcode, ?_⟩
    rw [hnotes', hnotes, List.reverse_cons, List.map_append]
    simp

/-- A failure that has passed through several renders is tagged through them. -/
theorem taggedThrough_passing (outer : List (String × Extent)) (code : String) (source : Extent)
    (f : Failure) : f.TaggedThrough outer code source (f.passing (outer ++ [(code, source)])) := by
  induction outer with
  | nil =>
    obtain ⟨hcause, h⟩ := f.tagged_tag code source
    refine ⟨hcause, ?_⟩
    split
    · rename_i hc
      rwa [if_pos hc] at h
    · rename_i hc
      rw [if_neg hc] at h
      exact ⟨message_eq_of_cause_eq hcause hc, h⟩
  | cons b outer ih => exact taggedThrough_tag ih

end Failure

/-! ## Getting to a block -/

/-- Going through some segments with a hook, the transform of a hook is called for the code of a
block in this world, while the blocks `outer` are being transformed around it, the outermost first.
The outermost of all these blocks is one of the segments. Every other one belongs to the template
that the code of the block around it names, and is transformed by the hook inside. -/
inductive Hook.Descends : Hook → Settings → List Segment → World → List (String × Extent) →
    String → Extent → Hook → World → Prop
  | here {hook : Hook} {s : Settings} {code : String} {source : Extent} {rest : List Segment}
    {w : World} : Descends hook s (.block code source :: rest) w [] code source hook w
  | inside {s s' : Settings} {inner hook : Hook} {c code template : String} {e source : Extent}
    {rest segs : List Segment} {w w' : World} {outer : List (String × Extent)} {o : Object}
    (hname : w.env.get? c = some o) (htemplate : templateOf o.value = .ok template)
    (hpieces : s'.pieces template = .ok segs)
    (h : Descends inner s' segs (Renderer.started segs " segments" (s'.scanned segs (w.asking c)))
      outer code source hook w') :
    Descends (nested s' inner) s (.block c e :: rest) w ((c, e) :: outer) code source hook w'
  | literal {hook hook' : Hook} {s : Settings} {t code : String} {e source : Extent}
    {rest : List Segment} {w w' : World} {outer : List (String × Extent)}
    (h : Descends hook s rest w outer code source hook' w') :
    Descends hook s (.literal t e :: rest) w outer code source hook' w'
  | block {hook hook' : Hook} {s : Settings} {c code : String} {e source : Extent}
    {rest : List Segment} {w w₁ w' : World} {column : List String}
    {outer : List (String × Extent)} (hc : (s.renderer hook.run).Yields c w column w₁)
    (h : Descends hook s rest w₁ outer code source hook' w') :
    Descends hook s (.block c e :: rest) w outer code source hook' w'

namespace Hook.Descends

variable {hook hook' : Hook} {s : Settings} {segs : List Segment} {w w₁ w' : World}
  {outer : List (String × Extent)} {code : String} {source : Extent} {f : Failure}

/-- A failure of the transform that was got to comes up in the transform for the outermost block,
where it has passed through the renders inside that. -/
theorem raises (h : hook.Descends s segs w outer code source hook' w₁)
    (hfails : outcome (hook'.run code) w₁ = (.error f, w')) :
    ∃ c e f₀, (s.renderer hook.run).Raises segs w c e .transform f₀ w' ∧
      f.passing (outer ++ [(code, source)]) = f₀.tag c e.raw e.span := by
  induction h with
  | here => exact ⟨_, _, f, .here (.transform hfails), rfl⟩
  | @inside s s' inner hook c code template e source rest segs w w₁ outer o hname htemplate hpieces
      _ ih =>
    obtain ⟨c', e', f₀, hraises, hf₀⟩ := ih hfails
    -- the render inside fails with the tags of its own block, and so does the transform around it
    have hrender : outcome (s'.render inner.run template) (w.asking c) =
        (.error (f.passing (outer ++ [(code, source)])), w') := by
      rw [s'.outcome_render_of_ok hpieces, hf₀]
      exact Renderer.outcome_render_eq_error_iff _ |>.mpr ⟨c', e', .transform, f₀, hraises, rfl⟩
    have hrun : outcome ((nested s' inner).run c) w =
        (.error (f.passing (outer ++ [(code, source)])), w') := by
      rw [outcome_run_nested hname htemplate, outcome_map_eq_error_iff, hrender]
    exact ⟨c, e, _, .here (.transform hrun), rfl⟩
  | literal _ ih =>
    obtain ⟨c, e, f₀, hraises, hf₀⟩ := ih hfails
    exact ⟨c, e, f₀, .literal hraises, hf₀⟩
  | block hc _ ih =>
    obtain ⟨c, e, f₀, hraises, hf₀⟩ := ih hfails
    exact ⟨c, e, f₀, .block hc hraises, hf₀⟩

/-- A failure of the transform that was got to leaves the outermost render, to one text, after it
has passed through all renders. -/
theorem outcome_render {w₀ : World}
    (h : hook.Descends s segs (Renderer.started segs " segments" w₀) outer code source hook' w₁)
    (hfails : outcome (hook'.run code) w₁ = (.error f, w')) :
    outcome ((s.renderer hook.run).render segs) w₀ =
      (.error (f.passing (outer ++ [(code, source)])), w') := by
  obtain ⟨c, e, f₀, hraises, hf₀⟩ := h.raises hfails
  rw [hf₀]
  exact Renderer.outcome_render_eq_error_iff _ |>.mpr ⟨c, e, .transform, f₀, hraises, rfl⟩

/-- The same to lines. -/
theorem outcome_renderLines {w₀ : World}
    (h : hook.Descends s segs (Renderer.started segs " segments as lines" w₀) outer code source
      hook' w₁) (hfails : outcome (hook'.run code) w₁ = (.error f, w')) :
    outcome ((s.renderer hook.run).renderLines segs) w₀ =
      (.error (f.passing (outer ++ [(code, source)])), w') := by
  obtain ⟨c, e, f₀, hraises, hf₀⟩ := h.raises hfails
  rw [hf₀]
  exact Renderer.outcome_renderLines_eq_error_iff _ |>.mpr
    (.inl ⟨c, e, .transform, f₀, hraises, rfl⟩)

end Hook.Descends

/-! ## What leaves the outermost render -/

/-- What rendering comes to when the transform of a hook has been called for the code of a block in
the world `w₁`, with the blocks `outer` being transformed around it. If the transform fails, so does
the rendering, with the failure tagged through all blocks. If it is to render a template that does
not scan, the error of the scan leaves with the span and the code of the block. -/
structure Action.PassesOn {α : Type} (act : Action α) (w : World) (outer : List (String × Extent))
    (code : String) (source : Extent) (hook : Hook) (w₁ : World) : Prop where
  failure : ∀ {f₀ : Failure} {w' : World}, outcome (hook.run code) w₁ = (.error f₀, w') →
    ∃ f, outcome act w = (.error f, w') ∧ f₀.TaggedThrough outer code source f
  scan : ∀ {s : Settings} {inner : Hook} {o : Object} {template : String} {e : ScanError},
    hook = .nested s inner → w₁.env.get? code = some o → Hook.templateOf o.value = .ok template →
    s.pieces template = .error e →
    outcome act w =
      (.error ⟨(Failure.ofScan e).cause, some source.span, some code, []⟩, w₁.asking code)

theorem Failure.concernsTemplate_ofScan (e : ScanError) :
    (Failure.ofScan e).kind.concernsTemplate = true := by
  cases e <;> rfl

/-- The error of a scan has no tags. -/
theorem Failure.ofScan_eq (e : ScanError) : ofScan e = ⟨(ofScan e).cause, none, none, []⟩ := by
  cases e <;> rfl

/-- Tagged through some blocks, the error of a scan has the span and the code of the innermost. -/
theorem Failure.TaggedThrough.eq_of_ofScan {outer : List (String × Extent)} {code : String}
    {source : Extent} {e : ScanError} {f : Failure}
    (h : (ofScan e).TaggedThrough outer code source f) :
    f = ⟨(ofScan e).cause, some source.span, some code, []⟩ := by
  obtain ⟨hcause, htags⟩ := h
  rw [if_pos (concernsTemplate_ofScan e), ofScan_eq e] at htags
  obtain ⟨hspan, hcode, hnotes⟩ := htags
  rcases f with ⟨c, span, old, notes⟩
  simp only [Option.getD_none] at hcause hspan hcode hnotes
  rw [hcause, hspan, hcode, hnotes]

/-- A failure that passes through the renders of all blocks leaves as it is expected to. -/
theorem Action.passesOn_of_passing {α : Type} {act : Action α} {w w₁ : World}
    {outer : List (String × Extent)} {code : String} {source : Extent} {hook : Hook}
    (h : ∀ {f : Failure} {w' : World}, outcome (hook.run code) w₁ = (.error f, w') →
      outcome act w = (.error (f.passing (outer ++ [(code, source)])), w')) :
    act.PassesOn w outer code source hook w₁ where
  failure hfails := ⟨_, h hfails, Failure.taggedThrough_passing ..⟩
  scan {s inner o template e} hhook hname htemplate hpieces := by
    have hfails : outcome (hook.run code) w₁ = (.error (.ofScan e), w₁.asking code) := by
      rw [hhook, Hook.outcome_run_nested hname htemplate, outcome_map_eq_error_iff,
        s.outcome_render_of_error hpieces]
    rw [h hfails, (Failure.taggedThrough_passing ..).eq_of_ofScan]

/-- Failures are tagged on their way through templates that name templates. A template that does not
scan fails without tags, and nothing has happened. If the transform of a hook fails for the code of
a block, however many blocks are being transformed around it, the failure leaves the outermost
render, to one text or to lines, tagged through all of these blocks; and an inner template that does
not scan counts as a failure of the block that names it. -/
theorem Splicer.nested_failure_tags (s : Splicer) (template : String) (w : World) :
    (∀ e, s.settings.pieces template = .error e →
      outcome (s.render template) w =
          (.error ⟨(Failure.ofScan e).cause, none, none, []⟩, w) ∧
        outcome (s.renderLines template) w =
          (.error ⟨(Failure.ofScan e).cause, none, none, []⟩, w)) ∧
      ∀ segs, s.settings.pieces template = .ok segs → ∀ outer code source hook w₁,
        (s.hook.Descends s.settings segs
            (Renderer.started segs " segments" (s.settings.scanned segs w))
            outer code source hook w₁ →
          (s.render template).PassesOn w outer code source hook w₁) ∧
        (s.hook.Descends s.settings segs
            (Renderer.started segs " segments as lines" (s.settings.scanned segs w))
            outer code source hook w₁ →
          (s.renderLines template).PassesOn w outer code source hook w₁) := by
  refine ⟨fun e he => ?_, fun segs hpieces outer code source hook w₁ =>
    ⟨fun h => passesOn_of_passing fun hfails => ?_, fun h => passesOn_of_passing fun hfails => ?_⟩⟩
  · rw [← Failure.ofScan_eq]
    exact ⟨s.settings.outcome_render_of_error he w, s.settings.outcome_renderLines_of_error he w⟩
  · rw [Splicer.render, s.settings.outcome_render_of_ok hpieces]
    exact h.outcome_render hfails
  · rw [Splicer.renderLines, s.settings.outcome_renderLines_of_ok hpieces]
    exact h.outcome_renderLines hfails

/-- A name that is missing two templates further down is noted at every level, the innermost one
first, and a template further down that does not scan is a matter of the block that names it. -/
theorem Splicer.missing_name_noted :
    let s : Settings := ⟨.braces, false, "", standardMissing, .cycle⟩
    let splicer : Splicer := ⟨s, .nested s (.nested s (.plain (.scripted ⟨[], .lookupCode⟩)))⟩
    let world (b : String) : World :=
      .new (.chain [("a", .new (.text "x\x7bb\x7d")), ("b", .new (.text b))] []) .empty
    (∃ f w', outcome (splicer.render "\x7ba\x7d") (world "yy\x7bc\x7d") = (.error f, w') ∧
      f.cause = .missingKey (.new (.text "c")) ∧
      f.notes = ["while rendering '\x7bc\x7d' at 2:5", "while rendering '\x7bb\x7d' at 1:4",
        "while rendering '\x7ba\x7d' at 0:3"]) ∧
      ∃ w', outcome (splicer.render "\x7ba\x7d") (world "yy\x7b") =
        (.error ⟨.unmatched 2 "\x7b" none, some ⟨1, 4⟩, some "b", []⟩, w') := by
  intro s splicer world
  -- the segments of the templates at all levels
  have ha : s.pieces "\x7ba\x7d" = .ok [.block "a" ⟨"\x7ba\x7d", ⟨0, 3⟩⟩] :=
    s.pieces_of_scan rfl (by decide +kernel)
  have hb : s.pieces "x\x7bb\x7d" =
      .ok [.literal "x" ⟨"x", ⟨0, 1⟩⟩, .block "b" ⟨"\x7bb\x7d", ⟨1, 4⟩⟩] :=
    s.pieces_of_scan rfl (by decide +kernel)
  have hc : s.pieces "yy\x7bc\x7d" =
      .ok [.literal "yy" ⟨"yy", ⟨0, 2⟩⟩, .block "c" ⟨"\x7bc\x7d", ⟨2, 5⟩⟩] :=
    s.pieces_of_scan rfl (by decide +kernel)
  have hopen : s.pieces "yy\x7b" = .error (.unmatched 2 "\x7b") :=
    s.pieces_of_scan_error (show Delimiters.braces.scan "yy\x7b" =
      ⟨[.literal "yy" ⟨"yy", ⟨0, 2⟩⟩], some (.unmatched 2 "\x7b")⟩ by decide +kernel)
  constructor
  · obtain ⟨f, hf, hcause, htags⟩ :=
      (((splicer.nested_failure_tags "\x7ba\x7d" (world "yy\x7bc\x7d")).2 _ ha
        [("a", ⟨"\x7ba\x7d", ⟨0, 3⟩⟩), ("b", ⟨"\x7bb\x7d", ⟨1, 4⟩⟩)] "c"
        ⟨"\x7bc\x7d", ⟨2, 5⟩⟩ _ _).1
        (.inside rfl rfl hb (.literal (.inside rfl rfl hc (.literal .here))))).failure rfl
    exact ⟨f, _, hf, hcause, htags.2.2.2⟩
  · exact ⟨_, (((splicer.nested_failure_tags "\x7ba\x7d" (world "yy\x7b")).2 _ ha
      [("a", ⟨"\x7ba\x7d", ⟨0, 3⟩⟩)] "b" ⟨"\x7bb\x7d", ⟨1, 4⟩⟩ _ _).1
      (.inside rfl rfl hb (.literal .here))).scan rfl rfl rfl hopen⟩

end Splice
