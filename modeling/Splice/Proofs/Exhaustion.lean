import Splice.Proofs.Blocks
import Splice.Proofs.Interleaving
import Splice.Proofs.Isolation

/-!
# The scan comes first

A template that does not scan may well begin with blocks that could be rendered, and a cursor hands
these out before it gets to the error. Nothing is done with them. Whoever renders collects all
segments before the transform is asked for the first of them, and then there is an error in place of
the segments (`Cursor.collect_eq`).

So on every way to render a template that does not scan, the action fails with what the scan says
and has done nothing else (`Action.FailsAtOnce`). This is so whatever the transform would do, and
that is what it means that the transform is not asked: with one that fails, or assigns a name, or
records its codes, the same comes out and the world is as it was.
-/

open Splice.Action

namespace Splice

/-! ## Failing at once -/

namespace Action

variable {α β : Type} {act : Action α} {f : Failure}

/-- In every world the action fails with this failure, and leaves the world as it was. -/
def FailsAtOnce (act : Action α) (f : Failure) : Prop :=
  ∀ w, outcome act w = (.error f, w)

theorem failsAtOnce_throw (f : Failure) : (throw f : Action α).FailsAtOnce f :=
  fun _ => rfl

/-- Nothing comes after an action that fails at once. -/
theorem FailsAtOnce.bind (h : act.FailsAtOnce f) (next : α → Action β) :
    (act >>= next).FailsAtOnce f := by
  intro w
  rw [outcome_bind, h w]

theorem FailsAtOnce.map (h : act.FailsAtOnce f) (g : α → β) : (g <$> act).FailsAtOnce f := by
  rw [map_eq_pure_bind]
  exact h.bind _

/-- The layers that an action fails behind are gone when it has failed. -/
theorem FailsAtOnce.within (h : act.FailsAtOnce f) (maps : List Bindings) :
    (Action.within maps act).FailsAtOnce f := by
  intro w
  rw [outcome_within, h]
  rfl

end Action

/-! ## Collecting -/

namespace Cursor

variable {d : Delimiters} {c c' : Cursor}

/-- What a cursor gives is what one step of the scan comes to at its place. -/
theorem step_of_next {answer : Advance} (h : c.next d = (answer, c')) :
    match answer with
    | .ended => d.step c.position c.rest = .done
    | .failed e => d.step c.position c.rest = .failed e
    | .segment x =>
      ∃ rest, d.step c.position c.rest = .segment x rest ∧
        c' = ⟨x.source.span.stop.toNat, rest⟩ := by
  unfold next at h
  split at h
  · rename_i hstep
    cases h
    exact hstep
  · rename_i e hstep
    cases h
    exact hstep
  · rename_i x rest hstep
    cases h
    exact ⟨rest, hstep, rfl⟩

/-- What a cursor collects is the result of scanning all that it has left. -/
theorem collect_eq (d : Delimiters) (c : Cursor) : c.collect d = (c.remaining d).result := by
  fun_induction collect d c with
  | case1 c c' h =>
    have hstep : d.step c.position c.rest = .done := step_of_next h
    rw [remaining, Delimiters.scanFrom_of_done hstep]
    rfl
  | case2 c e c' h =>
    have hstep : d.step c.position c.rest = .failed e := step_of_next h
    rw [remaining, Delimiters.scanFrom_of_failed hstep]
    rfl
  | case3 c x c' h ih =>
    obtain ⟨rest, hstep, rfl⟩ := step_of_next h
    rw [ih, remaining, remaining, Delimiters.scanFrom_of_segment hstep]
    cases herror : (d.scanFrom x.source.span.stop.toNat rest).2 <;> simp [Scan.result]

/-- From the start of a template, these are its segments, or the failure of its scan. -/
theorem segments_start (d : Delimiters) (template : String) :
    (start template).segments d = d.segments template := by
  rw [segments, Delimiters.segments, collect_eq, remaining_start]

end Cursor

/-! ## Ways to render -/

/-- A failure that says what is wrong in a scan, with the place and the marker, and to which nothing
has been added. -/
def Failure.Reports (f : Failure) (e : ScanError) : Prop :=
  (f.cause = match e with
    | .unmatched position marker => .unmatched position marker none
    | .nesting position marker => .nesting position marker) ∧
    f.span = none ∧ f.code = none ∧ f.notes = []

theorem Failure.reports_ofScan (e : ScanError) : (ofScan e).Reports e := by
  cases e with
  | unmatched position marker => exact ⟨rfl, rfl, rfl, rfl⟩
  | nesting position marker => exact ⟨rfl, rfl, rfl, rfl⟩

/-- All ways to render a template with these delimiters fail at once: from a cursor at its start,
with settings and any transform, behind any layers, with a splicer, and in a call, where making the
splicer comes first. A transform that records its codes has none to record. -/
structure NeverRendered (d : Delimiters) (template : String) (f : Failure) : Prop where
  cursor : ∀ r : Renderer, (r.renderFrom d (.start template)).FailsAtOnce f ∧
    (r.renderLinesFrom d (.start template)).FailsAtOnce f
  settings : ∀ (s : Settings) (t : Transform), s.delimiters = d →
    (s.render t template).FailsAtOnce f ∧ (s.renderLines t template).FailsAtOnce f
  layers : ∀ (s : Settings) (t : Transform) (maps : List Bindings), s.delimiters = d →
    (within maps (s.render t template)).FailsAtOnce f ∧
      (within maps (s.renderLines t template)).FailsAtOnce f
  unasked : ∀ (s : Settings) (t : Transform) (w : World), s.delimiters = d →
    (outcome (s.render t.recording template) w).2.calls = w.calls ∧
      (outcome (s.renderLines t.recording template) w).2.calls = w.calls
  splicer : ∀ (s : Splicer) (bindings data : Bindings), s.settings.delimiters = d →
    (s.render template).FailsAtOnce f ∧ (s.renderLines template).FailsAtOnce f ∧
      (s.splice bindings template).FailsAtOnce f ∧
        (s.spliceLines bindings template).FailsAtOnce f ∧
          (s.spliceData bindings data template).FailsAtOnce f
  call : ∀ (r : Registry) (c : Call), c.options.delimiters = d → c.template = template →
    ∀ w s w', outcome (c.options.splicer r) w = (.ok s, w') →
      outcome (c.act r) w = (.error f, w') ∧ World.SameButLog w w'

section

variable {d : Delimiters} {template : String} {segs : List Segment} {e : ScanError}
  (h : d.scan template = ⟨segs, some e⟩)
include h

theorem Delimiters.failsAtOnce_segments : (d.segments template).FailsAtOnce (.ofScan e) := by
  have hresult : (d.scan template).result = .error e := by
    rw [h]
    rfl
  rw [segments, hresult]
  exact failsAtOnce_throw _

/-- What is done with the segments of a cursor is not done. -/
theorem Renderer.failsAtOnce_renderFrom (r : Renderer) :
    (r.renderFrom d (.start template)).FailsAtOnce (.ofScan e) ∧
      (r.renderLinesFrom d (.start template)).FailsAtOnce (.ofScan e) := by
  have hsegments := Delimiters.failsAtOnce_segments h
  rw [← Cursor.segments_start] at hsegments
  exact ⟨hsegments.bind _, hsegments.bind _⟩

omit h in
/-- The splicer for some options has their delimiters, and making it only writes to the log. -/
theorem Options.delimiters_splicer {r : Registry} {o : Options} {s : Splicer} {w w' : World}
    (hs : outcome (o.splicer r) w = (.ok s, w')) :
    s.settings.delimiters = o.delimiters ∧ World.SameButLog w w' := by
  constructor
  · rw [splicer] at hs
    cases hhook : o.hook with
    | some hook =>
      rw [hhook] at hs
      cases hs
      rfl
    | none =>
      rw [hhook] at hs
      obtain ⟨e, w₁, -, hs⟩ := outcome_bind_eq_ok_iff.mp hs
      cases hs
      rfl
  · obtain ⟨s', hsettled⟩ | ⟨f, hsettled⟩ := o.settled_splicer r
    · obtain ⟨notices, hw⟩ := hsettled w
      cases hw.symm.trans hs
      exact ⟨rfl, rfl, rfl⟩
    · cases (hsettled w).symm.trans hs

theorem Settings.failsAtOnce_render (s : Settings) (t : Transform) (hs : s.delimiters = d) :
    (s.render t template).FailsAtOnce (.ofScan e) ∧
      (s.renderLines t template).FailsAtOnce (.ofScan e) := by
  subst hs
  have hpieces := s.pieces_of_scan_error h
  exact ⟨s.outcome_render_of_error hpieces, s.outcome_renderLines_of_error hpieces⟩

end

namespace Call

/-- A call whose template cannot be rendered fails when its splicer is made. -/
theorem outcome_act_of_failsAtOnce {r : Registry} {c : Call} {s : Splicer} {f : Failure}
    {w w' : World} (hs : outcome (c.options.splicer r) w = (.ok s, w'))
    (h : (s.render c.template).FailsAtOnce f ∧ (s.renderLines c.template).FailsAtOnce f) :
    outcome (c.act r) w = (.error f, w') := by
  have hrendering : (c.rendering s).FailsAtOnce f := by
    unfold rendering
    cases c.form with
    | text | data => exact h.1.map _
    | lines => exact h.2.map _
  rw [outcome_act, outcome_bind, hs]
  exact hrendering.within c.maps w'

end Call

/-- If the scan of a template fails, every way to render the template fails at once with the error
of the scan, whatever has been scanned before it, with trimming and without, whatever the transform,
the environment and the layers in front of it are. -/
theorem never_rendered {d : Delimiters} {template : String} {segs : List Segment} {e : ScanError}
    (h : d.scan template = ⟨segs, some e⟩) :
    ∃ f : Failure, f.Reports e ∧ NeverRendered d template f := by
  have hsettings (s : Settings) (t : Transform) (hs : s.delimiters = d) :=
    Settings.failsAtOnce_render h s t hs
  refine ⟨.ofScan e, Failure.reports_ofScan e, ?_⟩
  constructor
  case cursor => exact Renderer.failsAtOnce_renderFrom h
  case settings => exact hsettings
  case layers =>
    intro s t maps hs
    obtain ⟨hrender, hlines⟩ := hsettings s t hs
    exact ⟨hrender.within maps, hlines.within maps⟩
  case unasked =>
    intro s t w hs
    obtain ⟨hrender, hlines⟩ := hsettings s t.recording hs
    rw [hrender w, hlines w]
    exact ⟨rfl, rfl⟩
  case splicer =>
    intro s bindings data hs
    obtain ⟨hrender, hlines⟩ := hsettings s.settings s.hook.run hs
    exact ⟨hrender, hlines, hrender.within _, hlines.within _, hrender.within _⟩
  case call =>
    rintro r c hd rfl w s w' hs
    obtain ⟨hdelimiters, hw⟩ := Options.delimiters_splicer hs
    exact ⟨Call.outcome_act_of_failsAtOnce hs
      (hsettings s.settings s.hook.run (hdelimiters.trans hd)), hw⟩

/-- A block behind a complete one is never closed: a call fails, and what the first block assigns is
not assigned. -/
theorem never_rendered_call :
    let r := Registry.languages "formula" "filter"
    let options : Options := ⟨.braces, none, .standard, "", standardMissing, true, .cycle⟩
    let c : Call := ⟨options, .lines, [("x", .new (.int 1))], "a\x7bx := 2\x7d\x7by"⟩
    let w : World := .new (.scope [[]]) .empty
    ∃ f w', outcome (c.act r) w = (.error f, w') ∧ World.SameButLog w w' ∧
      f.cause = .unmatched 9 "\x7b" none ∧ f.span = none := by
  intro r options c w
  have hscan : Delimiters.braces.scan c.template =
      ⟨[.literal "a" ⟨"a", ⟨0, 1⟩⟩, .block "x := 2" ⟨"\x7bx := 2\x7d", ⟨1, 9⟩⟩],
        some (.unmatched 9 "\x7b")⟩ := by
    decide +kernel
  obtain ⟨f, hf, hnever⟩ := never_rendered hscan
  obtain ⟨hact, hw⟩ := hnever.call r c rfl rfl w _ _ rfl
  exact ⟨f, _, hact, hw, hf.1, hf.2.1⟩

end Splice
