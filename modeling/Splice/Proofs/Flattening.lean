import Splice.Proofs.Nominal

/-!
# Layers and their merge

The layers of an environment can be merged into one: every name is put where the first layer that
has it says. Since rendering only deals in names, it does the same with the merged layer as with the
layers themselves, to the end and in whatever order things are asked for, and only afterwards are
there two ways to say what has been assigned: in a fresh layer, or over what was there.

So a call with bindings or data in front of an environment can be read as a render with one layer.
While it goes on, its environment consists of what has been assigned since it began, of what was put
in front, and of the environment that it was called with, which is there again afterwards.

Which codes evaluators were asked for is part of a world if they are scripted. For all others, there
are hooks that record it (`Hook.recording`).
-/

open Splice.Action

namespace Splice

/-! ## Merging -/

namespace Bindings

/-- One layer for several: names stand for what they stand for in the first layer that has them. -/
def merged : List Bindings → Bindings
  | [] => []
  | layer :: layers => layer.foldr (fun (name, o) b => put name o b) (merged layers)

theorem lookup_foldr_put (layer below : Bindings) (n : String) :
    (layer.foldr (fun (name, o) b => put name o b) below).lookup n =
      (layer.lookup n).or (below.lookup n) := by
  induction layer with
  | nil => rfl
  | cons entry layer ih =>
    obtain ⟨name, o⟩ := entry
    rw [List.foldr_cons, lookup_put, ih, List.lookup_cons]
    by_cases hn : n = name
    · simp [hn]
    · have hne : (n == name) = false := by simpa using hn
      simp [hn, hne]

theorem lookup_merged (layers : List Bindings) (n : String) :
    (merged layers).lookup n = layers.findSome? (·.lookup n) := by
  induction layers with
  | nil => rfl
  | cons layer layers ih =>
    rw [merged, lookup_foldr_put, ih, List.findSome?_cons]
    cases layer.lookup n <;> rfl

end Bindings

namespace Environment

/-- Layers merged into one, which takes the assignments. -/
def flat (layers : List Bindings) : Environment :=
  chain (Bindings.merged layers) []

theorem get?_flat (layers : List Bindings) (n : String) :
    (flat layers).get? n = layers.findSome? (·.lookup n) := by
  rw [flat, get?, List.findSome?_cons, Bindings.lookup_merged]
  cases layers.findSome? (·.lookup n) <;> rfl

/-- A name is looked up in one layer after the other. -/
theorem get?_eq_findSome?_layers (env : Environment) (n : String) :
    env.get? n = env.layers.findSome? (·.lookup n) := by
  induction env with
  | fixed vars => rw [get?, layers, List.findSome?_cons]; cases vars.lookup n <;> rfl
  | chain front others => rfl
  | within front others outer ih => rw [get?, layers, List.findSome?_append, ih]

theorem alike_scope_flat (layers : List Bindings) : (scope layers).Alike (flat layers) where
  names := funext fun n => by rw [get?_scope, get?_flat]
  writable := Iff.rfl

theorem alike_enter_flat (maps : List Bindings) (env : Environment) :
    (env.enter maps).Alike (flat (maps ++ env.layers)) where
  names := funext fun n => by
    rw [get?_enter, get?_flat, List.findSome?_append, get?_eq_findSome?_layers]
  writable := Iff.rfl

/-- Names in the environment of a caller are local ones, and if not, global ones. -/
theorem get?_ofCaller (locals globals : Bindings) (n : String) :
    (ofCaller locals globals).get? n = (locals.lookup n).or (globals.lookup n) := by
  rw [ofCaller, get?, List.findSome?_cons, List.findSome?_cons]
  cases locals.lookup n <;> cases globals.lookup n <;> rfl

end Environment

/-! ## Actions in front of an environment -/

namespace Action

variable {α : Type}

/-- What an action comes to if all names are in one layer, leaving aside what becomes of them. -/
def flatly (layers : List Bindings) (act : Action α) (w : World) : Except Failure α × World :=
  let (result, w') := outcome act (w.inEnv (.flat layers))
  (result, w'.inEnv w.env)

/-- With layers in front of the environment, an action does what it does with everything in one
layer, and the environment stays as it was. -/
theorem Nominal.outcome_within_eq_flatly {act : Action α} (h : act.Nominal)
    (maps : List Bindings) (w : World) :
    outcome (within maps act) w = act.flatly (maps ++ w.env.layers) w := by
  obtain ⟨hresult, hafter⟩ := h.alike (.ofEnv w (Environment.alike_enter_flat maps w.env))
  rw [h.outcome_within, flatly]
  exact Prod.ext hresult (hafter.inEnv_eq w.env)

end Action

/-! ## Recording what is asked for -/

/-- An evaluator that records every code that it is asked for. -/
def Evaluator.recording (e : Evaluator) : Evaluator :=
  .custom "recording" fun code => do
    recordCall code
    e.evaluate code

/-- A hook whose evaluators record what they are asked for. -/
def Hook.recording : Hook → Hook
  | plain e => plain e.recording
  | collapsing mark separator last missing e => collapsing mark separator last missing e.recording
  | recovering fallback e => recovering fallback e.recording
  | nested s inner => nested s inner.recording

def Splicer.recording (s : Splicer) : Splicer :=
  { s with hook := s.hook.recording }

theorem Evaluator.nominal_recording {e : Evaluator} (h : e.Nominal) : e.recording.Nominal :=
  fun code => nominal_bind (nominal_recordCall code) fun _ => nominal_evaluate h code

theorem Hook.nominal_recording {hook : Hook} (h : hook.Nominal) : hook.recording.Nominal := by
  induction hook with
  | plain e | collapsing _ _ _ _ e | recovering _ e => exact e.nominal_recording h
  | nested s inner ih => exact ih h

/-! ## Reaching a block -/

/-- Going through some segments, the code of a block is reached in this world: the blocks before it
are rendered, and it is not. -/
inductive Renderer.Reaches (r : Renderer) : List Segment → World → String → World → Prop
  | here {code : String} {source : Extent} {rest : List Segment} {w : World} :
    Reaches r (.block code source :: rest) w code w
  | literal {t : String} {s : Extent} {rest : List Segment} {w w' : World} {code : String}
    (h : Reaches r rest w code w') : Reaches r (.literal t s :: rest) w code w'
  | block {c : String} {s : Extent} {rest : List Segment} {w w₁ w' : World} {column : List String}
    {code : String} (hc : r.Yields c w column w₁) (h : Reaches r rest w₁ code w') :
    Reaches r (.block c s :: rest) w code w'

/-- What was rendered before a block has changed the innermost layer only. -/
theorem Renderer.Reaches.env_eq {r : Renderer} (hr : ∀ code, (r.transform code).Nominal)
    {segs : List Segment} {w w' : World} {code : String} (h : r.Reaches segs w code w') :
    ∃ front, w'.env = w.env.withFront front := by
  induction h with
  | here => exact ⟨_, (Environment.withFront_front _).symm⟩
  | literal _ ih => exact ih
  | @block c s rest w w₁ w' column code hc _ ih =>
    -- the block has left its world to the segments behind it
    have hdone : outcome (r.tokens c s) w = (.ok column, w₁) := r.outcome_tokens_eq_ok_iff.mpr hc
    obtain ⟨front, hfront⟩ := (nominal_tokens hr c s).confined w
    obtain ⟨front', hfront'⟩ := ih
    rw [hdone] at hfront
    simp only at hfront
    exact ⟨front', by rw [hfront', hfront, Environment.withFront_withFront]⟩

/-- A name stands for something else in the innermost layer after a block. -/
def Renderer.Assigns (r : Renderer) (code : String) (w : World) (n : String) : Prop :=
  ∃ column w', r.Yields code w column w' ∧ w'.env.front.lookup n ≠ w.env.front.lookup n

/-- A name that stands for something else in the innermost layer where a block is reached has been
assigned by a block before it. -/
theorem Renderer.Reaches.assigns {r : Renderer} {segs : List Segment} {w w' : World}
    {code n : String} (h : r.Reaches segs w code w')
    (hn : w'.env.front.lookup n ≠ w.env.front.lookup n) :
    ∃ c w₁, r.Reaches segs w c w₁ ∧ r.Assigns c w₁ n := by
  induction h with
  | here => exact absurd rfl hn
  | literal _ ih =>
    obtain ⟨c, w₁, hc, hassigns⟩ := ih hn
    exact ⟨c, w₁, .literal hc, hassigns⟩
  | @block c s rest w w₁ w' column code hc _ ih =>
    -- either this block has assigned the name, or the change came later
    by_cases hblock : w₁.env.front.lookup n = w.env.front.lookup n
    · obtain ⟨c', w₂, hc', hassigns⟩ := ih (by rwa [hblock])
      exact ⟨c', w₂, .block hc hc', hassigns⟩
    · exact ⟨c, w, .here, column, w₁, hc, hblock⟩

namespace Splicer

/-- When a template is rendered with these layers in front of the environment, the code of one of
its blocks is reached in this world. -/
def Reaches (s : Splicer) (maps : List Bindings) (template : String) (w : World) (code : String)
    (w' : World) : Prop :=
  ∃ segs w₀ manner,
    outcome (s.settings.segments template) (w.inEnv (w.env.enter maps)) = (.ok segs, w₀) ∧
      (s.settings.renderer s.hook.run).Reaches segs (Renderer.started segs manner w₀) code w'

/-- In a call, names are what blocks of the template have assigned by then, and what they are in
`behind` if none has; the layers in front and the environment of the call stay as they are. -/
def Resolves (s : Splicer) (maps : List Bindings) (template : String) (w : World)
    (behind : String → Option Object) : Prop :=
  ∀ code w', s.Reaches maps template w code w' → ∃ assigned : Bindings,
    w'.env = .within assigned maps w.env ∧
    (∀ n, assigned.lookup n ≠ none → ∃ c w₁, s.Reaches maps template w c w₁ ∧
      (s.settings.renderer s.hook.run).Assigns c w₁ n) ∧
    ∀ n, w'.env.get? n = (assigned.lookup n).or (behind n)

theorem resolves {s : Splicer} (hs : s.hook.Nominal) {maps : List Bindings} {w : World}
    {behind : String → Option Object}
    (hbehind : ∀ n, behind n = (maps.findSome? (·.lookup n)).or (w.env.get? n))
    (template : String) : s.Resolves maps template w behind := by
  rintro code w' ⟨segs, w₀, manner, hsegs, hreaches⟩
  obtain ⟨assigned, hassigned⟩ := hreaches.env_eq (s.hook.nominal_run hs)
  have hstart : (Renderer.started segs manner w₀).env = w.env.enter maps := by
    change w₀.env = _
    rw [← s.settings.env_segments hsegs]
    rfl
  have henv : w'.env = .within assigned maps w.env := by
    rw [hassigned, hstart]
    rfl
  refine ⟨assigned, henv, fun n hn => ?_, fun n => ?_⟩
  · have hchanged : w'.env.front.lookup n ≠
        (Renderer.started segs manner w₀).env.front.lookup n := by
      rw [hstart, henv]
      exact hn
    obtain ⟨c, w₁, hc, hassigns⟩ := hreaches.assigns hchanged
    exact ⟨c, w₁, ⟨segs, w₀, manner, hsegs, hc⟩, hassigns⟩
  · rw [henv, hbehind, Environment.get?, List.findSome?_cons]
    cases assigned.lookup n <;> rfl

/-! ## Layers and one layer -/

/-- Rendering a template in a scope of some layers is like rendering it with the layers merged into
one, and changes none of the layers. -/
structure Flattens (s : Splicer) (layers : List Bindings) (template : String) (w : World) :
    Prop where
  text : (s.render template).AlikeIn (w.inEnv (.scope layers)) (w.inEnv (.flat layers))
  lines : (s.renderLines template).AlikeIn (w.inEnv (.scope layers)) (w.inEnv (.flat layers))
  textLayers : ∃ assigned,
    (outcome (s.render template) (w.inEnv (.scope layers))).2.env = .chain assigned layers
  linesLayers : ∃ assigned,
    (outcome (s.renderLines template) (w.inEnv (.scope layers))).2.env = .chain assigned layers

theorem flattens {s : Splicer} (hs : s.hook.Nominal) (layers : List Bindings) (template : String)
    (w : World) : s.Flattens layers template w where
  text := (nominal_render hs template).alike (.ofEnv w (Environment.alike_scope_flat layers))
  lines := (nominal_renderLines hs template).alike (.ofEnv w (Environment.alike_scope_flat layers))
  textLayers := (nominal_render hs template).confined _
  linesLayers := (nominal_renderLines hs template).confined _

/-- Layers behave like their merge. Rendering in a scope comes to the same as rendering with one
layer, asks evaluators for the same codes in the same order, whether they are scripted or recorded,
and leaves names that stand for the same and the layers as they were. A call with bindings or data
in front of an environment, which may be the local and the global names of a caller, is a render
with one layer. While it goes on, names are what it has assigned, then bindings, then data, then
what they were before. -/
theorem layers_eq_merged (s : Splicer) (hs : s.hook.Nominal) (template : String) (w : World) :
    (∀ layers, s.Flattens layers template w ∧ s.recording.Flattens layers template w) ∧
      (∀ bindings data,
        outcome (s.splice bindings template) w =
          (s.render template).flatly (bindings :: w.env.layers) w ∧
        outcome (s.spliceLines bindings template) w =
          (s.renderLines template).flatly (bindings :: w.env.layers) w ∧
        outcome (s.spliceData bindings data template) w =
          (s.render template).flatly (bindings :: data :: w.env.layers) w ∧
        s.Resolves [bindings] template w (fun n => (bindings.lookup n).or (w.env.get? n)) ∧
        s.Resolves [bindings, data] template w
          (fun n => (bindings.lookup n).or ((data.lookup n).or (w.env.get? n)))) ∧
      ∀ locals globals n,
        (Environment.ofCaller locals globals).get? n = (locals.lookup n).or (globals.lookup n) := by
  refine ⟨fun layers => ⟨flattens hs layers template w,
    flattens (Hook.nominal_recording hs) layers template w⟩, fun bindings data => ?_,
    Environment.get?_ofCaller⟩
  refine ⟨(nominal_render hs template).outcome_within_eq_flatly [bindings] w,
    (nominal_renderLines hs template).outcome_within_eq_flatly [bindings] w,
    (nominal_render hs template).outcome_within_eq_flatly [bindings, data] w,
    resolves hs (fun n => ?_) template, resolves hs (fun n => ?_) template⟩
  · rw [List.findSome?_cons]
    cases bindings.lookup n <;> rfl
  · rw [List.findSome?_cons, List.findSome?_cons]
    cases bindings.lookup n <;> cases data.lookup n <;> rfl

/-- An inner layer hides an outer one, an assignment hides both, and a fallback sees what was
assigned before it. -/
theorem render_hidden_names :
    let s : Splicer :=
      ⟨⟨.braces, false, "", standardMissing, .cycle⟩,
        .recovering (.computation "y + x") (.formula [])⟩
    let layers : List Bindings :=
      [[("x", .new (.int 1))], [("x", .new (.int 2)), ("y", .new (.int 5))]]
    let w : World := .new (.scope layers) .empty
    let result := outcome (s.render "\x7by := x + y\x7d \x7b[y][1]\x7d") w
    result.1.toOption = some "6 7" ∧ ∃ assigned, result.2.env = .chain assigned layers := by
  intro s layers w result
  have hflattens := ((layers_eq_merged s trivial "\x7by := x + y\x7d \x7b[y][1]\x7d" w).1 layers).1
  have htext := congrArg Except.toOption hflattens.text.result
  exact ⟨htext.trans (by decide +kernel), hflattens.textLayers⟩

end Splicer

end Splice
