import Splice.Proofs.Flattening
import Splice.Proofs.Templates

/-!
# Two runs side by side

Worlds can differ in ways that rendering takes no notice of: in what has been logged, in which codes
have been asked for, in what streams and objects there are that nobody refers to. A `Likeness` says
which worlds are alike, and which objects and which failures are as good as each other in them. What
it has to provide for is what rendering does by itself: it writes to the log, asks for codes, makes
texts, turns objects into tokens, looks up the templates that codes name, and tags failures.

Two runs of the same code from worlds that are alike come to the same if the evaluators in them do
(`Hook.transforms_run`), because everything else is put together from actions one of which goes on
from what the other has come to. Here the same means: results or failures that go together, and
worlds that are still alike (`Alongside`). Most ways to be alike leave failures as they are; then
two runs fail with one and the same failure (`Together`).
-/

open Splice.Action

namespace Splice

namespace Action

variable {α β γ δ : Type} {S : World → World → Prop} {F : Failure → Failure → Prop}
  {Q : World → World → α → β → Prop} {R : World → World → γ → δ → Prop} {w₁ w₂ : World}

/-- Two runs come to results that go together in the worlds after them, or to failures that do. The
worlds after them are alike. -/
inductive Alongside (S : World → World → Prop) (F : Failure → Failure → Prop)
    (Q : World → World → α → β → Prop) :
    Except Failure α × World → Except Failure β × World → Prop
  | ok {a : α} {b : β} {w₁ w₂ : World} (hw : S w₁ w₂) (h : Q w₁ w₂ a b) :
    Alongside S F Q (.ok a, w₁) (.ok b, w₂)
  | error {f₁ f₂ : Failure} {w₁ w₂ : World} (hw : S w₁ w₂) (hf : F f₁ f₂) :
    Alongside S F Q (.error f₁, w₁) (.error f₂, w₂)

/-- Two runs come to the same: to results that go together in the worlds after them, or to one and
the same failure. The worlds after them are alike. -/
abbrev Together (S : World → World → Prop) (Q : World → World → α → β → Prop) :
    Except Failure α × World → Except Failure β × World → Prop :=
  Alongside S Eq Q

/-- Results go together if they are equal. -/
def Same : World → World → α → α → Prop :=
  fun _ _ a b => a = b

theorem Together.error {f : Failure} (hw : S w₁ w₂) :
    Together S Q (.error f, w₁) (.error f, w₂) :=
  Alongside.error hw rfl

theorem Together.result_eq {x y : Except Failure α × World} (h : Together S Same x y) :
    x.1 = y.1 := by
  cases h with
  | ok _ h => exact congrArg Except.ok h
  | error _ hf => exact congrArg Except.error hf

/-- The worlds after two runs that come to the same are alike. -/
theorem Alongside.after {x : Except Failure α × World} {y : Except Failure β × World}
    (h : Alongside S F Q x y) : S x.2 y.2 := by
  cases h with
  | ok hw _ => exact hw
  | error hw _ => exact hw

theorem Alongside.mono {Q' : World → World → α → β → Prop} {x : Except Failure α × World}
    {y : Except Failure β × World} (h : Alongside S F Q x y)
    (hQ : ∀ {a b w₁ w₂}, Q w₁ w₂ a b → Q' w₁ w₂ a b) : Alongside S F Q' x y := by
  cases h with
  | ok hw h => exact .ok hw (hQ h)
  | error hw hf => exact .error hw hf

/-- If one of two runs that come to the same has a result, so has the other, and it is equal. -/
theorem Together.exists_ok {a : α} {y : Except Failure α × World}
    (h : Together S Same (.ok a, w₁) y) : ∃ w₂, y = (.ok a, w₂) ∧ S w₁ w₂ := by
  cases h with
  | @ok _ b _ w₂ hw hab =>
    obtain rfl : a = b := hab
    exact ⟨w₂, rfl, hw⟩

theorem Together.exists_error {f : Failure} {y : Except Failure β × World}
    (h : Together S Q (.error f, w₁) y) : ∃ w₂, y = (.error f, w₂) ∧ S w₁ w₂ := by
  cases h with
  | @error _ _ _ w₂ hw hf =>
    obtain rfl := hf
    exact ⟨w₂, rfl, hw⟩

/-- If one of two runs that come to the same fails, so does the other, with the same failure. -/
theorem Together.exists_error_iff {x : Except Failure α × World} {y : Except Failure β × World}
    (h : Together S Q x y) (f : Failure) : (∃ w, x = (.error f, w)) ↔ ∃ w, y = (.error f, w) := by
  cases h with
  | ok => exact ⟨nofun, nofun⟩
  | error _ hf =>
    obtain rfl := hf
    constructor
    · rintro ⟨_, hx⟩
      cases hx
      exact ⟨_, rfl⟩
    · rintro ⟨_, hy⟩
      cases hy
      exact ⟨_, rfl⟩

theorem Alongside.bind {act₁ : Action α} {act₂ : Action β} {next₁ : α → Action γ}
    {next₂ : β → Action δ} (h : Alongside S F Q (outcome act₁ w₁) (outcome act₂ w₂))
    (hnext : ∀ {a b w₁ w₂}, S w₁ w₂ → Q w₁ w₂ a b →
      Alongside S F R (outcome (next₁ a) w₁) (outcome (next₂ b) w₂)) :
    Alongside S F R (outcome (act₁ >>= next₁) w₁) (outcome (act₂ >>= next₂) w₂) := by
  rw [outcome_bind, outcome_bind]
  generalize outcome act₁ w₁ = x, outcome act₂ w₂ = y at h
  cases h with
  | ok hw h => exact hnext hw h
  | error hw hf => exact .error hw hf

theorem Alongside.tryCatch {act₁ : Action α} {act₂ : Action β} {handle₁ : Failure → Action α}
    {handle₂ : Failure → Action β} (h : Alongside S F Q (outcome act₁ w₁) (outcome act₂ w₂))
    (hhandle : ∀ {f₁ f₂ w₁ w₂}, S w₁ w₂ → F f₁ f₂ →
      Alongside S F Q (outcome (handle₁ f₁) w₁) (outcome (handle₂ f₂) w₂)) :
    Alongside S F Q (outcome (MonadExcept.tryCatch act₁ handle₁) w₁)
      (outcome (MonadExcept.tryCatch act₂ handle₂) w₂) := by
  rw [outcome_tryCatch, outcome_tryCatch]
  generalize outcome act₁ w₁ = x, outcome act₂ w₂ = y at h
  cases h with
  | ok hw h => exact .ok hw h
  | error hw hf => exact hhandle hw hf

theorem Alongside.map {act₁ : Action α} {act₂ : Action β} {g₁ : α → γ} {g₂ : β → δ}
    (h : Alongside S F Q (outcome act₁ w₁) (outcome act₂ w₂))
    (hg : ∀ {a b w₁ w₂}, S w₁ w₂ → Q w₁ w₂ a b → R w₁ w₂ (g₁ a) (g₂ b)) :
    Alongside S F R (outcome (g₁ <$> act₁) w₁) (outcome (g₂ <$> act₂) w₂) := by
  rw [map_eq_pure_bind, map_eq_pure_bind]
  exact h.bind fun hw hab => .ok hw (hg hw hab)

/-- Two runs behind fresh layers come to the same outside of them if worlds that are alike inside
are alike outside. -/
theorem Alongside.within {S' : World → World → Prop} {Q' : World → World → α → β → Prop}
    {act₁ : Action α} {act₂ : Action β} {maps₁ maps₂ : List Bindings}
    (h : Alongside S F Q (outcome act₁ (w₁.inEnv (w₁.env.enter maps₁)))
      (outcome act₂ (w₂.inEnv (w₂.env.enter maps₂))))
    (hworlds : ∀ {w₁ w₂}, S w₁ w₂ → S' (w₁.inEnv w₁.env.leave) (w₂.inEnv w₂.env.leave))
    (hresults : ∀ {a b w₁ w₂}, Q w₁ w₂ a b →
      Q' (w₁.inEnv w₁.env.leave) (w₂.inEnv w₂.env.leave) a b) :
    Alongside S' F Q' (outcome (within maps₁ act₁) w₁) (outcome (within maps₂ act₂) w₂) := by
  rw [outcome_within, outcome_within]
  generalize outcome act₁ (w₁.inEnv (w₁.env.enter maps₁)) = x,
    outcome act₂ (w₂.inEnv (w₂.env.enter maps₂)) = y at h
  cases h with
  | ok hw h => exact .ok (hworlds hw) (hresults h)
  | error hw hf => exact .error (hworlds hw) hf

end Action

/-! ## Ways to be alike -/

namespace Failure

/-- A failure that rendering comes to by itself, and not through an evaluator. -/
inductive Own : Failure → Prop
  | scan (e : ScanError) : Own (.ofScan e)
  | refusal (r : Recycling.Refusal) : Own (.ofRefusal r)
  /-- A template that is looked up under a name, and is not there. -/
  | unnamed (name : String) : Own (.missingKey (.new (.text name)))
  /-- Something else where a template should be. -/
  | noTemplate (f : Fault) : Own (.ofFault f)

/-- Why code could not be evaluated, if that is what has failed. -/
def reason? (f : Failure) : Option Failure :=
  match f.cause with
  | .evaluation _ inner => some inner
  | _ => none

theorem reason?_eq_some_iff {f inner : Failure} :
    f.reason? = some inner ↔ ∃ code, f.cause = .evaluation code inner := by
  rw [reason?]
  cases f.cause <;> simp

/-- A way in which failures can be alike to whoever tags them, or puts a fallback in their place. -/
structure Likeness where
  rel : Failure → Failure → Prop
  own : ∀ {f : Failure}, f.Own → rel f f
  tag : ∀ {f₁ f₂ : Failure}, rel f₁ f₂ → ∀ code raw span,
    rel (f₁.tag code raw span) (f₂.tag code raw span)
  reason : ∀ {f₁ f₂ : Failure}, rel f₁ f₂ → Option.Rel rel f₁.reason? f₂.reason?
  fallback : ∀ {f₁ f₂ : Failure}, rel f₁ f₂ → ∀ expr code,
    rel (.of (.fallback expr code f₁)) (.of (.fallback expr code f₂))

/-- Failures that are alike are one and the same. -/
def Likeness.eq : Likeness where
  rel := Eq
  own _ := rfl
  tag h _ _ _ := by rw [h]
  reason {f₁ f₂} h := by
    subst h
    cases f₁.reason? with
    | none => exact .none
    | some reason => exact .some rfl
  fallback h _ _ := by rw [h]

end Failure

/-- A way in which worlds can be alike, and objects and failures in them, to whoever renders. -/
structure Likeness where
  worlds : World → World → Prop
  objects : World → World → Object → Object → Prop
  failures : Failure.Likeness := .eq
  /-- What is in the log makes no difference. -/
  noted : ∀ {w₁ w₂ : World}, worlds w₁ w₂ → ∀ topic text text',
    worlds (w₁.noting topic text) (w₂.noting topic text')
  asked : ∀ {w₁ w₂ : World}, worlds w₁ w₂ → ∀ code, worlds (w₁.asking code) (w₂.asking code)
  text : ∀ {w₁ w₂ : World}, worlds w₁ w₂ → ∀ s,
    objects w₁ w₂ (.new (.text s)) (.new (.text s))
  tokens : ∀ {w₁ w₂ : World} {o₁ o₂ : Object}, worlds w₁ w₂ → objects w₁ w₂ o₁ o₂ → ∀ na,
    Alongside worlds failures.rel Same (outcome (compute (o₁.value.tokens na)) w₁)
      (outcome (compute (o₂.value.tokens na)) w₂)
  /-- A name stands for the same template, or for nothing, or for the same lack of one. -/
  named : ∀ {w₁ w₂ : World}, worlds w₁ w₂ → ∀ name,
    (w₁.env.get? name).map (fun o => Hook.templateOf o.value) =
      (w₂.env.get? name).map fun o => Hook.templateOf o.value

namespace Likeness

variable (L : Likeness)

/-- Two transforms make objects that are alike of the same code. -/
def Transforms (t₁ t₂ : Transform) : Prop :=
  ∀ {w₁ w₂ : World}, L.worlds w₁ w₂ → ∀ code,
    Alongside L.worlds L.failures.rel L.objects (outcome (t₁ code) w₁) (outcome (t₂ code) w₂)

variable {L} {t₁ t₂ : Transform} {w₁ w₂ : World}

/-! ## Rendering -/

section

variable (h : L.Transforms t₁ t₂) (s : Settings)
include h

theorem together_tokens (hw : L.worlds w₁ w₂) (code : String) (source : Extent) :
    Alongside L.worlds L.failures.rel Same (outcome ((s.renderer t₁).tokens code source) w₁)
      (outcome ((s.renderer t₂).tokens code source) w₂) := by
  refine Alongside.bind (Q := L.objects) ?_ fun hw ho => L.tokens hw ho _
  exact (h hw code).tryCatch fun hw hf => .error hw (L.failures.tag hf ..)

theorem together_columns (segs : List Segment) (hw : L.worlds w₁ w₂) :
    Alongside L.worlds L.failures.rel Same (outcome ((s.renderer t₁).columns segs) w₁)
      (outcome ((s.renderer t₂).columns segs) w₂) := by
  induction segs generalizing w₁ w₂ with
  | nil => exact .ok hw rfl
  | cons seg segs ih =>
    cases seg with
    | literal text => exact (ih hw).bind fun hw hcolumns => .ok hw (congrArg ([text] :: ·) hcolumns)
    | block code source =>
      have htokens := together_tokens h s hw code source
      refine htokens.bind fun {column column' _ _} hw hcolumn => ?_
      obtain rfl : column = column' := hcolumn
      exact (ih hw).bind fun hw hcolumns => .ok hw (congrArg (column :: ·) hcolumns)

theorem together_texts (segs : List Segment) (hw : L.worlds w₁ w₂) :
    Alongside L.worlds L.failures.rel Same (outcome ((s.renderer t₁).texts segs) w₁)
      (outcome ((s.renderer t₂).texts segs) w₂) := by
  rw [Renderer.texts_eq, Renderer.texts_eq]
  exact (together_columns h s segs hw).map fun _ hcolumns => congrArg (List.map _) hcolumns

theorem together_renderer_render (segs : List Segment) (hw : L.worlds w₁ w₂) :
    Alongside L.worlds L.failures.rel Same (outcome ((s.renderer t₁).render segs) w₁)
      (outcome ((s.renderer t₂).render segs) w₂) := by
  rw [Renderer.render, Renderer.render, outcome_bind, outcome_bind, outcome_note, outcome_note]
  refine (together_texts h s segs (L.noted hw ..)).bind fun hw htexts => ?_
  exact .ok hw (congrArg String.join htexts)

theorem together_renderer_renderLines (segs : List Segment) (hw : L.worlds w₁ w₂) :
    Alongside L.worlds L.failures.rel Same (outcome ((s.renderer t₁).renderLines segs) w₁)
      (outcome ((s.renderer t₂).renderLines segs) w₂) := by
  rw [Renderer.renderLines, Renderer.renderLines, outcome_bind, outcome_bind, outcome_note,
    outcome_note]
  refine (together_columns h s segs (L.noted hw ..)).bind
    fun {columns columns' _ _} hw hcolumns => ?_
  obtain rfl : columns = columns' := hcolumns
  have hpolicy : (s.renderer t₁).policy = (s.renderer t₂).policy := rfl
  rw [hpolicy]
  cases Recycling.lines (s.renderer t₂).policy columns with
  | ok => exact .ok hw rfl
  | error refusal => exact .error hw (L.failures.own (.refusal refusal))

/-- A template is rendered to the same text. -/
theorem together_render (template : String) (hw : L.worlds w₁ w₂) :
    Alongside L.worlds L.failures.rel Same (outcome (s.render t₁ template) w₁)
      (outcome (s.render t₂ template) w₂) := by
  cases hpieces : s.pieces template with
  | ok segs =>
    rw [s.outcome_render_of_ok hpieces, s.outcome_render_of_ok hpieces]
    exact together_renderer_render h s segs (L.noted hw ..)
  | error e =>
    rw [s.outcome_render_of_error hpieces, s.outcome_render_of_error hpieces]
    exact .error hw (L.failures.own (.scan e))

/-- A template is rendered to the same lines. -/
theorem together_renderLines (template : String) (hw : L.worlds w₁ w₂) :
    Alongside L.worlds L.failures.rel Same (outcome (s.renderLines t₁ template) w₁)
      (outcome (s.renderLines t₂ template) w₂) := by
  cases hpieces : s.pieces template with
  | ok segs =>
    rw [s.outcome_renderLines_of_ok hpieces, s.outcome_renderLines_of_ok hpieces]
    exact together_renderer_renderLines h s segs (L.noted hw ..)
  | error e =>
    rw [s.outcome_renderLines_of_error hpieces, s.outcome_renderLines_of_error hpieces]
    exact .error hw (L.failures.own (.scan e))

/-- A block that is reached in one of two worlds is reached in the other. -/
theorem reaches {segs : List Segment} (hw : L.worlds w₁ w₂) {code : String} {w₂' : World}
    (hr : (s.renderer t₂).Reaches segs w₂ code w₂') :
    ∃ w₁', (s.renderer t₁).Reaches segs w₁ code w₁' ∧ L.worlds w₁' w₂' := by
  induction hr generalizing w₁ with
  | here => exact ⟨_, .here, hw⟩
  | literal _ ih =>
    obtain ⟨w₁', hr, hw'⟩ := ih hw
    exact ⟨w₁', .literal hr, hw'⟩
  | @block c e rest w₂ v₂ w₂' column code hc _ ih =>
    have htokens := together_tokens h s hw c e
    rw [(s.renderer t₂).outcome_tokens_eq_ok_iff.mpr hc] at htokens
    generalize hdone : outcome ((s.renderer t₁).tokens c e) w₁ = x at htokens
    cases htokens with
    | ok hv _ =>
      obtain ⟨w₁', hr, hw'⟩ := ih hv
      exact ⟨w₁', .block ((s.renderer t₁).outcome_tokens_eq_ok_iff.mp hdone) hr, hw'⟩

end

end Likeness

/-! ## Evaluators and hooks -/

/-- Evaluates the code of a fallback for some code that has failed, with the failure at hand. -/
def Evaluator.evaluateFallback (e : Evaluator) (code : String) (f : Failure) (expr : String) :
    Action Object := do
  let bindings ← Hook.fallbackBindings code f
  within [bindings] (e.evaluate expr)

/-- A fallback is as good in worlds that are alike: a value that stands in for code that has failed
shows the same, and a computation makes objects that are alike. -/
def Fallback.Respects (e : Evaluator) (L : Likeness) : Fallback → Prop
  | .value v => ∀ w₁ w₂, L.worlds w₁ w₂ → L.objects w₁ w₂ (.new v) (.new v)
  | .computation expr => ∀ code f₁ f₂ w₁ w₂, L.failures.rel f₁ f₂ → L.worlds w₁ w₂ →
      Alongside L.worlds L.failures.rel L.objects (outcome (e.evaluateFallback code f₁ expr) w₁)
        (outcome (e.evaluateFallback code f₂ expr) w₂)

namespace Hook

/-- The evaluator of a hook, and its fallback, make objects that are alike of the same code. -/
def Respects (L : Likeness) : Hook → Prop
  | plain e | collapsing _ _ _ _ e => L.Transforms e.evaluate e.evaluate
  | recovering fallback e => L.Transforms e.evaluate e.evaluate ∧ fallback.Respects e L
  | nested _ inner => inner.Respects L

variable {L : Likeness}

theorem transforms_runCollapsing {e : Evaluator} (h : L.Transforms e.evaluate e.evaluate)
    (mark : Pattern) (separator last missing : String) :
    L.Transforms (runCollapsing mark separator last missing e)
      (runCollapsing mark separator last missing e) := by
  intro w₁ w₂ hw code
  rw [runCollapsing]
  split
  · exact h hw code
  · refine (h hw _).bind fun hw ho => (L.tokens hw ho _).bind fun {ts ts' _ _} hw hts => ?_
    obtain rfl : ts = ts' := hts
    exact .ok hw (L.text hw _)

/-- The bindings for a fallback can always be made, so evaluating it can fail only afterwards. -/
theorem outcome_recover_computation (e : Evaluator) (code expr : String) (f reason : Failure)
    (w : World) :
    outcome (recover (.computation expr) e code f reason) w =
      outcome (tryCatch (e.evaluateFallback code f expr) fun second =>
          second.reason?.elim (throw second) fun inner => throw (.of (.fallback expr code inner)))
        (w.noting .hooks ("Substituting fallback for " ++ Text.quoted code ++ ": " ++
          reason.message.getD "")) := by
  have hhandle (second : Failure) : (match second.cause with
        | .evaluation _ inner => throw (.of (.fallback expr code inner))
        | _ => throw second : Action Object) =
      second.reason?.elim (throw second) fun inner => throw (.of (.fallback expr code inner)) := by
    rw [Failure.reason?]
    cases second.cause <;> rfl
  rw [← funext hhandle]
  rfl

theorem runRecovering_eq (fallback : Fallback) (e : Evaluator) (code : String) :
    runRecovering fallback e code =
      tryCatch (e.evaluate code) fun f => f.reason?.elim (throw f) (recover fallback e code f) := by
  rw [runRecovering]
  congr 1
  funext f
  rw [Failure.reason?]
  cases f.cause <;> rfl

theorem transforms_recover {e : Evaluator} {fallback : Fallback} (h : fallback.Respects e L)
    {f₁ f₂ : Failure} (hf : L.failures.rel f₁ f₂) (reason₁ reason₂ : Failure) :
    L.Transforms (fun code => recover fallback e code f₁ reason₁)
      (fun code => recover fallback e code f₂ reason₂) := by
  intro w₁ w₂ hw code
  cases fallback with
  | value v =>
    have hw' := L.noted hw .hooks
      ("Substituting fallback for " ++ Text.quoted code ++ ": " ++ reason₁.message.getD "")
      ("Substituting fallback for " ++ Text.quoted code ++ ": " ++ reason₂.message.getD "")
    exact .ok hw' (h _ _ hw')
  | computation expr =>
    rw [outcome_recover_computation, outcome_recover_computation]
    refine (h code f₁ f₂ _ _ hf (L.noted hw ..)).tryCatch fun {second₁ second₂ _ _} hw hsecond => ?_
    have hreason := L.failures.reason hsecond
    generalize second₁.reason? = inner₁, second₂.reason? = inner₂ at hreason ⊢
    cases hreason with
    | some hinner => exact .error hw (L.failures.fallback hinner expr code)
    | none => exact .error hw hsecond

theorem transforms_runRecovering {e : Evaluator} {fallback : Fallback}
    (h : L.Transforms e.evaluate e.evaluate) (hfallback : fallback.Respects e L) :
    L.Transforms (runRecovering fallback e) (runRecovering fallback e) := by
  intro w₁ w₂ hw code
  rw [runRecovering_eq]
  refine (h hw code).tryCatch fun {f₁ f₂ _ _} hw hf => ?_
  have hreason := L.failures.reason hf
  generalize f₁.reason? = reason₁, f₂.reason? = reason₂ at hreason ⊢
  cases hreason with
  | some => exact transforms_recover hfallback hf _ _ hw code
  | none => exact .error hw hf

/-- Nested hooks render the same templates, so they make the same texts if the hooks inside make
objects that are alike. -/
theorem transforms_run_nested (s : Settings) {inner₁ inner₂ : Hook}
    (h : L.Transforms inner₁.run inner₂.run) :
    L.Transforms (nested s inner₁).run (nested s inner₂).run := by
  intro w₁ w₂ hw code
  have hnamed := L.named hw code
  cases hname₁ : w₁.env.get? code with
  | none =>
    cases hname₂ : w₂.env.get? code with
    | none =>
      rw [outcome_run_nested_of_none hname₁, outcome_run_nested_of_none hname₂]
      exact .error (L.asked hw code) (L.failures.own (.unnamed code))
    | some o₂ => simp [hname₁, hname₂] at hnamed
  | some o₁ =>
    cases hname₂ : w₂.env.get? code with
    | none => simp [hname₁, hname₂] at hnamed
    | some o₂ =>
      have htemplate : templateOf o₁.value = templateOf o₂.value := by
        simpa [hname₁, hname₂] using hnamed
      cases hfound : templateOf o₁.value with
      | ok template =>
        rw [outcome_run_nested hname₁ hfound, outcome_run_nested hname₂ (htemplate ▸ hfound)]
        have hrender := Likeness.together_render h s template (L.asked hw code)
        refine hrender.map fun {text text' _ _} hw htext => ?_
        obtain rfl : text = text' := htext
        exact L.text hw text
      | error f =>
        rw [outcome_run_nested_of_error hname₁ hfound,
          outcome_run_nested_of_error hname₂ (htemplate ▸ hfound)]
        exact .error (L.asked hw code) (L.failures.own (.noTemplate f))

/-- A hook makes objects that are alike of the same code if its evaluator does. -/
theorem transforms_run {hook : Hook} (h : hook.Respects L) : L.Transforms hook.run hook.run := by
  induction hook with
  | plain e => exact h
  | collapsing mark separator last missing e =>
    exact fun hw code => transforms_runCollapsing h mark separator last missing hw code
  | recovering fallback e => exact fun hw code => transforms_runRecovering h.1 h.2 hw code
  | nested s inner ih => exact fun hw code => transforms_run_nested s (ih h) hw code

end Hook

end Splice
