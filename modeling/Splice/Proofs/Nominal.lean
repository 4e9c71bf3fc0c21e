import Splice.Proofs.Assembly
import Splice.Proofs.Composition
import Splice.Proofs.Front

/-!
# Names are all that counts

Rendering looks names up and gives names new values; it never gets to see in which layers the names
of an environment are kept. So worlds in which names stand for the same (`World.Alike`) cannot be
told apart by anything that happens in them, and since every assignment goes to the innermost layer,
nothing that happens changes any other. An action of which both are true is `Nominal`.

Being nominal goes from the parts of an action to the whole, by one lemma for each way to put
actions together. So evaluators are nominal because of what they are made of, and hooks, renderers
and splicers are. Only an evaluator that is a caller's own function has to be assumed to be.
-/

open Splice.Action

namespace Splice

/-! ## Environments and worlds that are alike -/

/-- Two environments in which names stand for the same, and which both take assignments or both do
not. -/
structure Environment.Alike (env₁ env₂ : Environment) : Prop where
  names : env₁.get? = env₂.get?
  writable : env₁.Writable ↔ env₂.Writable

namespace Environment.Alike

variable {env₁ env₂ : Environment}

theorem enter (h : env₁.Alike env₂) (maps : List Bindings) :
    (env₁.enter maps).Alike (env₂.enter maps) where
  names := funext fun n => by rw [get?_enter, get?_enter, h.names]
  writable := by simp

theorem put (h : env₁.Alike env₂) (hw : env₁.Writable) (name : String) (o : Object) :
    (env₁.withFront (env₁.front.put name o)).Alike
      (env₂.withFront (env₂.front.put name o)) where
  names := funext fun n => by
    rw [get?_assign (assign_eq_ok hw name o), get?_assign (assign_eq_ok (h.writable.mp hw) name o),
      h.names]
  writable := by simpa using h.writable

end Environment.Alike

/-- Two worlds that differ at most in how the names of their environments are layered. -/
structure World.Alike (w₁ w₂ : World) : Prop where
  env : w₁.env.Alike w₂.env
  store : w₁.store = w₂.store
  calls : w₁.calls = w₂.calls
  notices : w₁.notices = w₂.notices

/-- A world with another environment. -/
def World.inEnv (env : Environment) (w : World) : World :=
  { w with env }

/-- A world is alike in environments that are. -/
theorem World.Alike.ofEnv (w : World) {env₁ env₂ : Environment} (h : env₁.Alike env₂) :
    (w.inEnv env₁).Alike (w.inEnv env₂) :=
  ⟨h, rfl, rfl, rfl⟩

/-- Worlds that are alike stay so when they get environments that are alike. -/
theorem World.Alike.inEnv {w₁ w₂ : World} (h : w₁.Alike w₂) {env₁ env₂ : Environment}
    (henv : env₁.Alike env₂) : (w₁.inEnv env₁).Alike (w₂.inEnv env₂) :=
  ⟨henv, h.store, h.calls, h.notices⟩

/-- Worlds that are alike only differ in their environments. -/
theorem World.Alike.inEnv_eq {w₁ w₂ : World} (h : w₁.Alike w₂) (env : Environment) :
    w₁.inEnv env = w₂.inEnv env := by
  rcases w₁ with ⟨env₁, store, calls, notices⟩
  obtain ⟨-, rfl, rfl, rfl⟩ := h
  rfl

/-! ## Actions that only deal in names -/

namespace Action

variable {α β : Type}

/-- An action comes to the same in two worlds, and leaves them alike. -/
structure AlikeIn (act : Action α) (w₁ w₂ : World) : Prop where
  result : (outcome act w₁).1 = (outcome act w₂).1
  after : (outcome act w₁).2.Alike (outcome act w₂).2

/-- An action that changes the innermost layer of its environment at most. -/
def Confined (act : Action α) : Prop :=
  ∀ w, ∃ front, (outcome act w).2.env = w.env.withFront front

/-- An action that changes the innermost layer of its environment at most, and does not tell worlds
apart that are alike. -/
structure Nominal (act : Action α) : Prop where
  confined : ∀ w, ∃ front, (outcome act w).2.env = w.env.withFront front
  alike : ∀ {w₁ w₂ : World}, w₁.Alike w₂ → act.AlikeIn w₁ w₂

/-- What leaves the environment as it is changes no layer. -/
theorem confined_of_env_eq {act : Action α} {w : World} (h : (outcome act w).2.env = w.env) :
    ∃ front, (outcome act w).2.env = w.env.withFront front :=
  ⟨w.env.front, h.trans (Environment.withFront_front _).symm⟩

theorem nominal_pure (a : α) : (pure a : Action α).Nominal where
  confined _ := confined_of_env_eq rfl
  alike h := ⟨rfl, h⟩

theorem nominal_throw (f : Failure) : (throw f : Action α).Nominal where
  confined _ := confined_of_env_eq rfl
  alike h := ⟨rfl, h⟩

theorem nominal_compute (c : Compute α) : (compute c).Nominal where
  confined _ := confined_of_env_eq rfl
  alike h := by
    constructor
    · rw [outcome_compute, outcome_compute, h.store]
    · rw [outcome_compute, outcome_compute, h.store]
      exact ⟨h.env, rfl, h.calls, h.notices⟩

theorem nominal_note (topic : Topic) (text : String) : (note topic text).Nominal where
  confined _ := confined_of_env_eq rfl
  alike h := ⟨rfl, h.env, h.store, h.calls, congrArg (· ++ _) h.notices⟩

theorem nominal_recordCall (code : String) : (recordCall code).Nominal where
  confined _ := confined_of_env_eq rfl
  alike h := ⟨rfl, h.env, h.store, congrArg (· ++ _) h.calls, h.notices⟩

theorem nominal_define (name : String) (o : Object) : (define name o).Nominal where
  confined w := by
    by_cases hw : w.env.Writable
    · rw [outcome_define_of_writable hw]
      exact ⟨_, rfl⟩
    · exact confined_of_env_eq (by rw [outcome_define_of_not_writable hw])
  alike {w₁ w₂} h := by
    by_cases hw : w₁.env.Writable
    · have hdone := outcome_define_of_writable hw name o
      have hdone' := outcome_define_of_writable (h.env.writable.mp hw) name o
      exact ⟨by rw [hdone, hdone'], by
        rw [hdone, hdone']
        exact ⟨h.env.put hw name o, h.store, h.calls, h.notices⟩⟩
    · have hdone := outcome_define_of_not_writable hw name o
      have hdone' := outcome_define_of_not_writable (hw ∘ h.env.writable.mpr) name o
      exact ⟨by rw [hdone, hdone'], by rw [hdone, hdone']; exact h⟩

/-! ### Putting actions together -/

/-- An action that goes on from what another has come to, whether that is a result or a failure. -/
theorem Nominal.followed {act : Action α} {both : Action β} (hact : act.Nominal)
    (next : Except Failure α → Action β) (hnext : ∀ r, (next r).Nominal)
    (hboth : ∀ w, outcome both w = outcome (next (outcome act w).1) (outcome act w).2) :
    both.Nominal where
  confined w := by
    obtain ⟨front, hfront⟩ := hact.confined w
    obtain ⟨front', hfront'⟩ := (hnext (outcome act w).1).confined (outcome act w).2
    -- whatever the first part has put in front, the second starts from the same layers behind it
    rw [hfront, Environment.withFront_withFront] at hfront'
    exact ⟨front', by rw [hboth, hfront']⟩
  alike {w₁ w₂} h := by
    have hfirst := hact.alike h
    have hthen := (hnext (outcome act w₁).1).alike hfirst.after
    constructor
    · rw [hboth, hboth, hthen.result, hfirst.result]
    · rw [hboth, hboth, ← hfirst.result]
      exact hthen.after

theorem nominal_bind {act : Action α} {next : α → Action β} (hact : act.Nominal)
    (hnext : ∀ a, (next a).Nominal) : (act >>= next).Nominal := by
  refine hact.followed (fun r => r.casesOn throw next) ?_ fun w => ?_
  · rintro (f | a)
    · exact nominal_throw f
    · exact hnext a
  · rw [outcome_bind]
    rcases outcome act w with ⟨_ | _, _⟩ <;> rfl

theorem nominal_tryCatch {act : Action α} {handle : Failure → Action α} (hact : act.Nominal)
    (hhandle : ∀ f, (handle f).Nominal) : (tryCatch act handle).Nominal := by
  refine hact.followed (fun r => r.casesOn handle pure) ?_ fun w => ?_
  · rintro (f | a)
    · exact hhandle f
    · exact nominal_pure a
  · rw [outcome_tryCatch]
    rcases outcome act w with ⟨_ | _, _⟩ <;> rfl

/-- What is done after a look at the world, if all that it goes by is what names stand for. -/
theorem nominal_get {next : World → Action α} (hnext : ∀ w, (next w).Nominal)
    (hnames : ∀ w₁ w₂, w₁.env.get? = w₂.env.get? → next w₁ = next w₂) :
    (get >>= next).Nominal where
  confined w := (hnext w).confined w
  alike {w₁ w₂} h := by
    have hrun (w : World) : outcome (get >>= next) w = outcome (next w) w := rfl
    -- the two worlds are different, but what is done next is the same action in both
    have hthen := (hnext w₁).alike h
    constructor
    · rw [hrun, hrun, ← hnames w₁ w₂ h.env.names, hthen.result]
    · rw [hrun, hrun, ← hnames w₁ w₂ h.env.names]
      exact hthen.after

theorem outcome_within (maps : List Bindings) (act : Action α) (w : World) :
    outcome (within maps act) w =
      let (result, w') := outcome act (w.inEnv (w.env.enter maps))
      (result, w'.inEnv w'.env.leave) :=
  rfl

/-- What is done behind fresh layers leaves the environment as it was. -/
theorem Confined.outcome_within {act : Action α} (h : act.Confined) (maps : List Bindings)
    (w : World) :
    outcome (within maps act) w =
      let (result, w') := outcome act (w.inEnv (w.env.enter maps))
      (result, w'.inEnv w.env) := by
  -- the layer that may have changed is the fresh one, and leaving takes that away
  obtain ⟨front, hfront⟩ := h (w.inEnv (w.env.enter maps))
  rw [Action.outcome_within]
  simp only [hfront]
  rfl

theorem Nominal.outcome_within {act : Action α} (h : act.Nominal) (maps : List Bindings)
    (w : World) :
    outcome (within maps act) w =
      let (result, w') := outcome act (w.inEnv (w.env.enter maps))
      (result, w'.inEnv w.env) :=
  Confined.outcome_within h.confined maps w

theorem nominal_within {act : Action α} (h : act.Nominal) (maps : List Bindings) :
    (within maps act).Nominal where
  confined w := confined_of_env_eq (by rw [h.outcome_within]; rfl)
  alike {w₁ w₂} hw := by
    have hinside := h.alike (hw.inEnv (hw.env.enter maps))
    constructor
    · rw [h.outcome_within, h.outcome_within]
      exact hinside.result
    · rw [h.outcome_within, h.outcome_within]
      exact hinside.after.inEnv hw.env

/-- What is put together from actions that only deal in names does so as well. -/
theorem Composed.nominal {act : Action α} (h : act.Composed) : act.Nominal := by
  induction h with
  | pure a => exact nominal_pure a
  | throw f => exact nominal_throw f
  | compute c => exact nominal_compute c
  | recordCall code => exact nominal_recordCall code
  | define name o => exact nominal_define name o
  | bind _ _ ihact ihnext => exact nominal_bind ihact ihnext
  | tryCatch _ _ ihact ihhandle => exact nominal_tryCatch ihact ihhandle
  | names _ hnames ihnext => exact nominal_get ihnext hnames

/-- What is put together from nominal evaluations is nominal. -/
theorem Assembled.nominal {act : Action α} (h : act.Assembled Nominal) : act.Nominal := by
  induction h with
  | evaluation h => exact h
  | pure a => exact nominal_pure a
  | throw f => exact nominal_throw f
  | tokens v na => exact nominal_compute _
  | held o => exact nominal_compute _
  | note topic text => exact nominal_note topic text
  | recordCall code => exact nominal_recordCall code
  | lookup name => exact (composed_lookup name).nominal
  | bind _ _ ihact ihnext => exact nominal_bind ihact ihnext
  | tryCatch _ _ ihact ihhandle => exact nominal_tryCatch ihact ihhandle
  | within maps _ ih => exact nominal_within ih maps

end Action

/-! ## Evaluators -/

namespace Evaluator

/-- Evaluators only deal in names; a caller's own has to. -/
def Nominal : Evaluator → Prop
  | custom _ f => ∀ code, (f code).Nominal
  | formula _ | filter | scripted _ => True

theorem nominal_evaluate {e : Evaluator} (h : e.Nominal) (code : String) :
    (e.evaluate code).Nominal :=
  evaluate_of_composed Composed.nominal (fun _ _ he => by subst he; exact h) code

end Evaluator

/-- A hook only deals in names if its evaluator does. -/
def Hook.Nominal : Hook → Prop
  | plain e | collapsing _ _ _ _ e | recovering _ e => e.Nominal
  | nested _ inner => inner.Nominal

theorem Hook.Nominal.evaluator {hook : Hook} (h : hook.Nominal) : hook.evaluator.Nominal := by
  induction hook with
  | plain | collapsing | recovering => exact h
  | nested s inner ih => exact ih h

/-! ## Rendering -/

theorem Renderer.nominal_tokens {r : Renderer} (h : ∀ code, (r.transform code).Nominal)
    (code : String) (source : Extent) : (r.tokens code source).Nominal :=
  (r.assembled_tokens (fun code => .evaluation (h code)) code source).nominal

/-- Reading a template leaves the environment as it is. -/
theorem Settings.env_segments (s : Settings) {template : String} {w w' : World}
    {segs : List Segment} (h : outcome (s.segments template) w = (.ok segs, w')) :
    w.env = w'.env := by
  rw [segments, Delimiters.segments] at h
  split at h
  · cases h
    rfl
  · cases h

theorem Hook.nominal_run {hook : Hook} (h : hook.Nominal) (code : String) :
    (hook.run code).Nominal :=
  (assembled_run (Evaluator.nominal_evaluate h.evaluator) code).nominal

namespace Splicer

variable {s : Splicer} (h : s.hook.Nominal) (template : String)
include h

theorem nominal_render : (s.render template).Nominal :=
  (assembled_render (Evaluator.nominal_evaluate h.evaluator) template).nominal

theorem nominal_renderLines : (s.renderLines template).Nominal :=
  (assembled_renderLines (Evaluator.nominal_evaluate h.evaluator) template).nominal

end Splicer

end Splice
