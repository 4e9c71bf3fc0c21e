import Splice.Proofs.Likeness

/-!
# What has been logged makes no difference

Rendering keeps a log and a record of the codes that were asked for, and never reads either. So in
worlds that have the environment and the streams in common, it comes to the same, to the environment
and the streams afterwards, and all that it adds to the record is the same as well: whatever
relation there was between the two records, there is again, provided that the relation outlasts the
addition of a code to both (`Steady`).

An action of which this is true is `Discreet`. All evaluators of the library are, and so are hooks
with such evaluators. Only an evaluator that is a caller's own function has to be assumed to be.
-/

open Splice.Action

namespace Splice

/-- Two worlds with the same environment and the same streams, and with records in this relation. -/
structure World.AlikeBut (C : List String → List String → Prop) (w₁ w₂ : World) : Prop where
  env : w₁.env = w₂.env
  store : w₁.store = w₂.store
  calls : C w₁.calls w₂.calls

/-- A relation between records that stays when the same code is added to both. -/
def Steady (C : List String → List String → Prop) : Prop :=
  ∀ cs cs', C cs cs' → ∀ code, C (cs ++ [code]) (cs' ++ [code])

namespace World.AlikeBut

variable {C : List String → List String → Prop} {w₁ w₂ : World}

theorem inEnv (h : AlikeBut C w₁ w₂) {env₁ env₂ : Environment} (henv : env₁ = env₂) :
    AlikeBut C (w₁.inEnv env₁) (w₂.inEnv env₂) :=
  ⟨henv, h.store, h.calls⟩

theorem asking (hC : Steady C) (h : AlikeBut C w₁ w₂) (code : String) :
    AlikeBut C (w₁.asking code) (w₂.asking code) :=
  ⟨h.env, h.store, hC _ _ h.calls code⟩

end World.AlikeBut

open World

namespace Action

variable {α β : Type}

/-- An action that neither reads the log nor the record of codes. -/
def Discreet (act : Action α) : Prop :=
  ∀ {C}, Steady C → ∀ {w₁ w₂}, AlikeBut C w₁ w₂ →
    Together (AlikeBut C) Same (outcome act w₁) (outcome act w₂)

theorem discreet_pure (a : α) : (pure a : Action α).Discreet :=
  fun _ _ _ hw => .ok hw rfl

theorem discreet_throw (f : Failure) : (throw f : Action α).Discreet :=
  fun _ _ _ hw => .error hw

theorem discreet_compute (c : Compute α) : (compute c).Discreet := by
  intro C _ w₁ w₂ hw
  rw [outcome_compute, outcome_compute, hw.store]
  have hafter : AlikeBut C { w₁ with store := (c.run.run w₂.store).2 }
      { w₂ with store := (c.run.run w₂.store).2 } := ⟨hw.env, rfl, hw.calls⟩
  cases (c.run.run w₂.store).1 with
  | ok a => exact .ok hafter rfl
  | error f => exact .error hafter

theorem discreet_recordCall (code : String) : (recordCall code).Discreet :=
  fun hC _ _ hw => .ok (hw.asking hC code) rfl

theorem discreet_define (name : String) (o : Object) : (define name o).Discreet := by
  intro C _ w₁ w₂ hw
  by_cases hwritable : w₁.env.Writable
  · rw [outcome_define_of_writable hwritable, outcome_define_of_writable (hw.env ▸ hwritable),
      ← hw.env]
    exact .ok (hw.inEnv rfl) rfl
  · rw [outcome_define_of_not_writable hwritable,
      outcome_define_of_not_writable (hw.env ▸ hwritable)]
    exact .error hw

theorem discreet_bind {act : Action α} {next : α → Action β} (hact : act.Discreet)
    (hnext : ∀ a, (next a).Discreet) : (act >>= next).Discreet := by
  intro C hC w₁ w₂ hw
  refine (hact hC hw).bind fun {a _ _ _} hw ha => ?_
  obtain rfl := ha
  exact hnext a hC hw

theorem discreet_tryCatch {act : Action α} {handle : Failure → Action α} (hact : act.Discreet)
    (hhandle : ∀ f, (handle f).Discreet) : (tryCatch act handle).Discreet :=
  fun hC _ _ hw => (hact hC hw).tryCatch fun {f _ _ _} hw hf => by
    subst hf
    exact hhandle f hC hw

theorem discreet_get {next : World → Action α} (hnext : ∀ w, (next w).Discreet)
    (hnames : ∀ w₁ w₂, w₁.env.get? = w₂.env.get? → next w₁ = next w₂) :
    (get >>= next).Discreet := by
  intro C hC w₁ w₂ hw
  have hsame : next w₁ = next w₂ := hnames w₁ w₂ (by rw [hw.env])
  have hrun (w : World) : outcome (get >>= next) w = outcome (next w) w := rfl
  rw [hrun, hrun, ← hsame]
  exact hnext w₁ hC hw

theorem discreet_within {act : Action α} (h : act.Discreet) (maps : List Bindings) :
    (within maps act).Discreet := by
  intro C hC w₁ w₂ hw
  refine Alongside.within (h hC (hw.inEnv ?_)) (fun hw => hw.inEnv ?_) fun h => h
  · rw [hw.env]
  · rw [hw.env]

/-- What is put together from discreet actions is discreet. -/
theorem Composed.discreet {act : Action α} (h : act.Composed) : act.Discreet := by
  induction h with
  | pure a => exact discreet_pure a
  | throw f => exact discreet_throw f
  | compute c => exact discreet_compute c
  | recordCall code => exact discreet_recordCall code
  | define name o => exact discreet_define name o
  | bind _ _ ihact ihnext => exact discreet_bind ihact ihnext
  | tryCatch _ _ ihact ihhandle => exact discreet_tryCatch ihact ihhandle
  | names _ hnames ihnext => exact discreet_get ihnext hnames

end Action

/-- Worlds that differ in their logs and their records. -/
def Likeness.but (C : List String → List String → Prop) (hC : Steady C) : Likeness where
  worlds := AlikeBut C
  objects _ _ o₁ o₂ := o₁ = o₂
  noted hw _ _ _ := ⟨hw.env, hw.store, hw.calls⟩
  asked hw code := hw.asking hC code
  text _ _ := rfl
  tokens hw ho na := by
    subst ho
    exact discreet_compute _ hC hw
  named hw name := by rw [hw.env]

/-! ## Evaluators and hooks -/

/-- An evaluator that neither reads the log nor the record of codes; a caller's own has to be. -/
def Evaluator.Discreet : Evaluator → Prop
  | custom _ f => ∀ code, (f code).Discreet
  | formula _ | filter | scripted _ => True

theorem Evaluator.discreet_evaluate {e : Evaluator} (h : e.Discreet) (code : String) :
    (e.evaluate code).Discreet :=
  evaluate_of_composed (P := Action.Discreet) Composed.discreet
    (fun _ _ he => by subst he; exact h) code

theorem Evaluator.transforms_but {e : Evaluator} (h : e.Discreet)
    {C : List String → List String → Prop} (hC : Steady C) :
    (Likeness.but C hC).Transforms e.evaluate e.evaluate :=
  fun hw code => e.discreet_evaluate h code hC hw

theorem Fallback.respects_but {e : Evaluator} (h : e.Discreet) (fallback : Fallback)
    {C : List String → List String → Prop} (hC : Steady C) : fallback.Respects e (.but C hC) := by
  cases fallback with
  | value v => exact fun _ _ _ => rfl
  | computation expr =>
    intro code f _ w₁ w₂ hf
    obtain rfl := hf
    exact discreet_bind (discreet_bind (discreet_compute _) fun _ => discreet_pure _)
      (fun bindings => discreet_within (e.discreet_evaluate h expr) [bindings]) hC

namespace Hook

/-- Hooks are discreet if their evaluators are. -/
def Discreet : Hook → Prop
  | plain e | collapsing _ _ _ _ e | recovering _ e => e.Discreet
  | nested _ inner => inner.Discreet

theorem respects_but {hook : Hook} (h : hook.Discreet) {C : List String → List String → Prop}
    (hC : Steady C) : hook.Respects (.but C hC) := by
  induction hook with
  | plain e | collapsing _ _ _ _ e => exact e.transforms_but h hC
  | recovering fallback e => exact ⟨e.transforms_but h hC, fallback.respects_but h hC⟩
  | nested s inner ih => exact ih h

/-- A discreet hook makes the same objects of the same code. -/
theorem transforms_but {hook : Hook} (h : hook.Discreet) {C : List String → List String → Prop}
    (hC : Steady C) : (Likeness.but C hC).Transforms hook.run hook.run :=
  transforms_run (respects_but h hC)

end Hook

/-! ## Transforms -/

/-- Two worlds that differ in their logs at most. -/
abbrev World.SameButLog : World → World → Prop :=
  AlikeBut fun cs cs' => cs = cs'

theorem steady_eq : Steady fun cs cs' => cs = cs' :=
  fun _ _ h code => congrArg (· ++ [code]) h

/-- What is in the log makes no difference. -/
abbrev Likeness.unlogged : Likeness :=
  .but (fun cs cs' => cs = cs') steady_eq

/-- A transform that does not read the log: in worlds that differ in their logs only, it makes the
same object of a code or fails with the same failure, and leaves such worlds. -/
def Transform.IgnoresLog (t : Transform) : Prop :=
  ∀ {w₁ w₂ : World}, SameButLog w₁ w₂ → ∀ code,
    Together SameButLog Same (outcome (t code) w₁) (outcome (t code) w₂)

namespace Transform

theorem ignoresLog_of_discreet {t : Transform} (h : ∀ code, (t code).Discreet) : t.IgnoresLog :=
  fun hw code => h code steady_eq hw

/-- No hook reads the log, if its evaluators do not. -/
theorem ignoresLog_run {hook : Hook} (h : hook.Discreet) : IgnoresLog hook.run :=
  Hook.transforms_but h steady_eq

end Transform

end Splice
