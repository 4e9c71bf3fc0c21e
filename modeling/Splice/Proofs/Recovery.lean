import Splice.Proofs.Likeness
import Splice.Proofs.Persistence

/-!
# Fallbacks for code that fails

A recovering hook evaluates code, and puts a fallback in the place of code that fails to evaluate. A
fallback can be code itself, which is evaluated where `code` and `error` stand for what has failed
and for the failure, and can fail in its turn. `Recovers` lists all that may come of it: there is a
case for every way in which the two evaluations can end, and none of them ends in the failure of an
evaluation.

The code of a fallback runs in an environment that was entered. If an evaluator only ever changes
the innermost layer of the environment at hand (`Evaluator.Confined`), all that it changes there is
a fresh layer, and the environment is left as the code that failed has left it. Evaluators of the
library leave it as it was when they fail (`Evaluator.OfLibrary.tidy`), because writing names is the
last thing that they do, and that fails at the first name or not at all.
-/

open Splice.Action

namespace Splice

/-! ## Failures to evaluate code -/

theorem Fault.kind_ne_evaluationError (f : Fault) : f.kind ≠ .evaluationError := by
  cases f with
  | noWholePart infinite => cases infinite <;> simp [kind]
  | pattern f => cases f <;> simp [kind, PatternFault.kind]
  | undefined why => cases why <;> simp [kind, Missing.kind]
  | _ => simp [kind]

theorem PlainKind.kind_ne_evaluationError (k : PlainKind) : k.kind ≠ .evaluationError := by
  intro h
  have hplain := k.plain
  rw [h] at hplain
  cases hplain

/-- A failure to evaluate code. -/
def Failure.OfEvaluation (f : Failure) : Prop :=
  f.kind = .evaluationError

/-- A failure to evaluate code knows the code and the reason. -/
theorem Failure.ofEvaluation_iff {f : Failure} :
    f.OfEvaluation ↔ ∃ code reason, f.cause = .evaluation code reason := by
  rw [OfEvaluation, kind]
  cases f.cause with
  | fault fault => simp [Cause.kind, fault.kind_ne_evaluationError]
  | misuse m => cases m <;> simp [Cause.kind, Misuse.kind]
  | malformed w => cases w <;> simp [Cause.kind, Malformed.kind]
  | raised k message => simp [Cause.kind, k.kind_ne_evaluationError]
  | evaluation code reason => simp [Cause.kind]
  | missingKey | invalidOptions | unmatched | nesting | fallback | recycling => simp [Cause.kind]

/-! ## Actions that fail without a trace -/

namespace Action

variable {α β : Type}

/-- An action that leaves the environment as it was. -/
def Reading (act : Action α) : Prop :=
  ∀ w, (outcome act w).2.env = w.env

/-- An action that leaves the environment as it was if it fails. -/
def Tidy (act : Action α) : Prop :=
  ∀ ⦃w w' : World⦄ ⦃f : Failure⦄, outcome act w = (.error f, w') → w'.env = w.env

theorem Reading.tidy {act : Action α} (h : act.Reading) : act.Tidy := by
  intro w w' f hfails
  have henv := h w
  rwa [hfails] at henv

theorem reading_lookup (name : String) : (lookup name).Reading := by
  intro w
  cases h : w.env.get? name with
  | none => rw [outcome_lookup_of_none h]
  | some o => rw [outcome_lookup h]

theorem reading_ofExcept (r : Except Failure α) : (ofExcept r : Action α).Reading := by
  cases r <;> exact fun _ => rfl

theorem tidy_bind {act : Action α} {next : α → Action β} (hact : act.Reading)
    (hnext : ∀ a, (next a).Tidy) : (act >>= next).Tidy := by
  intro w w' f h
  obtain h | ⟨a, w₁, ha, h⟩ := outcome_bind_eq_error_iff.mp h
  · exact hact.tidy h
  · have henv := hact w
    rw [ha] at henv
    exact (hnext a h).trans henv

/-- Nothing fails after the names have been assigned. -/
theorem tidy_bind_pure {act : Action α} (h : act.Tidy) (g : α → β) :
    (act >>= fun a => pure (g a)).Tidy := by
  intro w w' f hfails
  obtain hfails | ⟨a, w₁, -, hfails⟩ := outcome_bind_eq_error_iff.mp hfails
  · exact h hfails
  · cases hfails

theorem tidy_tryCatch_throw {act : Action α} (h : act.Tidy) (g : Failure → Failure) :
    (tryCatch act fun f => throw (g f)).Tidy := by
  intro w w' f hfails
  rw [outcome_tryCatch] at hfails
  split at hfails
  · cases hfails
  · rename_i hact
    cases hfails
    exact h hact

/-- Either every name can be defined or not even the first one can. -/
theorem tidy_forM_define (es : List (String × Object)) :
    (es.forM fun e => define e.1 e.2).Tidy := by
  intro w w' f h
  by_cases hw : w.env.Writable
  · rw [Formula.outcome_forM_define es w hw] at h
    cases h
  · cases es with
    | nil => cases h
    | cons e es =>
      rw [List.forM_eq_forM, List.forM_cons, outcome_bind, outcome_define_of_not_writable hw] at h
      cases h
      rfl

theorem tidy_define (name : String) (o : Object) : (define name o).Tidy := by
  intro w w' f h
  by_cases hw : w.env.Writable
  · rw [outcome_define_of_writable hw] at h
    cases h
  · rw [outcome_define_of_not_writable hw] at h
    cases h
    rfl

end Action

/-! ## Evaluators -/

theorem Formula.tidy_evaluate (globals : Bindings) (code : String) :
    (Formula.evaluate globals code).Tidy := by
  rw [evaluate, evaluateBy]
  split
  · exact Reading.tidy fun _ => rfl
  · refine tidy_bind (fun _ => rfl) fun w => tidy_tryCatch_throw ?_ _
    exact tidy_bind (fun _ => rfl) fun _ => tidy_bind_pure (tidy_forM_define _) _

theorem Filter.tidy_evaluate (code : String) : (Filter.evaluate code).Tidy :=
  tidy_bind (fun _ => rfl) fun _ => tidy_tryCatch_throw (Reading.tidy fun _ => rfl) _

theorem Answer.tidy_give (code : String) (a : Answer) : (a.give code).Tidy := by
  cases a with
  | object make => exact Reading.tidy fun _ => rfl
  | failure f => exact Reading.tidy fun _ => rfl
  | lookup name => exact (reading_lookup name).tidy
  | lookupCode => exact (reading_lookup code).tidy
  | code => exact Reading.tidy fun _ => rfl
  | display name =>
    exact tidy_bind (reading_lookup name) fun _ => tidy_bind_pure (reading_ofExcept _).tidy _
  | assign name make =>
    refine tidy_bind (fun _ => rfl) fun o => tidy_bind_pure ?_ _
    exact tidy_bind (fun _ => rfl) fun _ => tidy_define ..

namespace Evaluator

/-- An evaluator that changes the innermost layer of the environment at most, as assignments do. -/
def Confined (e : Evaluator) : Prop :=
  ∀ code, (e.evaluate code).Confined

/-- The evaluators that are no function of a caller's. -/
def OfLibrary : Evaluator → Prop
  | custom .. => False
  | formula _ | filter | scripted _ => True

theorem Nominal.confined {e : Evaluator} (h : e.Nominal) : e.Confined :=
  fun code => (nominal_evaluate h code).confined

theorem OfLibrary.confined {e : Evaluator} (h : e.OfLibrary) : e.Confined := by
  cases e with
  | custom => exact h.elim
  | formula | filter | scripted => exact Nominal.confined trivial

/-- Evaluators of the library leave the environment as it was when they fail. -/
theorem OfLibrary.tidy {e : Evaluator} (h : e.OfLibrary) (code : String) :
    (e.evaluate code).Tidy := by
  cases e with
  | custom => exact h.elim
  | formula globals => exact Formula.tidy_evaluate globals code
  | filter => exact Filter.tidy_evaluate code
  | scripted s => exact tidy_bind (fun _ => rfl) fun _ => Answer.tidy_give code _

end Evaluator

namespace Hook

/-! ## What may come of it -/

/-- The world `w'` in which the code of a fallback is evaluated, after some code has failed with `f`
and left the world `w`. -/
structure FallbackWorld (code : String) (f : Failure) (w w' : World) : Prop where
  code : ∃ o, w'.env.get? "code" = some o ∧ o.value = .text code
  error : ∃ o, w'.env.get? "error" = some o ∧ o.value = .failure f
  others : ∀ name, name ≠ "code" → name ≠ "error" → w'.env.get? name = w.env.get? name
  /-- Names can be assigned, even where they could not before. -/
  writable : w'.env.Writable
  /-- One more object has a number, which is the failure. -/
  store : w'.store = { w.store with objects := w.store.objects + 1 }
  calls : w'.calls = w.calls
  notices : ∃ notice, w'.notices = w.notices ++ [notice]

/-- What may come of code that has a fallback, in a world. -/
inductive Recovers (fallback : Fallback) (e : Evaluator) (code : String) (w : World) :
    Except Failure Object × World → Prop
  /-- The code has a value. -/
  | evaluated {o : Object} {w₁ : World} (h : outcome (e.evaluate code) w = (.ok o, w₁)) :
    Recovers fallback e code w (.ok o, w₁)
  /-- Something fails that is no failure to evaluate code. -/
  | passed {f : Failure} {w₁ : World} (h : outcome (e.evaluate code) w = (.error f, w₁))
    (hf : ¬ f.OfEvaluation) : Recovers fallback e code w (.error f, w₁)
  /-- A value takes the place of the code. Nothing else is done, but it is noted in the log. -/
  | substituted {v : Value} {f : Failure} {w₁ : World} (hfallback : fallback = .value v)
    (h : outcome (e.evaluate code) w = (.error f, w₁)) (hf : f.OfEvaluation) (notice : String) :
    Recovers fallback e code w (.ok (.new v), w₁.noting .hooks notice)
  /-- The code of the fallback has a value. -/
  | computed {expr : String} {f : Failure} {w₁ w₂ w₃ : World} {o : Object}
    (hfallback : fallback = .computation expr)
    (h : outcome (e.evaluate code) w = (.error f, w₁)) (hf : f.OfEvaluation)
    (hw : FallbackWorld code f w₁ w₂) (hexpr : outcome (e.evaluate expr) w₂ = (.ok o, w₃)) :
    Recovers fallback e code w (.ok o, w₃.inEnv w₁.env)
  /-- The code of the fallback fails to evaluate as well. -/
  | failed {expr inner : String} {f second reason : Failure} {w₁ w₂ w₃ : World}
    (hfallback : fallback = .computation expr)
    (h : outcome (e.evaluate code) w = (.error f, w₁)) (hf : f.OfEvaluation)
    (hw : FallbackWorld code f w₁ w₂) (hexpr : outcome (e.evaluate expr) w₂ = (.error second, w₃))
    (hsecond : second.cause = .evaluation inner reason) :
    Recovers fallback e code w (.error (.of (.fallback expr code reason)), w₃.inEnv w₁.env)
  /-- Something else fails while the code of the fallback is evaluated. -/
  | broken {expr : String} {f second : Failure} {w₁ w₂ w₃ : World}
    (hfallback : fallback = .computation expr)
    (h : outcome (e.evaluate code) w = (.error f, w₁)) (hf : f.OfEvaluation)
    (hw : FallbackWorld code f w₁ w₂) (hexpr : outcome (e.evaluate expr) w₂ = (.error second, w₃))
    (hsecond : ¬ second.OfEvaluation) :
    Recovers fallback e code w (.error second, w₃.inEnv w₁.env)

namespace Recovers

variable {fallback : Fallback} {e : Evaluator} {code : String} {w w' : World}

/-- No code that has a fallback fails to evaluate. -/
theorem not_ofEvaluation {f : Failure} (h : Recovers fallback e code w (.error f, w')) :
    ¬ f.OfEvaluation := by
  cases h with
  | passed _ hf => exact hf
  | failed => simp [Failure.OfEvaluation, Failure.kind, Failure.of, Cause.kind]
  | broken _ _ _ _ _ hsecond => exact hsecond

/-- A fallback leaves the environment as the code has left it. -/
theorem env_eq {r : Except Failure Object} (h : Recovers fallback e code w (r, w')) :
    w'.env = (outcome (e.evaluate code) w).2.env := by
  cases h with
  | evaluated h | passed h _ => rw [h]
  | substituted _ h | computed _ h | failed _ h | broken _ h =>
    rw [h]
    rfl

end Recovers

/-! ## What comes of it -/

/-- The code of a fallback is evaluated in an environment that was entered, and that is left. -/
theorem outcome_evaluateFallback {e : Evaluator} (h : e.Confined) (code expr : String) (f : Failure)
    (w : World) (notice : String) :
    ∃ w₂, FallbackWorld code f w w₂ ∧
      outcome (e.evaluateFallback code f expr) (w.noting .hooks notice) =
        let (result, w₃) := outcome (e.evaluate expr) w₂
        (result, w₃.inEnv w.env) := by
  -- the failure gets its number before the environment is entered
  let error : Object := ⟨.failure f, .made w.store.objects⟩
  let bindings : Bindings := [("code", error.part "code" (.text code)), ("error", error)]
  let w₁ : World :=
    { w.noting .hooks notice with store := { w.store with objects := w.store.objects + 1 } }
  refine ⟨w₁.inEnv (w₁.env.enter [bindings]), ?_, (h expr).outcome_within [bindings] w₁⟩
  exact {
    code := ⟨_, rfl, rfl⟩
    error := ⟨_, rfl, rfl⟩
    others := fun name hcode herror => by
      rw [World.inEnv, Environment.get?_enter]
      simp [bindings, hcode, herror]
      rfl
    writable := trivial
    store := rfl
    calls := rfl
    notices := ⟨_, rfl⟩ }

theorem recovers_recover {fallback : Fallback} {e : Evaluator} (he : e.Confined)
    {code inner : String} {f reason : Failure} {w w₁ : World}
    (h : outcome (e.evaluate code) w = (.error f, w₁)) (hf : f.cause = .evaluation inner reason) :
    Recovers fallback e code w (outcome (recover fallback e code f reason) w₁) := by
  have hf : f.OfEvaluation := Failure.ofEvaluation_iff.mpr ⟨_, _, hf⟩
  cases fallback with
  | value v => exact .substituted rfl h hf _
  | computation expr =>
    rw [outcome_recover_computation, outcome_tryCatch]
    obtain ⟨w₂, hw₂, hexpr⟩ := outcome_evaluateFallback he code expr f w₁ _
    rw [hexpr]
    rcases hresult : outcome (e.evaluate expr) w₂ with ⟨second | o, w₃⟩
    · cases hsecond : second.reason? with
      | some inner =>
        obtain ⟨_, hcause⟩ := Failure.reason?_eq_some_iff.mp hsecond
        simp only [hsecond]
        exact .failed rfl h hf hw₂ hresult hcause
      | none =>
        simp only [hsecond]
        refine .broken rfl h hf hw₂ hresult fun hof => ?_
        obtain ⟨_, inner, hcause⟩ := Failure.ofEvaluation_iff.mp hof
        rw [Failure.reason?_eq_some_iff.mpr ⟨_, hcause⟩] at hsecond
        cases hsecond
    · exact .computed rfl h hf hw₂ hresult

theorem recovers_runRecovering (fallback : Fallback) {e : Evaluator} (he : e.Confined)
    (code : String) (w : World) :
    Recovers fallback e code w (outcome (runRecovering fallback e code) w) := by
  rw [runRecovering, outcome_tryCatch]
  rcases h : outcome (e.evaluate code) w with ⟨f | o, w₁⟩
  · simp only
    split
    · exact recovers_recover he h ‹_›
    · rename_i hf
      refine .passed h fun hof => ?_
      obtain ⟨_, _, hcause⟩ := Failure.ofEvaluation_iff.mp hof
      exact hf _ _ hcause
  · exact .evaluated h

/-- A recovering hook gives the value of the code, or what its fallback comes to where the code
fails to evaluate. Whatever the fallback does, no failure to evaluate comes out, and the environment
is left as the code has left it; if an evaluator of the library has failed, that is as it was. -/
theorem run_recovers (fallback : Fallback) {e : Evaluator} (he : e.Confined) (code : String)
    (w : World) :
    let ran := outcome ((recovering fallback e).run code) w
    Recovers fallback e code w ran ∧ (∀ f, ran.1 = .error f → ¬ f.OfEvaluation) ∧
      ran.2.env = (outcome (e.evaluate code) w).2.env ∧
      (e.OfLibrary → ∀ f w₁, outcome (e.evaluate code) w = (.error f, w₁) →
        ran.2.env = w.env) := by
  intro ran
  have hran : Recovers fallback e code w ran := recovers_runRecovering fallback he code w
  refine ⟨hran, fun f hf => ?_, hran.env_eq, fun hlibrary f w₁ hfails => ?_⟩
  · have hfailed : ran = (.error f, ran.2) := by rw [← hf]
    exact (hfailed ▸ hran).not_ofEvaluation
  · have henv := hran.env_eq
    rw [hfails] at henv
    exact henv.trans (hlibrary.tidy code hfails)

/-- An assignment fails because the environment takes none. The code of the fallback assigns the
same name and reads it again, along with the code that failed. -/
theorem run_recovers_assignment :
    let e : Evaluator := .formula []
    let ran (expr : String) (w : World) : Except Failure Object × World :=
      outcome ((recovering (.computation expr) e).run "x := 1") w
    let w : World := .new (.fixed [("x", .new (.text "a")), ("code", .new .null)]) .empty
    let shown (r : Except Failure Object) : Option String :=
      (r.bind fun o => o.value.display).toOption
    e.Confined ∧ shown (outcome (e.evaluate "x := 1") w).1 = none ∧
      shown (ran "[x := code + error.code, x][1]" w).1 = some "x := 1x := 1" ∧
      (ran "[x := code + error.code, x][1]" w).2.env = w.env ∧
      (∀ f, (ran "[x := 2, y][1]" w).1 = .error f → ¬ f.OfEvaluation) ∧
      (ran "[x := 2, y][1]" w).2.env = w.env := by
  intro e ran w shown
  have hlibrary : e.OfLibrary := trivial
  have hisOk : (outcome (e.evaluate "x := 1") w).1.isOk = false := by decide +kernel
  obtain ⟨f, w₁, hfails⟩ : ∃ f w₁, outcome (e.evaluate "x := 1") w = (.error f, w₁) := by
    rcases h : outcome (e.evaluate "x := 1") w with ⟨f | o, w₁⟩
    · exact ⟨f, w₁, rfl⟩
    · rw [h] at hisOk
      cases hisOk
  have hrecovers (expr : String) :=
    run_recovers (.computation expr) hlibrary.confined "x := 1" w
  have henv (expr : String) : (ran expr w).2.env = w.env :=
    (hrecovers expr).2.2.2 hlibrary f w₁ hfails
  exact ⟨hlibrary.confined, by decide +kernel, by decide +kernel, henv _, (hrecovers _).2.1, henv _⟩

end Hook

end Splice
