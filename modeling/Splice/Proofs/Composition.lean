import Splice.Evaluator
import Splice.Proofs.Actions

/-!
# What evaluators are made of

Whatever language an evaluator speaks, all that it does is done by a few actions: it computes
something on the streams, looks at what names stand for, defines names, records codes, and fails.
Everything else is how these are put together (`Composed`). So whatever is true of the parts, and
stays true when they are put together, is true of the evaluators.

What a caller's own function does is not known, so nothing is said about that here.
-/

open Splice.Action

namespace Splice

namespace Action

/-- An action that is put together from computations on the streams, looks at what names stand for,
definitions of names, records of codes, and failures. -/
inductive Composed : {α : Type} → Action α → Prop
  | pure {α : Type} (a : α) : Composed (Pure.pure a)
  | throw {α : Type} (f : Failure) : Composed (throw f : Action α)
  | compute {α : Type} (c : Compute α) : Composed (compute c)
  | recordCall (code : String) : Composed (recordCall code)
  | define (name : String) (o : Object) : Composed (define name o)
  | bind {α β : Type} {act : Action α} {next : α → Action β} (hact : Composed act)
    (hnext : ∀ a, Composed (next a)) : Composed (act >>= next)
  | tryCatch {α : Type} {act : Action α} {handle : Failure → Action α} (hact : Composed act)
    (hhandle : ∀ f, Composed (handle f)) : Composed (MonadExcept.tryCatch act handle)
  /-- What is done next goes by what names stand for, and by nothing else in the world. -/
  | names {α : Type} {next : World → Action α} (hnext : ∀ w, Composed (next w))
    (hnames : ∀ w₁ w₂, w₁.env.get? = w₂.env.get? → next w₁ = next w₂) : Composed (get >>= next)

theorem composed_ofExcept {α : Type} (r : Except Failure α) : (ofExcept r : Action α).Composed := by
  cases r with
  | ok a => exact .pure a
  | error f => exact .throw f

theorem composed_forM {α : Type} {f : α → Action Unit} (h : ∀ a, (f a).Composed) (as : List α) :
    (as.forM f).Composed := by
  induction as with
  | nil => exact .pure ()
  | cons a as ih => exact .bind (h a) fun _ => ih

theorem composed_lookup (name : String) : (lookup name).Composed := by
  refine .names (fun w => ?_) fun w₁ w₂ h => by rw [h]
  split
  · exact .pure _
  · exact .throw _

theorem composed_assign (name : String) (o : Object) : (assign name o).Composed :=
  .bind (.compute _) fun _ => .define ..

end Action

theorem Environment.backedBy_congr {env₁ env₂ : Environment} (h : env₁.get? = env₂.get?)
    (globals : Bindings) : env₁.backedBy globals = env₂.backedBy globals :=
  funext fun n => by rw [backedBy, backedBy, h]

theorem Formula.composed_evaluateBy (run : Formula.Runner) (globals : Bindings) (code : String) :
    (Formula.evaluateBy run globals code).Composed := by
  rw [Formula.evaluateBy]
  split
  · exact .throw _
  · refine .names (fun w => .tryCatch ?_ fun _ => .throw _) fun w₁ w₂ h => by
      rw [Environment.backedBy_congr h]
    exact .bind (.compute _) fun _ => .bind (composed_forM (fun _ => .define ..) _) fun _ => .pure _

theorem Filter.composed_evaluate (code : String) : (Filter.evaluate code).Composed := by
  refine .names (fun w => ?_) fun w₁ w₂ h => by simp only [h]
  exact .tryCatch (.compute _) fun _ => .throw _

theorem Answer.composed_give (code : String) (a : Answer) : (a.give code).Composed := by
  cases a with
  | object make => exact .compute make
  | failure f => exact .throw f
  | lookup name => exact composed_lookup name
  | lookupCode => exact composed_lookup code
  | code => exact .pure _
  | display name =>
    exact .bind (composed_lookup name) fun _ => .bind (composed_ofExcept _) fun _ => .pure _
  | assign name make =>
    exact .bind (.compute _) fun o => .bind (composed_assign name o) fun _ => .pure o

/-- All that is prepared in a script has a property. -/
def Script.All (P : Answer → Prop) (s : Script) : Prop :=
  (∀ e ∈ s.answers, P e.2) ∧ P s.otherwise

theorem Script.All.answer {P : Answer → Prop} {s : Script} (h : s.All P) (code : String) :
    P ((s.answers.lookup code).getD s.otherwise) := by
  cases hfound : s.answers.lookup code with
  | none => exact h.2
  | some a =>
    obtain ⟨before, after, happend, -⟩ := List.lookup_eq_some_iff.mp hfound
    exact h.1 (code, a) (by rw [happend]; simp)

/-- What holds of every composed action holds of an evaluator, if it holds of a caller's own
function. -/
theorem Evaluator.evaluate_of_composed {P : Action Object → Prop}
    (hcomposed : ∀ {act : Action Object}, act.Composed → P act) {e : Evaluator}
    (hcustom : ∀ name f, e = .custom name f → ∀ code, P (f code)) (code : String) :
    P (e.evaluate code) := by
  cases e with
  | formula globals => exact hcomposed (Formula.composed_evaluateBy _ globals code)
  | filter => exact hcomposed (Filter.composed_evaluate code)
  | scripted s => exact hcomposed (.bind (.recordCall code) fun _ => Answer.composed_give ..)
  | custom name f => exact hcustom name f rfl code

end Splice
