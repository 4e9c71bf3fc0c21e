import Splice.Proofs.Renumbering.Filters
import Splice.Proofs.Renumbering.Worlds

/-!
# Hooks that depend on code and environment only

What a hook makes of a code can depend on what has happened before in three ways: through the names
that have been assigned, which the environment shows, through items that have been taken out of
streams, and through the numbers that objects have. A hook is `Determined` if numbers make no
difference to it. Then it makes the same of a code in worlds that are the same but for the numbers
(`Hook.Determined.respects`).

Formulas and filter expressions cannot ask for numbers, so evaluators for them are determined, and
so are hooks of every kind with such evaluators. The objects that a caller has put into global
names, fallbacks and scripts have to be grounded, and what a script computes, or a caller's own
function, must not make use of numbers either.
-/

open Splice.Action Splice.Renumbering

namespace Splice

/-! ## What does not depend on numbers -/

/-- An answer that is the same whatever the numbers, the first `n` excepted. -/
def Answer.Determined (n : Nat) : Answer → Prop
  | object make | assign _ make =>
    ∀ ρ : Renumbering, ρ.Fixes n → make.Mirrors ρ (Object.renumber ρ) make
  | failure f => f.isGrounded n
  | lookup _ | lookupCode | code | display _ => True

/-- An evaluator to which numbers make no difference, the first `n` excepted. What it makes of a
code depends on the environment only. -/
def Evaluator.Determined (n : Nat) : Evaluator → Prop
  | formula globals => globals.isGrounded n
  | filter => True
  | scripted s => s.All (Answer.Determined n)
  | custom _ f => ∀ ρ : Renumbering, ρ.Fixes n → (Likeness.renumbered ρ n).Transforms f f

/-- A fallback is code, or a value that does not hold anything with a number but the first `n`. -/
def Fallback.Determined (n : Nat) : Fallback → Prop
  | value v => v.isGrounded n
  | computation _ => True

/-- A hook to which numbers make no difference, the first `n` excepted. What it makes of a code
depends on the environment only. -/
def Hook.Determined (n : Nat) : Hook → Prop
  | plain e | collapsing _ _ _ _ e => e.Determined n
  | recovering fallback e => fallback.Determined n ∧ e.Determined n
  | nested _ inner => inner.Determined n

variable {ρ : Renumbering} {n : Nat}

/-! ## Formulas and filter expressions -/

namespace Formula

theorem rebound_renumber (before : String → Option Object) (s : Space) :
    (s.renumber ρ).rebound (fun n => (before n).map (Object.renumber ρ)) =
      (s.rebound before).map (Prod.map id (Object.renumber ρ)) := by
  simp only [Space.rebound, Space.renumber, List.filter_map]
  congr 2
  funext e
  cases hbefore : before e.1 <;> simp [hbefore]

/-- Code rebinds the same names, to objects that are the same but for the numbers. -/
theorem mirrored_runWriting {w w' : World} (hw : w.Renumbered ρ n w') (code : String)
    (known : String → Option Object) :
    Mirrored ρ n (Object.renumber ρ) (outcome (runWriting run code known) w)
      (outcome (runWriting run code fun n => (known n).map (Object.renumber ρ)) w') := by
  refine ((mirrors_run code known).mirrored hw).bind fun {r r' _ _} hw hr => ?_
  rw [hr]
  simp only [Prod.map, rebound_renumber]
  exact (mirrored_forM_define hw _).bind fun hw _ => .ok hw rfl

theorem transforms_evaluate {globals : Bindings} (h : globals.renumber ρ = globals) :
    (Likeness.renumbered ρ n).Transforms (evaluate globals) (evaluate globals) := by
  intro w w' hw code
  rw [evaluate, evaluateBy]
  split
  · exact .error hw rfl
  · rw [outcome_bind, outcome_bind, outcome_get, outcome_get]
    have hknown : w'.env.backedBy globals =
        fun n => (w.env.backedBy globals n).map (Object.renumber ρ) := by
      rw [hw.env, ← w.env.backedBy_renumber, h]
    simp only [hknown]
    refine (mirrored_runWriting hw code _).tryCatch fun hw hf => .error hw ?_
    exact hf ▸ Failure.ofCode_renumber ρ code _

end Formula

theorem Filter.transforms_evaluate :
    (Likeness.renumbered ρ n).Transforms evaluate evaluate := by
  intro w w' hw code
  rw [evaluate, outcome_bind, outcome_bind, outcome_get, outcome_get]
  have hnames : w'.env.get? = fun n => (w.env.get? n).map (Object.renumber ρ) :=
    funext hw.get?_env
  simp only [hnames]
  refine ((mirrors_run code _).mirrored hw).tryCatch fun hw hf => .error hw ?_
  exact hf ▸ Failure.ofCode_renumber ρ code _

/-! ## Scripts -/

theorem Answer.Determined.mirrored_give {a : Answer} (ha : a.Determined n) (hρ : ρ.Fixes n)
    {w w' : World} (hw : w.Renumbered ρ n w') (code : String) :
    Mirrored ρ n (Object.renumber ρ) (outcome (a.give code) w) (outcome (a.give code) w') := by
  cases a with
  | object make => exact (ha ρ hρ).mirrored hw
  | failure f => exact .error hw (Failure.renumber_of_grounded hρ f ha).symm
  | lookup name => exact mirrored_lookup hw name
  | lookupCode => exact mirrored_lookup hw code
  | code => exact .ok hw rfl
  | display name =>
    refine (mirrored_lookup hw name).bind fun {o o' _ _} hw ho => ?_
    rw [ho, Object.value_renumber, Value.display_renumber]
    cases o.value.display with
    | ok text => exact .ok hw rfl
    | error f => exact .error hw rfl
  | assign name make =>
    have hmake : (make >>= Compute.held).Mirrors ρ (Object.renumber ρ) (make >>= Compute.held) :=
      (ha ρ hρ).bind fun o => Compute.mirrors_held ρ o
    refine (hmake.mirrored hw).bind fun {o o' _ _} hw ho => ?_
    rw [ho]
    exact (mirrored_assign hw name o).bind fun hw _ => .ok hw rfl

theorem Script.transforms_evaluate {s : Script} (hs : s.All (Answer.Determined n))
    (hρ : ρ.Fixes n) : (Likeness.renumbered ρ n).Transforms s.evaluate s.evaluate :=
  fun hw code =>
    (hs.answer code).mirrored_give hρ ((Likeness.renumbered ρ n).asked hw code) code

/-! ## Evaluators and hooks -/

theorem Evaluator.Determined.transforms {e : Evaluator} (he : e.Determined n) (hρ : ρ.Fixes n) :
    (Likeness.renumbered ρ n).Transforms e.evaluate e.evaluate := by
  cases e with
  | formula globals => exact Formula.transforms_evaluate (Bindings.renumber_of_grounded hρ he)
  | filter => exact Filter.transforms_evaluate
  | scripted s => exact Script.transforms_evaluate he hρ
  | custom name f => exact he ρ hρ

/-- A fallback sees the same failure but for the numbers. -/
theorem Hook.mirrored_fallbackBindings {w w' : World} (hw : w.Renumbered ρ n w') (code : String)
    (f : Failure) :
    Mirrored ρ n (Bindings.renumber ρ) (outcome (fallbackBindings code f) w)
      (outcome (fallbackBindings code (f.renumber ρ)) w') := by
  refine ((Compute.mirrors_held ρ (.new (.failure f))).mirrored hw).bind
    fun {error error' _ _} hw herror => .ok hw ?_
  simp [herror, Bindings.renumber, Value.renumber]

/-- The code of a fallback is evaluated with the same failure but for the numbers. -/
theorem Fallback.Determined.respects {fallback : Fallback} (h : fallback.Determined n)
    {e : Evaluator} (he : e.Determined n) (hρ : ρ.Fixes n) :
    fallback.Respects e (.renumbered ρ n) := by
  cases fallback with
  | value v =>
    have hv : v.renumber ρ = v := Value.renumber_of_grounded hρ v h
    exact fun _ _ _ => congrArg Object.new hv.symm
  | computation expr =>
    intro code f f' w w' hf hw
    rw [hf]
    -- the fallback sees the failure, so its layer has other numbers as well
    refine (Hook.mirrored_fallbackBindings hw code f).bind fun {b b' w w'} hw hb => ?_
    have hlayers : w'.env.enter [b'] = (w.env.enter [b]).renumber ρ := by
      rw [hb, hw.env]
      rfl
    refine Alongside.within (he.transforms hρ (hw.inEnv hlayers) expr) (fun hw => hw.inEnv ?_)
      fun h => h
    rw [hw.env, Environment.leave_renumber]

/-- A hook to which numbers make no difference makes the same of a code in worlds that are the same
but for the numbers. -/
theorem Hook.Determined.respects {hook : Hook} (h : hook.Determined n) (hρ : ρ.Fixes n) :
    hook.Respects (.renumbered ρ n) := by
  induction hook with
  | plain e | collapsing _ _ _ _ e => exact Evaluator.Determined.transforms h hρ
  | recovering fallback e => exact ⟨h.2.transforms hρ, h.1.respects h.2 hρ⟩
  | nested s inner ih => exact ih h

end Splice
