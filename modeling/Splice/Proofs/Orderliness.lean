import Splice.Proofs.Assembly
import Splice.Proofs.Composition
import Splice.Proofs.Renumbering.Filters

/-!
# Numbers are not taken back

A store counts the objects that have been given numbers, and nothing sets the count back. A
computation or an action that leaves the count as it was or raises it is `Orderly`. Formulas and
filter expressions are, since they mirror themselves when nothing gets another number, and so are
evaluators for them and whatever rendering puts together. What a script computes has to be, and a
caller's own function.
-/

open Splice.Action

namespace Splice

/-! ## Computations -/

/-- A computation that takes no number back. -/
def Compute.Orderly {α : Type} (c : Compute α) : Prop :=
  ∀ s : Store, s.objects ≤ (c.run.run s).2.objects

/-- A store in which everything has other numbers. -/
def Store.renumber (ρ : Renumbering) (s : Store) : Store :=
  ⟨s.streams.map (Stream.renumber ρ), s.slots.map (Object.renumber ρ),
    s.spaces.map (Formula.Space.renumber ρ), s.objects⟩

/-- A store is the same as itself if everything in it keeps its number. -/
theorem Store.renumbered_refl (s : Store) : s.Renumbered .refl s.objects (s.renumber .refl) where
  streams _ := Array.getElem?_map ..
  slots _ := Array.getElem?_map ..
  spaces _ := Array.getElem?_map ..
  nextStreams i := by simp [renumber, Renumbering.refl]
  nextSlots i := by simp [renumber, Renumbering.refl]
  nextSpaces i := by simp [renumber, Renumbering.refl]
  nextObjects _ := rfl
  least := Nat.le_refl _

namespace Compute

variable {α β : Type}

theorem Mirrors.orderly {g : α → β} {c : Compute α} {c' : Compute β} (h : c.Mirrors .refl g c') :
    c.Orderly :=
  fun s => (h s.renumbered_refl).2.least

theorem orderly_held (o : Object) : (held o).Orderly :=
  (mirrors_held .refl o).orderly

theorem Orderly.bind {c : Compute α} {next : α → Compute β} (hc : c.Orderly)
    (hnext : ∀ a, (next a).Orderly) : (c >>= next).Orderly := by
  intro s
  have hfirst := hc s
  rw [run_bind]
  generalize c.run.run s = x at hfirst
  obtain ⟨f | a, s'⟩ := x
  · exact hfirst
  · exact Nat.le_trans hfirst (hnext a s')

end Compute

namespace Action

variable {α β : Type}

/-! ## Actions -/

/-- An action that takes no number back. -/
def Orderly (act : Action α) : Prop :=
  ∀ w : World, w.store.objects ≤ (outcome act w).2.store.objects

theorem orderly_pure (a : α) : (pure a : Action α).Orderly :=
  fun _ => Nat.le_refl _

theorem orderly_throw (f : Failure) : (throw f : Action α).Orderly :=
  fun _ => Nat.le_refl _

theorem orderly_compute {c : Compute α} (h : c.Orderly) : (compute c).Orderly :=
  fun w => h w.store

theorem orderly_bind {act : Action α} {next : α → Action β} (hact : act.Orderly)
    (hnext : ∀ a, (next a).Orderly) : (act >>= next).Orderly := by
  intro w
  have hfirst := hact w
  rw [outcome_bind]
  generalize outcome act w = x at hfirst
  obtain ⟨f | a, w'⟩ := x
  · exact hfirst
  · exact Nat.le_trans hfirst (hnext a w')

theorem orderly_tryCatch {act : Action α} {handle : Failure → Action α} (hact : act.Orderly)
    (hhandle : ∀ f, (handle f).Orderly) : (tryCatch act handle).Orderly := by
  intro w
  have hfirst := hact w
  rw [outcome_tryCatch]
  generalize outcome act w = x at hfirst
  obtain ⟨f | a, w'⟩ := x
  · exact Nat.le_trans hfirst (hhandle f w')
  · exact hfirst

theorem orderly_within {act : Action α} (h : act.Orderly) (maps : List Bindings) :
    (within maps act).Orderly :=
  fun w => h { w with env := w.env.enter maps }

theorem orderly_lookup (name : String) : (lookup name).Orderly := by
  refine orderly_bind (fun _ => Nat.le_refl _) fun w => ?_
  split
  · exact orderly_pure _
  · exact orderly_throw _

theorem orderly_define (name : String) (o : Object) : (define name o).Orderly := by
  refine orderly_bind (fun _ => Nat.le_refl _) fun w => ?_
  split
  · exact fun _ => Nat.le_refl _
  · exact orderly_throw _

theorem orderly_forM_define (es : List (String × Object)) :
    (es.forM fun e => define e.1 e.2).Orderly := by
  induction es with
  | nil => exact orderly_pure ()
  | cons e es ih => exact orderly_bind (orderly_define e.1 e.2) fun _ => ih

/-- What is put together from orderly evaluations is orderly. -/
theorem Assembled.orderly {act : Action α} (h : act.Assembled Orderly) : act.Orderly := by
  induction h with
  | evaluation h => exact h
  | pure a => exact orderly_pure a
  | throw f => exact orderly_throw f
  | tokens v na => exact orderly_compute (v.mirrors_tokens (ρ := .refl) na).orderly
  | held o => exact orderly_compute (Compute.orderly_held o)
  | note | recordCall => exact fun _ => Nat.le_refl _
  | lookup name => exact orderly_lookup name
  | bind _ _ ihact ihnext => exact orderly_bind ihact ihnext
  | tryCatch _ _ ihact ihhandle => exact orderly_tryCatch ihact ihhandle
  | within maps _ ih => exact orderly_within ih maps

end Action

/-! ## Evaluators -/

theorem Formula.orderly_evaluate (globals : Bindings) (code : String) :
    (Formula.evaluate globals code).Orderly := by
  rw [evaluate, evaluateBy]
  split
  · exact orderly_throw _
  · -- all numbers that are given out are given out by running the code
    refine orderly_bind (fun _ => Nat.le_refl _) fun w =>
      orderly_tryCatch (orderly_bind ?_ fun _ => ?_) fun _ => orderly_throw _
    · exact orderly_compute (mirrors_run (ρ := .refl) code _).orderly
    · exact orderly_bind (orderly_forM_define _) fun _ => orderly_pure _

theorem Filter.orderly_evaluate (code : String) : (Filter.evaluate code).Orderly := by
  refine orderly_bind (fun _ => Nat.le_refl _) fun w =>
    orderly_tryCatch (orderly_compute ?_) fun _ => orderly_throw _
  exact (mirrors_run (ρ := .refl) code _).orderly

/-- A prepared answer whose computation is orderly. -/
def Answer.Orderly : Answer → Prop
  | object make | assign _ make => make.Orderly
  | failure _ | lookup _ | lookupCode | code | display _ => True

theorem Answer.Orderly.give {a : Answer} (h : a.Orderly) (code : String) :
    (a.give code).Orderly := by
  cases a with
  | object make => exact orderly_compute h
  | failure f => exact orderly_throw f
  | lookup name => exact orderly_lookup name
  | lookupCode => exact orderly_lookup code
  | code => exact orderly_pure _
  | display name =>
    refine orderly_bind (orderly_lookup name) fun o => ?_
    cases o.value.display <;> exact fun _ => Nat.le_refl _
  | assign name make =>
    have hmake : (make >>= Compute.held).Orderly := h.bind Compute.orderly_held
    refine orderly_bind (orderly_compute hmake) fun o => orderly_bind ?_ fun _ => orderly_pure o
    exact orderly_bind (orderly_compute (Compute.orderly_held o)) fun _ => orderly_define name _

namespace Evaluator

/-- Evaluators are orderly if what a script computes is, and a caller's own function. -/
def Orderly : Evaluator → Prop
  | scripted s => s.All Answer.Orderly
  | custom _ f => ∀ code, (f code).Orderly
  | formula _ | filter => True

theorem Orderly.evaluate {e : Evaluator} (h : e.Orderly) (code : String) :
    (e.evaluate code).Orderly := by
  cases e with
  | formula globals => exact Formula.orderly_evaluate globals code
  | filter => exact Filter.orderly_evaluate code
  | scripted s => exact orderly_bind (fun _ => Nat.le_refl _) fun _ => (h.answer code).give code
  | custom name f => exact h code

end Evaluator

end Splice
