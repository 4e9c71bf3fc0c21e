import Splice.Proofs.Actions

/-!
# The innermost layer

An assignment changes the innermost layer of an environment and nothing else, so an environment that
takes assignments is its innermost layer (`front`) together with what stands behind it, and what
assignments do to it is to put another layer there (`withFront`). A name is looked up in the
innermost layer first; behind it, nothing depends on what that layer holds (`get?_withFront`).
-/

namespace Splice

namespace Environment

/-- An environment takes assignments unless it is fixed. -/
def Writable : Environment → Prop
  | fixed _ => False
  | chain .. | within .. => True

/-- An environment with another innermost layer; a fixed one stays as it is. -/
def withFront (b : Bindings) : Environment → Environment
  | fixed vars => fixed vars
  | chain _ others => chain b others
  | within _ others outer => within b others outer

@[simp] theorem withFront_front (env : Environment) : env.withFront env.front = env := by
  cases env <;> rfl

@[simp] theorem withFront_withFront (b c : Bindings) (env : Environment) :
    (env.withFront b).withFront c = env.withFront c := by
  cases env <;> rfl

@[simp] theorem writable_withFront {b : Bindings} {env : Environment} :
    (env.withFront b).Writable ↔ env.Writable := by
  cases env <;> rfl

@[simp] theorem writable_enter (maps : List Bindings) (env : Environment) :
    (env.enter maps).Writable :=
  trivial

theorem front_withFront {env : Environment} (h : env.Writable) (b : Bindings) :
    (env.withFront b).front = b := by
  cases env with
  | fixed => exact h.elim
  | chain | within => rfl

/-- Assigning puts the name into the innermost layer. -/
theorem assign_eq_ok {env : Environment} (h : env.Writable) (name : String) (v : Object) :
    env.assign name v = .ok (env.withFront (env.front.put name v)) := by
  cases env with
  | fixed => exact h.elim
  | chain | within => rfl

theorem assign_eq_error {env : Environment} (h : ¬ env.Writable) (name : String) (v : Object) :
    env.assign name v = .error .fixedMapping := by
  cases env with
  | fixed => rfl
  | chain | within => exact absurd trivial h

/-- A name is looked up in the innermost layer, and then in what stands behind it. -/
theorem get?_withFront {env : Environment} (h : env.Writable) (b : Bindings) (n : String) :
    (env.withFront b).get? n = (b.lookup n).or ((env.withFront []).get? n) := by
  cases env with
  | fixed => exact h.elim
  | chain front others => cases hb : b.lookup n <;> simp [withFront, get?, List.findSome?_cons, hb]
  | within front others outer =>
    cases hb : b.lookup n <;> simp [withFront, get?, List.findSome?_cons, hb]

end Environment

namespace Action

/-- Defining a name changes the innermost layer, if the environment takes assignments. -/
theorem outcome_define_of_writable {w : World} (h : w.env.Writable) (name : String) (o : Object) :
    outcome (define name o) w =
      (.ok (), { w with env := w.env.withFront (w.env.front.put name o) }) := by
  rw [define, outcome_bind, outcome_get]
  simp only [Environment.assign_eq_ok h]
  rfl

theorem outcome_define_of_not_writable {w : World} (h : ¬ w.env.Writable) (name : String)
    (o : Object) : outcome (define name o) w = (.error (.ofFault .fixedMapping), w) := by
  rw [define, outcome_bind, outcome_get]
  simp only [Environment.assign_eq_error h]
  rfl

end Action

end Splice
