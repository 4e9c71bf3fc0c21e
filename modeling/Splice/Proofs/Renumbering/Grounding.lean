import Splice.Environment
import Splice.Proofs.Renumbering.Values

/-!
# Values that keep their numbers

Once the first `n` numbers have been given out to objects, they stay with them: renumberings that
concern what is made from then on *fix* these numbers. A value is *grounded* if it holds no objects
but such ones, and no streams. Then no such renumbering makes a difference to it. What a caller
passes in its mappings is grounded unless a stream is among it.
-/

namespace Splice

/-- A renumbering that leaves the first `n` objects their numbers. -/
def Renumbering.Fixes (ρ : Renumbering) (n : Nat) : Prop :=
  ∀ i < n, ρ.objects i = i

/-! ## Grounded values -/

/-- Every number that the mark holds is one of the first `n`. -/
def Mark.isGrounded (n : Nat) : Mark → Bool
  | made id => id < n
  | part _ whole => isGrounded n whole
  | passing | constant _ | word | letter => true

mutual

/-- A value without streams in which every object that has a number has one of the first `n`. -/
def Value.isGrounded (n : Nat) : Value → Bool
  | .list items | .tuple items | .set items => Object.allGrounded n items
  | .dict entries | .view _ entries => Object.entriesGrounded n entries
  | .stream _ _ => false
  | .mute f | .failure f => Failure.isGrounded n f
  | .method receiver _ => Object.isGrounded n receiver
  | _ => true

def Object.isGrounded (n : Nat) : Object → Bool
  | ⟨v, m⟩ => Value.isGrounded n v && m.isGrounded n

def Object.allGrounded (n : Nat) : List Object → Bool
  | [] => true
  | o :: os => Object.isGrounded n o && Object.allGrounded n os

def Object.entriesGrounded (n : Nat) : List (Object × Object) → Bool
  | [] => true
  | (k, v) :: es =>
    Object.isGrounded n k && Object.isGrounded n v && Object.entriesGrounded n es

def Cause.isGrounded (n : Nat) : Cause → Bool
  | .missingKey key => Object.isGrounded n key
  | .evaluation _ inner | .fallback _ _ inner => Failure.isGrounded n inner
  | _ => true

def Failure.isGrounded (n : Nat) : Failure → Bool
  | ⟨cause, _, _, _⟩ => Cause.isGrounded n cause

end

/-- Names that stand for grounded objects. -/
def Bindings.isGrounded (n : Nat) (b : Bindings) : Bool :=
  b.all fun e => e.2.isGrounded n

/-- An environment all of whose layers hold grounded objects only. -/
def Environment.isGrounded (n : Nat) (env : Environment) : Bool :=
  env.layers.all (Bindings.isGrounded n)

/-! ## What is grounded keeps its numbers -/

variable {ρ : Renumbering} {n : Nat}

theorem Mark.renumber_of_grounded (hρ : ρ.Fixes n) {m : Mark} (h : m.isGrounded n) :
    m.renumber ρ = m := by
  induction m with
  | made id =>
    have hid : id < n := by simpa [isGrounded] using h
    rw [renumber, hρ id hid]
  | part name whole ih => rw [renumber, ih h]
  | passing | constant | word | letter => rfl

mutual

theorem Value.renumber_of_grounded (hρ : ρ.Fixes n) (v : Value) (h : v.isGrounded n) :
    v.renumber ρ = v := by
  cases v with
  | list xs => exact congrArg Value.list (Object.renumberAll_of_grounded hρ xs h)
  | tuple xs => exact congrArg Value.tuple (Object.renumberAll_of_grounded hρ xs h)
  | set xs => exact congrArg Value.set (Object.renumberAll_of_grounded hρ xs h)
  | dict es => exact congrArg Value.dict (Object.renumberEntries_of_grounded hρ es h)
  | view p es => exact congrArg (Value.view p) (Object.renumberEntries_of_grounded hρ es h)
  | stream kind id => cases h
  | mute f => exact congrArg Value.mute (Failure.renumber_of_grounded hρ f h)
  | failure f => exact congrArg Value.failure (Failure.renumber_of_grounded hρ f h)
  | method receiver m =>
    exact congrArg (Value.method · m) (Object.renumber_of_grounded hρ receiver h)
  | _ => rfl
termination_by structural v

theorem Object.renumber_of_grounded (hρ : ρ.Fixes n) (o : Object) (h : o.isGrounded n) :
    o.renumber ρ = o := by
  obtain ⟨v, m⟩ := o
  obtain ⟨hv, hm⟩ : v.isGrounded n ∧ m.isGrounded n := by simpa [Object.isGrounded] using h
  rw [Object.renumber, Value.renumber_of_grounded hρ v hv, Mark.renumber_of_grounded hρ hm]
termination_by structural o

theorem Object.renumberAll_of_grounded (hρ : ρ.Fixes n) (os : List Object)
    (h : Object.allGrounded n os) : Object.renumberAll ρ os = os := by
  cases os with
  | nil => rfl
  | cons o os =>
    obtain ⟨ho, hos⟩ : o.isGrounded n ∧ Object.allGrounded n os := by
      simpa [Object.allGrounded] using h
    rw [Object.renumberAll, Object.renumber_of_grounded hρ o ho,
      Object.renumberAll_of_grounded hρ os hos]
termination_by structural os

theorem Object.renumberEntries_of_grounded (hρ : ρ.Fixes n) (es : List (Object × Object))
    (h : Object.entriesGrounded n es) : Object.renumberEntries ρ es = es := by
  rcases es with _ | ⟨⟨k, v⟩, es⟩
  · rfl
  · obtain ⟨⟨hk, hv⟩, hes⟩ :
        (k.isGrounded n ∧ v.isGrounded n) ∧ Object.entriesGrounded n es := by
      simpa [Object.entriesGrounded] using h
    rw [Object.renumberEntries, Object.renumber_of_grounded hρ k hk,
      Object.renumber_of_grounded hρ v hv, Object.renumberEntries_of_grounded hρ es hes]
termination_by structural es

theorem Cause.renumber_of_grounded (hρ : ρ.Fixes n) (c : Cause) (h : c.isGrounded n) :
    c.renumber ρ = c := by
  cases c with
  | missingKey key => exact congrArg Cause.missingKey (Object.renumber_of_grounded hρ key h)
  | evaluation code inner =>
    exact congrArg (Cause.evaluation code) (Failure.renumber_of_grounded hρ inner h)
  | fallback expr code inner =>
    exact congrArg (Cause.fallback expr code) (Failure.renumber_of_grounded hρ inner h)
  | _ => rfl
termination_by structural c

theorem Failure.renumber_of_grounded (hρ : ρ.Fixes n) (f : Failure) (h : f.isGrounded n) :
    f.renumber ρ = f := by
  obtain ⟨cause, span, code, notes⟩ := f
  rw [Failure.renumber, Cause.renumber_of_grounded hρ cause h]
termination_by structural f

end

end Splice
