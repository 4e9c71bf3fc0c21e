import Mathlib.Logic.Embedding.Basic
import Splice.Value.Sorting
import Splice.Value.Member

/-!
# Other numbers for the same things

Objects get numbers in the order in which they are held, and so do streams, loop names and name
spaces. Which numbers these are depends on what has been evaluated before, and nothing else should:
code cannot ask for a number, only whether two objects have the same one.

A `Renumbering` gives other numbers to everything that has one, different ones to different things.
A value is `renumbered` wherever it holds objects, streams or failures.
-/

namespace Splice

/-- Other numbers for objects, streams, loop names and name spaces. -/
structure Renumbering where
  objects : Nat ↪ Nat
  streams : Nat ↪ Nat
  slots : Nat ↪ Nat
  spaces : Nat ↪ Nat

namespace Renumbering

/-- Everything keeps its number. -/
def refl : Renumbering :=
  ⟨.refl _, .refl _, .refl _, .refl _⟩

end Renumbering

/-! ## Renumbering values -/

def Mark.renumber (ρ : Renumbering) : Mark → Mark
  | passing => passing
  | made id => made (ρ.objects id)
  | constant code => constant code
  | word => word
  | letter => letter
  | part name whole => part name (renumber ρ whole)

mutual

/-- A value in which everything has other numbers. -/
def Value.renumber (ρ : Renumbering) : Value → Value
  | .null => .null
  | .bool b => .bool b
  | .int n => .int n
  | .real x => .real x
  | .text s => .text s
  | .bytes bs => .bytes bs
  | .buffer bs => .buffer bs
  | .list items => .list (Object.renumberAll ρ items)
  | .tuple items => .tuple (Object.renumberAll ρ items)
  | .set items => .set (Object.renumberAll ρ items)
  | .dict entries => .dict (Object.renumberEntries ρ entries)
  | .view p entries => .view p (Object.renumberEntries ρ entries)
  | .range start stop step => .range start stop step
  | .stream kind id => .stream kind (ρ.streams id)
  | .object display => .object display
  | .mute f => .mute (Failure.renumber ρ f)
  | .inert display shown type => .inert display shown type
  | .failure f => .failure (Failure.renumber ρ f)
  | .type name => .type name
  | .builtin f => .builtin f
  | .method receiver m => .method (Object.renumber ρ receiver) m
  | .undefined why => .undefined why

def Object.renumber (ρ : Renumbering) : Object → Object
  | ⟨v, m⟩ => ⟨Value.renumber ρ v, m.renumber ρ⟩

def Object.renumberAll (ρ : Renumbering) : List Object → List Object
  | [] => []
  | o :: os => Object.renumber ρ o :: Object.renumberAll ρ os

def Object.renumberEntries (ρ : Renumbering) : List (Object × Object) → List (Object × Object)
  | [] => []
  | (k, v) :: es => (Object.renumber ρ k, Object.renumber ρ v) :: Object.renumberEntries ρ es

def Cause.renumber (ρ : Renumbering) : Cause → Cause
  | .fault f => .fault f
  | .missingKey key => .missingKey (Object.renumber ρ key)
  | .misuse m => .misuse m
  | .malformed w => .malformed w
  | .invalidOptions issues => .invalidOptions issues
  | .raised kind message => .raised kind message
  | .unmatched position marker wording => .unmatched position marker wording
  | .nesting position marker => .nesting position marker
  | .evaluation code inner => .evaluation code (Failure.renumber ρ inner)
  | .fallback expr code inner => .fallback expr code (Failure.renumber ρ inner)
  | .recycling lengths => .recycling lengths

def Failure.renumber (ρ : Renumbering) : Failure → Failure
  | ⟨cause, span, code, notes⟩ => ⟨Cause.renumber ρ cause, span, code, notes⟩

end

/-- An entry of a dictionary in which everything has other numbers. -/
def Object.renumberEntry (ρ : Renumbering) (e : Object × Object) : Object × Object :=
  (e.1.renumber ρ, e.2.renumber ρ)

variable (ρ : Renumbering)

@[simp] theorem Object.renumberAll_eq (os : List Object) :
    renumberAll ρ os = os.map (renumber ρ) := by
  induction os with
  | nil => rfl
  | cons o os ih => rw [renumberAll, ih, List.map_cons]

@[simp] theorem Object.renumberEntries_eq (es : List (Object × Object)) :
    renumberEntries ρ es = es.map (renumberEntry ρ) := by
  induction es with
  | nil => rfl
  | cons e es ih =>
    obtain ⟨k, v⟩ := e
    rw [renumberEntries, ih, List.map_cons, renumberEntry]

@[simp] theorem Object.value_renumber (o : Object) : (o.renumber ρ).value = o.value.renumber ρ := by
  cases o
  rfl

@[simp] theorem Object.mark_renumber (o : Object) : (o.renumber ρ).mark = o.mark.renumber ρ := by
  cases o
  rfl

@[simp] theorem Failure.cause_renumber (f : Failure) :
    (f.renumber ρ).cause = f.cause.renumber ρ := by
  cases f
  rfl

@[simp] theorem Failure.span_renumber (f : Failure) : (f.renumber ρ).span = f.span := by
  cases f
  rfl

@[simp] theorem Failure.code_renumber (f : Failure) : (f.renumber ρ).code = f.code := by
  cases f
  rfl

@[simp] theorem Failure.notes_renumber (f : Failure) : (f.renumber ρ).notes = f.notes := by
  cases f
  rfl

@[simp] theorem Cause.kind_renumber (c : Cause) : (c.renumber ρ).kind = c.kind := by
  cases c <;> rfl

@[simp] theorem Failure.kind_renumber (f : Failure) : (f.renumber ρ).kind = f.kind := by
  simp [Failure.kind]

@[simp] theorem Failure.renumber_ofFault (f : Fault) : (ofFault f).renumber ρ = ofFault f :=
  rfl

@[simp] theorem Object.renumber_ofChar (c : Char) : (ofChar c).renumber ρ = ofChar c := by
  rw [ofChar]
  split <;> rfl

@[simp] theorem Object.renumber_new (v : Value) : (new v).renumber ρ = new (v.renumber ρ) :=
  rfl

@[simp] theorem Object.renumber_part (o : Object) (name : String) (v : Value) :
    (o.part name v).renumber ρ = (o.renumber ρ).part name (v.renumber ρ) := by
  cases o
  rfl

namespace Value

@[simp] theorem typeName_renumber (v : Value) : (v.renumber ρ).typeName = v.typeName := by
  cases v with
  | failure f => exact congrArg Kind.name (f.kind_renumber ρ)
  | _ => rfl

theorem typeName_failure (f : Failure) : (failure f).typeName = f.kind.name :=
  rfl

@[simp] theorem qualifiedTypeName_renumber (v : Value) :
    (v.renumber ρ).qualifiedTypeName = v.qualifiedTypeName := by
  cases v with
  | failure f => exact congrArg Kind.qualifiedName (f.kind_renumber ρ)
  | _ => rfl

@[simp] theorem isMissing_renumber (v : Value) : (v.renumber ρ).isMissing = v.isMissing := by
  cases v <;> rfl

@[simp] theorem isIterable_renumber (v : Value) : (v.renumber ρ).isIterable = v.isIterable := by
  cases v <;> rfl

@[simp] theorem isScalar_renumber (v : Value) : (v.renumber ρ).isScalar = v.isScalar := by
  cases v <;> rfl

@[simp] theorem asInt?_renumber (v : Value) : (v.renumber ρ).asInt? = v.asInt? := by
  cases v <;> rfl

@[simp] theorem undefined?_renumber (v : Value) : (v.renumber ρ).undefined? = v.undefined? := by
  cases v <;> rfl

@[simp] theorem useless?_renumber (v : Value) : (v.renumber ρ).useless? = v.useless? := by
  cases v <;> rfl

@[simp] theorem viewItems_renumber (p : DictPart) (es : List (Object × Object)) :
    viewItems p (es.map (Object.renumberEntry ρ)) = (viewItems p es).map (Object.renumber ρ) := by
  cases p <;> simp [viewItems, Object.renumberEntry, renumber]

@[simp] theorem items?_renumber (v : Value) :
    (v.renumber ρ).items? = v.items?.map (List.map (Object.renumber ρ)) := by
  cases v with
  | undefined why =>
    simp only [renumber, items?]
    split <;> rfl
  | _ => simp [renumber, items?, Object.renumberEntry]

@[simp] theorem setItems?_renumber (v : Value) :
    (v.renumber ρ).setItems? = v.setItems?.map (List.map (Object.renumber ρ)) := by
  cases v with
  | view p es => cases p <;> simp [renumber, setItems?]
  | _ => simp [renumber, setItems?]

@[simp] theorem truth_renumber (v : Value) : (v.renumber ρ).truth = v.truth := by
  cases v <;> simp [renumber, truth]

end Value

/-! ## Sameness -/

theorem Mark.renumber_injective : Function.Injective (Mark.renumber ρ) := by
  intro a
  induction a with
  | made id =>
    intro b h
    cases b <;> simp_all [renumber]
  | part name whole ih =>
    intro b h
    cases b with
    | part name' whole' =>
      obtain ⟨rfl, hwhole⟩ := Mark.part.inj h
      rw [ih hwhole]
    | _ => cases h
  | _ =>
    intro b h
    cases b <;> simp_all [renumber]

@[simp] theorem Mark.isHeld_renumber (m : Mark) : (m.renumber ρ).isHeld = m.isHeld := by
  induction m with
  | part name whole ih => exact ih
  | _ => rfl

namespace Value

@[simp] theorem alwaysSame_renumber (v w : Value) :
    (v.renumber ρ).alwaysSame (w.renumber ρ) = v.alwaysSame w := by
  cases v with
  | stream kind id => cases w <;> simp [renumber, alwaysSame]
  | bytes bs => cases bs <;> cases w <;> rfl
  | tuple xs =>
    cases w with
    | tuple ys => cases xs <;> cases ys <;> rfl
    | _ => cases xs <;> rfl
  | _ => cases w <;> rfl

mutual

@[simp] theorem alike_renumber (v w : Value) : (v.renumber ρ).alike (w.renumber ρ) = v.alike w := by
  cases v with
  | tuple xs =>
    cases w with
    | tuple ys =>
      simp only [renumber, alike, Object.renumberAll_eq]
      exact allAlike_renumber xs ys
    | _ => rfl
  | _ => cases w <;> rfl
termination_by structural v

@[simp] theorem allAlike_renumber (xs ys : List Object) :
    allAlike (xs.map (Object.renumber ρ)) (ys.map (Object.renumber ρ)) = allAlike xs ys := by
  rcases xs with _ | ⟨⟨v, m⟩, xs⟩
  · cases ys <;> rfl
  · rcases ys with _ | ⟨⟨w, n⟩, ys⟩
    · rfl
    · simp only [List.map_cons, Object.renumber, allAlike]
      rw [alike_renumber v w, allAlike_renumber xs ys]
termination_by structural xs

end

end Value

@[simp] theorem Object.same_renumber (a b : Object) :
    (a.renumber ρ).same (b.renumber ρ) = a.same b := by
  obtain ⟨v, m⟩ := a
  obtain ⟨w, n⟩ := b
  have hmarks : (m.renumber ρ == n.renumber ρ) = (m == n) := by
    simp [beq_eq_decide, (Mark.renumber_injective ρ).eq_iff]
  simp only [same, renumber, Value.alwaysSame_renumber, Mark.isHeld_renumber, hmarks]
  cases m <;> simp [Mark.renumber]

/-! ## Results -/

section

variable {ε α β α' β' : Type}

/-- If first steps go together, and what is done next does, so does what comes of both. -/
theorem bind_eq_map {x : Except ε α} {x' : Except ε α'} {f : α → Except ε β}
    {f' : α' → Except ε β'} {g : α → α'} {h : β → β'} (hx : x' = g <$> x)
    (hf : ∀ a, f' (g a) = h <$> f a) : x' >>= f' = h <$> (x >>= f) := by
  simp only [hx, bind_map_left, map_bind, hf]

/-- What comes first may be the same both times. -/
theorem bind_eq_map_of_eq {x x' : Except ε α} {f : α → Except ε β} {f' : α → Except ε β'}
    {h : β → β'} (hx : x' = x) (hf : ∀ a, f' a = h <$> f a) : x' >>= f' = h <$> (x >>= f) := by
  rw [hx, map_bind]
  exact congrArg _ (funext hf)

end

/-- A result or a failure in which everything has other numbers. -/
def Renumbering.result {α β : Type} (g : α → β) : Except Failure α → Except Failure β
  | .ok a => .ok (g a)
  | .error f => .error (f.renumber ρ)

namespace Renumbering

variable {α β α' β' : Type}

@[simp] theorem result_ok (g : α → β) (a : α) : ρ.result g (.ok a) = .ok (g a) :=
  rfl

@[simp] theorem result_error (g : α → β) (f : Failure) :
    ρ.result g (.error f) = .error (f.renumber ρ) :=
  rfl

theorem result_mapError (g : α → β) (r : Except Fault α) :
    ρ.result g (r.mapError .ofFault) = (g <$> r).mapError .ofFault := by
  cases r <;> rfl

variable {ρ}

/-- If first steps go together, and what is done next does, so does what comes of both. -/
theorem bind_eq_result {x : Except Failure α} {x' : Except Failure α'} {f : α → Except Failure β}
    {f' : α' → Except Failure β'} {g : α → α'} {h : β → β'} (hx : x' = ρ.result g x)
    (hf : ∀ a, f' (g a) = ρ.result h (f a)) : x' >>= f' = ρ.result h (x >>= f) := by
  subst hx
  cases x with
  | ok a => exact hf a
  | error f => rfl

end Renumbering

end Splice
