import Splice.Proofs.Likeness
import Splice.Proofs.Renumbering.Formulas
import Splice.Proofs.Renumbering.Grounding

/-!
# Worlds that are the same but for the numbers

Two worlds are the same but for the numbers if their environments and their stores are; what has
been logged is left out. Rendering takes no notice of such a difference (`Likeness.renumbered`), and
failures keep their tags, kinds and reasons under other numbers.

A world whose environment is grounded is the same, but for the numbers, as the one with that
environment in which nothing has happened yet (`World.renumbered_bare`). Two worlds with the same
environment can be compared through that one, even if neither store holds what the other does
(`SameButNumbers.of_alongside`).
-/

open Splice.Action

namespace Splice

variable (ρ : Renumbering)

/-! ## Environments -/

/-- The same names, for objects with other numbers. -/
def Bindings.renumber (b : Bindings) : Bindings :=
  b.map (Prod.map id (Object.renumber ρ))

/-- The same layers, with objects that have other numbers. -/
def Environment.renumber : Environment → Environment
  | fixed vars => fixed (vars.renumber ρ)
  | chain front others => chain (front.renumber ρ) (others.map (Bindings.renumber ρ))
  | within front others outer =>
    within (front.renumber ρ) (others.map (Bindings.renumber ρ)) (outer.renumber)

namespace Bindings

theorem lookup_renumber (b : Bindings) (n : String) :
    (b.renumber ρ).lookup n = (b.lookup n).map (Object.renumber ρ) :=
  Formula.lookup_map_snd (Object.renumber ρ) b n

theorem findSome?_lookup_renumber (maps : List Bindings) (n : String) :
    (maps.map (renumber ρ)).findSome? (·.lookup n) =
      (maps.findSome? (·.lookup n)).map (Object.renumber ρ) := by
  simp only [List.findSome?_map, List.map_findSome?, Function.comp_def, lookup_renumber]

theorem put_renumber (b : Bindings) (name : String) (o : Object) :
    put name (o.renumber ρ) (b.renumber ρ) = (put name o b).renumber ρ := by
  induction b with
  | nil => rfl
  | cons e b ih =>
    obtain ⟨n, old⟩ := e
    change put name (o.renumber ρ) ((n, old.renumber ρ) :: renumber ρ b) = _
    rw [put, put]
    split
    · rfl
    · rw [ih]
      rfl

variable {ρ} in
theorem renumber_of_grounded {n : Nat} (hρ : ρ.Fixes n) {b : Bindings} (h : b.isGrounded n) :
    b.renumber ρ = b := by
  rw [isGrounded, List.all_eq_true] at h
  refine (List.map_congr_left fun e he => ?_).trans (List.map_id b)
  exact Prod.ext rfl (Object.renumber_of_grounded hρ e.2 (h e he))

end Bindings

namespace Environment

theorem get?_renumber (env : Environment) (n : String) :
    (env.renumber ρ).get? n = (env.get? n).map (Object.renumber ρ) := by
  induction env with
  | fixed vars => exact vars.lookup_renumber ρ n
  | chain front others => exact Bindings.findSome?_lookup_renumber ρ (front :: others) n
  | within front others outer ih =>
    have hlayers := Bindings.findSome?_lookup_renumber ρ (front :: others) n
    rw [renumber, get?, get?, ih, Option.map_or, ← hlayers, List.map_cons]

theorem backedBy_renumber (env : Environment) (globals : Bindings) :
    (env.renumber ρ).backedBy (globals.renumber ρ) =
      fun n => (env.backedBy globals n).map (Object.renumber ρ) := by
  funext n
  rw [backedBy, backedBy, get?_renumber, Bindings.lookup_renumber, Option.map_or]

theorem writable_renumber {env : Environment} : (env.renumber ρ).Writable ↔ env.Writable := by
  cases env <;> rfl

/-- The innermost layer may be given other numbers before a name is put into it, or after. -/
theorem withFront_put_renumber (env : Environment) (name : String) (o : Object) :
    (env.renumber ρ).withFront ((env.renumber ρ).front.put name (o.renumber ρ)) =
      (env.withFront (env.front.put name o)).renumber ρ := by
  cases env with
  | fixed => rfl
  | chain front others | within front others outer =>
    simp only [renumber, Environment.front, withFront, Bindings.put_renumber]

theorem leave_renumber (env : Environment) : (env.renumber ρ).leave = env.leave.renumber ρ := by
  cases env <;> rfl

variable {ρ} in
theorem renumber_of_grounded {n : Nat} (hρ : ρ.Fixes n) {env : Environment}
    (h : env.isGrounded n) : env.renumber ρ = env := by
  have hlayers {maps : List Bindings} (h : ∀ b ∈ maps, b.isGrounded n) :
      maps.map (Bindings.renumber ρ) = maps :=
    (List.map_congr_left fun b hb => Bindings.renumber_of_grounded hρ (h b hb)).trans
      (List.map_id maps)
  rw [isGrounded, List.all_eq_true] at h
  induction env with
  | fixed vars => rw [renumber, Bindings.renumber_of_grounded hρ (h vars (by simp [layers]))]
  | chain front others =>
    rw [renumber, Bindings.renumber_of_grounded hρ (h front (by simp [layers])),
      hlayers fun b hb => h b (by simp [layers, hb])]
  | within front others outer ih =>
    rw [renumber, Bindings.renumber_of_grounded hρ (h front (by simp [layers])),
      hlayers fun b hb => h b (by simp [layers, hb]), ih fun b hb => h b (by simp [layers, hb])]

end Environment

/-! ## Failures -/

namespace Failure

@[simp] theorem tag_renumber (f : Failure) (code raw : String) (span : Span) :
    (f.renumber ρ).tag code raw span = (f.tag code raw span).renumber ρ := by
  obtain ⟨cause, span', code', notes⟩ := f
  simp only [renumber, tag, Cause.kind_renumber]
  split <;> rfl

theorem reason?_renumber (f : Failure) :
    (f.renumber ρ).reason? = f.reason?.map (Failure.renumber ρ) := by
  rw [reason?, reason?, cause_renumber]
  cases f.cause <;> rfl

theorem ofCode_renumber (code : String) (reason : Failure) :
    ofCode code (reason.renumber ρ) = (ofCode code reason).renumber ρ := by
  have hwritable := (Value.failure reason).isWritable_renumber ρ
  rw [Value.renumber] at hwritable
  rw [ofCode, ofCode, hwritable]
  split <;> rfl

/-- Rendering by itself fails without objects that have numbers. -/
theorem Own.renumber_eq {f : Failure} (h : f.Own) : f.renumber ρ = f := by
  cases h with
  | scan e => cases e <;> rfl
  | refusal r => cases r <;> rfl
  | unnamed | noTemplate => rfl

/-- Failures that are the same but for the numbers. -/
def Likeness.renumbered : Failure.Likeness where
  rel f f' := f' = f.renumber ρ
  own h := (h.renumber_eq ρ).symm
  tag h _ _ _ := by rw [h, tag_renumber]
  reason {f f'} h := by
    rw [h, reason?_renumber]
    cases f.reason? with
    | none => exact .none
    | some reason => exact .some rfl
  fallback h _ _ := by rw [h]; rfl

end Failure

/-! ## Worlds -/

/-- Two worlds that are the same but for the numbers. The first has given numbers to at least `n`
objects. -/
structure World.Renumbered (n : Nat) (w w' : World) : Prop where
  env : w'.env = w.env.renumber ρ
  store : w.store.Renumbered ρ n w'.store

namespace World.Renumbered

variable {ρ} {n : Nat} {w w' : World} (h : w.Renumbered ρ n w')
include h

theorem get?_env (name : String) :
    w'.env.get? name = (w.env.get? name).map (Object.renumber ρ) := by
  rw [h.env, Environment.get?_renumber]

theorem inEnv {env env' : Environment} (henv : env' = env.renumber ρ) :
    (w.inEnv env).Renumbered ρ n (w'.inEnv env') :=
  ⟨henv, h.store⟩

end World.Renumbered

theorem Hook.templateOf_renumber (v : Value) : templateOf (v.renumber ρ) = templateOf v := by
  have hother : (do
      if (← (v.renumber ρ).length) == 0 then return ""
      else throw (.noAttribute (v.renumber ρ).typeName "startswith") : Except Fault String) = (do
      if (← v.length) == 0 then return ""
      else throw (.noAttribute v.typeName "startswith")) := by
    rw [Object.length_renumber, Value.typeName_renumber]
  cases v with
  | text | bytes | buffer => rfl
  | _ => exact hother

/-! ## Actions -/

/-- Two actions come to the same but for the numbers: to results one of which is what `g` makes of
the other, or to failures. The worlds after them are the same but for the numbers. -/
abbrev Action.Mirrored {α β : Type} (n : Nat) (g : α → β) :
    Except Failure α × World → Except Failure β × World → Prop :=
  Alongside (World.Renumbered ρ n) (Failure.Likeness.renumbered ρ).rel fun _ _ a b => b = g a

section

variable {ρ} {n : Nat} {w w' : World} (hw : w.Renumbered ρ n w')
include hw

/-- Computations that mirror each other come to the same in worlds that are the same but for the
numbers. -/
theorem Compute.Mirrors.mirrored {α β : Type} {g : α → β} {c : Compute α} {c' : Compute β}
    (h : c.Mirrors ρ g c') :
    Mirrored ρ n g (outcome (compute c) w) (outcome (compute c') w') := by
  obtain ⟨hresult, hstores⟩ := h hw.store
  rw [outcome_compute, outcome_compute, hresult]
  cases (c.run.run w.store).1 with
  | ok a => exact .ok ⟨hw.env, hstores⟩ rfl
  | error f => exact .error ⟨hw.env, hstores⟩ rfl

namespace Action

theorem mirrored_lookup (name : String) :
    Mirrored ρ n (Object.renumber ρ) (outcome (lookup name) w) (outcome (lookup name) w') := by
  cases hname : w.env.get? name with
  | none =>
    have hname' : w'.env.get? name = none := by rw [hw.get?_env, hname, Option.map_none]
    rw [outcome_lookup_of_none hname, outcome_lookup_of_none hname']
    exact .error hw rfl
  | some o =>
    have hname' : w'.env.get? name = some (o.renumber ρ) := by
      rw [hw.get?_env, hname, Option.map_some]
    rw [outcome_lookup hname, outcome_lookup hname']
    exact .ok hw rfl

theorem mirrored_define (name : String) (o : Object) :
    Mirrored ρ n id (outcome (define name o) w) (outcome (define name (o.renumber ρ)) w') := by
  have hsame : w'.env.Writable ↔ w.env.Writable := by
    rw [hw.env, Environment.writable_renumber]
  by_cases hwritable : w.env.Writable
  · rw [outcome_define_of_writable hwritable, outcome_define_of_writable (hsame.mpr hwritable)]
    refine .ok ⟨?_, hw.store⟩ rfl
    simp only [hw.env, Environment.withFront_put_renumber]
  · rw [outcome_define_of_not_writable hwritable,
      outcome_define_of_not_writable (hwritable ∘ hsame.mp)]
    exact .error hw rfl

theorem mirrored_forM_define (es : List (String × Object)) :
    Mirrored ρ n id (outcome (es.forM fun e => define e.1 e.2) w)
      (outcome ((es.map (Prod.map id (Object.renumber ρ))).forM fun e => define e.1 e.2) w') := by
  induction es generalizing w w' with
  | nil => exact .ok hw rfl
  | cons e es ih => exact (mirrored_define hw e.1 e.2).bind fun hw _ => ih hw

theorem mirrored_assign (name : String) (o : Object) :
    Mirrored ρ n id (outcome (assign name o) w) (outcome (assign name (o.renumber ρ)) w') := by
  refine ((Compute.mirrors_held ρ o).mirrored hw).bind fun {o o' _ _} hw ho => ?_
  rw [ho]
  exact mirrored_define hw name o

end Action

end

/-! ## Rendering -/

/-- Other numbers make no difference to rendering. -/
def Likeness.renumbered (n : Nat) : Likeness where
  worlds := World.Renumbered ρ n
  objects _ _ o o' := o' = o.renumber ρ
  failures := .renumbered ρ
  noted hw _ _ _ := ⟨hw.env, hw.store⟩
  asked hw _ := ⟨hw.env, hw.store⟩
  text _ _ := rfl
  tokens {_ _ o o'} hw ho na := by
    rw [ho, Object.value_renumber]
    exact ((o.value.mirrors_tokens na).mirrored hw).mono Eq.symm
  named {w w'} hw name := by
    rw [hw.get?_env, Option.map_map]
    simp only [Function.comp_def, Object.value_renumber, Hook.templateOf_renumber]

/-! ## Bare worlds -/

/-- A store with nothing in it, which has given numbers to `n` objects. -/
def Store.bare (n : Nat) : Store :=
  ⟨#[], #[], #[], n⟩

namespace Renumbering

/-- Everything gets the numbers that come next in a store, except the first `n` objects, which have
theirs already. -/
def into {n : Nat} (s : Store) (h : n ≤ s.objects) : Renumbering where
  objects := ⟨fun i => if i < n then i else s.objects + (i - n), fun i j hij => by
    dsimp only at hij
    split at hij <;> split at hij <;> omega⟩
  streams := ⟨(s.streams.size + ·), fun _ _ => Nat.add_left_cancel⟩
  slots := ⟨(s.slots.size + ·), fun _ _ => Nat.add_left_cancel⟩
  spaces := ⟨(s.spaces.size + ·), fun _ _ => Nat.add_left_cancel⟩

variable {n : Nat} {s : Store} (h : n ≤ s.objects)

@[simp] theorem objects_into (i : Nat) : (into s h).objects (n + i) = s.objects + i := by
  change (if n + i < n then n + i else s.objects + (n + i - n)) = _
  simp

@[simp] theorem streams_into (i : Nat) : (into s h).streams i = s.streams.size + i :=
  rfl

@[simp] theorem slots_into (i : Nat) : (into s h).slots i = s.slots.size + i :=
  rfl

@[simp] theorem spaces_into (i : Nat) : (into s h).spaces i = s.spaces.size + i :=
  rfl

theorem fixes_into : (into s h).Fixes n :=
  fun _ hi => if_pos hi

end Renumbering

/-- Nothing in a bare store needs a counterpart, so it is the same as any other but for the
numbers. -/
theorem Store.renumbered_bare {n : Nat} {s : Store} (h : n ≤ s.objects) :
    (bare n).Renumbered (.into s h) n s where
  streams id := by simp [bare]
  slots id := by simp [bare]
  spaces id := by simp [bare]
  nextStreams i := by simp [bare]
  nextSlots i := by simp [bare]
  nextSpaces i := by simp [bare]
  nextObjects := Renumbering.objects_into h
  least := Nat.le_refl n

/-- A world with a grounded environment is the same, but for the numbers, as one with this
environment in which nothing has happened. -/
theorem World.renumbered_bare {n : Nat} {w : World} (h : n ≤ w.store.objects)
    (henv : w.env.isGrounded n) :
    (World.new w.env (.bare n)).Renumbered (.into w.store h) n w where
  env := (Environment.renumber_of_grounded (Renumbering.fixes_into h) henv).symm
  store := Store.renumbered_bare h

/-! ## Two runs -/

/-- What two runs come to is the same but for the numbers: it is equal, or it is one failure in
which everything but the first `n` objects has got other numbers in each run. -/
inductive SameButNumbers {α : Type} (n : Nat) : Except Failure α → Except Failure α → Prop
  | refl (r : Except Failure α) : SameButNumbers n r r
  | error (f : Failure) {ρ₁ ρ₂ : Renumbering} (h₁ : ρ₁.Fixes n) (h₂ : ρ₂.Fixes n) :
    SameButNumbers n (.error (f.renumber ρ₁)) (.error (f.renumber ρ₂))

namespace SameButNumbers

variable {α : Type} {n : Nat}

theorem toOption_eq {r₁ r₂ : Except Failure α} (h : SameButNumbers n r₁ r₂) :
    r₁.toOption = r₂.toOption := by
  cases h <;> rfl

/-- Numbers do not show in a failure: its kind, its message and its tags are the same. -/
theorem shows {f₁ f₂ : Failure} (h : SameButNumbers n (.error f₁ : Except Failure α) (.error f₂)) :
    f₁.kind = f₂.kind ∧ f₁.message = f₂.message ∧ f₁.span = f₂.span ∧ f₁.code = f₂.code ∧
      f₁.notes = f₂.notes := by
  cases h with
  | refl => simp
  | error f h₁ h₂ => simp

/-- Two runs are the same but for the numbers if a third one is the same as each of them. -/
theorem of_alongside {ρ₁ ρ₂ : Renumbering} (h₁ : ρ₁.Fixes n) (h₂ : ρ₂.Fixes n)
    {x y₁ y₂ : Except Failure α × World}
    (hy₁ : Alongside (World.Renumbered ρ₁ n) (Failure.Likeness.renumbered ρ₁).rel Same x y₁)
    (hy₂ : Alongside (World.Renumbered ρ₂ n) (Failure.Likeness.renumbered ρ₂).rel Same x y₂) :
    SameButNumbers n y₁.1 y₂.1 := by
  -- whether the third run comes to an end decides the same for both of the others
  cases hy₁ with
  | @ok a b₁ _ _ _ hb₁ =>
    cases hy₂ with
    | @ok _ b₂ _ _ _ hb₂ =>
      obtain rfl : a = b₁ := hb₁
      obtain rfl : a = b₂ := hb₂
      exact .refl (.ok a)
  | @error f f₁ _ _ _ hf₁ =>
    cases hy₂ with
    | @error _ f₂ _ _ _ hf₂ =>
      obtain rfl : f₁ = f.renumber ρ₁ := hf₁
      obtain rfl : f₂ = f.renumber ρ₂ := hf₂
      exact .error f h₁ h₂

end SameButNumbers

end Splice
