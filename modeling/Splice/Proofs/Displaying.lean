import Splice.Proofs.Drawing

/-!
# Turning solid values into tokens

There are three reasons for a value not to have a token: it is undefined, it refuses to be
displayed, or it shows a number that is not written. The items of a solid value are not undefined.
So if turning it into tokens fails, then because of what it is made of: something refuses to be
displayed, or a stream fails when it is asked for an item (`Value.blames_tokens`). An undefined
item, though, is a failure where its turn comes (`Value.run_tokens_of_useless`).
-/

open Splice.Compute

namespace Splice

/-! ## One token -/

namespace Value

/-- A failure is the value's own: the value or one of its items refuses to be displayed, or it is a
stream that fails when it is asked for an item, or hands out one that refuses. -/
def FailsItself (v : Value) (f : Failure) : Prop :=
  v = .mute f ∨ (∃ items, v.items? = some items ∧ ∃ x ∈ items, x.value = .mute f) ∨
    ∃ kind id, v = .stream kind id ∧ ∃ s s', s.Solid ∧
      ((Stream.draw id).run.run s = (.error f, s') ∨
        ∃ x, (Stream.draw id).run.run s = (.ok (some x), s') ∧ x.value = .mute f)

theorem shown_eq_error {v : Value} {f : Fault} (h : v.shown = .error f) : f = .tooManyDigits := by
  rw [shown] at h
  split at h
  · cases h
  · cases h
    rfl

/-- A value has no token if it is undefined, if it refuses to be displayed, or if it shows a number
that is not written. -/
theorem token_eq_error {v : Value} {na : String} {f : Failure} (h : v.token na = .error f) :
    (∃ why, v.useless? = some why ∧ f = .ofFault (.undefined why)) ∨ v = .mute f ∨
      f = .ofFault .tooManyDigits := by
  rw [token] at h
  split at h
  · cases h
  · unfold display at h
    split at h
    · cases h
    · cases h
    · cases h
    · cases h
      exact .inr (.inl rfl)
    · split at h
      · cases h
      · cases h
        exact .inr (.inr rfl)
    · split at h
      · cases h
      · rename_i hlenient
        cases h
        exact .inl ⟨_, if_neg hlenient, rfl⟩
    · cases hshown : v.shown with
      | ok s =>
        rw [hshown] at h
        cases h
      | error fault =>
        rw [hshown] at h
        cases h
        rw [shown_eq_error hshown]
        exact .inr (.inr rfl)

/-- What is undefined has no token. -/
theorem token_of_useless {v : Value} {why : Missing} (h : v.useless? = some why) (na : String) :
    v.token na = .error (.ofFault (.undefined why)) := by
  cases v with
  | undefined why' =>
    obtain ⟨hlenient, h⟩ := Option.ite_none_left_eq_some.mp h
    cases h
    exact if_neg hlenient
  | _ => cases h

end Value

/-! ## Going through items -/

/-- An object that a source may hand out. -/
def Source.Offers (source : Source) (o : Object) : Prop :=
  match source with
  | .items rest => o ∈ rest
  | .numbers .. => ∃ n, o = .new (.int n)
  | .stream id => ∃ s s', s.Solid ∧ (Stream.draw id).run.run s = (.ok (some o), s')

theorem Source.solid_of_offers {source : Source} {o : Object} (h : source.Solid)
    (ho : source.Offers o) : o.value.Solid := by
  cases source with
  | items rest => exact h o ho
  | numbers next step left =>
    obtain ⟨n, rfl⟩ := ho
    exact Value.solid_plain rfl rfl
  | stream id =>
    obtain ⟨s, s', hs, hrun⟩ := ho
    exact (Stream.draws id hs).holds _ _ hrun o rfl

namespace Compute

variable {α β : Type} {c : Compute α} {P : α → Prop} {Q : Failure → Prop}

/-- Whatever failure a computation comes to in a solid store has a property. -/
def Blames (c : Compute α) (Q : Failure → Prop) : Prop :=
  ∀ s f s', s.Solid → c.run.run s = (.error f, s') → Q f

theorem blames_pure (a : α) : (pure a : Compute α).Blames Q := by
  intro s f s' _ hrun
  cases hrun

theorem blames_ofFailure {r : Except Failure α} (h : ∀ f, r = .error f → Q f) :
    (ofFailure r).Blames Q := by
  cases r with
  | ok a => exact blames_pure a
  | error f =>
    intro s f' s' _ hrun
    cases hrun
    exact h f rfl

/-- What comes after a computation starts in a solid store too, with what has been given. -/
theorem Blames.bind {next : α → Compute β} (h : c.Blames Q) (hgives : c.Gives P)
    (hnext : ∀ a, P a → (next a).Blames Q) : (c >>= next).Blames Q := by
  intro s f s' hs hrun
  rw [run_bind] at hrun
  split at hrun
  · rename_i a s₁ heq
    obtain ⟨hs₁, hholds⟩ := hgives hs
    rw [heq] at hs₁
    exact hnext a (hholds a s₁ heq) s₁ f s' hs₁ hrun
  · rename_i heq
    cases hrun
    exact h _ _ _ hs heq

theorem Blames.bind_pure {g : α → β} (h : c.Blames Q) :
    (c >>= fun a => pure (g a)).Blames Q := by
  intro s f s' hs hrun
  rw [run_bind] at hrun
  split at hrun
  · cases hrun
  · rename_i heq
    cases hrun
    exact h _ _ _ hs heq

/-- A step with an object keeps stores solid, and any failure it comes to has a property. -/
structure Steps (f : β → Object → Compute (ForInStep β)) (o : Object) (Q : Failure → Prop) :
    Prop where
  gives : ∀ b, (f b o).Gives fun _ => True
  blames : ∀ b, (f b o).Blames Q

variable {f : β → Object → Compute (ForInStep β)}

theorem Steps.bind {o : Object} (h : Steps f o Q) {b : β} {next : ForInStep β → Compute β}
    (hdone : ∀ b, (next (.done b)).Blames Q) (hyield : ∀ b, (next (.yield b)).Blames Q) :
    (f b o >>= next).Blames Q := by
  refine (h.blames b).bind (h.gives b) fun step _ => ?_
  cases step with
  | done b => exact hdone b
  | yield b => exact hyield b

theorem blames_foldItems {os : List Object} (hf : ∀ o ∈ os, Steps f o Q) (b : β) :
    (foldItems f os b).Blames Q := by
  induction os generalizing b with
  | nil => exact blames_pure b
  | cons o os ih =>
    obtain ⟨ho, hos⟩ := List.forall_mem_cons.mp hf
    exact ho.bind blames_pure (ih hos)

theorem blames_foldNumbers (hf : ∀ n, Steps f (.new (.int n)) Q) (next step : Int) (left : Nat)
    (b : β) : (foldNumbers f next step left b).Blames Q := by
  induction left generalizing next b with
  | zero => exact blames_pure b
  | succ left ih => exact (hf next).bind blames_pure (ih (next + step))

theorem blames_foldNext {id : Nat} (hdraw : (Stream.draw id).Blames Q)
    (hf : ∀ o, (Source.stream id).Offers o → Steps f o Q) (bound : Nat) (b : β) :
    (foldNext (Stream.draw id) f bound b).Blames Q := by
  have hgives : (Stream.draw id).Gives fun found =>
      ∀ o, found = some o → (Source.stream id).Offers o := fun s hs =>
    ⟨(Stream.draws id hs).solid, fun found s' hrun o ho => ⟨s, s', hs, ho ▸ hrun⟩⟩
  induction bound generalizing b with
  | zero => exact blames_pure b
  | succ bound ih =>
    refine hdraw.bind hgives fun found hfound => ?_
    cases found with
    | none => exact blames_pure b
    | some o => exact (hf o (hfound o rfl)).bind blames_pure ih

/-- Keeping what is made of an object is a step. -/
theorem steps_keeping {g : Object → Compute (Option α)} {o : Object}
    (hgives : (g o).Gives fun _ => True) (hg : (g o).Blames Q) :
    Steps (fun done o => do
      match ← g o with
      | some a => return .yield (a :: done)
      | none => return .yield done) o Q := by
  refine ⟨fun done => hgives.bind fun found _ => ?_, fun done => hg.bind hgives fun found _ => ?_⟩
  · cases found with
    | none => exact gives_pure trivial
    | some a => exact gives_pure trivial
  · cases found with
    | none => exact blames_pure _
    | some a => exact blames_pure _

/-- Going through a source fails as the source does or as what is made of its objects. -/
theorem blames_filterMap {g : Object → Compute (Option α)} {source : Source}
    (hgives : ∀ o, source.Offers o → (g o).Gives fun _ => True)
    (hg : ∀ o, source.Offers o → (g o).Blames Q)
    (hdraw : ∀ id, source = .stream id → (Stream.draw id).Blames Q) :
    (filterMap Stream.draw g source).Blames Q := by
  refine Blames.bind_pure ?_
  cases source with
  | items os => exact blames_foldItems (fun o ho => steps_keeping (hgives o ho) (hg o ho)) []
  | numbers next step left =>
    exact blames_foldNumbers
      (fun n => steps_keeping (hgives _ ⟨n, rfl⟩) (hg _ ⟨n, rfl⟩)) next step left []
  | stream id =>
    have hget : (get : Compute Store).Blames Q := by
      intro s f s' _ hrun
      cases hrun
    exact hget.bind gives_get fun store _ => blames_foldNext (hdraw id rfl)
      (fun o ho => steps_keeping (hgives o ho) (hg o ho)) (store.pending maxDepth id) []

/-- Going through items ends with the failure of the first item that fails. -/
theorem run_foldItems_of_error {f : β → Object → Compute (ForInStep β)} {s : Store}
    {before after : List Object} {x : Object} {failure : Failure}
    (hbefore : ∀ y ∈ before, ∀ b, ∃ b', (f b y).run.run s = (.ok (.yield b'), s))
    (hx : ∀ b, (f b x).run.run s = (.error failure, s)) (b : β) :
    (foldItems f (before ++ x :: after) b).run.run s = (.error failure, s) := by
  induction before generalizing b with
  | nil => rw [List.nil_append, foldItems, run_bind, hx]
  | cons y before ih =>
    obtain ⟨b', hy⟩ := hbefore y List.mem_cons_self b
    rw [List.cons_append, foldItems, run_bind, hy]
    exact ih (fun z hz => hbefore z (List.mem_cons_of_mem y hz)) b'

end Compute

/-! ## All tokens -/

namespace Value

variable {v : Value}

/-- A solid value has no token only if it refuses to be displayed, or if there is a number that is
not written. -/
theorem blames_token {Q : Failure → Prop} (hv : v.Solid) (na : String)
    (hmute : ∀ f, v = .mute f → Q f) (hdigits : Q (.ofFault .tooManyDigits)) :
    (ofFailure (v.token na)).Blames Q := by
  refine blames_ofFailure fun f hf => ?_
  rcases token_eq_error hf with ⟨why, huseless, -⟩ | hself | rfl
  · rw [hv.defined] at huseless
    cases huseless
  · exact hmute f hself
  · exact hdigits

/-- The tokens of what a solid source hands out. -/
theorem blames_tokens_source {Q : Failure → Prop} {source : Source} (h : source.Solid) (na : String)
    (hmute : ∀ o f, source.Offers o → o.value = .mute f → Q f)
    (hdigits : Q (.ofFault .tooManyDigits))
    (hdraw : ∀ id, source = .stream id → (Stream.draw id).Blames Q) :
    (filterMap Stream.draw (fun x => return some (← ofFailure (x.value.token na)))
      source).Blames Q := by
  refine blames_filterMap (fun o _ => ?_) (fun o ho => ?_) hdraw
  · exact (gives_any_ofFailure _).bind fun _ _ => gives_pure trivial
  · have hsolid : o.value.Solid := Source.solid_of_offers h ho
    exact (blames_token hsolid na (fun f => hmute o f ho) hdigits).bind_pure

/-- If turning a solid value into tokens fails, the failure is the value's own, or there is a number
that is not written. -/
theorem blames_tokens (hv : v.Solid) (na : String) :
    (v.tokens na).Blames fun f => v.FailsItself f ∨ f = .ofFault .tooManyDigits := by
  rw [tokens]
  split
  · exact (blames_token hv na (fun f h => .inl (.inl h)) (.inr rfl)).bind_pure
  · rename_i hscalar
    have hitems {items : List Object} (h : v.items? = some items) :
        (filterMap Stream.draw (fun x => return some (← ofFailure (x.value.token na)))
          (.items items)).Blames fun f => v.FailsItself f ∨ f = .ofFault .tooManyDigits := by
      have hsolid : (Source.items items).Solid := hv.whole.items h
      refine blames_tokens_source hsolid na (fun o f ho hf => ?_) (.inr rfl) fun id hid => ?_
      · exact .inl (.inr (.inl ⟨items, h, o, ho, hf⟩))
      · cases hid
    cases v with
    | list xs | tuple xs | set xs | view p es => exact hitems rfl
    | range start stop step =>
      have hsolid : (Source.numbers start step (rangeLength start stop step)).Solid := trivial
      refine blames_tokens_source hsolid na (fun o f ho hf => ?_) (.inr rfl) fun id hid => ?_
      · obtain ⟨n, rfl⟩ := ho
        cases hf
      · cases hid
    | stream kind id =>
      have hsolid : (Source.stream id).Solid := trivial
      refine blames_tokens_source hsolid na (fun o f ho hf => ?_) (.inr rfl) fun i hi => ?_
      · obtain ⟨s, s', hs, hrun⟩ := ho
        exact .inl (.inr (.inr ⟨kind, id, rfl, s, s', hs, .inr ⟨o, hrun, hf⟩⟩))
      · cases hi
        exact fun s f s' hs hrun => .inl (.inr (.inr ⟨kind, id, rfl, s, s', hs, .inl hrun⟩))
    | undefined why =>
      -- only one that counts as empty is solid
      have hlenient : why.isLenient = true := by
        simpa [useless?] using hv.defined
      have hempty : (undefined why).items? = some [] := if_pos hlenient
      rw [sourceOf.eq_def]
      dsimp only
      rw [hempty]
      exact hitems hempty
    | _ => exact absurd rfl hscalar

/-- Turning a solid value into tokens leaves a solid store. -/
theorem gives_tokens (hv : v.Solid) (na : String) : (v.tokens na).Gives fun _ => True := by
  rw [tokens]
  split
  · exact (gives_any_ofFailure _).bind fun _ _ => gives_pure trivial
  · exact (gives_sourceOf hv.whole).bind fun source hsource =>
      (gives_filterMap Stream.draws (P := fun _ => True)
        (fun o _ => (gives_any_ofFailure _).bind fun _ _ => gives_pure fun _ _ => trivial)
        hsource).mono fun _ _ => trivial

/-- An undefined item is a failure where its turn comes. -/
theorem run_tokens_of_useless {na : String} {before after : List Object} {x : Object}
    {why : Missing} (hv : v = .list (before ++ x :: after) ∨ v = .tuple (before ++ x :: after))
    (hbefore : ∀ y ∈ before, ∃ t, y.value.token na = .ok t) (hx : x.value.useless? = some why)
    (s : Store) : (v.tokens na).run.run s = (.error (.ofFault (.undefined why)), s) := by
  have htokens : v.tokens na = filterMap Stream.draw
      (fun x => return some (← ofFailure (x.value.token na))) (.items (before ++ x :: after)) := by
    rcases hv with rfl | rfl <;> rfl
  rw [htokens, filterMap, run_bind, fold,
    run_foldItems_of_error (fun y hy done => ?_) fun done => ?_]
  · obtain ⟨t, ht⟩ := hbefore y hy
    rw [ht]
    exact ⟨t :: done, rfl⟩
  · rw [token_of_useless hx]
    rfl

end Value

end Splice
