import Splice.Difference
import Splice.Draw
import Splice.Proofs.Actions
import Splice.Proofs.Renumbering.Filling

/-!
# The same computation with other numbers

Two stores are the same but for the numbers (`Store.Renumbered`) if everything that one of them
holds under a number is to be found, renumbered, under its other number in the second, and if the
numbers that will be given out next go together as well. The second store may hold more: nothing in
it that has no counterpart can be reached from what is renumbered.

A computation *mirrors* another one if, from such stores, it comes to the same result but for the
numbers, and leaves such stores. Whatever is put together from computations that are mirrored is
mirrored, so it is enough to see to the places where numbers are given out or looked up.
-/

namespace Splice

open Formula Renumbering

variable (ρ : Renumbering)

/-! ## Streams, loop names and name spaces -/

def Source.renumber : Source → Source
  | items rest => items (rest.map (Object.renumber ρ))
  | numbers next step left => numbers next step left
  | stream id => stream (ρ.streams id)

namespace Formula

def Frame.renumber (f : Frame) : Frame :=
  ⟨ρ.spaces f.space, f.loops.map (Prod.map id ρ.slots), f.code⟩

def Generation.renumber (g : Generation) : Generation :=
  { g with frame := g.frame.renumber ρ, slot := ρ.slots g.slot }

def Space.renumber (s : Space) : Space where
  known n := (s.known n).map (Object.renumber ρ)
  assigned := s.assigned.map (Prod.map id (Object.renumber ρ))
  distinct := by simpa [Function.comp_def] using s.distinct

@[simp] theorem Space.renumber_fresh (known : String → Option Object) :
    (fresh known).renumber ρ = fresh fun n => (known n).map (Object.renumber ρ) :=
  rfl

@[simp] theorem Space.renumber_assign (s : Space) (name : String) (o : Object) :
    (s.assign name o).renumber ρ = (s.renumber ρ).assign name (o.renumber ρ) := by
  simp [assign, renumber, List.filter_map, Function.comp_def]

end Formula

def Stream.renumber : Stream → Stream
  | items rest failure => items (rest.map (Object.renumber ρ)) (failure.map (Failure.renumber ρ))
  | generation g source => generation (g.renumber ρ) (source.renumber ρ)
  | running => running

@[simp] theorem Stream.pending_renumber (x : Stream) : (x.renumber ρ).pending = x.pending := by
  cases x with
  | items rest failure => simp [renumber, pending]
  | generation g source => cases source <;> simp [renumber, Source.renumber, pending]
  | running => rfl

/-! ## Stores -/

/-- Two stores that are the same but for the numbers. The first has given numbers to at least `n`
objects. -/
structure Store.Renumbered (n : Nat) (s s' : Store) : Prop where
  streams : ∀ id, s'.streams[ρ.streams id]? = s.streams[id]?.map (Stream.renumber ρ)
  slots : ∀ id, s'.slots[ρ.slots id]? = s.slots[id]?.map (Object.renumber ρ)
  spaces : ∀ id, s'.spaces[ρ.spaces id]? = s.spaces[id]?.map (Space.renumber ρ)
  nextStreams : ∀ i, ρ.streams (s.streams.size + i) = s'.streams.size + i
  nextSlots : ∀ i, ρ.slots (s.slots.size + i) = s'.slots.size + i
  nextSpaces : ∀ i, ρ.spaces (s.spaces.size + i) = s'.spaces.size + i
  nextObjects : ∀ i, ρ.objects (s.objects + i) = s'.objects + i
  least : n ≤ s.objects

section

variable {α β : Type} (r : Nat ↪ Nat) (g : α → β) {xs : Array α} {ys : Array β}

/-- What is added to two arrays is found under the number that comes next. -/
theorem getElem?_push_of_next (h : ∀ i, ys[r i]? = xs[i]?.map g)
    (hnext : ∀ i, r (xs.size + i) = ys.size + i) (a : α) (i : Nat) :
    (ys.push (g a))[r i]? = (xs.push a)[i]?.map g := by
  have hsize : r xs.size = ys.size := hnext 0
  simp only [Array.getElem?_push, ← hsize, r.injective.eq_iff, h i]
  split <;> rfl

/-- What is put under a number is found under the other one. -/
theorem getElem?_setIfInBounds_of_injective (h : ∀ i, ys[r i]? = xs[i]?.map g) (id : Nat) (a : α)
    (i : Nat) :
    (ys.setIfInBounds (r id) (g a))[r i]? = (xs.setIfInBounds id a)[i]?.map g := by
  have hbound : r id < ys.size ↔ id < xs.size := by
    rw [← not_iff_not, Nat.not_lt, Nat.not_lt, ← Array.getElem?_eq_none_iff,
      ← Array.getElem?_eq_none_iff, h id, Option.map_eq_none_iff]
  simp only [Array.getElem?_setIfInBounds, r.injective.eq_iff, h i, hbound]
  split
  · split <;> rfl
  · rfl

theorem getElem?_modify_of_injective (h : ∀ i, ys[r i]? = xs[i]?.map g) {f : α → α} {f' : β → β}
    (hf : ∀ a, f' (g a) = g (f a)) (id i : Nat) :
    (ys.modify (r id) f')[r i]? = (xs.modify id f)[i]?.map g := by
  simp only [Array.getElem?_modify, r.injective.eq_iff, h i]
  split
  · simp [Function.comp_def, hf]
  · rfl

end

variable {ρ} in
/-- A stream can be asked as often under its other number. -/
theorem Store.Renumbered.pending_eq {n : Nat} {s s' : Store} (h : s.Renumbered ρ n s')
    (depth id : Nat) : s'.pending depth (ρ.streams id) = s.pending depth id := by
  induction depth generalizing id with
  | zero => rfl
  | succ depth ih =>
    rw [pending, pending, h.streams id]
    cases s.streams[id]? with
    | none => rfl
    | some x =>
      cases x with
      | generation g source =>
        cases source with
        | stream id => exact ih id
        | items | numbers => exact Stream.pending_renumber ρ (.generation g _)
      | items | running => exact Stream.pending_renumber ρ _

/-! ## Computations -/

/-- From stores that are the same but for the numbers, the second computation comes to the same as
the first but for the numbers, and leaves such stores. What the first one comes to turns into what
the second one comes to by `g`. -/
def Compute.Mirrors {α β : Type} (g : α → β) (c : Compute α) (c' : Compute β) : Prop :=
  ∀ ⦃n : Nat⦄ ⦃s s' : Store⦄, s.Renumbered ρ n s' →
    (c'.run.run s').1 = ρ.result g (c.run.run s).1 ∧
      (c.run.run s).2.Renumbered ρ n (c'.run.run s').2

namespace Compute

variable {ρ} {α β γ δ : Type} {g : α → β} {k : γ → δ} {c : Compute α} {c' : Compute β}

theorem mirrors_pure {a : α} {b : β} (h : b = g a) : (pure a : Compute α).Mirrors ρ g (pure b) := by
  subst h
  exact fun _ _ _ hs => ⟨rfl, hs⟩

theorem mirrors_throw {f f' : Failure} (h : f' = f.renumber ρ) :
    (throw f : Compute α).Mirrors ρ g (throw f') := by
  subst h
  exact fun _ _ _ hs => ⟨rfl, hs⟩

theorem mirrors_fail (f : Fault) : (fail f : Compute α).Mirrors ρ g (fail f) :=
  mirrors_throw rfl

theorem mirrors_ofFailure {r : Except Failure α} {r' : Except Failure β} (h : r' = ρ.result g r) :
    (ofFailure r).Mirrors ρ g (ofFailure r') := by
  subst h
  cases r with
  | ok a => exact mirrors_pure rfl
  | error f => exact mirrors_throw rfl

theorem mirrors_ofFault {r : Except Fault α} {r' : Except Fault β} (h : r' = g <$> r) :
    (ofFault r).Mirrors ρ g (ofFault r') := by
  subst h
  cases r with
  | ok a => exact mirrors_pure rfl
  | error f => exact mirrors_fail f

/-- What no numbers show in is the same both times. -/
theorem mirrors_ofFault_same {r r' : Except Fault α} (h : r' = r) :
    (ofFault r).Mirrors ρ id (ofFault r') :=
  mirrors_ofFault (h.trans (id_map r).symm)

theorem Mirrors.bind {next : α → Compute γ} {next' : β → Compute δ} (h : c.Mirrors ρ g c')
    (hnext : ∀ a, (next a).Mirrors ρ k (next' (g a))) :
    (c >>= next).Mirrors ρ k (c' >>= next') := by
  intro n s s' hs
  obtain ⟨hresult, hstores⟩ := h hs
  rw [run_bind, run_bind]
  generalize c.run.run s = x, c'.run.run s' = x' at hresult hstores
  obtain ⟨f | a, s₁⟩ := x
  · obtain ⟨_, s₁'⟩ := x'
    cases hresult
    exact ⟨rfl, hstores⟩
  · obtain ⟨_, s₁'⟩ := x'
    cases hresult
    exact hnext a hstores

theorem Mirrors.tryCatch {handle : Failure → Compute α} {handle' : Failure → Compute β}
    (h : c.Mirrors ρ g c') (hhandle : ∀ f, (handle f).Mirrors ρ g (handle' (f.renumber ρ))) :
    (MonadExcept.tryCatch c handle).Mirrors ρ g (MonadExcept.tryCatch c' handle') := by
  intro n s s' hs
  obtain ⟨hresult, hstores⟩ := h hs
  rw [run_tryCatch, run_tryCatch]
  generalize c.run.run s = x, c'.run.run s' = x' at hresult hstores
  obtain ⟨f | a, s₁⟩ := x
  · obtain ⟨_, s₁'⟩ := x'
    cases hresult
    exact hhandle f hstores
  · obtain ⟨_, s₁'⟩ := x'
    cases hresult
    exact ⟨rfl, hstores⟩

/-- What is done after a look at the store may depend on it. -/
theorem mirrors_get {next : Store → Compute γ} {next' : Store → Compute δ}
    (h : ∀ n s s', s.Renumbered ρ n s' → (next s).Mirrors ρ k (next' s')) :
    ((get : Compute Store) >>= next).Mirrors ρ k (get >>= next') :=
  fun _ _ _ hs => h _ _ _ hs hs

theorem mirrors_modifyGet {step : Store → α × Store} {step' : Store → β × Store}
    (h : ∀ n s s', s.Renumbered ρ n s' →
      (step' s').1 = g (step s).1 ∧ (step s).2.Renumbered ρ n (step' s').2) :
    (modifyGet step : Compute α).Mirrors ρ g (modifyGet step') := by
  intro n s s' hs
  obtain ⟨hresult, hstores⟩ := h n s s' hs
  exact ⟨congrArg Except.ok hresult, hstores⟩

theorem mirrors_modify {step step' : Store → Store}
    (h : ∀ n s s', s.Renumbered ρ n s' → (step s).Renumbered ρ n (step' s')) :
    (modify step : Compute Unit).Mirrors ρ id (modify step') :=
  mirrors_modifyGet fun n s s' hs => ⟨rfl, h n s s' hs⟩

/-! ## Objects -/

variable (ρ)

theorem mirrors_held (o : Object) :
    (held o).Mirrors ρ (Object.renumber ρ) (held (o.renumber ρ)) := by
  rw [held, held, Object.mark_renumber, Mark.isHeld_renumber]
  split
  · exact mirrors_pure rfl
  · refine mirrors_modifyGet fun n s s' hs => ⟨?_, ?_⟩
    · have hnext : ρ.objects s.objects = s'.objects := hs.nextObjects 0
      simp [Object.renumber, Mark.renumber, hnext]
    · exact { hs with
        nextObjects := fun i => by
          rw [Nat.add_assoc, Nat.add_assoc]
          exact hs.nextObjects (1 + i)
        least := Nat.le_succ_of_le hs.least }

/-- As many objects need a number, and they get the numbers that come next. -/
theorem numberFrom_renumber (os : List Object) {next next' : Nat}
    (h : ∀ i, ρ.objects (next + i) = next' + i) :
    ∃ count, (numberFrom next os).2 = next + count ∧
      numberFrom next' (os.map (Object.renumber ρ)) =
        ((numberFrom next os).1.map (Object.renumber ρ), next' + count) := by
  induction os generalizing next next' with
  | nil => exact ⟨0, rfl, rfl⟩
  | cons o os ih =>
    rw [List.map_cons, numberFrom, numberFrom, Object.mark_renumber, Mark.isHeld_renumber]
    split
    · obtain ⟨count, hnext, hnumbered⟩ := ih h
      refine ⟨count, hnext, ?_⟩
      rw [hnumbered]
      rfl
    · have hone : ∀ i, ρ.objects (next + 1 + i) = next' + 1 + i := fun i => by
        rw [Nat.add_assoc, Nat.add_assoc]
        exact h (1 + i)
      obtain ⟨count, hnext, hnumbered⟩ := ih hone
      have hmade : ρ.objects next = next' := h 0
      refine ⟨1 + count, ?_, ?_⟩
      · simp only [hnext]
        omega
      · simp [hnumbered, Object.renumber, Mark.renumber, hmade, Nat.add_assoc]

theorem mirrors_heldAll (os : List Object) :
    (heldAll os).Mirrors ρ (List.map (Object.renumber ρ))
      (heldAll (os.map (Object.renumber ρ))) := by
  refine mirrors_modifyGet fun n s s' hs => ?_
  obtain ⟨count, hnext, hnumbered⟩ := numberFrom_renumber ρ os hs.nextObjects
  rw [hnumbered]
  refine ⟨rfl, { hs with nextObjects := fun i => ?_, least := ?_ }⟩
  · simp only [hnext, Nat.add_assoc]
    exact hs.nextObjects (count + i)
  · simp only [hnext]
    exact Nat.le_add_right_of_le hs.least

theorem mirrors_list (os : List Object) :
    (list os).Mirrors ρ (Object.renumber ρ) (list (os.map (Object.renumber ρ))) :=
  (mirrors_heldAll ρ os).bind fun os => mirrors_pure (by simp [Value.renumber])

theorem mirrors_tuple (os : List Object) :
    (tuple os).Mirrors ρ (Object.renumber ρ) (tuple (os.map (Object.renumber ρ))) :=
  (mirrors_heldAll ρ os).bind fun os => mirrors_pure (by simp [Value.renumber])

theorem mirrors_asKey (o : Object) :
    (ofFault o.asKey).Mirrors ρ (Object.renumber ρ) (ofFault (o.renumber ρ).asKey) :=
  mirrors_ofFault (Object.asKey_renumber ρ o)

theorem mirrors_singleton (o : Object) :
    (singleton o).Mirrors ρ (Object.renumber ρ) (singleton (o.renumber ρ)) :=
  (mirrors_asKey ρ o).bind fun key => (mirrors_held ρ key).bind fun _ =>
    mirrors_pure (by simp [Value.renumber])

theorem mirrors_heldEntries (es : List (Object × Object)) :
    (heldEntries es).Mirrors ρ (List.map (Object.renumberEntry ρ))
      (heldEntries (es.map (Object.renumberEntry ρ))) := by
  have hkeys : (es.map (Object.renumberEntry ρ)).map (·.1) =
      (es.map (·.1)).map (Object.renumber ρ) := by
    simp [Object.renumberEntry]
  have hvalues : (es.map (Object.renumberEntry ρ)).map (·.2) =
      (es.map (·.2)).map (Object.renumber ρ) := by
    simp [Object.renumberEntry]
  rw [heldEntries, heldEntries, hkeys, hvalues]
  refine (mirrors_heldAll ρ _).bind fun ks => (mirrors_heldAll ρ _).bind fun vs => mirrors_pure ?_
  rw [List.zip_map]
  rfl

theorem mirrors_dict (es : List (Object × Object)) :
    (dict es).Mirrors ρ (Object.renumber ρ) (dict (es.map (Object.renumberEntry ρ))) :=
  (mirrors_heldEntries ρ es).bind fun es =>
    (mirrors_ofFault (Object.makeDict_renumber ρ es)).bind fun _ => mirrors_pure rfl

/-! ## Streams, slots and name spaces -/

theorem mirrors_newStream (kind : StreamKind) (x : Stream) :
    (newStream kind x).Mirrors ρ (Object.renumber ρ) (newStream kind (x.renumber ρ)) := by
  refine mirrors_modifyGet fun n s s' hs => ⟨?_, ?_⟩
  · have hnext : ρ.streams s.streams.size = s'.streams.size := hs.nextStreams 0
    simp [Value.renumber, hnext]
  · exact { hs with
      streams := getElem?_push_of_next _ _ hs.streams hs.nextStreams x
      nextStreams := fun i => by
        simp only [Array.size_push, Nat.add_assoc]
        exact hs.nextStreams (1 + i) }

theorem mirrors_setStream (i : Nat) (x : Stream) :
    (setStream i x).Mirrors ρ id (setStream (ρ.streams i) (x.renumber ρ)) :=
  mirrors_modify fun n s s' hs => { hs with
    streams := getElem?_setIfInBounds_of_injective _ _ hs.streams i x
    nextStreams := by simpa using hs.nextStreams }

theorem mirrors_newSlot : newSlot.Mirrors ρ ρ.slots newSlot := by
  refine mirrors_modifyGet fun n s s' hs => ⟨(hs.nextSlots 0).symm, ?_⟩
  exact { hs with
    slots := getElem?_push_of_next _ _ hs.slots hs.nextSlots (.new .null)
    nextSlots := fun i => by
      simp only [Array.size_push, Nat.add_assoc]
      exact hs.nextSlots (1 + i) }

theorem mirrors_setSlot (slot : Nat) (o : Object) :
    (setSlot slot o).Mirrors ρ id (setSlot (ρ.slots slot) (o.renumber ρ)) :=
  (mirrors_held ρ o).bind fun o => mirrors_modify fun n s s' hs => { hs with
    slots := getElem?_setIfInBounds_of_injective _ _ hs.slots slot o
    nextSlots := by simpa using hs.nextSlots }

theorem mirrors_newSpace {known known' : String → Option Object}
    (h : ∀ name, known' name = (known name).map (Object.renumber ρ)) :
    (newSpace known).Mirrors ρ ρ.spaces (newSpace known') := by
  obtain rfl : known' = fun name => (known name).map (Object.renumber ρ) := funext h
  refine mirrors_modifyGet fun n s s' hs => ⟨(hs.nextSpaces 0).symm, ?_⟩
  exact { hs with
    spaces := getElem?_push_of_next _ _ hs.spaces hs.nextSpaces (.fresh known)
    nextSpaces := fun i => by
      simp only [Array.size_push, Nat.add_assoc]
      exact hs.nextSpaces (1 + i) }

theorem mirrors_getSpace (space : Nat) :
    (getSpace space).Mirrors ρ (Space.renumber ρ) (getSpace (ρ.spaces space)) := by
  refine mirrors_get fun n s s' hs => mirrors_pure ?_
  rw [hs.spaces]
  cases s.spaces[space]? <;> rfl

theorem mirrors_assign (space : Nat) (name : String) (o : Object) :
    (assign space name o).Mirrors ρ (Object.renumber ρ)
      (assign (ρ.spaces space) name (o.renumber ρ)) := by
  refine (mirrors_held ρ o).bind fun o => ?_
  refine Mirrors.bind (g := id) (mirrors_modify fun n s s' hs => ?_) fun _ => mirrors_pure rfl
  exact { hs with
    spaces := getElem?_modify_of_injective _ _ hs.spaces
      (fun x => (Space.renumber_assign ρ x name o).symm) space
    nextSpaces := by simpa using hs.nextSpaces }

/-! ## Running through items -/

/-- What is neither a stream nor a range is run through by the items that it has. -/
theorem mirrors_ownItems (v : Value) :
    Mirrors ρ (Source.renumber ρ)
      (match v.items?, v.undefined? with
        | some xs, _ => return .items xs
        | none, some why => fail (.undefined why)
        | none, none => fail (.notIterable v.typeName))
      (match (v.renumber ρ).items?, (v.renumber ρ).undefined? with
        | some xs, _ => return .items xs
        | none, some why => fail (.undefined why)
        | none, none => fail (.notIterable (v.renumber ρ).typeName)) := by
  rw [Value.items?_renumber, Value.undefined?_renumber, Value.typeName_renumber]
  cases v.items? with
  | some xs => exact mirrors_pure rfl
  | none =>
    cases v.undefined? with
    | some why => exact mirrors_fail _
    | none => exact mirrors_fail _

theorem mirrors_sourceOf (v : Value) :
    (sourceOf v).Mirrors ρ (Source.renumber ρ) (sourceOf (v.renumber ρ)) := by
  have hother := mirrors_ownItems ρ v
  cases v with
  | stream kind id => exact mirrors_pure rfl
  | range start stop step => exact mirrors_pure rfl
  | _ => exact hother

/-- What a step of a loop has come to so far, and whether it goes on. -/
def mapStep {α β : Type} (g : α → β) : ForInStep α → ForInStep β
  | .done a => .done (g a)
  | .yield a => .yield (g a)

section

variable {α β : Type} {g : α → β} {f : α → Object → Compute (ForInStep α)}
  {f' : β → Object → Compute (ForInStep β)}
  (hf : ∀ a o, (f a o).Mirrors ρ (mapStep g) (f' (g a) (o.renumber ρ)))
include hf

theorem mirrors_foldItems (os : List Object) (a : α) :
    (foldItems f os a).Mirrors ρ g (foldItems f' (os.map (Object.renumber ρ)) (g a)) := by
  induction os generalizing a with
  | nil => exact mirrors_pure rfl
  | cons o os ih =>
    refine (hf a o).bind fun step => ?_
    cases step with
    | done a => exact mirrors_pure rfl
    | yield a => exact ih a

theorem mirrors_foldNumbers (next step : Int) (left : Nat) (a : α) :
    (foldNumbers f next step left a).Mirrors ρ g (foldNumbers f' next step left (g a)) := by
  induction left generalizing next a with
  | zero => exact mirrors_pure rfl
  | succ left ih =>
    refine (hf a (.new (.int next))).bind fun s => ?_
    cases s with
    | done a => exact mirrors_pure rfl
    | yield a => exact ih (next + step) a

theorem mirrors_foldNext {next next' : Compute (Option Object)}
    (hnext : next.Mirrors ρ (Option.map (Object.renumber ρ)) next') (bound : Nat) (a : α) :
    (foldNext next f bound a).Mirrors ρ g (foldNext next' f' bound (g a)) := by
  induction bound generalizing a with
  | zero => exact mirrors_pure rfl
  | succ bound ih =>
    refine hnext.bind fun found => ?_
    cases found with
    | none => exact mirrors_pure rfl
    | some o =>
      refine (hf a o).bind fun step => ?_
      cases step with
      | done a => exact mirrors_pure rfl
      | yield a => exact ih a

end

/-- Taking an item out of a stream mirrors taking it out under its other number. -/
def DrawsAlike (draw : Nat → Compute (Option Object)) : Prop :=
  ∀ i, (draw i).Mirrors ρ (Option.map (Object.renumber ρ)) (draw (ρ.streams i))

section

variable {ρ} {α β : Type} {draw : Nat → Compute (Option Object)} (hdraw : DrawsAlike ρ draw)
include hdraw

theorem mirrors_fold {g : α → β} {f : α → Object → Compute (ForInStep α)}
    {f' : β → Object → Compute (ForInStep β)}
    (hf : ∀ a o, (f a o).Mirrors ρ (mapStep g) (f' (g a) (o.renumber ρ))) (source : Source)
    (a : α) :
    (fold draw f source a).Mirrors ρ g (fold draw f' (source.renumber ρ) (g a)) := by
  cases source with
  | items os => exact mirrors_foldItems ρ hf os a
  | numbers next step left => exact mirrors_foldNumbers ρ hf next step left a
  | stream i =>
    refine mirrors_get fun n s s' hs => ?_
    rw [hs.pending_eq]
    exact mirrors_foldNext ρ hf (hdraw i) _ a

theorem mirrors_filterMap {g : α → β} {f : Object → Compute (Option α)}
    {f' : Object → Compute (Option β)}
    (hf : ∀ o, (f o).Mirrors ρ (Option.map g) (f' (o.renumber ρ))) (source : Source) :
    (filterMap draw f source).Mirrors ρ (List.map g)
      (filterMap draw f' (source.renumber ρ)) := by
  refine Mirrors.bind (mirrors_fold hdraw (g := List.map g) (fun done o => ?_) source [])
    fun done => mirrors_pure List.map_reverse.symm
  refine (hf o).bind fun found => ?_
  cases found with
  | none => exact mirrors_pure rfl
  | some a => exact mirrors_pure rfl

theorem mirrors_collect (v : Value) :
    (collect draw v).Mirrors ρ (List.map (Object.renumber ρ)) (collect draw (v.renumber ρ)) := by
  refine (mirrors_sourceOf ρ v).bind fun source => ?_
  have hrest : Mirrors ρ (List.map (Object.renumber ρ))
      (filterMap draw (fun x => return some x) source)
      (filterMap draw (fun x => return some x) (source.renumber ρ)) :=
    mirrors_filterMap hdraw (fun o => mirrors_pure rfl) source
  cases source with
  | items os => exact mirrors_pure rfl
  | numbers next step left =>
    refine (mirrors_ofFault_same (Object.length_renumber ρ v)).bind fun size => ?_
    dsimp only [id]
    split
    · exact Mirrors.bind (g := id) (mirrors_fail _) fun _ => hrest
    · exact hrest
  | stream i => exact hrest

theorem mirrors_isIn (o container : Object) :
    (isIn draw o container).Mirrors ρ id (isIn draw (o.renumber ρ) (container.renumber ρ)) := by
  have hother : (ofFault (o.isIn container)).Mirrors ρ id _ :=
    mirrors_ofFault_same (Object.isIn_renumber ρ o container)
  obtain ⟨v, m⟩ := container
  cases v with
  | stream kind i =>
    refine mirrors_fold hdraw (fun _ x => ?_) (.stream i) false
    refine (mirrors_ofFault_same (Object.matchesItem_renumber ρ x o)).bind fun found => ?_
    cases found <;> exact mirrors_pure rfl
  | _ => exact hother

theorem mirrors_distinct (v : Value) :
    (distinct draw v).Mirrors ρ (List.map (Object.renumber ρ)) (distinct draw (v.renumber ρ)) := by
  refine (mirrors_sourceOf ρ v).bind fun source => ?_
  refine (mirrors_fold hdraw (g := List.map (Object.renumber ρ)) (fun found o => ?_)
    source []).bind fun found => mirrors_pure List.map_reverse.symm
  refine (mirrors_asKey ρ o).bind fun key => ?_
  refine (mirrors_ofFault_same (Object.isAmong_renumber ρ key found)).bind fun isIn => ?_
  cases isIn with
  | true => exact mirrors_pure rfl
  | false => exact (mirrors_held ρ key).bind fun o => mirrors_pure rfl

theorem mirrors_dropped (v : Value) (os : List Object) :
    (dropped draw v os).Mirrors ρ (List.map (Object.renumber ρ))
      (dropped draw (v.renumber ρ) (os.map (Object.renumber ρ))) := by
  refine (mirrors_sourceOf ρ v).bind fun source => ?_
  refine mirrors_fold hdraw (fun left o => ?_) source os
  refine (mirrors_asKey ρ o).bind fun key => ?_
  exact (mirrors_ofFault (Object.without_renumber ρ [key] left)).bind fun _ => mirrors_pure rfl

/-- An operation does the same to objects with other numbers. -/
theorem mirrors_operate (op : Operation) (a b : Object) :
    (operate draw op a b).Mirrors ρ (Object.renumber ρ)
      (operate draw op (a.renumber ρ) (b.renumber ρ)) := by
  have hplain (op : Operation) : (ofFailure (a.operate op b)).Mirrors ρ (Object.renumber ρ)
      (ofFailure ((a.renumber ρ).operate op (b.renumber ρ))) :=
    mirrors_ofFailure (Object.operate_renumber ρ op a b)
  cases op with
  | sub =>
    have hview (v : Value) : (v.renumber ρ).isSetView = v.isSetView := by cases v <;> rfl
    rw [operate, operate]
    simp only [Object.value_renumber, hview, Value.undefined?_renumber]
    split
    · exact (mirrors_distinct hdraw a.value).bind fun os =>
        (mirrors_dropped hdraw b.value os).bind fun left =>
          mirrors_pure (by simp [Value.renumber])
    · exact hplain .sub
  | add => exact hplain .add
  | mul => exact hplain .mul
  | floorDiv => exact hplain .floorDiv
  | mod => exact hplain .mod

end

end Compute

end Splice
