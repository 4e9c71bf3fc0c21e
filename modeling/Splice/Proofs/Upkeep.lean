import Splice.Draw
import Splice.Proofs.Actions
import Splice.Proofs.Operating

/-!
# Streams without holes

A store is `Solid` if nothing undefined is to be found in it: not among the items that streams have
left, nor in slots and name spaces. A computation *gives* something with a property if it leaves
every solid store solid, whether it succeeds or fails, and what it comes to has the property.

Going through the items of a source keeps whatever one step keeps (`Compute.gives_fold`), provided
that the items that streams hand out are solid.
-/

namespace Splice

/-! ## Stores -/

/-- What a loop takes its items from has solid ones. -/
def Source.Solid : Source → Prop
  | .items rest => ∀ o ∈ rest, o.value.Solid
  | .numbers .. | .stream _ => True

namespace Formula

/-- The names of a space stand for solid values. -/
structure Space.Solid (s : Space) : Prop where
  known : ∀ n o, s.known n = some o → o.value.Solid
  assigned : ∀ e ∈ s.assigned, e.2.value.Solid

end Formula

/-- The items that a stream has left are solid. -/
def Stream.Solid : Stream → Prop
  | .items rest _ => ∀ o ∈ rest, o.value.Solid
  | .generation _ source => source.Solid
  | .running => True

/-- Nothing undefined is to be found in a store. -/
structure Store.Solid (s : Store) : Prop where
  streams : ∀ x ∈ s.streams, x.Solid
  slots : ∀ o ∈ s.slots, o.value.Solid
  spaces : ∀ x ∈ s.spaces, x.Solid

namespace Compute

variable {α β : Type} {P Q : α → Prop} {R : β → Prop} {c : Compute α} {store : Store}

/-! ## Computations -/

/-- In this store, a computation leaves a solid store and comes to something with a property, if it
comes to anything. -/
structure GivesIn (c : Compute α) (store : Store) (P : α → Prop) : Prop where
  solid : (c.run.run store).2.Solid
  holds : ∀ a store', c.run.run store = (.ok a, store') → P a

/-- A computation leaves solid stores solid and comes to something with a property, if it comes to
anything. -/
def Gives (c : Compute α) (P : α → Prop) : Prop :=
  ∀ ⦃store⦄, store.Solid → c.GivesIn store P

theorem GivesIn.bind {next : α → Compute β} (h : c.GivesIn store P)
    (hnext : ∀ a store', c.run.run store = (.ok a, store') → store'.Solid → P a →
      (next a).GivesIn store' R) : (c >>= next).GivesIn store R := by
  obtain ⟨hsolid, hholds⟩ := h
  rcases hrun : c.run.run store with ⟨f | a, store'⟩
  · rw [hrun] at hsolid
    have hbind : (c >>= next).run.run store = (.error f, store') := by rw [run_bind, hrun]
    exact ⟨by rwa [hbind], fun b s h => by rw [hbind] at h; cases h⟩
  · rw [hrun] at hsolid
    have hbind : (c >>= next).run.run store = (next a).run.run store' := by rw [run_bind, hrun]
    obtain ⟨hsolid', hholds'⟩ := hnext a store' hrun hsolid (hholds a store' hrun)
    exact ⟨by rwa [hbind], fun b s h => hholds' b s (by rwa [hbind] at h)⟩

theorem Gives.bind {next : α → Compute β} (h : c.Gives P) (hnext : ∀ a, P a → (next a).Gives R) :
    (c >>= next).Gives R :=
  fun _ hstore => (h hstore).bind fun a _ _ hstore' ha => hnext a ha hstore'

theorem GivesIn.mono (h : c.GivesIn store P) (hPQ : ∀ a, P a → Q a) : c.GivesIn store Q :=
  ⟨h.solid, fun a store' hrun => hPQ a (h.holds a store' hrun)⟩

theorem Gives.mono (h : c.Gives P) (hPQ : ∀ a, P a → Q a) : c.Gives Q :=
  fun _ hstore => (h hstore).mono hPQ

theorem gives_pure {a : α} (h : P a) : (pure a : Compute α).Gives P :=
  fun _ hstore => ⟨hstore, fun _ _ hrun => by cases hrun; exact h⟩

theorem gives_throw (f : Failure) : (throw f : Compute α).Gives P :=
  fun _ hstore => ⟨hstore, nofun⟩

theorem gives_fail (f : Fault) : (fail f : Compute α).Gives P :=
  gives_throw _

theorem gives_ofFailure {r : Except Failure α} (h : Ensures r P) : (ofFailure r).Gives P := by
  cases r with
  | ok a => exact gives_pure (h a rfl)
  | error f => exact gives_throw f

theorem gives_ofFault {r : Except Fault α} (h : Ensures r P) : (ofFault r).Gives P := by
  cases r with
  | ok a => exact gives_pure (h a rfl)
  | error f => exact gives_throw _

theorem gives_any_ofFault (r : Except Fault α) : (ofFault r).Gives fun _ => True :=
  gives_ofFault fun _ _ => trivial

theorem gives_any_ofFailure (r : Except Failure α) : (ofFailure r).Gives fun _ => True :=
  gives_ofFailure fun _ _ => trivial

theorem gives_get : (get : Compute Store).Gives Store.Solid :=
  fun _ hstore => ⟨hstore, fun _ _ hrun => by cases hrun; exact hstore⟩

theorem gives_modifyGet {g : Store → α × Store} (h : ∀ store, store.Solid → P (g store).1)
    (hsolid : ∀ store, store.Solid → (g store).2.Solid) : (modifyGet g : Compute α).Gives P :=
  fun store hstore => ⟨hsolid store hstore, fun _ _ hrun => by cases hrun; exact h store hstore⟩

theorem gives_modify {g : Store → Store} (hsolid : ∀ store, store.Solid → (g store).Solid) :
    (modify g : Compute Unit).Gives fun _ => True :=
  gives_modifyGet (fun _ _ => trivial) hsolid

theorem gives_tryCatch {handle : Failure → Compute α} (h : c.Gives P)
    (hhandle : ∀ f, (handle f).Gives P) : (tryCatch c handle).Gives P := by
  intro store hstore
  obtain ⟨hsolid, hholds⟩ := h hstore
  rcases hrun : c.run.run store with ⟨f | a, store'⟩
  · rw [hrun] at hsolid
    have htry : (tryCatch c handle).run.run store = (handle f).run.run store' := by
      rw [run_tryCatch, hrun]
    obtain ⟨hsolid', hholds'⟩ := hhandle f hsolid
    exact ⟨by rwa [htry], fun b s h => hholds' b s (by rwa [htry] at h)⟩
  · rw [hrun] at hsolid
    have htry : (tryCatch c handle).run.run store = (.ok a, store') := by
      rw [run_tryCatch, hrun]
    exact ⟨by rwa [htry], fun b s h => by rw [htry] at h; cases h; exact hholds a store' hrun⟩

/-! ## Objects -/

theorem gives_held (o : Object) : (held o).Gives fun o' => o'.value = o.value := by
  rw [held]
  split
  · exact gives_pure rfl
  · exact gives_modifyGet (fun _ _ => rfl) fun _ h => ⟨h.streams, h.slots, h.spaces⟩

theorem map_value_numberFrom (next : Nat) (os : List Object) :
    (numberFrom next os).1.map (·.value) = os.map (·.value) := by
  induction os generalizing next with
  | nil => rfl
  | cons o os ih =>
    rw [numberFrom]
    split
    · simp [ih]
    · simp [ih]

/-- Objects that are held keep their values. -/
theorem gives_heldAll (os : List Object) :
    (heldAll os).Gives fun os' => os'.map (·.value) = os.map (·.value) :=
  gives_modifyGet (fun _ _ => map_value_numberFrom ..) fun _ h => ⟨h.streams, h.slots, h.spaces⟩

theorem solid_of_map_value_eq {os os' : List Object} (h : os'.map (·.value) = os.map (·.value))
    (hos : ∀ o ∈ os, o.value.Solid) : ∀ o ∈ os', o.value.Solid := by
  intro o ho
  obtain ⟨o₁, ho₁, heq⟩ := List.mem_map.mp (h ▸ List.mem_map_of_mem (f := Object.value) ho)
  exact heq ▸ hos o₁ ho₁

theorem gives_list {os : List Object} (h : ∀ o ∈ os, o.value.Solid) :
    (list os).Gives (·.value.Solid) :=
  (gives_heldAll os).bind fun _ heq =>
    gives_pure (Value.solid_list.mpr (solid_of_map_value_eq heq h))

theorem gives_tuple {os : List Object} (h : ∀ o ∈ os, o.value.Solid) :
    (tuple os).Gives (·.value.Solid) :=
  (gives_heldAll os).bind fun _ heq =>
    gives_pure (Value.solid_tuple.mpr (solid_of_map_value_eq heq h))

theorem gives_asKey (o : Object) : (ofFault o.asKey).Gives fun key => key = o :=
  gives_ofFault fun _ hkey => Object.asKey_eq_ok hkey

theorem gives_singleton {o : Object} (h : o.value.Solid) :
    (singleton o).Gives (·.value.Solid) := by
  refine (gives_asKey o).bind fun key hkey => (gives_held key).bind fun o' ho' => gives_pure ?_
  subst hkey
  simpa [Object.new, ho'] using h

theorem gives_heldEntries {es : List (Object × Object)} (h : Value.EntriesSolid es) :
    (heldEntries es).Gives Value.EntriesSolid := by
  refine (gives_heldAll _).bind fun ks hks => (gives_heldAll _).bind fun vs hvs => gives_pure ?_
  have hks := solid_of_map_value_eq hks (List.forall_mem_map.mpr fun e he => (h e he).1)
  have hvs := solid_of_map_value_eq hvs (List.forall_mem_map.mpr fun e he => (h e he).2)
  intro e he
  exact ⟨hks e.1 (List.of_mem_zip he).1, hvs e.2 (List.of_mem_zip he).2⟩

theorem gives_dict {es : List (Object × Object)} (h : Value.EntriesSolid es) :
    (dict es).Gives (·.value.Solid) :=
  (gives_heldEntries h).bind fun _ hes =>
    (gives_ofFault (Object.solid_makeDict hes)).bind fun _ hv => gives_pure hv

/-! ## Streams, slots and name spaces -/

theorem gives_newStream (kind : StreamKind) {s : Stream} (hs : s.Solid) :
    (newStream kind s).Gives (·.value.Solid) := by
  refine gives_modifyGet (fun _ _ => Value.solid_plain rfl rfl) fun store h =>
    ⟨fun x hx => ?_, h.slots, h.spaces⟩
  obtain hx | rfl := Array.mem_push.mp hx
  · exact h.streams x hx
  · exact hs

theorem gives_setStream (id : Nat) {s : Stream} (hs : s.Solid) :
    (setStream id s).Gives fun _ => True := by
  refine gives_modify fun store h => ⟨fun x hx => ?_, h.slots, h.spaces⟩
  obtain hx | rfl := Array.mem_or_eq_of_mem_setIfInBounds hx
  · exact h.streams x hx
  · exact hs

theorem gives_newSlot : newSlot.Gives fun _ => True := by
  refine gives_modifyGet (fun _ _ => trivial) fun store h => ⟨h.streams, fun o ho => ?_, h.spaces⟩
  obtain ho | rfl := Array.mem_push.mp ho
  · exact h.slots o ho
  · exact Value.solid_plain rfl rfl

theorem gives_setSlot (slot : Nat) {o : Object} (ho : o.value.Solid) :
    (setSlot slot o).Gives fun _ => True := by
  refine (gives_held o).bind fun o' ho' => gives_modify fun store h =>
    ⟨h.streams, fun x hx => ?_, h.spaces⟩
  obtain hx | rfl := Array.mem_or_eq_of_mem_setIfInBounds hx
  · exact h.slots x hx
  · exact ho' ▸ ho

/-- Assigning a name in one of some spaces. -/
theorem solid_assign {s : Formula.Space} (hs : s.Solid) (name : String) {o : Object}
    (ho : o.value.Solid) : (s.assign name o).Solid := by
  refine ⟨hs.known, fun e he => ?_⟩
  obtain rfl | he := List.mem_cons.mp he
  · exact ho
  · exact hs.assigned e (List.mem_filter.mp he).1

theorem gives_assign (space : Nat) (name : String) {o : Object} (ho : o.value.Solid) :
    (assign space name o).Gives (·.value.Solid) := by
  refine (gives_held o).bind fun o' ho' => ?_
  have ho' : o'.value.Solid := ho' ▸ ho
  refine .bind (P := fun _ => True) (gives_modify fun store h => ⟨h.streams, h.slots, ?_⟩)
    fun _ _ => gives_pure ho'
  -- only one of the spaces is touched
  intro x hx
  obtain ⟨i, hi, rfl⟩ := Array.mem_iff_getElem.mp hx
  rw [Array.getElem_modify]
  have hi : i < store.spaces.size := by simpa using hi
  have hx := h.spaces _ (Array.getElem_mem hi)
  split
  · exact solid_assign hx name ho'
  · exact hx

/-! ## Running through items -/

/-- The items of a whole value come from a solid source. -/
theorem gives_sourceOf {v : Value} (h : v.Whole) : (sourceOf v).Gives Source.Solid := by
  unfold sourceOf
  split
  · exact gives_pure trivial
  · exact gives_pure trivial
  · split
    · rename_i xs _ hxs
      exact gives_pure (h.items hxs)
    · exact gives_fail _
    · exact gives_fail _

section

variable {I : β → Prop} {f : β → Object → Compute (ForInStep β)}

theorem gives_foldItems (hf : ∀ b o, I b → o.value.Solid → (f b o).Gives fun s => I s.value)
    {os : List Object} (hos : ∀ o ∈ os, o.value.Solid) {b : β} (hb : I b) :
    (foldItems f os b).Gives I := by
  induction os generalizing b with
  | nil => exact gives_pure hb
  | cons o os ih =>
    obtain ⟨ho, hos⟩ := List.forall_mem_cons.mp hos
    refine (hf b o hb ho).bind fun s hs => ?_
    cases s with
    | done b => exact gives_pure hs
    | yield b => exact ih hos hs

theorem gives_foldNumbers (hf : ∀ b o, I b → o.value.Solid → (f b o).Gives fun s => I s.value)
    {next step : Int} {left : Nat} {b : β} (hb : I b) :
    (foldNumbers f next step left b).Gives I := by
  induction left generalizing next b with
  | zero => exact gives_pure hb
  | succ left ih =>
    refine (hf b _ hb (Value.solid_plain rfl rfl)).bind fun s hs => ?_
    cases s with
    | done b => exact gives_pure hs
    | yield b => exact ih hs

theorem gives_foldNext {next : Compute (Option Object)} (hnext : next.Gives SolidIfFound)
    (hf : ∀ b o, I b → o.value.Solid → (f b o).Gives fun s => I s.value) {bound : Nat} {b : β}
    (hb : I b) : (foldNext next f bound b).Gives I := by
  induction bound generalizing b with
  | zero => exact gives_pure hb
  | succ bound ih =>
    refine hnext.bind fun found hfound => ?_
    cases found with
    | none => exact gives_pure hb
    | some o =>
      refine (hf b o hb (hfound o rfl)).bind fun s hs => ?_
      cases s with
      | done b => exact gives_pure hs
      | yield b => exact ih hs

/-- Taking items out of streams gives solid ones. -/
def Draws (draw : Nat → Compute (Option Object)) : Prop :=
  ∀ id, (draw id).Gives SolidIfFound

variable {draw : Nat → Compute (Option Object)} (hdraw : Draws draw)
include hdraw

/-- What is kept with every item is kept by going through all. -/
theorem gives_fold (hf : ∀ b o, I b → o.value.Solid → (f b o).Gives fun s => I s.value)
    {source : Source} (hsource : source.Solid) {b : β} (hb : I b) :
    (fold draw f source b).Gives I := by
  cases source with
  | items os => exact gives_foldItems hf hsource hb
  | numbers next step left => exact gives_foldNumbers hf hb
  | stream id => exact gives_get.bind fun _ _ => gives_foldNext (hdraw id) hf hb

theorem gives_filterMap {f : Object → Compute (Option α)}
    (hf : ∀ o, o.value.Solid → (f o).Gives fun found => ∀ a, found = some a → P a)
    {source : Source} (hsource : source.Solid) :
    (filterMap draw f source).Gives fun done => ∀ a ∈ done, P a := by
  refine (gives_fold hdraw (I := fun done => ∀ a ∈ done, P a) (fun done o hdone ho => ?_)
    hsource (List.forall_mem_nil P)).bind fun done hdone =>
      gives_pure fun a ha => hdone a (List.mem_reverse.mp ha)
  refine (hf o ho).bind fun found hfound => ?_
  cases found with
  | none => exact gives_pure hdone
  | some a => exact gives_pure (List.forall_mem_cons.mpr ⟨hfound a rfl, hdone⟩)

/-- All items of a whole value are solid. -/
theorem gives_collect {v : Value} (h : v.Whole) :
    (collect draw v).Gives fun os => ∀ o ∈ os, o.value.Solid := by
  refine (gives_sourceOf h).bind fun source hsource => ?_
  have hrest := gives_filterMap hdraw (f := fun x => return some x) (P := (·.value.Solid))
    (fun o ho => gives_pure fun a ha => by cases ha; exact ho) hsource
  split
  · exact gives_pure hsource
  · refine (gives_any_ofFault _).bind fun n _ => ?_
    split
    · exact .bind (P := fun _ => True) (gives_fail _) fun _ _ => hrest
    · exact hrest
  · exact hrest

theorem gives_isIn (o container : Object) : (isIn draw o container).Gives fun _ => True := by
  rw [isIn]
  split
  · have hsource (id : Nat) : (Source.stream id).Solid := trivial
    refine gives_fold hdraw (I := fun _ => True) (fun _ x _ _ => ?_) (hsource _) trivial
    refine (gives_any_ofFault _).bind fun found _ => ?_
    split
    · exact gives_pure trivial
    · exact gives_pure trivial
  · exact gives_any_ofFault _

theorem gives_distinct {v : Value} (h : v.Whole) :
    (distinct draw v).Gives fun os => ∀ o ∈ os, o.value.Solid := by
  refine (gives_sourceOf h).bind fun source hsource => ?_
  refine (gives_fold hdraw (I := fun found => ∀ o ∈ found, o.value.Solid)
    (fun found o hfound ho => ?_) hsource (List.forall_mem_nil _)).bind
      fun found hfound => gives_pure fun o ho => hfound o (List.mem_reverse.mp ho)
  refine (gives_asKey o).bind fun key hkey => (gives_any_ofFault _).bind fun isIn _ => ?_
  subst hkey
  split
  · exact gives_pure hfound
  · exact (gives_held key).bind fun o' ho' =>
      gives_pure (List.forall_mem_cons.mpr ⟨ho' ▸ ho, hfound⟩)

theorem gives_dropped {v : Value} (h : v.Whole) {os : List Object}
    (hos : ∀ o ∈ os, o.value.Solid) :
    (dropped draw v os).Gives fun left => ∀ o ∈ left, o.value.Solid := by
  refine (gives_sourceOf h).bind fun source hsource =>
    gives_fold hdraw (fun left o hleft ho => ?_) hsource hos
  refine (gives_asKey o).bind fun key _ => (gives_ofFault Object.ensures_without).bind
    fun rest hrest => gives_pure fun x hx => hleft x (hrest x hx)

theorem gives_operate (op : Operation) {a b : Object} (ha : a.value.Whole) (hb : b.value.Whole) :
    (operate draw op a b).Gives (·.value.Solid) := by
  cases op with
  | sub =>
    rw [operate]
    split
    · exact (gives_distinct hdraw ha).bind fun os hos => (gives_dropped hdraw hb hos).bind
        fun left hleft => gives_pure (Value.solid_set.mpr hleft)
    · exact gives_ofFailure (Object.solid_operate .sub ha hb)
  | add => exact gives_ofFailure (Object.solid_operate .add ha hb)
  | mul => exact gives_ofFailure (Object.solid_operate .mul ha hb)
  | floorDiv => exact gives_ofFailure (Object.solid_operate .floorDiv ha hb)
  | mod => exact gives_ofFailure (Object.solid_operate .mod ha hb)

end

end Compute

end Splice
