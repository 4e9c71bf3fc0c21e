import Splice.Proofs.Upkeep

/-!
# Calls give solid values

Functions, types and methods make what they give of their arguments and of plain data. Only a look
into a dictionary may give back an argument as it is, so what a method gives is solid or one of its
arguments (`gives_callMethod`).
-/

open Splice.Compute

namespace Splice

namespace Formula

variable {args : List Object}

/-! ## Making values of a type -/

theorem gives_refuse {α : Type} {P : α → Prop} (complaint : String) :
    (refuse complaint : Compute α).Gives P :=
  gives_fail _

theorem gives_wholeArgument (o : Object) : (wholeArgument o).Gives fun _ => True := by
  rw [wholeArgument]
  split
  · exact gives_pure trivial
  · exact gives_fail _

theorem gives_makeRange (args : List Object) : (makeRange args).Gives Value.Solid := by
  rw [makeRange.eq_def]
  split
  · exact gives_refuse _
  · exact (gives_wholeArgument _).bind fun _ _ => gives_pure (Value.solid_plain rfl rfl)
  · exact (gives_wholeArgument _).bind fun _ _ => (gives_wholeArgument _).bind fun _ _ =>
      gives_pure (Value.solid_plain rfl rfl)
  · refine (gives_wholeArgument _).bind fun _ _ => (gives_wholeArgument _).bind fun _ _ =>
      (gives_wholeArgument _).bind fun _ _ => ?_
    split
    · exact gives_fail _
    · exact gives_pure (Value.solid_plain rfl rfl)
  · exact gives_refuse _

theorem solid_newText (s : List Char) : (newText s).value.Solid := by
  rw [newText.eq_def]
  split
  · exact Value.solid_plain rfl rfl
  · exact Value.solid_plain rfl rfl

theorem gives_decodedText (bs : List UInt8) (encoding handler : String) :
    (decodedText bs encoding handler).Gives (·.value.Solid) := by
  rw [decodedText]
  split
  · exact gives_pure (Value.solid_plain rfl rfl)
  · split
    · exact gives_fail _
    · exact (gives_any_ofFault _).bind fun s _ => gives_pure (solid_newText s)

theorem gives_textArgument (name : String) (o : Object) :
    (textArgument name o).Gives fun _ => True := by
  rw [textArgument.eq_def]
  split
  · exact gives_pure trivial
  · exact gives_refuse _

/-- Decoding what holds bytes gives a text. -/
theorem gives_decoding (v : Value) (encoding handler : String) :
    (match v with
      | .bytes bs | .buffer bs => decodedText bs encoding handler
      | .text _ => refuse "decoding str is not supported"
      | v => refuse ("decoding to str: need a bytes-like object, " ++ v.typeName ++
          " found")).Gives (·.value.Solid) := by
  split
  · exact gives_decodedText ..
  · exact gives_decodedText ..
  · exact gives_refuse _
  · exact gives_refuse _

theorem gives_makeText (args : List Object) : (makeText args).Gives (·.value.Solid) := by
  rw [makeText.eq_def]
  split
  · exact gives_pure (Value.solid_plain rfl rfl)
  · split
    · rename_i hv
      exact gives_pure (hv ▸ Value.solid_plain rfl rfl)
    · exact (gives_any_ofFailure _).bind fun s _ => gives_pure (Value.solid_plain rfl rfl)
  · rename_i o _ rest
    split
    · exact gives_refuse _
    · refine (gives_textArgument ..).bind fun encoding _ => ?_
      dsimp only
      split
      · exact (gives_textArgument ..).bind fun handler _ => gives_decoding o.value encoding handler
      · exact gives_decoding o.value encoding "strict"

theorem gives_readReal (s : List Char) (shown : String) :
    (readReal s shown).Gives (·.value.Solid) := by
  rw [readReal]
  split
  · exact gives_pure (Value.solid_plain rfl rfl)
  · exact gives_fail _

theorem gives_makeReal (args : List Object) : (makeReal args).Gives (·.value.Solid) := by
  rw [makeReal.eq_def]
  split
  · exact gives_pure (Value.solid_plain rfl rfl)
  · split
    · rename_i hv
      exact gives_pure (hv ▸ Value.solid_plain rfl rfl)
    · exact gives_readReal ..
    · exact gives_readReal ..
    · exact gives_readReal ..
    · exact gives_fail _
    · split
      · exact (gives_any_ofFault _).bind fun x _ => gives_pure (Value.solid_plain rfl rfl)
      · exact gives_fail _
  · exact gives_refuse _

theorem gives_readWhole (base : Nat) (s : List Char) (shown : String) :
    (readWhole base s shown).Gives (·.value.Solid) := by
  rw [readWhole]
  split
  split
  · exact gives_fail _
  · split
    · exact gives_throw _
    · exact gives_pure (Value.solid_plain rfl rfl)

theorem gives_makeWhole (args : List Object) : (makeWhole args).Gives (·.value.Solid) := by
  rw [makeWhole.eq_def]
  split
  · exact gives_pure (Value.solid_plain rfl rfl)
  · split
    · rename_i hv
      exact gives_pure (hv ▸ Value.solid_plain rfl rfl)
    · exact gives_readWhole ..
    · exact gives_readWhole ..
    · exact gives_readWhole ..
    · split
      · exact gives_fail _
      · split
        · exact gives_fail _
        · exact gives_pure (Value.solid_plain rfl rfl)
    · exact gives_fail _
    · split
      · exact gives_pure (Value.solid_plain rfl rfl)
      · exact gives_refuse _
  · refine (gives_wholeArgument _).bind fun base _ => ?_
    split
    · exact gives_fail _
    · split
      · exact gives_readWhole ..
      · exact gives_readWhole ..
      · exact gives_readWhole ..
      · exact gives_refuse _
  · exact gives_refuse _

theorem gives_makeOfOne {type : String} {none : Compute Object} {some : Object → Compute Object}
    {P : Object → Prop} (hnone : none.Gives P) (hsome : ∀ o ∈ args, (some o).Gives P) :
    (makeOfOne type none some args).Gives P := by
  rw [makeOfOne.eq_def]
  split
  · exact hnone
  · exact hsome _ List.mem_cons_self
  · exact gives_refuse _

variable {draw : Nat → Compute (Option Object)} (hdraw : Draws draw)
include hdraw

theorem gives_entryOf (i : Nat) {pair : Object} (h : pair.value.Whole) :
    (entryOf draw i pair).Gives fun e => e.1.value.Solid ∧ e.2.value.Solid := by
  rw [entryOf]
  split
  · exact gives_fail _
  · refine (gives_collect hdraw h).bind fun os hos => ?_
    split
    · exact gives_pure (by simpa using hos)
    · exact gives_fail _

theorem gives_entriesOf (i : Nat) {os : List Object} (hos : ∀ o ∈ os, o.value.Whole) :
    (entriesOf draw i os).Gives Value.EntriesSolid := by
  induction os generalizing i with
  | nil => exact gives_pure (List.forall_mem_nil _)
  | cons o os ih =>
    obtain ⟨ho, hos⟩ := List.forall_mem_cons.mp hos
    exact (gives_entryOf hdraw i ho).bind fun e he => (ih (i + 1) hos).bind fun es hes =>
      gives_pure (List.forall_mem_cons.mpr ⟨he, hes⟩)

theorem gives_makeDictionary {o : Object} (h : o.value.Whole) :
    (makeDictionary draw o).Gives (·.value.Solid) := by
  rw [makeDictionary]
  split
  · rename_i es hes
    rw [hes] at h
    exact gives_pure (h.solid rfl)
  · refine (gives_collect hdraw h).bind fun os hos => ?_
    refine (gives_entriesOf hdraw 0 fun o ho => (hos o ho).whole).bind fun es hes => ?_
    exact gives_dict hes

/-- A type makes a solid value of whole ones. -/
theorem gives_callType (type : String) (hargs : ∀ o ∈ args, o.value.Whole) :
    (callType draw type args).Gives (·.value.Solid) := by
  unfold callType
  split
  · exact (gives_makeRange args).bind fun _ hv => gives_pure hv
  · exact gives_makeText args
  · exact gives_makeReal args
  · exact gives_makeWhole args
  · exact gives_makeOfOne (gives_pure (Value.solid_plain rfl rfl)) fun o _ =>
      (gives_any_ofFault _).bind fun _ _ => gives_pure (Value.solid_plain rfl rfl)
  · exact gives_makeOfOne (gives_pure (Value.solid_plain rfl rfl)) fun o ho =>
      (gives_collect hdraw (hargs o ho)).bind fun _ hos => gives_list hos
  · refine gives_makeOfOne (gives_pure (Value.solid_plain rfl rfl)) fun o ho => ?_
    split
    · rename_i hv
      exact gives_pure ((hargs o ho).solid (by rw [hv]; rfl))
    · exact (gives_collect hdraw (hargs o ho)).bind fun _ hos => gives_tuple hos
  · exact gives_makeOfOne (gives_pure (Value.solid_plain rfl rfl)) fun o ho =>
      gives_makeDictionary hdraw (hargs o ho)
  · exact gives_makeOfOne (gives_pure (Value.solid_plain rfl rfl)) fun o ho =>
      (gives_distinct hdraw (hargs o ho)).bind fun _ hos => gives_pure (Value.solid_set.mpr hos)
  · split
    · exact gives_pure (Value.solid_plain rfl rfl)
    · exact gives_refuse _
  · split
    · exact gives_pure (Value.solid_plain rfl rfl)
    · exact gives_refuse _
  case h_18 => exact gives_fail _
  all_goals exact gives_refuse _

/-! ## Functions -/

theorem gives_sumOf {v : Value} (h : v.Whole) {start : Object} (hstart : start.value.Solid) :
    (sumOf draw v start).Gives (·.value.Solid) := by
  refine (gives_sourceOf h).bind fun source hsource => ?_
  split
  · exact gives_refuse _
  · refine gives_fold hdraw (I := fun total : Object => total.value.Solid)
      (fun total o htotal ho => ?_) hsource hstart
    exact (gives_ofFault (Object.solid_add htotal.whole ho.whole)).bind fun _ hsum =>
      gives_pure hsum

theorem gives_callBuiltin (f : Builtin) (hargs : ∀ o ∈ args, o.value.Solid) :
    (callBuiltin draw f args).Gives (·.value.Solid) := by
  cases f with
  | len =>
    rw [callBuiltin.eq_def]
    dsimp only
    split
    · exact (gives_any_ofFault _).bind fun _ _ => gives_pure (Value.solid_plain rfl rfl)
    · exact gives_refuse _
  | sum =>
    rw [callBuiltin.eq_def]
    dsimp only
    split
    · exact gives_refuse _
    · exact gives_sumOf hdraw (hargs _ (by simp)).whole (Value.solid_plain rfl rfl)
    · exact gives_sumOf hdraw (hargs _ (by simp)).whole (hargs _ (by simp))
    · exact gives_refuse _
  | sorted =>
    rw [callBuiltin.eq_def]
    dsimp only
    split
    · refine (gives_collect hdraw (hargs _ (by simp)).whole).bind fun items hitems => ?_
      exact (gives_ofFault (Sorting.sorted_forall hitems)).bind fun _ hsorted =>
        gives_list hsorted
    · exact gives_refuse _
  | shortRange => exact (gives_makeRange args).bind fun _ hv => gives_pure hv

/-! ## Methods -/

theorem gives_itemsToJoin {v : Value} (h : v.Whole) :
    (itemsToJoin draw v).Gives fun items => ∀ o ∈ items, o.value.Solid := by
  rw [itemsToJoin]
  split
  · exact gives_fail _
  · exact gives_collect hdraw h

theorem gives_joinItems (separator : String) {v : Value} (h : v.Whole) :
    (joinItems draw separator v).Gives (·.value.Solid) := by
  refine (gives_itemsToJoin hdraw h).bind fun items hitems => (gives_any_ofFault _).bind
    fun parts _ => ?_
  split
  · exact gives_pure (hitems _ List.mem_cons_self)
  · exact gives_pure (Value.solid_plain rfl rfl)

omit hdraw in
theorem solid_stripped {self : Object} {s : String} (hself : self.value = .text s)
    (drop : List Char → List Char) : (stripped self s drop).value.Solid := by
  rw [stripped]
  split
  · exact hself ▸ Value.solid_plain rfl rfl
  · exact solid_newText _

omit hdraw in
theorem gives_strip {self : Object} {s : String} (hself : self.value = .text s)
    (args : List Object) : (strip self s args).Gives (·.value.Solid) := by
  rw [strip.eq_def]
  split
  · exact gives_pure (solid_stripped hself _)
  · split
    · exact gives_pure (solid_stripped hself _)
    · exact gives_pure (solid_stripped hself _)
    · exact gives_refuse _
  · exact gives_refuse _

theorem gives_callText {self : Object} {s : String} (hself : self.value = .text s) (m : Method)
    (hargs : ∀ o ∈ args, o.value.Whole) :
    (callText draw self s m args).Gives (·.value.Solid) := by
  unfold callText
  split
  · exact gives_pure (Value.solid_plain rfl rfl)
  · exact gives_pure (Value.solid_plain rfl rfl)
  · exact gives_strip hself _
  · exact gives_joinItems hdraw s (hargs _ List.mem_cons_self)
  · exact gives_refuse _
  · exact gives_refuse _

theorem gives_callBytes {self : Object} (hself : self.value.Solid) {rebuild : List UInt8 → Value}
    (hrebuild : ∀ bs, (rebuild bs).Solid) (bs : List UInt8) (m : Method)
    (hargs : ∀ o ∈ args, o.value.Whole) :
    (callBytes draw self rebuild bs m args).Gives (·.value.Solid) := by
  have hstrip {c : Prop} [Decidable c] {kept : List UInt8} :
      (if c then self else .new (rebuild kept)).value.Solid := by
    split
    · exact hself
    · exact hrebuild kept
  unfold callBytes
  dsimp only
  split
  · exact gives_pure (hrebuild _)
  · exact gives_pure (hrebuild _)
  · exact gives_pure hstrip
  · split
    · exact gives_pure hstrip
    · exact gives_pure hstrip
    · exact gives_pure hstrip
    · exact gives_fail _
  · exact gives_refuse _
  · refine (gives_itemsToJoin hdraw (hargs _ List.mem_cons_self)).bind fun items hitems =>
      (gives_any_ofFault _).bind fun parts _ => ?_
    split
    · exact gives_pure (Value.solid_plain rfl rfl)
    · exact gives_pure (hrebuild _)
  · exact gives_refuse _
  · exact gives_refuse _

omit hdraw in
/-- A dictionary gives what is in it, or what it is told to give otherwise. -/
theorem gives_callDict {entries : List (Object × Object)} (h : Value.EntriesSolid entries)
    (m : Method) : (callDict entries m args).Gives fun o => o.value.Solid ∨ o ∈ args := by
  have hlookup (key : Object) :
      (ofFault (do (← key.asKey).lookupKey entries)).Gives SolidIfFound :=
    gives_ofFault (.bind_any fun key => Object.solid_lookupKey h key)
  unfold callDict
  split
  · exact gives_pure (.inl (Value.solid_view.mpr h))
  · exact gives_refuse _
  · refine (hlookup _).bind fun found hfound => gives_pure (.inl ?_)
    cases found with
    | none => exact Value.solid_plain rfl rfl
    | some o => exact hfound o rfl
  · refine (hlookup _).bind fun found hfound => gives_pure ?_
    -- nobody has looked at the second argument, which may well be undefined
    cases found with
    | none => exact .inr (by simp)
    | some o => exact .inl (hfound o rfl)
  · exact gives_refuse _
  · exact gives_refuse _

/-- What a method gives is solid or one of its arguments. -/
theorem gives_callMethod {receiver : Object} (h : receiver.value.Whole) (m : Method)
    (hargs : ∀ o ∈ args, o.value.Whole) :
    (callMethod draw receiver m args).Gives fun o => o.value.Solid ∨ o ∈ args := by
  rw [callMethod.eq_def]
  split
  · rename_i s hs
    exact (gives_callText hdraw hs m hargs).mono fun _ => .inl
  · rename_i bs hbs
    refine (gives_callBytes hdraw (h.solid (by rw [hbs]; rfl)) (fun _ => ?_) bs m hargs).mono
      fun _ => .inl
    exact Value.solid_plain rfl rfl
  · rename_i bs hbs
    refine (gives_callBytes hdraw (h.solid (by rw [hbs]; rfl)) (fun _ => ?_) bs m hargs).mono
      fun _ => .inl
    exact Value.solid_plain rfl rfl
  · rename_i es hes
    rw [hes] at h
    exact gives_callDict (Value.solid_dict.mp (h.solid rfl)) m
  · exact gives_fail _

/-- A call with solid arguments gives something solid. -/
theorem gives_call {f : Object} (hf : f.value.Whole) (hargs : ∀ o ∈ args, o.value.Solid) :
    (call draw f args).Gives (·.value.Solid) := by
  have hwhole : ∀ o ∈ args, o.value.Whole := fun o ho => (hargs o ho).whole
  rw [call.eq_def]
  split
  · exact gives_callType hdraw _ hwhole
  · exact gives_callBuiltin hdraw _ hargs
  · rename_i receiver m hv
    rw [hv] at hf
    have hreceiver := Value.solid_method.mp (hf.solid rfl)
    exact (gives_callMethod hdraw hreceiver.whole m hwhole).mono fun o ho => ho.elim id (hargs o)
  · exact gives_fail _
  · exact gives_fail _

omit hdraw in
/-- The members of a whole value are solid. -/
theorem gives_memberOf {o : Object} (ho : o.value.Whole) (name : String) :
    (memberOf o name).Gives (·.value.Solid) := by
  refine (gives_held o).bind fun o' heq => ?_
  rw [← heq] at ho
  split
  · exact gives_fail _
  · split
    · exact gives_pure (Value.solid_plain rfl rfl)
    · split
      · exact gives_pure (Value.solid_plain rfl rfl)
      · exact gives_fail _
  · split
    · exact gives_pure (Value.solid_plain rfl rfl)
    · split
      · rename_i hfound
        exact gives_pure (solid_member ho hfound)
      · exact gives_fail _

end Formula

end Splice
