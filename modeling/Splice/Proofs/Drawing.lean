import Splice.Proofs.Calls

/-!
# Formulas and streams give solid values

The constants of a formula are solid, and whatever it does with solid values gives solid ones. So a
formula gives a solid value in a solid store, by induction on the formula (`Expr.gives_eval`).
Taking an item out of a stream evaluates formulas, which may take items out of other streams; the
induction on how deep this goes ends in `Stream.draws`.
-/

open Splice.Compute

namespace Splice

namespace Formula

/-! ## Names -/

theorem solid_builtin {n : String} {v : Value} (h : builtin? n = some v) : v.Solid := by
  unfold builtin? at h
  split at h
  case h_17 =>
    split at h
    · cases h
      exact Value.solid_plain rfl rfl
    · obtain ⟨-, h⟩ := Option.ite_none_right_eq_some.mp h
      cases h
      exact Value.solid_plain rfl rfl
  all_goals
    cases h
    exact Value.solid_plain rfl rfl

theorem gives_fallbackName {known : String → Option Object}
    (h : ∀ n o, known n = some o → o.value.Solid) (n : String) :
    (fallbackName known n).Gives (·.value.Solid) := by
  rw [fallbackName]
  split
  · split
    · rename_i hv
      exact gives_pure (solid_builtin hv)
    · split
      · exact gives_pure (Value.solid_plain rfl rfl)
      · exact gives_fail _
  · rename_i replaced hreplaced
    have hsolid := h _ _ hreplaced
    split
    · rename_i es hes
      rw [hes, Value.solid_dict] at hsolid
      refine (gives_ofFault (Object.solid_lookupKey hsolid _)).bind fun found hfound => ?_
      split
      · exact gives_pure (hfound _ rfl)
      · exact gives_fail _
    · split
      · rename_i o ho
        exact gives_pure (Object.solid_subscript hsolid.whole _ o ho)
      · split
        · exact gives_fail _
        · exact gives_throw _

/-- What a name stands for in a solid store is solid. -/
theorem gives_resolve (frame : Frame) (n : String) :
    (resolve frame n).Gives (·.value.Solid) := by
  rw [resolve]
  split
  · rename_i slot _
    refine gives_get.bind fun store hstore => gives_pure ?_
    cases hslot : store.slots[slot]? with
    | none => exact Value.solid_plain rfl rfl
    | some o => exact hstore.slots o (Array.mem_of_getElem? hslot)
  · refine gives_get.bind fun store hstore => ?_
    split
    · exact gives_fail _
    · rename_i space hspace
      have hspace := hstore.spaces space (Array.mem_of_getElem? hspace)
      split
      · rename_i o ho
        obtain ⟨before, after, hassigned, -⟩ := List.lookup_eq_some_iff.mp ho
        exact gives_pure (hspace.assigned (n, o) (by simp [hassigned]))
      · rename_i ho
        exact gives_pure (hspace.known _ _ ho)
      · exact gives_fallbackName hspace.known n

theorem gives_holds (o : Object) : (holds o).Gives fun _ => True :=
  gives_any_ofFault _

variable {draw : Nat → Compute (Option Object)}

theorem gives_compareBy (hdraw : Draws draw) (c : Comparison) (l r : Object) :
    (compareBy draw c l r).Gives fun _ => True := by
  cases c with
  | equal | ordered => exact gives_any_ofFault _
  | unequal => exact (gives_any_ofFault _).bind fun _ _ => gives_pure trivial
  | member => exact gives_isIn hdraw l r
  | notMember => exact (gives_isIn hdraw l r).bind fun _ _ => gives_pure trivial
  | same | notSame => exact gives_pure trivial

/-! ## Evaluation -/

theorem solid_literal (l : Literal) : l.value.Solid := by
  cases l <;> exact Value.solid_plain rfl rfl

namespace Constant

mutual

theorem solid_value (code : String) : ∀ c : Constant, (c.value code).Solid
  | literal l => by
    rw [value]
    exact solid_literal l
  | tuple items => by
    rw [value]
    exact Value.solid_tuple.mpr (solid_objects code items)

theorem solid_objects (code : String) :
    ∀ cs : List Constant, ∀ o ∈ objects code cs, o.value.Solid
  | [] => by
    rw [objects]
    exact List.forall_mem_nil _
  | c :: cs => by
    rw [objects]
    exact List.forall_mem_cons.mpr ⟨solid_value code c, solid_objects code cs⟩

end

end Constant

namespace Expr

mutual

/-- A formula gives a solid value. -/
theorem gives_eval (hdraw : Draws draw) (frame : Frame) :
    ∀ e : Expr, (eval draw frame e).Gives (·.value.Solid)
  | constant c => by
    rw [eval]
    exact gives_pure (c.solid_value _)
  | name n => by
    rw [eval]
    exact gives_resolve frame n
  | list items => by
    rw [eval]
    exact (gives_evalAll hdraw frame items).bind fun _ hos => gives_list hos
  | tuple items => by
    rw [eval]
    exact (gives_evalAll hdraw frame items).bind fun _ hos => gives_tuple hos
  | set item => by
    rw [eval]
    exact (gives_eval hdraw frame item).bind fun _ ho => gives_singleton ho
  | dict entries => by
    rw [eval]
    exact (gives_evalEntries hdraw frame entries).bind fun _ hes => gives_dict hes
  | assign n e => by
    rw [eval]
    exact (gives_eval hdraw frame e).bind fun _ ho => gives_assign _ n ho
  | choose c yes no => by
    rw [eval]
    refine (gives_eval hdraw frame c).bind fun o _ => (gives_holds o).bind fun b _ => ?_
    split
    · exact gives_eval hdraw frame yes
    · exact gives_eval hdraw frame no
  | both l r => by
    rw [eval]
    refine (gives_eval hdraw frame l).bind fun o ho => (gives_holds o).bind fun b _ => ?_
    split
    · exact gives_eval hdraw frame r
    · exact gives_pure ho
  | either l r => by
    rw [eval]
    refine (gives_eval hdraw frame l).bind fun o ho => (gives_holds o).bind fun b _ => ?_
    split
    · exact gives_pure ho
    · exact gives_eval hdraw frame r
  | negation e => by
    rw [eval]
    exact (gives_eval hdraw frame e).bind fun o _ => (gives_holds o).bind fun b _ =>
      gives_pure (Value.solid_plain rfl rfl)
  | compare first rest => by
    rw [eval]
    exact (gives_eval hdraw frame first).bind fun o ho => gives_evalChain hdraw frame rest ho
  | binary op l r => by
    rw [eval]
    exact (gives_eval hdraw frame l).bind fun a ha =>
      (gives_eval hdraw frame r).bind fun b hb => gives_operate hdraw op ha.whole hb.whole
  | negative e => by
    rw [eval]
    exact (gives_eval hdraw frame e).bind fun o _ => gives_ofFault (Object.solid_neg o)
  | subscript e index => by
    rw [eval]
    exact (gives_eval hdraw frame e).bind fun a ha =>
      (gives_eval hdraw frame index).bind fun i _ =>
        gives_ofFailure (Object.solid_subscript ha.whole i)
  | member e n => by
    rw [eval]
    exact (gives_eval hdraw frame e).bind fun _ ho => gives_memberOf ho.whole n
  | call f args => by
    rw [eval]
    exact (gives_eval hdraw frame f).bind fun callee hcallee =>
      (gives_evalAll hdraw frame args).bind fun _ hargs => gives_call hdraw hcallee.whole hargs
  | listing element target source conditions => by
    rw [eval]
    refine (gives_eval hdraw frame source).bind fun o ho =>
      (gives_sourceOf ho.whole).bind fun items hitems => gives_newSlot.bind fun slot _ => ?_
    refine (gives_filterMap hdraw (fun o ho => ?_) hitems).bind fun _ hfound => gives_list hfound
    refine (gives_setSlot slot ho).bind fun _ _ =>
      (gives_holdAll hdraw _ conditions).bind fun b _ => ?_
    split
    · refine (gives_eval hdraw _ element).bind fun o ho => gives_pure fun a ha => ?_
      cases ha
      exact ho
    · exact gives_pure nofun
  | generator element target source conditions => by
    rw [eval]
    exact (gives_eval hdraw frame source).bind fun o ho =>
      (gives_sourceOf ho.whole).bind fun items hitems => gives_newSlot.bind fun slot _ =>
        gives_newStream _ hitems

theorem gives_evalAll (hdraw : Draws draw) (frame : Frame) :
    ∀ es : List Expr, (evalAll draw frame es).Gives fun os => ∀ o ∈ os, o.value.Solid
  | [] => by
    rw [evalAll]
    exact gives_pure nofun
  | e :: es => by
    rw [evalAll]
    exact (gives_eval hdraw frame e).bind fun _ ho =>
      (gives_evalAll hdraw frame es).bind fun _ hos =>
        gives_pure (List.forall_mem_cons.mpr ⟨ho, hos⟩)

theorem gives_evalEntries (hdraw : Draws draw) (frame : Frame) :
    ∀ es : List (Expr × Expr), (evalEntries draw frame es).Gives Value.EntriesSolid
  | [] => by
    rw [evalEntries]
    exact gives_pure nofun
  | (k, v) :: es => by
    rw [evalEntries]
    exact (gives_eval hdraw frame k).bind fun _ hk =>
      (gives_eval hdraw frame v).bind fun _ hv =>
        (gives_evalEntries hdraw frame es).bind fun _ hes =>
          gives_pure (List.forall_mem_cons.mpr ⟨⟨hk, hv⟩, hes⟩)

theorem gives_evalChain (hdraw : Draws draw) (frame : Frame) {left : Object} :
    ∀ es : List (Comparison × Expr), left.value.Solid →
      (evalChain draw frame left es).Gives (·.value.Solid)
  | [], hleft => by
    rw [evalChain]
    exact gives_pure hleft
  | [(c, e)], _ => by
    rw [evalChain]
    exact (gives_eval hdraw frame e).bind fun right _ =>
      (gives_compareBy hdraw c left right).bind fun _ _ => gives_pure (Value.solid_plain rfl rfl)
  | (c, e) :: next :: rest, _ => by
    rw [evalChain]
    · refine (gives_eval hdraw frame e).bind fun right hright =>
        (gives_compareBy hdraw c left right).bind fun met _ => ?_
      split
      · exact gives_evalChain hdraw frame (next :: rest) hright
      · exact gives_pure (Value.solid_plain rfl rfl)
    · simp

theorem gives_holdAll (hdraw : Draws draw) (frame : Frame) :
    ∀ es : List Expr, (holdAll draw frame es).Gives fun _ => True
  | [] => by
    rw [holdAll]
    exact gives_pure trivial
  | e :: es => by
    rw [holdAll]
    refine (gives_eval hdraw frame e).bind fun o _ => (gives_holds o).bind fun b _ => ?_
    split
    · exact gives_holdAll hdraw frame es
    · exact gives_pure trivial

end

end Expr

end Formula

/-! ## Streams -/

namespace Stream

open Formula

variable {draw : Nat → Compute (Option Object)} (hdraw : Draws draw)

/-- An item that may have been found is solid, and so is what is left of where it came from. -/
def FoundSolid (found : Option (Object × Source)) : Prop :=
  ∀ r, found = some r → r.1.value.Solid ∧ r.2.Solid

theorem solid_finished : finished.Solid :=
  nofun

include hdraw

theorem gives_nextOf {source : Source} (h : source.Solid) :
    (nextOf draw source).Gives FoundSolid := by
  unfold nextOf
  split
  · exact gives_pure nofun
  · obtain ⟨hv, hvs⟩ := List.forall_mem_cons.mp h
    exact gives_pure fun r hr => by cases hr; exact ⟨hv, hvs⟩
  · exact gives_pure nofun
  · exact gives_pure fun r hr => by cases hr; exact ⟨Value.solid_plain rfl rfl, trivial⟩
  · refine (hdraw _).bind fun found hfound => gives_pure fun r hr => ?_
    obtain ⟨o, ho, rfl⟩ := Option.map_eq_some_iff.mp hr
    exact ⟨hfound o ho, trivial⟩

theorem gives_advance (g : Generation) {bound : Nat} {source : Source} (h : source.Solid) :
    (advance draw g bound source).Gives FoundSolid := by
  induction bound generalizing source with
  | zero => exact gives_pure nofun
  | succ bound ih =>
    refine (gives_nextOf hdraw h).bind fun found hfound => ?_
    cases found with
    | none => exact gives_pure nofun
    | some r =>
      obtain ⟨ho, hsource⟩ := hfound r rfl
      refine (gives_setSlot g.slot ho).bind fun _ _ =>
        (Expr.gives_holdAll hdraw g.frame g.conditions).bind fun b _ => ?_
      split
      · refine (Expr.gives_eval hdraw g.frame g.element).bind fun o ho =>
          gives_pure fun r hr => ?_
        cases hr
        exact ⟨ho, hsource⟩
      · exact ih hsource

theorem gives_resume (id : Nat) (g : Generation) {source : Source} (h : source.Solid) :
    (resume draw id g source).Gives SolidIfFound := by
  -- what the attempt comes to is always handed out at once
  refine gives_get.bind fun store _ => (gives_setStream id (s := .running) trivial).bind fun _ _ =>
    (gives_tryCatch (P := fun e : Except (Option Object) (Option Object) =>
      ∃ found, e = .error found ∧ SolidIfFound found) ?_ fun f => ?_).bind ?_
  · refine (gives_advance hdraw g h).bind fun found hfound => ?_
    cases found with
    | none =>
      exact (gives_setStream id solid_finished).bind fun _ _ =>
        gives_pure ⟨none, rfl, solidIfFound_none⟩
    | some r =>
      obtain ⟨ho, hsource⟩ := hfound r rfl
      exact (gives_setStream id (s := .generation g r.2) hsource).bind fun _ _ =>
        gives_pure ⟨some r.1, rfl, solidIfFound_some ho⟩
  · exact (gives_setStream id solid_finished).bind fun _ _ =>
      (gives_throw (P := fun _ => False) f).bind fun _ h => h.elim
  · rintro _ ⟨found, rfl, hfound⟩
    exact gives_pure hfound

omit hdraw in
theorem draws_drawWithin (depth : Nat) : Draws (drawWithin depth) := by
  -- a stream on one level resumes with formulas that draw from the level below
  induction depth with
  | zero => exact fun id => gives_fail _
  | succ depth ih =>
    refine fun id => gives_get.bind fun store hstore => ?_
    have hstream (x : Stream) (hx : store.streams[id]? = some x) : x.Solid :=
      hstore.streams x (Array.mem_of_getElem? hx)
    split
    · exact gives_pure solidIfFound_none
    · exact gives_pure solidIfFound_none
    · exact (gives_setStream id solid_finished).bind fun _ _ => gives_throw _
    · rename_i v vs failure hx
      obtain ⟨hv, hvs⟩ := List.forall_mem_cons.mp (hstream _ hx)
      exact (gives_setStream id (s := .items vs failure) hvs).bind fun _ _ =>
        gives_pure (solidIfFound_some hv)
    · rename_i g source hx
      exact gives_resume ih id g (hstream _ hx)
    · exact gives_fail _

omit hdraw in
/-- What is taken out of a stream in a solid store is solid, and so is the store that is left. -/
theorem draws : Draws Stream.draw :=
  draws_drawWithin maxDepth

end Stream

end Splice
