import Splice.Formula.Run
import Splice.Proofs.Renumbering.Calls

/-!
# Formulas do not depend on numbers

A formula in a renumbered name space comes to the same but for the numbers, by induction on the
formula (`Expr.mirrors_eval`). Its constants are known by the code that they stand in, which has no
number. Taking an item out of a stream evaluates formulas, which may take items out of other
streams; the induction on how deep this goes ends in `Stream.drawsAlike_draw`.
-/

namespace Splice

open Compute

variable {ρ : Renumbering}

namespace Formula

/-! ## Names -/

theorem builtin?_renumber (n : String) :
    (builtin? n).map (Value.renumber ρ) = builtin? n := by
  unfold builtin?
  split
  case h_17 =>
    split
    · rfl
    · split <;> rfl
  all_goals rfl

/-- What replaces the functions that are always there is asked for a name. -/
theorem mirrors_replacedName (replaced : Object) (n : String) :
    Mirrors ρ (Object.renumber ρ)
      (match replaced.subscript (.new (.text n)) with
        | .ok o => return o
        | .error f => if f.kind == .keyError then Compute.fail (.unbound n) else throw f)
      (match (replaced.renumber ρ).subscript (.new (.text n)) with
        | .ok o => return o
        | .error f => if f.kind == .keyError then Compute.fail (.unbound n) else throw f) := by
  have hname : Object.new (.text n) = (Object.new (.text n)).renumber ρ := rfl
  rw [hname, Object.subscript_renumber, ← hname]
  cases replaced.subscript (.new (.text n)) with
  | ok o => exact mirrors_pure rfl
  | error f =>
    simp only [Renumbering.result_error, Failure.kind_renumber]
    split
    · exact mirrors_fail _
    · exact mirrors_throw rfl

theorem mirrors_fallbackName (known : String → Option Object) (n : String) :
    (fallbackName known n).Mirrors ρ (Object.renumber ρ)
      (fallbackName (fun n => (known n).map (Object.renumber ρ)) n) := by
  simp only [fallbackName]
  cases known builtinsName with
  | none =>
    have hbuiltin := builtin?_renumber (ρ := ρ) n
    simp only [Option.map_none]
    cases hfound : builtin? n with
    | some v =>
      simp only [hfound, Option.map_some, Option.some.injEq] at hbuiltin
      exact mirrors_pure (by simp [Object.renumber, Mark.renumber, hbuiltin])
    | none =>
      simp only
      split
      · exact mirrors_pure rfl
      · exact mirrors_fail _
  | some replaced =>
    have hsubscript := mirrors_replacedName (ρ := ρ) replaced n
    obtain ⟨v, m⟩ := replaced
    cases v with
    | dict entries =>
      simp only [Option.map_some, Object.renumber, Value.renumber, Object.renumberEntries_eq]
      have hlookup := Object.lookupKey_renumber ρ (.new (.text n)) entries
      refine (mirrors_ofFault hlookup).bind fun found => ?_
      cases found with
      | some o => exact mirrors_pure rfl
      | none => exact mirrors_fail _
    | _ => exact hsubscript

theorem lookup_map_snd {α β : Type} (g : α → β) (entries : List (String × α)) (n : String) :
    (entries.map (Prod.map id g)).lookup n = (entries.lookup n).map g := by
  induction entries with
  | nil => rfl
  | cons e entries ih =>
    obtain ⟨m, a⟩ := e
    simp only [List.map_cons, Prod.map, id, List.lookup_cons, ih]
    split <;> rfl

/-- A name stands for the same in a renumbered name space. -/
theorem mirrors_resolve (frame : Frame) (n : String) :
    (resolve frame n).Mirrors ρ (Object.renumber ρ) (resolve (frame.renumber ρ) n) := by
  simp only [resolve, Frame.renumber, lookup_map_snd]
  cases frame.loops.lookup n with
  | some slot =>
    refine mirrors_get fun m s s' hs => mirrors_pure ?_
    rw [hs.slots]
    cases s.slots[slot]? <;> rfl
  | none =>
    refine mirrors_get fun m s s' hs => ?_
    rw [hs.spaces]
    cases s.spaces[frame.space]? with
    | none => exact mirrors_fail _
    | some space =>
      simp only [Option.map_some, Space.renumber, lookup_map_snd]
      cases space.assigned.lookup n with
      | some o => exact mirrors_pure rfl
      | none =>
        cases hknown : space.known n with
        | some o => exact mirrors_pure rfl
        | none => exact mirrors_fallbackName space.known n

theorem mirrors_holds (o : Object) : (holds o).Mirrors ρ id (holds (o.renumber ρ)) := by
  rw [holds, holds, Object.value_renumber, Value.truth_renumber]
  exact mirrors_ofFault_same rfl

section

variable {draw : Nat → Compute (Option Object)} (hdraw : DrawsAlike ρ draw)
include hdraw

theorem mirrors_compareBy (c : Comparison) (l r : Object) :
    (compareBy draw c l r).Mirrors ρ id (compareBy draw c (l.renumber ρ) (r.renumber ρ)) := by
  cases c with
  | equal => exact mirrors_ofFault_same (Object.equal_renumber ρ l r)
  | unequal =>
    exact (mirrors_ofFault_same (Object.equal_renumber ρ l r)).bind fun _ => mirrors_pure rfl
  | ordered rel => exact mirrors_ofFault_same (Object.related_renumber ρ rel l r)
  | member => exact mirrors_isIn hdraw l r
  | notMember => exact (mirrors_isIn hdraw l r).bind fun _ => mirrors_pure rfl
  | same => exact mirrors_pure (Object.same_renumber ρ l r)
  | notSame => exact mirrors_pure (congrArg not (Object.same_renumber ρ l r))

end

/-! ## Evaluation -/

namespace Constant

theorem mark_renumber (code : String) (c : Constant) :
    (c.mark code).renumber ρ = c.mark code := by
  unfold mark
  split
  · split
    · split
      · rfl
      · split <;> rfl
    · split <;> rfl
  · rfl

mutual

theorem value_renumber (code : String) : ∀ c : Constant, (c.value code).renumber ρ = c.value code
  | literal l => by
    rw [value]
    cases l <;> rfl
  | tuple items => by
    rw [value, Value.renumber, Object.renumberAll_eq, objects_renumber code items]

theorem objects_renumber (code : String) :
    ∀ cs : List Constant, (objects code cs).map (Object.renumber ρ) = objects code cs
  | [] => rfl
  | c :: cs => by
    rw [objects, List.map_cons, objects_renumber code cs, Object.renumber, value_renumber code c,
      mark_renumber]

end

theorem object_renumber (code : String) (c : Constant) :
    (c.object code).renumber ρ = c.object code := by
  rw [object, Object.renumber, value_renumber, mark_renumber]

end Constant

namespace Expr

variable {draw : Nat → Compute (Option Object)}

mutual

/-- A formula comes to the same in a renumbered name space. -/
theorem mirrors_eval (hdraw : DrawsAlike ρ draw) (frame : Frame) :
    ∀ e : Expr, (eval draw frame e).Mirrors ρ (Object.renumber ρ) (eval draw (frame.renumber ρ) e)
  | constant c => by
    rw [eval, eval]
    exact mirrors_pure (c.object_renumber _).symm
  | name n => by
    rw [eval, eval]
    exact mirrors_resolve frame n
  | list items => by
    rw [eval, eval]
    exact (mirrors_evalAll hdraw frame items).bind fun os => mirrors_list ρ os
  | tuple items => by
    rw [eval, eval]
    exact (mirrors_evalAll hdraw frame items).bind fun os => mirrors_tuple ρ os
  | set item => by
    rw [eval, eval]
    exact (mirrors_eval hdraw frame item).bind fun o => mirrors_singleton ρ o
  | dict entries => by
    rw [eval, eval]
    exact (mirrors_evalEntries hdraw frame entries).bind fun es => mirrors_dict ρ es
  | assign n e => by
    rw [eval, eval]
    exact (mirrors_eval hdraw frame e).bind fun o => mirrors_assign ρ frame.space n o
  | choose c yes no => by
    rw [eval, eval]
    refine (mirrors_eval hdraw frame c).bind fun o => (mirrors_holds o).bind fun b => ?_
    cases b with
    | true => exact mirrors_eval hdraw frame yes
    | false => exact mirrors_eval hdraw frame no
  | both l r => by
    rw [eval, eval]
    refine (mirrors_eval hdraw frame l).bind fun o => (mirrors_holds o).bind fun b => ?_
    cases b with
    | true => exact mirrors_eval hdraw frame r
    | false => exact mirrors_pure rfl
  | either l r => by
    rw [eval, eval]
    refine (mirrors_eval hdraw frame l).bind fun o => (mirrors_holds o).bind fun b => ?_
    cases b with
    | true => exact mirrors_pure rfl
    | false => exact mirrors_eval hdraw frame r
  | negation e => by
    rw [eval, eval]
    exact (mirrors_eval hdraw frame e).bind fun o => (mirrors_holds o).bind fun b =>
      mirrors_pure rfl
  | compare first rest => by
    rw [eval, eval]
    exact (mirrors_eval hdraw frame first).bind fun o => mirrors_evalChain hdraw frame o rest
  | binary op l r => by
    rw [eval, eval]
    exact (mirrors_eval hdraw frame l).bind fun a =>
      (mirrors_eval hdraw frame r).bind fun b => mirrors_operate hdraw op a b
  | negative e => by
    rw [eval, eval]
    exact (mirrors_eval hdraw frame e).bind fun o => mirrors_ofFault (Object.neg_renumber ρ o)
  | subscript e index => by
    rw [eval, eval]
    exact (mirrors_eval hdraw frame e).bind fun a =>
      (mirrors_eval hdraw frame index).bind fun i =>
        mirrors_ofFailure (Object.subscript_renumber ρ a i)
  | member e n => by
    rw [eval, eval]
    exact (mirrors_eval hdraw frame e).bind fun o => mirrors_memberOf o n
  | call f args => by
    rw [eval, eval]
    exact (mirrors_eval hdraw frame f).bind fun callee =>
      (mirrors_evalAll hdraw frame args).bind fun os => mirrors_call hdraw callee os
  | listing element target source conditions => by
    rw [eval, eval]
    refine (mirrors_eval hdraw frame source).bind fun o => ?_
    rw [Object.value_renumber]
    refine (mirrors_sourceOf ρ o.value).bind fun items => (mirrors_newSlot ρ).bind fun slot => ?_
    refine (mirrors_filterMap hdraw (fun o => ?_) items).bind fun found => mirrors_list ρ found
    have hinner := mirrors_eval hdraw
      { frame with loops := (target, slot) :: frame.loops } element
    refine (mirrors_setSlot ρ slot o).bind fun _ => (mirrors_holdAll hdraw
      { frame with loops := (target, slot) :: frame.loops } conditions).bind fun b => ?_
    cases b with
    | true => exact hinner.bind fun o => mirrors_pure rfl
    | false => exact mirrors_pure rfl
  | generator element target source conditions => by
    rw [eval, eval]
    refine (mirrors_eval hdraw frame source).bind fun o => ?_
    rw [Object.value_renumber]
    exact (mirrors_sourceOf ρ o.value).bind fun items => (mirrors_newSlot ρ).bind fun slot =>
      mirrors_newStream ρ .computed (.generation
        ⟨{ frame with loops := (target, slot) :: frame.loops }, slot, element, conditions⟩ items)

theorem mirrors_evalAll (hdraw : DrawsAlike ρ draw) (frame : Frame) :
    ∀ es : List Expr, (evalAll draw frame es).Mirrors ρ (List.map (Object.renumber ρ))
      (evalAll draw (frame.renumber ρ) es)
  | [] => by
    rw [evalAll, evalAll]
    exact mirrors_pure rfl
  | e :: es => by
    rw [evalAll, evalAll]
    exact (mirrors_eval hdraw frame e).bind fun o =>
      (mirrors_evalAll hdraw frame es).bind fun os => mirrors_pure rfl

theorem mirrors_evalEntries (hdraw : DrawsAlike ρ draw) (frame : Frame) :
    ∀ es : List (Expr × Expr), (evalEntries draw frame es).Mirrors ρ
      (List.map (Object.renumberEntry ρ)) (evalEntries draw (frame.renumber ρ) es)
  | [] => by
    rw [evalEntries, evalEntries]
    exact mirrors_pure rfl
  | (k, v) :: es => by
    rw [evalEntries, evalEntries]
    exact (mirrors_eval hdraw frame k).bind fun key =>
      (mirrors_eval hdraw frame v).bind fun value =>
        (mirrors_evalEntries hdraw frame es).bind fun es => mirrors_pure rfl

theorem mirrors_evalChain (hdraw : DrawsAlike ρ draw) (frame : Frame) (left : Object) :
    ∀ es : List (Comparison × Expr), (evalChain draw frame left es).Mirrors ρ (Object.renumber ρ)
      (evalChain draw (frame.renumber ρ) (left.renumber ρ) es)
  | [] => by
    rw [evalChain, evalChain]
    exact mirrors_pure rfl
  | [(c, e)] => by
    rw [evalChain, evalChain]
    exact (mirrors_eval hdraw frame e).bind fun right =>
      (mirrors_compareBy hdraw c left right).bind fun _ => mirrors_pure rfl
  | (c, e) :: next :: rest => by
    rw [evalChain, evalChain]
    · refine (mirrors_eval hdraw frame e).bind fun right =>
        (mirrors_compareBy hdraw c left right).bind fun met => ?_
      cases met with
      | true => exact mirrors_evalChain hdraw frame right (next :: rest)
      | false => exact mirrors_pure rfl
    · simp
    · simp

theorem mirrors_holdAll (hdraw : DrawsAlike ρ draw) (frame : Frame) :
    ∀ es : List Expr, (holdAll draw frame es).Mirrors ρ id (holdAll draw (frame.renumber ρ) es)
  | [] => by
    rw [holdAll, holdAll]
    exact mirrors_pure rfl
  | e :: es => by
    rw [holdAll, holdAll]
    refine (mirrors_eval hdraw frame e).bind fun o => (mirrors_holds o).bind fun b => ?_
    cases b with
    | true => exact mirrors_holdAll hdraw frame es
    | false => exact mirrors_pure rfl

end

end Expr

end Formula

/-! ## Streams -/

namespace Stream

open Formula

/-- An item that may have been found, and what is left of where it came from, with other numbers. -/
def renumberFound (ρ : Renumbering) : Object × Source → Object × Source :=
  Prod.map (Object.renumber ρ) (Source.renumber ρ)

section

variable {draw : Nat → Compute (Option Object)} (hdraw : DrawsAlike ρ draw)
include hdraw

theorem mirrors_nextOf (source : Source) :
    (nextOf draw source).Mirrors ρ (Option.map (renumberFound ρ))
      (nextOf draw (source.renumber ρ)) := by
  cases source with
  | items rest => cases rest <;> exact mirrors_pure rfl
  | numbers next step left => cases left <;> exact mirrors_pure rfl
  | stream i =>
    refine (hdraw i).bind fun found => mirrors_pure ?_
    cases found <;> rfl

theorem mirrors_advance (g : Generation) (bound : Nat) (source : Source) :
    (advance draw g bound source).Mirrors ρ (Option.map (renumberFound ρ))
      (advance draw (g.renumber ρ) bound (source.renumber ρ)) := by
  induction bound generalizing source with
  | zero => exact mirrors_pure rfl
  | succ bound ih =>
    refine (mirrors_nextOf hdraw source).bind fun found => ?_
    cases found with
    | none => exact mirrors_pure rfl
    | some r =>
      refine (mirrors_setSlot ρ g.slot r.1).bind fun _ =>
        (Expr.mirrors_holdAll hdraw g.frame g.conditions).bind fun met => ?_
      cases met with
      | true =>
        exact (Expr.mirrors_eval hdraw g.frame g.element).bind fun o => mirrors_pure rfl
      | false => exact ih r.2

/-- A stream runs up to its next item as often as under its other number. -/
theorem mirrors_resume (i : Nat) (g : Generation) (source : Source) :
    (resume draw i g source).Mirrors ρ (Option.map (Object.renumber ρ))
      (resume draw (ρ.streams i) (g.renumber ρ) (source.renumber ρ)) := by
  refine mirrors_get fun n s s' hs => ?_
  rw [hs.pending_eq]
  refine (mirrors_setStream ρ i .running).bind fun _ => ?_
  -- what the attempt comes to is always handed out at once
  refine Mirrors.bind (g := fun handed =>
      Option.map (Object.renumber ρ) <$> handed.mapError (Option.map (Object.renumber ρ)))
    (Mirrors.tryCatch ?_ fun f => ?_) fun handed => ?_
  · refine (mirrors_advance hdraw g _ source).bind fun found => ?_
    cases found with
    | none => exact (mirrors_setStream ρ i finished).bind fun _ => mirrors_pure rfl
    | some r => exact (mirrors_setStream ρ i (.generation g r.2)).bind fun _ => mirrors_pure rfl
  · exact (mirrors_setStream ρ i finished).bind fun _ =>
      Mirrors.bind (g := Option.map (Object.renumber ρ)) (mirrors_throw rfl) fun _ =>
        mirrors_pure rfl
  · cases handed <;> exact mirrors_pure rfl

end

theorem drawsAlike_drawWithin (depth : Nat) : DrawsAlike ρ (drawWithin depth) := by
  -- a stream on one level resumes with formulas that draw from the level below
  induction depth with
  | zero => exact fun i => mirrors_fail _
  | succ depth ih =>
    refine fun i => mirrors_get fun n s s' hs => ?_
    rw [hs.streams]
    cases s.streams[i]? with
    | none => exact mirrors_pure rfl
    | some x =>
      cases x with
      | items rest failure =>
        rcases rest with _ | ⟨v, vs⟩
        · cases failure with
          | none => exact mirrors_pure rfl
          | some f => exact (mirrors_setStream ρ i finished).bind fun _ => mirrors_throw rfl
        · exact (mirrors_setStream ρ i (.items vs failure)).bind fun _ => mirrors_pure rfl
      | generation g source => exact mirrors_resume ih i g source
      | running => exact mirrors_fail _

/-- Taking an item out of a stream does not depend on its number. -/
theorem drawsAlike_draw : DrawsAlike ρ Stream.draw :=
  drawsAlike_drawWithin maxDepth

end Stream

/-! ## Tokens -/

/-- A value with other numbers has the same tokens. -/
theorem Value.mirrors_tokens (na : String) (v : Value) :
    (v.tokens na).Mirrors ρ id ((v.renumber ρ).tokens na) := by
  rw [tokens, tokens, isScalar_renumber]
  split
  · exact (mirrors_ofFailure (v.token_renumber ρ na)).bind fun s => mirrors_pure rfl
  · refine (mirrors_sourceOf ρ v).bind fun source => ?_
    have htokens : Mirrors ρ (List.map id)
        (filterMap Stream.draw (fun o => do return some (← ofFailure (o.value.token na))) source)
        (filterMap Stream.draw (fun o => do return some (← ofFailure (o.value.token na)))
          (source.renumber ρ)) := by
      refine mirrors_filterMap Stream.drawsAlike_draw (fun o => ?_) source
      rw [Object.value_renumber]
      exact (mirrors_ofFailure (o.value.token_renumber ρ na)).bind fun s => mirrors_pure rfl
    rwa [List.map_id_fun] at htokens

namespace Formula

/-- Running code does not depend on numbers. -/
theorem mirrors_run (code : String) (known : String → Option Object) :
    (run code known).Mirrors ρ (Prod.map (Object.renumber ρ) (Space.renumber ρ))
      (run code fun n => (known n).map (Object.renumber ρ)) := by
  unfold run
  cases Expr.ofCode code with
  | error refused => exact mirrors_throw rfl
  | ok e =>
    refine (mirrors_newSpace ρ fun n => rfl).bind fun space => ?_
    refine (Expr.mirrors_eval Stream.drawsAlike_draw ⟨space, [], code⟩ _).bind fun o => ?_
    exact (mirrors_getSpace ρ space).bind fun s => mirrors_pure rfl

end Formula

end Splice
