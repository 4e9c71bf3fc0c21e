import Splice.Filter.Eval
import Splice.Proofs.Renumbering.Formulas

/-!
# Filter expressions do not depend on numbers

What the filter language knows about a member that it does not give away, or about one that does not
exist, are names and types. Everything else it does with objects is put together from what formulas
do with them.
-/

namespace Splice.Filter

open Compute Renumbering

variable {ρ : Renumbering}

/-! ## Members and items -/

theorem holderName_renumber (v : Value) : holderName (v.renumber ρ) = holderName v := by
  have htype := v.qualifiedTypeName_renumber ρ
  cases v with
  | null => rfl
  | _ => exact congrArg (· ++ " object") htype

theorem typeNames_renumber (v : Value) : typeNames (v.renumber ρ) = typeNames v := by
  cases v with
  | view p es => cases p <;> rfl
  | stream kind id => cases kind <;> rfl
  | builtin f => cases f <;> rfl
  | _ => rfl

theorem attribute?_renumber (o : Object) (n : String) :
    attribute? (o.renumber ρ) n = (attribute? o n).map (Object.renumber ρ) := by
  have hinner : isInner (o.renumber ρ).value n = isInner o.value n := by
    rw [isInner, isInner, Object.value_renumber, typeNames_renumber]
  rw [attribute?, attribute?, hinner, Object.value_renumber, Value.typeName_renumber,
    Formula.member?_renumber]
  split <;> rfl

theorem itemAt?_renumber (o index : Object) :
    itemAt? (o.renumber ρ) (index.renumber ρ) =
      ρ.result (Option.map (Object.renumber ρ)) (itemAt? o index) := by
  simp only [itemAt?, Object.value_renumber, Value.useless?_renumber]
  cases index.value.useless? with
  | some why => cases o.value <;> rfl
  | none =>
    simp only [Object.subscript_renumber]
    cases o.subscript index with
    | ok item => rfl
    | error f =>
      simp only [result_error, Failure.kind_renumber]
      split <;> rfl

theorem mirrors_memberOf (o : Object) (n : String) :
    (memberOf o n).Mirrors ρ (Object.renumber ρ) (memberOf (o.renumber ρ) n) := by
  refine (mirrors_held ρ o).bind fun o => ?_
  rw [attribute?_renumber]
  cases attribute? o n with
  | some found => exact mirrors_pure rfl
  | none =>
    have hitem := mirrors_ofFailure (itemAt?_renumber (ρ := ρ) o (.new (.text n)))
    have hother : Mirrors ρ (Object.renumber ρ)
        (do
          let found ← ofFailure (itemAt? o (.new (.text n)))
          return found.getD (undefined (.member (holderName o.value) n)))
        (do
          let found ← ofFailure (itemAt? (o.renumber ρ) (.new (.text n)))
          return found.getD (undefined (.member (holderName (o.value.renumber ρ)) n))) := by
      rw [holderName_renumber]
      refine hitem.bind fun found => mirrors_pure ?_
      cases found <;> rfl
    obtain ⟨v, m⟩ := o
    cases v with
    | undefined why => exact mirrors_fail _
    | _ => exact hother

/-- Where there is no item, an attribute of that name will do. -/
theorem mirrors_ownItem (o index : Object) :
    Mirrors ρ (Object.renumber ρ)
      (do
        match ← ofFailure (itemAt? o index), index.value with
        | some item, _ => return item
        | none, .text n => return (attribute? o n).getD (undefined (.member (holderName o.value) n))
        | none, i => return undefined (.element (holderName o.value) i.quoted))
      (do
        match ← ofFailure (itemAt? (o.renumber ρ) (index.renumber ρ)), (index.renumber ρ).value with
        | some item, _ => return item
        | none, .text n =>
          return (attribute? (o.renumber ρ) n).getD
            (undefined (.member (holderName (o.value.renumber ρ)) n))
        | none, i =>
          return undefined (.element (holderName (o.value.renumber ρ)) i.quoted)) := by
  rw [holderName_renumber]
  refine (mirrors_ofFailure (itemAt?_renumber o index)).bind fun found => ?_
  cases found with
  | some item => exact mirrors_pure rfl
  | none =>
    have hquoted := index.value.quoted_renumber ρ
    obtain ⟨v, m⟩ := index
    cases v with
    | text n =>
      refine mirrors_pure ?_
      simp only [attribute?_renumber]
      cases attribute? o n <;> rfl
    | _ =>
      refine mirrors_pure ?_
      exact congrArg (fun s => undefined (.element (holderName o.value) s)) hquoted

theorem mirrors_itemOf (o index : Object) :
    (itemOf o index).Mirrors ρ (Object.renumber ρ) (itemOf (o.renumber ρ) (index.renumber ρ)) := by
  refine (mirrors_held ρ o).bind fun o => ?_
  have hother := mirrors_ownItem (ρ := ρ) o index
  obtain ⟨v, m⟩ := o
  cases v with
  | undefined why => exact mirrors_fail _
  | _ => exact hother

theorem mirrors_textOf (v : Value) : (textOf v).Mirrors ρ id (textOf (v.renumber ρ)) :=
  mirrors_ofFailure (v.display_renumber ρ)

theorem mirrors_texts (os : List Object) :
    (os.mapM fun o => textOf o.value).Mirrors ρ id
      ((os.map (Object.renumber ρ)).mapM fun o => textOf o.value) := by
  induction os with
  | nil => exact mirrors_pure rfl
  | cons o os ih =>
    rw [List.map_cons, List.mapM_cons, List.mapM_cons, Object.value_renumber]
    exact (mirrors_textOf o.value).bind fun s => ih.bind fun ss => mirrors_pure rfl

/-! ## Arguments and calls -/

/-- Options that stand for objects with other numbers. -/
def renumberOptions (ρ : Renumbering) (options : List (String × Object)) :
    List (String × Object) :=
  options.map (Prod.map id (Object.renumber ρ))

theorem lookup_renumberOptions (options : List (String × Object)) (name : String) :
    (renumberOptions ρ options).lookup name = (options.lookup name).map (Object.renumber ρ) :=
  Formula.lookup_map_snd _ options name

theorem mirrors_bind (function : String) (fixed parameters : List String) (args : List Object)
    (options : List (String × Object)) :
    (bind function fixed parameters args options).Mirrors ρ (renumberOptions ρ)
      (bind function fixed parameters (args.map (Object.renumber ρ))
        (renumberOptions ρ options)) := by
  have hplaced : parameters.zip (args.map (Object.renumber ρ)) =
      (parameters.zip args).map (Prod.map id (Object.renumber ρ)) := by
    rw [← List.zip_map, List.map_id]
  simp only [bind, hplaced, Formula.lookup_map_snd, Option.isSome_map, List.length_map,
    renumberOptions, List.find?_map, Function.comp_def, Prod.map, id]
  cases options.find? _ with
  | some e =>
    obtain ⟨n, o⟩ := e
    simp only [Option.map_some, Prod.map, id]
    split
    · exact Formula.mirrors_refuse _
    · exact Formula.mirrors_refuse _
  | none =>
    simp only [Option.map_none]
    split
    · exact Formula.mirrors_refuse _
    · exact mirrors_pure (by simp [renumberOptions])

theorem mirrors_makeShortRange (args : List Object) :
    (makeShortRange args).Mirrors ρ (Object.renumber ρ)
      (makeShortRange (args.map (Object.renumber ρ))) := by
  refine (Formula.mirrors_makeRange args).bind fun made => ?_
  rw [Object.length_renumber]
  refine (mirrors_ofFault_same rfl).bind fun size => ?_
  dsimp only [id]
  split
  · exact mirrors_fail _
  · exact mirrors_pure rfl

theorem mirrors_makeDict (args : List Object) (options : List (String × Object)) :
    (makeDict args options).Mirrors ρ (Object.renumber ρ)
      (makeDict (args.map (Object.renumber ρ)) (renumberOptions ρ options)) := by
  refine (Formula.mirrors_callType Stream.drawsAlike_draw "dict" args).bind fun made => ?_
  obtain ⟨v, m⟩ := made
  cases v with
  | dict es =>
    have hentries : es.map (Object.renumberEntry ρ) ++
          (renumberOptions ρ options).map (fun e => (Object.new (.text e.1), e.2)) =
        (es ++ options.map fun e => (Object.new (.text e.1), e.2)).map
          (Object.renumberEntry ρ) := by
      simp [renumberOptions, Object.renumberEntry, Value.renumber]
    simp only [Object.renumber, Value.renumber, Object.renumberEntries_eq]
    rw [hentries]
    exact mirrors_dict ρ _
  | _ => exact mirrors_pure rfl

/-- A call does the same with objects that have other numbers. -/
theorem mirrors_call (f : Object) (args : List Object) (options : List (String × Object)) :
    (call f args options).Mirrors ρ (Object.renumber ρ)
      (call (f.renumber ρ) (args.map (Object.renumber ρ)) (renumberOptions ρ options)) := by
  obtain ⟨v, m⟩ := f
  cases v with
  | builtin b =>
    cases b with
    | shortRange =>
      cases options with
      | nil => exact mirrors_makeShortRange args
      | cons e options => exact Formula.mirrors_refuse _
    | _ => cases options <;> exact mirrors_fail _
  | method receiver m =>
    cases options with
    | nil => exact Formula.mirrors_callMethod Stream.drawsAlike_draw receiver m args
    | cons e options =>
      simp only [call, Object.renumber, Value.renumber, renumberOptions, List.map_cons, methodName,
        Object.value_renumber, Value.typeName_renumber]
      exact Formula.mirrors_refuse _
  | type t =>
    by_cases ht : t = "dict"
    · subst ht
      exact mirrors_makeDict args options
    · have hfail (args : List Object) (options : List (String × Object)) (m : Mark) :
          call ⟨.type t, m⟩ args options = Compute.fail (.notCallable "type") := by
        unfold call
        split <;> simp_all [Value.typeName]
      simp only [Object.renumber, Value.renumber, hfail]
      exact mirrors_fail _
  | failure f =>
    simp only [call, Object.renumber, Value.renumber, Value.typeName_failure, Failure.kind_renumber]
    exact mirrors_fail _
  | undefined why => exact mirrors_fail _
  | _ => exact mirrors_fail _

/-! ## Filters -/

theorem foldCase_renumber (o : Object) : foldCase (o.renumber ρ) = (foldCase o).renumber ρ := by
  obtain ⟨v, m⟩ := o
  cases v <;> rfl

theorem pathOf_renumber (o : Option Object) :
    pathOf (o.map (Object.renumber ρ)) = (pathOf o).map (Object.renumber ρ) := by
  cases o with
  | none => rfl
  | some o =>
    obtain ⟨v, m⟩ := o
    cases v with
    | text s =>
      simp only [pathOf, Option.map_some, Object.renumber, Value.renumber, List.map_map]
      refine List.map_congr_left fun step _ => ?_
      simp only [Function.comp_apply]
      split <;> rfl
    | _ => rfl

theorem mirrors_follow (path : List Object) (item : Object) :
    (follow path item).Mirrors ρ (Object.renumber ρ)
      (follow (path.map (Object.renumber ρ)) (item.renumber ρ)) := by
  induction path generalizing item with
  | nil => exact mirrors_pure rfl
  | cons step path ih =>
    rw [follow, follow, List.map_cons, List.foldlM_cons, List.foldlM_cons]
    exact (mirrors_itemOf item step).bind fun item => ih item

theorem mirrors_foldParts {α β : Type} {g : α → β} {f : α → Object → Compute (ForInStep α)}
    {f' : β → Object → Compute (ForInStep β)}
    (hf : ∀ a o, (f a o).Mirrors ρ (mapStep g) (f' (g a) (o.renumber ρ))) (path : List Object)
    (v : Value) (a : α) :
    (foldParts path f v a).Mirrors ρ g
      (foldParts (path.map (Object.renumber ρ)) f' (v.renumber ρ) (g a)) := by
  refine (mirrors_sourceOf ρ v).bind fun source => ?_
  refine mirrors_fold Stream.drawsAlike_draw (fun a o => ?_) source a
  exact (mirrors_follow path o).bind fun part => hf a part

theorem mirrors_extreme (r : Relation) (caseMatters : Bool) (path : List Object) (v : Value) :
    (extreme r caseMatters path v).Mirrors ρ (Object.renumber ρ)
      (extreme r caseMatters (path.map (Object.renumber ρ)) (v.renumber ρ)) := by
  have hkey (item : Object) : Mirrors ρ (Object.renumber ρ)
      (do
        let part ← follow path item
        return if caseMatters then part else foldCase part)
      (do
        let part ← follow (path.map (Object.renumber ρ)) (item.renumber ρ)
        return if caseMatters then part else foldCase part) := by
    refine (mirrors_follow path item).bind fun part => mirrors_pure ?_
    cases caseMatters with
    | true => rfl
    | false => exact foldCase_renumber part
  refine (mirrors_sourceOf ρ v).bind fun source => ?_
  refine Mirrors.bind (g := Option.map (Object.renumberEntry ρ))
    (mirrors_fold Stream.drawsAlike_draw (fun best item => ?_) source none) fun best => ?_
  · refine (hkey item).bind fun k => ?_
    cases best with
    | none => exact mirrors_pure rfl
    | some b =>
      refine (mirrors_ofFault_same (Object.related_renumber ρ r k b.2)).bind fun found => ?_
      cases found <;> exact mirrors_pure rfl
  · refine mirrors_pure ?_
    cases best <;> rfl

theorem mirrors_firstOf (v : Value) :
    (firstOf v).Mirrors ρ (Object.renumber ρ) (firstOf (v.renumber ρ)) := by
  refine (mirrors_sourceOf ρ v).bind fun source => ?_
  refine Mirrors.bind (g := Option.map (Object.renumber ρ))
    (mirrors_fold Stream.drawsAlike_draw (fun _ o => mirrors_pure rfl) source none)
    fun found => mirrors_pure ?_
  cases found <;> rfl

/-- The last item is an item with other numbers. -/
theorem mirrors_lastItem (v : Value) :
    Mirrors ρ (Object.renumber ρ)
      (match v.items? with
        | some items =>
          return items.getLast?.getD (undefined (.hint "No last item, sequence was empty."))
        | none => Compute.fail (.notReversible v.typeName))
      (match (v.renumber ρ).items? with
        | some items =>
          return items.getLast?.getD (undefined (.hint "No last item, sequence was empty."))
        | none => Compute.fail (.notReversible (v.renumber ρ).typeName)) := by
  rw [Value.items?_renumber, Value.typeName_renumber]
  cases v.items? with
  | some items =>
    refine mirrors_pure ?_
    rw [List.getLast?_map]
    cases items.getLast? <;> rfl
  | none => exact mirrors_fail _

theorem mirrors_lastOf (v : Value) :
    (lastOf v).Mirrors ρ (Object.renumber ρ) (lastOf (v.renumber ρ)) := by
  have hother := mirrors_lastItem (ρ := ρ) v
  cases v with
  | set | stream => exact mirrors_fail _
  | range start stop step =>
    refine mirrors_pure ?_
    rw [lastNumber]
    split <;> rfl
  | undefined why =>
    -- only a lenient one has items: none
    cases hlenient : why.isLenient with
    | true =>
      simp only [Value.renumber, lastOf, Value.items?, hlenient, if_true]
      exact mirrors_pure rfl
    | false =>
      simp only [Value.renumber, lastOf, Value.items?, hlenient]
      exact mirrors_fail _
  | _ => exact hother

/-- The texts of parts of the items of a value are the same texts. -/
theorem mirrors_partTexts (path : List Object) (v : Value) :
    Mirrors ρ id
      (foldParts path (fun done o => do return .yield ((← textOf o.value) :: done)) v [])
      (foldParts (path.map (Object.renumber ρ))
        (fun done o => do return .yield ((← textOf o.value) :: done)) (v.renumber ρ) []) := by
  refine mirrors_foldParts (fun done o => ?_) path v []
  rw [Object.value_renumber]
  exact (mirrors_textOf o.value).bind fun s => mirrors_pure rfl

theorem mirrors_joinTexts (separator : Option Object) (path : List Object) (v : Value) :
    (joinTexts separator path v).Mirrors ρ (Object.renumber ρ)
      (joinTexts (separator.map (Object.renumber ρ)) (path.map (Object.renumber ρ))
        (v.renumber ρ)) := by
  have hparts := mirrors_partTexts (ρ := ρ) path v
  rw [joinTexts, joinTexts, List.isEmpty_map]
  cases separator with
  | none =>
    simp only [Option.map_none]
    split
    · exact (mirrors_sourceOf ρ v).bind fun _ => hparts.bind fun parts => mirrors_pure rfl
    · exact hparts.bind fun parts => mirrors_pure rfl
  | some d =>
    simp only [Option.map_some, Object.value_renumber]
    have hseparator := mirrors_textOf (ρ := ρ) d.value
    split
    · exact (mirrors_sourceOf ρ v).bind fun _ => hseparator.bind fun between =>
        hparts.bind fun parts => mirrors_pure rfl
    · exact hseparator.bind fun between => hparts.bind fun parts => mirrors_pure rfl

theorem mirrors_sumParts (path : List Object) (start : Object) (v : Value) :
    (sumParts path start v).Mirrors ρ (Object.renumber ρ)
      (sumParts (path.map (Object.renumber ρ)) (start.renumber ρ) (v.renumber ρ)) := by
  refine (mirrors_sourceOf ρ v).bind fun source => ?_
  rw [Object.value_renumber, Formula.unsummable?_renumber]
  cases Formula.unsummable? start.value with
  | some complaint => exact Formula.mirrors_refuse _
  | none =>
    refine mirrors_foldParts (fun total o => ?_) path v start
    exact (mirrors_ofFault (Object.add_renumber ρ total o)).bind fun _ => mirrors_pure rfl

theorem mirrors_optionTruth (options : List (String × Object)) (name : String) :
    (optionTruth options name).Mirrors ρ id (optionTruth (renumberOptions ρ options) name) := by
  rw [optionTruth, optionTruth, lookup_renumberOptions]
  cases options.lookup name with
  | none => exact mirrors_pure rfl
  | some o =>
    simp only [Option.map_some, Object.value_renumber, Value.truth_renumber]
    exact mirrors_ofFault_same rfl

/-- What an option stands for, or something that has no number. -/
theorem lookup_getD_renumberOptions (options : List (String × Object)) (name : String)
    {otherwise : Object} (h : otherwise.renumber ρ = otherwise) :
    ((renumberOptions ρ options).lookup name).getD otherwise =
      ((options.lookup name).getD otherwise).renumber ρ := by
  rw [lookup_renumberOptions]
  cases options.lookup name with
  | none => exact h.symm
  | some o => rfl

/-- Whatever is defined comes out as it is, unless it is to be replaced because it is empty. -/
theorem mirrors_ownDefault (o : Object) (options : List (String × Object)) :
    Mirrors ρ (Object.renumber ρ)
      (do
        if ← optionTruth options "boolean" then
          if ← ofFault o.value.truth then return o
          else return (options.lookup "default_value").getD (.new (.text ""))
        else return o)
      (do
        if ← optionTruth (renumberOptions ρ options) "boolean" then
          if ← ofFault (o.value.renumber ρ).truth then return o.renumber ρ
          else return ((renumberOptions ρ options).lookup "default_value").getD (.new (.text ""))
        else return o.renumber ρ) := by
  rw [lookup_getD_renumberOptions options "default_value" rfl]
  refine (mirrors_optionTruth options "boolean").bind fun b => ?_
  cases b with
  | false => exact mirrors_pure rfl
  | true =>
    rw [Value.truth_renumber]
    refine (mirrors_ofFault_same rfl).bind fun b => ?_
    cases b <;> exact mirrors_pure rfl

/-- A filter does the same with objects that have other numbers. -/
theorem mirrors_applyFilter (filter : String) (o : Object) (args : List Object)
    (options : List (String × Object)) :
    (applyFilter filter o args options).Mirrors ρ (Object.renumber ρ)
      (applyFilter filter (o.renumber ρ) (args.map (Object.renumber ρ))
        (renumberOptions ρ options)) := by
  unfold applyFilter
  simp only [Object.value_renumber]
  split
  · refine (mirrors_bind ..).bind fun _ => ?_
    exact (mirrors_textOf o.value).bind fun s => mirrors_pure rfl
  · refine (mirrors_bind ..).bind fun given => (mirrors_textOf o.value).bind fun s => ?_
    have hchars : ((given.lookup "chars").map (Object.renumber ρ)).toList =
        (given.lookup "chars").toList.map (Object.renumber ρ) := by
      cases given.lookup "chars" <;> rfl
    rw [lookup_renumberOptions, hchars]
    exact Formula.mirrors_strip (.new (.text s)) s _
  · refine (mirrors_bind ..).bind fun given => ?_
    rw [lookup_renumberOptions, lookup_renumberOptions, pathOf_renumber]
    exact mirrors_joinTexts _ _ _
  · cases options with
    | cons e options => cases args <;> exact Formula.mirrors_refuse _
    | nil =>
      cases args with
      | nil =>
        rw [Object.length_renumber]
        exact (mirrors_ofFault_same rfl).bind fun n => mirrors_pure rfl
      | cons a args =>
        simp only [List.map_cons, List.length_cons, List.length_map]
        exact Formula.mirrors_refuse _
  · exact (mirrors_bind ..).bind fun _ => mirrors_firstOf o.value
  · exact (mirrors_bind ..).bind fun _ => mirrors_lastOf o.value
  · refine (mirrors_bind ..).bind fun given => ?_
    rw [lookup_getD_renumberOptions given _ rfl, lookup_renumberOptions, pathOf_renumber]
    exact mirrors_sumParts _ _ _
  · refine (mirrors_bind ..).bind fun given => (mirrors_optionTruth given _).bind fun b => ?_
    rw [lookup_renumberOptions, pathOf_renumber]
    exact mirrors_extreme .gt b _ _
  · refine (mirrors_bind ..).bind fun given => (mirrors_optionTruth given _).bind fun b => ?_
    rw [lookup_renumberOptions, pathOf_renumber]
    exact mirrors_extreme .lt b _ _
  · refine (mirrors_bind ..).bind fun given => ?_
    have hother := mirrors_ownDefault (ρ := ρ) o given
    have hdefault : ((renumberOptions ρ given).lookup "default_value").getD (.new (.text "")) =
        ((given.lookup "default_value").getD (.new (.text ""))).renumber ρ :=
      lookup_getD_renumberOptions given "default_value" rfl
    obtain ⟨v, m⟩ := o
    cases v with
    | undefined why => exact mirrors_pure hdefault
    | _ => exact hother
  · exact mirrors_fail _

theorem mirrors_applyTest (test : String) (v : Value) (args : List Object)
    (options : List (String × Object)) :
    (applyTest test v args options).Mirrors ρ id
      (applyTest test (v.renumber ρ) (args.map (Object.renumber ρ))
        (renumberOptions ρ options)) := by
  unfold applyTest
  split
  · rw [Value.undefined?_renumber]
    exact (mirrors_bind ..).bind fun _ => mirrors_pure rfl
  · exact mirrors_fail _

/-! ## Evaluation -/

namespace Expr

mutual

/-- An expression comes to the same if names stand for objects with other numbers. -/
theorem mirrors_eval (known : String → Option Object) :
    ∀ e : Expr, (eval known e).Mirrors ρ (Object.renumber ρ)
      (eval (fun n => (known n).map (Object.renumber ρ)) e)
  | constant l => by
    rw [eval, eval]
    exact mirrors_pure (by cases l <;> rfl)
  | name n => by
    rw [eval, eval]
    refine mirrors_pure ?_
    cases known n <;> rfl
  | list items => by
    rw [eval, eval]
    exact (mirrors_evalAll known items).bind fun os => mirrors_list ρ os
  | tuple items => by
    rw [eval, eval]
    exact (mirrors_evalAll known items).bind fun os => mirrors_tuple ρ os
  | dict entries => by
    rw [eval, eval]
    exact (mirrors_evalEntries known entries).bind fun es => mirrors_dict ρ es
  | choose c yes no => by
    rw [eval, eval]
    refine (mirrors_eval known c).bind fun o => (Formula.mirrors_holds o).bind fun b => ?_
    cases b with
    | true => exact mirrors_eval known yes
    | false => exact mirrors_eval known no
  | provided c yes line => by
    rw [eval, eval]
    refine (mirrors_eval known c).bind fun o => (Formula.mirrors_holds o).bind fun b => ?_
    cases b with
    | true => exact mirrors_eval known yes
    | false => exact mirrors_pure rfl
  | both l r => by
    rw [eval, eval]
    refine (mirrors_eval known l).bind fun o => (Formula.mirrors_holds o).bind fun b => ?_
    cases b with
    | true => exact mirrors_eval known r
    | false => exact mirrors_pure rfl
  | either l r => by
    rw [eval, eval]
    refine (mirrors_eval known l).bind fun o => (Formula.mirrors_holds o).bind fun b => ?_
    cases b with
    | true => exact mirrors_pure rfl
    | false => exact mirrors_eval known r
  | negation e => by
    rw [eval, eval]
    exact (mirrors_eval known e).bind fun o => (Formula.mirrors_holds o).bind fun b =>
      mirrors_pure rfl
  | compare first rest => by
    rw [eval, eval]
    exact (mirrors_eval known first).bind fun o => mirrors_evalChain known o rest
  | binary op l r => by
    rw [eval, eval]
    exact (mirrors_eval known l).bind fun a => (mirrors_eval known r).bind fun b =>
      mirrors_operate Stream.drawsAlike_draw op a b
  | negative e => by
    rw [eval, eval]
    exact (mirrors_eval known e).bind fun o => mirrors_ofFault (Object.neg_renumber ρ o)
  | joined parts => by
    rw [eval, eval]
    exact (mirrors_evalAll known parts).bind fun os => (mirrors_texts os).bind fun texts =>
      mirrors_pure rfl
  | subscript e index => by
    rw [eval, eval]
    exact (mirrors_eval known e).bind fun o => (mirrors_eval known index).bind fun i =>
      mirrors_itemOf o i
  | member e n => by
    rw [eval, eval]
    exact (mirrors_eval known e).bind fun o => mirrors_memberOf o n
  | call f args options => by
    rw [eval, eval]
    exact (mirrors_eval known f).bind fun callee => (mirrors_evalAll known args).bind fun os =>
      (mirrors_evalOptions known options).bind fun given => mirrors_call callee os given
  | filtered e f args options => by
    rw [eval, eval]
    exact (mirrors_eval known e).bind fun o => (mirrors_evalAll known args).bind fun os =>
      (mirrors_evalOptions known options).bind fun given => mirrors_applyFilter f o os given
  | tested e t args options => by
    rw [eval, eval]
    refine (mirrors_eval known e).bind fun o => (mirrors_evalAll known args).bind fun os =>
      (mirrors_evalOptions known options).bind fun given => ?_
    rw [Object.value_renumber]
    exact (mirrors_applyTest t o.value os given).bind fun b => mirrors_pure rfl

theorem mirrors_evalAll (known : String → Option Object) :
    ∀ es : List Expr, (evalAll known es).Mirrors ρ (List.map (Object.renumber ρ))
      (evalAll (fun n => (known n).map (Object.renumber ρ)) es)
  | [] => by
    rw [evalAll, evalAll]
    exact mirrors_pure rfl
  | e :: es => by
    rw [evalAll, evalAll]
    exact (mirrors_eval known e).bind fun o => (mirrors_evalAll known es).bind fun os =>
      mirrors_pure rfl

theorem mirrors_evalEntries (known : String → Option Object) :
    ∀ es : List (Expr × Expr), (evalEntries known es).Mirrors ρ
      (List.map (Object.renumberEntry ρ))
      (evalEntries (fun n => (known n).map (Object.renumber ρ)) es)
  | [] => by
    rw [evalEntries, evalEntries]
    exact mirrors_pure rfl
  | (k, v) :: es => by
    rw [evalEntries, evalEntries]
    exact (mirrors_eval known k).bind fun key => (mirrors_eval known v).bind fun value =>
      (mirrors_evalEntries known es).bind fun es => mirrors_pure rfl

theorem mirrors_evalOptions (known : String → Option Object) :
    ∀ es : List (String × Expr), (evalOptions known es).Mirrors ρ (renumberOptions ρ)
      (evalOptions (fun n => (known n).map (Object.renumber ρ)) es)
  | [] => by
    rw [evalOptions, evalOptions]
    exact mirrors_pure rfl
  | (n, e) :: es => by
    rw [evalOptions, evalOptions]
    exact (mirrors_eval known e).bind fun o => (mirrors_evalOptions known es).bind fun given =>
      mirrors_pure rfl

theorem mirrors_evalChain (known : String → Option Object) (left : Object) :
    ∀ es : List (Formula.Comparison × Expr), (evalChain known left es).Mirrors ρ
      (Object.renumber ρ)
      (evalChain (fun n => (known n).map (Object.renumber ρ)) (left.renumber ρ) es)
  | [] => by
    rw [evalChain, evalChain]
    exact mirrors_pure rfl
  | (c, e) :: rest => by
    rw [evalChain, evalChain]
    refine (mirrors_eval known e).bind fun right =>
      (Formula.mirrors_compareBy Stream.drawsAlike_draw c left right).bind fun met => ?_
    dsimp only [id]
    split
    · split
      · exact mirrors_pure rfl
      · exact mirrors_evalChain known right rest
    · exact mirrors_pure rfl

end

end Expr

theorem global?_renumber (n : String) : (global? n).map (Value.renumber ρ) = global? n := by
  unfold global?
  split <;> rfl

theorem found?_renumber (names : List String) (known : String → Option Object) :
    found? names (fun n => (known n).map (Object.renumber ρ)) =
      fun n => (found? names known n).map (Object.renumber ρ) := by
  funext n
  have hglobal (n : String) : (global? n).map Object.new =
      ((global? n).map Object.new).map (Object.renumber ρ) := by
    conv_lhs => rw [← global?_renumber (ρ := ρ), Option.map_map]
    rw [Option.map_map]
    rfl
  simp only [found?, Option.map_or]
  rw [← hglobal]

/-- Running code does not depend on numbers. -/
theorem mirrors_run (code : String) (known : String → Option Object) :
    (run code known).Mirrors ρ (Object.renumber ρ)
      (run code fun n => (known n).map (Object.renumber ρ)) := by
  unfold run
  cases Expr.ofCode (Text.strip code.toList) with
  | error refused => exact mirrors_throw rfl
  | ok e =>
    simp only [Option.isSome_map, found?_renumber]
    split
    · exact Formula.mirrors_refuse _
    · refine (Expr.mirrors_eval _ e).bind fun o => ?_
      rw [Object.value_renumber, Value.useless?_renumber]
      cases o.value.useless? with
      | some why => exact mirrors_fail _
      | none => exact mirrors_pure rfl

end Splice.Filter
