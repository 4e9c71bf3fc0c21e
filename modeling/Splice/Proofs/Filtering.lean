import Splice.Filter.Eval
import Splice.Proofs.Drawing

/-!
# Filters keep values whole

Filter expressions meet undefined values: a name may have none, and so may a member or an item. Each
of their functions gives something whole if it is given whole things, which may well be undefined.
Only a dictionary that is made with options takes these in as they are.
-/

open Splice.Compute

namespace Splice.Filter

variable {o : Object} {args : List Object} {options : List (String × Object)}

/-! ## Members and items -/

theorem whole_attribute {n : String} {found : Object} (ho : o.value.Whole)
    (h : attribute? o n = some found) : found.value.Whole := by
  rw [attribute?] at h
  split at h
  · cases h
    exact Value.whole_undefined _
  · exact (Formula.solid_member ho h).whole

theorem solid_itemAt? (ho : o.value.Whole) (index : Object) :
    Ensures (itemAt? o index) SolidIfFound := by
  rw [itemAt?]
  split
  · exact .error _
  · exact .ok solidIfFound_none
  · split
    · rename_i item hitem
      exact .ok (solidIfFound_some (Object.solid_subscript ho index item hitem))
    · exact .ite (.ok solidIfFound_none) (.error _)

theorem gives_memberOf (ho : o.value.Whole) (n : String) :
    (memberOf o n).Gives (·.value.Whole) := by
  refine (gives_held o).bind fun o' heq => ?_
  rw [← heq] at ho
  split
  · rename_i hfound
    exact gives_pure (whole_attribute ho hfound)
  · exact gives_fail _
  · refine (gives_ofFailure (solid_itemAt? ho _)).bind fun found hfound => gives_pure ?_
    cases found with
    | none => exact Value.whole_undefined _
    | some item => exact (hfound item rfl).whole

/-- An item of something whole is whole, whatever it is looked up by. -/
theorem gives_itemOf (ho : o.value.Whole) (index : Object) :
    (itemOf o index).Gives (·.value.Whole) := by
  refine (gives_held o).bind fun o' heq => ?_
  rw [← heq] at ho
  split
  · exact gives_fail _
  · refine (gives_ofFailure (solid_itemAt? ho index)).bind fun found hfound => ?_
    split
    · exact gives_pure (hfound _ rfl).whole
    · refine gives_pure ?_
      cases hattribute : attribute? o' _ with
      | none => exact Value.whole_undefined _
      | some found => exact whole_attribute ho hattribute
    · exact gives_pure (Value.whole_undefined _)

theorem gives_textOf (v : Value) : (textOf v).Gives fun _ => True :=
  gives_any_ofFailure _

theorem gives_texts (os : List Object) :
    (os.mapM fun o => textOf o.value).Gives fun _ => True := by
  induction os with
  | nil => exact gives_pure trivial
  | cons o os ih =>
    rw [List.mapM_cons]
    exact (gives_textOf _).bind fun _ _ => ih.bind fun _ _ => gives_pure trivial

/-! ## Calls -/

/-- The objects that options stand for are whole. -/
def OptionsWhole (options : List (String × Object)) : Prop :=
  ∀ n o, options.lookup n = some o → o.value.Whole

theorem gives_bind {function : String} {fixed parameters : List String}
    (hargs : ∀ o ∈ args, o.value.Whole) (hoptions : ∀ e ∈ options, e.2.value.Whole) :
    (bind function fixed parameters args options).Gives OptionsWhole := by
  rw [bind]
  split
  · split
    · exact gives_fail _
    · exact gives_fail _
  · split
    · exact gives_fail _
    · refine gives_pure fun n o ho => ?_
      obtain ⟨before, after, hgiven, -⟩ := List.lookup_eq_some_iff.mp ho
      have hmem : (n, o) ∈ parameters.zip args ++ options := by simp [hgiven]
      rcases List.mem_append.mp hmem with h | h
      · exact hargs o (List.of_mem_zip h).2
      · exact hoptions _ h

theorem gives_makeShortRange (args : List Object) :
    (makeShortRange args).Gives (·.value.Solid) := by
  refine (Formula.gives_makeRange args).bind fun made hmade => (gives_any_ofFault _).bind
    fun n _ => ?_
  split
  · exact gives_fail _
  · exact gives_pure hmade

/-- A dictionary takes its options in as they are. -/
theorem gives_makeDict (hargs : ∀ o ∈ args, o.value.Whole)
    (hoptions : ∀ e ∈ options, e.2.value.Solid) :
    (makeDict args options).Gives (·.value.Solid) := by
  refine (Formula.gives_callType Stream.draws "dict" hargs).bind fun made hmade => ?_
  split
  · rename_i es hes
    rw [hes, Value.solid_dict] at hmade
    refine gives_dict fun e he => ?_
    rcases List.mem_append.mp he with he | he
    · exact hmade e he
    · obtain ⟨⟨n, o⟩, ho, rfl⟩ := List.mem_map.mp he
      exact ⟨Value.solid_plain rfl rfl, hoptions _ ho⟩
  · exact gives_pure hmade

theorem gives_call {f : Object} (hf : f.value.Whole) (hargs : ∀ o ∈ args, o.value.Whole)
    (hoptions : f.value = .type "dict" → ∀ e ∈ options, e.2.value.Solid) :
    (call f args options).Gives (·.value.Whole) := by
  rw [call.eq_def]
  split
  · exact (gives_makeShortRange args).mono fun _ h => h.whole
  · exact gives_fail _
  · rename_i receiver m hv
    rw [hv] at hf
    have hreceiver := Value.solid_method.mp (hf.solid rfl)
    exact (Formula.gives_callMethod Stream.draws hreceiver.whole m hargs).mono fun o ho =>
      ho.elim (·.whole) (hargs o)
  · exact gives_fail _
  · rename_i hv
    exact (gives_makeDict hargs (hoptions hv)).mono fun _ h => h.whole
  · exact gives_fail _
  · exact gives_fail _

/-! ## Filters -/

theorem gives_follow (path : List Object) {item : Object} (h : item.value.Whole) :
    (follow path item).Gives (·.value.Whole) := by
  rw [follow]
  induction path generalizing item with
  | nil => exact gives_pure h
  | cons step path ih =>
    rw [List.foldlM_cons]
    exact (gives_itemOf h step).bind fun _ hpart => ih hpart

theorem gives_foldParts {β : Type} {I : β → Prop} {f : β → Object → Compute (ForInStep β)}
    (hf : ∀ b o, I b → o.value.Whole → (f b o).Gives fun s => I s.value) (path : List Object)
    {v : Value} (hv : v.Whole) {b : β} (hb : I b) : (foldParts path f v b).Gives I :=
  (gives_sourceOf hv).bind fun _ hsource =>
    gives_fold Stream.draws (fun b _ hb ho => (gives_follow path ho.whole).bind fun part hpart =>
      hf b part hb hpart) hsource hb

theorem gives_extreme (r : Relation) (caseMatters : Bool) (path : List Object) {v : Value}
    (hv : v.Whole) : (extreme r caseMatters path v).Gives (·.value.Whole) := by
  refine (gives_sourceOf hv).bind fun source hsource =>
    (gives_fold Stream.draws
      (I := fun best : Option (Object × Object) => ∀ b, best = some b → b.1.value.Solid)
      (fun best item hbest hitem => ?_) hsource (b := none) nofun).bind
      fun best hbest => gives_pure ?_
  · have hitem' (k : Object) : ∀ b, some (item, k) = some b → b.1.value.Solid := fun b h => by
      cases h
      exact hitem
    refine .bind (P := fun _ => True) ?_ fun k _ => ?_
    · exact (gives_follow path hitem.whole).bind fun _ _ => gives_pure trivial
    · split
      · exact gives_pure (hitem' k)
      · refine (gives_any_ofFault _).bind fun better _ => ?_
        split
        · exact gives_pure (hitem' k)
        · exact gives_pure hbest
  · cases best with
    | none => exact Value.whole_undefined _
    | some b => exact (hbest b rfl).whole

theorem gives_firstOf {v : Value} (hv : v.Whole) : (firstOf v).Gives (·.value.Whole) := by
  refine (gives_sourceOf hv).bind fun source hsource =>
    (gives_fold Stream.draws (I := SolidIfFound) (fun _ o _ ho => ?_) hsource
      solidIfFound_none).bind fun found hfound => gives_pure ?_
  · exact gives_pure (solidIfFound_some ho)
  · cases found with
    | none => exact Value.whole_undefined _
    | some o => exact (hfound o rfl).whole

theorem gives_lastOf {v : Value} (hv : v.Whole) : (lastOf v).Gives (·.value.Whole) := by
  rw [lastOf.eq_def]
  dsimp only
  split
  · exact gives_fail _
  · exact gives_fail _
  · rename_i start stop step
    refine gives_pure ?_
    rw [lastNumber]
    split
    · exact Value.whole_undefined _
    · exact (Value.solid_plain rfl rfl).whole
  · rename_i items _ _ _ hitems
    refine gives_pure ?_
    cases hlast : items.getLast? with
    | none => exact Value.whole_undefined _
    | some o => exact (hv.items hitems o (List.mem_of_getLast? hlast)).whole
  · exact gives_fail _
  · exact gives_fail _

theorem gives_joinTexts (separator : Option Object) (path : List Object) {v : Value}
    (hv : v.Whole) : (joinTexts separator path v).Gives (·.value.Whole) := by
  have hparts : (foldParts path (fun done o => do
      return .yield ((← textOf o.value) :: done)) v []).Gives fun _ => True :=
    gives_foldParts (fun done o _ _ => (gives_textOf _).bind fun _ _ => gives_pure trivial) path
      hv trivial
  have hjoined (between : String) : (do
      let parts ← foldParts path (fun done o => do
        return .yield ((← textOf o.value) :: done)) v []
      return (.new (.text (between.intercalate parts.reverse)) : Object)).Gives
        (·.value.Whole) :=
    hparts.bind fun _ _ => gives_pure (Value.whole_of_parts_eq_nil rfl)
  rw [joinTexts]
  split
  · refine (gives_sourceOf hv).bind fun _ _ => ?_
    cases separator with
    | none => exact hjoined ""
    | some d => exact (gives_textOf _).bind fun between _ => hjoined between
  · cases separator with
    | none => exact hjoined ""
    | some d => exact (gives_textOf _).bind fun between _ => hjoined between

theorem gives_sumParts (path : List Object) {start : Object} (hstart : start.value.Whole)
    {v : Value} (hv : v.Whole) : (sumParts path start v).Gives (·.value.Whole) := by
  refine (gives_sourceOf hv).bind fun _ _ => ?_
  split
  · exact gives_fail _
  · refine gives_foldParts (I := fun total : Object => total.value.Whole)
      (fun total o htotal ho => ?_) path hv hstart
    exact (gives_ofFault (Object.solid_add htotal ho)).bind fun _ hsum => gives_pure hsum.whole

theorem gives_optionTruth (given : List (String × Object)) (name : String) :
    (optionTruth given name).Gives fun _ => True := by
  rw [optionTruth]
  split
  · exact gives_pure trivial
  · exact gives_any_ofFault _

/-- A filter gives something whole of whole things. -/
theorem gives_applyFilter (filter : String) (ho : o.value.Whole)
    (hargs : ∀ o ∈ args, o.value.Whole) (hoptions : ∀ e ∈ options, e.2.value.Whole) :
    (applyFilter filter o args options).Gives (·.value.Whole) := by
  have hbind {function : String} {fixed parameters : List String} :
      (bind function fixed parameters args options).Gives OptionsWhole :=
    gives_bind hargs hoptions
  have hplain {v : Value} (h : v.parts = []) (h' : v.useless? = none) :
      (pure (.new v) : Compute Object).Gives (·.value.Whole) :=
    gives_pure (Value.solid_plain h h').whole
  have hgiven {given : List (String × Object)} (h : OptionsWhole given) (n : String) {v : Value}
      (hparts : v.parts = []) : ((given.lookup n).getD (.new v)).value.Whole := by
    cases ho : given.lookup n with
    | none => exact Value.whole_of_parts_eq_nil hparts
    | some o => exact h n o ho
  unfold applyFilter
  dsimp only
  split
  · exact hbind.bind fun _ _ => (gives_textOf _).bind fun _ _ => hplain rfl rfl
  · refine hbind.bind fun _ _ => (gives_textOf _).bind fun s _ => ?_
    have htext : (Object.new (.text s)).value = .text s := rfl
    exact (Formula.gives_strip htext _).mono fun _ h => h.whole
  · exact hbind.bind fun _ _ => gives_joinTexts _ _ ho
  · split
    · exact (gives_any_ofFault _).bind fun _ _ => hplain rfl rfl
    · exact gives_fail _
    · exact gives_fail _
  · exact hbind.bind fun _ _ => gives_firstOf ho
  · exact hbind.bind fun _ _ => gives_lastOf ho
  · exact hbind.bind fun given h => gives_sumParts _ (hgiven h _ rfl) ho
  · exact hbind.bind fun given _ => (gives_optionTruth given _).bind fun _ _ =>
      gives_extreme .gt _ _ ho
  · exact hbind.bind fun given _ => (gives_optionTruth given _).bind fun _ _ =>
      gives_extreme .lt _ _ ho
  · refine hbind.bind fun given h => ?_
    have hotherwise := hgiven h "default_value" (v := .text "") rfl
    split
    · exact gives_pure hotherwise
    · refine (gives_optionTruth given _).bind fun boolean _ => ?_
      split
      · refine (gives_any_ofFault _).bind fun b _ => ?_
        split
        · exact gives_pure ho
        · exact gives_pure hotherwise
      · exact gives_pure ho
  · exact gives_fail _

theorem gives_applyTest (test : String) (v : Value) (hargs : ∀ o ∈ args, o.value.Whole)
    (hoptions : ∀ e ∈ options, e.2.value.Whole) :
    (applyTest test v args options).Gives fun _ => True := by
  unfold applyTest
  split
  · exact (gives_bind hargs hoptions).bind fun _ _ => gives_pure trivial
  · exact gives_fail _

end Splice.Filter
