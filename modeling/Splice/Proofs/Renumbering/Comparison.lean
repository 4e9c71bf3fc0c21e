import Splice.Proofs.Renumbering.Values

/-!
# Comparisons do not depend on numbers
-/

namespace Splice

variable (ρ : Renumbering)

namespace Value

@[simp] theorem numeric?_renumber (v : Value) : (v.renumber ρ).numeric? = v.numeric? := by
  cases v <;> rfl

mutual

@[simp] theorem keyFault?_renumber (v : Value) : (v.renumber ρ).keyFault? = v.keyFault? := by
  cases v with
  | tuple xs =>
    simp only [renumber, keyFault?, Object.renumberAll_eq]
    exact keyFaultAmong?_renumber xs
  | view p es => cases p <;> rfl
  | _ => rfl
termination_by structural v

@[simp] theorem keyFaultAmong?_renumber (xs : List Object) :
    keyFaultAmong? (xs.map (Object.renumber ρ)) = keyFaultAmong? xs := by
  rcases xs with _ | ⟨⟨v, m⟩, xs⟩
  · rfl
  · simp only [List.map_cons, Object.renumber, keyFaultAmong?]
    rw [keyFault?_renumber v, keyFaultAmong?_renumber xs]
termination_by structural xs

end

@[simp] theorem looksUpKeys_renumber (v : Value) : (v.renumber ρ).looksUpKeys = v.looksUpKeys := by
  cases v with
  | view p es => cases p <;> rfl
  | _ => rfl

@[simp] theorem keysBefore_renumber (xs : List Object) :
    keysBefore (xs.map (Object.renumber ρ)) =
      ((keysBefore xs).1.map (Object.renumber ρ), (keysBefore xs).2) := by
  induction xs with
  | nil => rfl
  | cons x xs ih =>
    rw [List.map_cons, keysBefore, keysBefore, ih, Object.value_renumber, keyFault?_renumber]
    cases x.value.keyFault? <;> rfl

end Value

namespace Object

@[simp] theorem uselessAmong_renumber (a b : Object) :
    uselessAmong (a.renumber ρ) (b.renumber ρ) = uselessAmong a b := by
  simp [uselessAmong]

@[simp] theorem undefinedAmong_renumber (a b : Object) :
    undefinedAmong (a.renumber ρ) (b.renumber ρ) = undefinedAmong a b := by
  simp [undefinedAmong]

@[simp] theorem valueEqual?_renumber (v w : Value) :
    valueEqual? (v.renumber ρ) (w.renumber ρ) = valueEqual? v w := by
  cases v with
  | method r m =>
    cases w with
    | method s k => simp [Value.renumber, valueEqual?]
    | _ => rfl
  | _ => cases w <;> rfl

@[simp] theorem leafEqual_renumber (a b : Object) :
    leafEqual (a.renumber ρ) (b.renumber ρ) = leafEqual a b := by
  simp [leafEqual]

@[simp] theorem findEntry_renumber (test : Object → Except Fault Bool)
    (es : List (Object × Object)) :
    findEntry test (es.map (renumberEntry ρ)) =
      Option.map (renumber ρ) <$> findEntry (fun k => test (k.renumber ρ)) es := by
  induction es with
  | nil => rfl
  | cons e es ih =>
    obtain ⟨k, v⟩ := e
    rw [List.map_cons, renumberEntry, findEntry, findEntry, ih]
    rcases test (k.renumber ρ) with f | (_ | _) <;> rfl

theorem anyOf_renumber (test : Object → Except Fault Bool) (os : List Object) :
    anyOf test (os.map (renumber ρ)) = anyOf (fun o => test (o.renumber ρ)) os := by
  induction os with
  | nil => rfl
  | cons o os ih => rw [List.map_cons, anyOf, anyOf, ih]

mutual

@[simp] theorem equal_renumber (a b : Object) :
    (a.renumber ρ).equal (b.renumber ρ) = a.equal b := by
  obtain ⟨v, m⟩ := a
  obtain ⟨w, n⟩ := b
  -- what is not gone through item by item is compared as a leaf
  have hleaf := leafEqual_renumber ρ ⟨v, m⟩ ⟨w, n⟩
  cases v with
  | list xs =>
    cases w with
    | list ys => simp [renumber, Value.renumber, equal, equalAll_renumber xs ys]
    | _ => exact hleaf
  | tuple xs =>
    cases w with
    | tuple ys => simp [renumber, Value.renumber, equal, equalAll_renumber xs ys]
    | _ => exact hleaf
  | set xs =>
    simp only [renumber, Value.renumber, equal, Value.setItems?_renumber] at hleaf ⊢
    cases w.setItems? with
    | none => exact hleaf
    | some ys => simp [matched_renumber xs]
  | view p es =>
    simp only [renumber, Value.renumber, equal, Value.setItems?_renumber] at hleaf ⊢
    cases p with
    | keys =>
      cases w.setItems? with
      | none => exact hleaf
      | some ys => simp [keysWithin_renumber es]
    | items =>
      cases w.setItems? with
      | none => exact hleaf
      | some ys => simp [entriesWithin_renumber _ es]
    | values => exact hleaf
  | dict es =>
    cases w with
    | dict fs => simp [renumber, Value.renumber, equal, equalEntries_renumber es fs]
    | _ => exact hleaf
  | _ => exact hleaf
termination_by structural a

theorem equalAll_renumber (xs ys : List Object) :
    equalAll (xs.map (renumber ρ)) (ys.map (renumber ρ)) = equalAll xs ys := by
  rcases xs with _ | ⟨x, xs⟩
  · cases ys <;> rfl
  · rcases ys with _ | ⟨y, ys⟩
    · rfl
    · simp only [List.map_cons, equalAll, same_renumber]
      rw [equal_renumber x y, equalAll_renumber xs ys]
termination_by structural xs

theorem matched_renumber (xs ys : List Object) :
    matched (xs.map (renumber ρ)) (ys.map (renumber ρ)) = matched xs ys := by
  rcases xs with _ | ⟨x, xs⟩
  · rfl
  · have hequal := equal_renumber x
    simp only [List.map_cons, matched, anyOf_renumber, same_renumber, hequal]
    rw [matched_renumber xs ys]
termination_by structural xs

theorem keysWithin_renumber (es : List (Object × Object)) (ys : List Object) :
    keysWithin (es.map (renumberEntry ρ)) (ys.map (renumber ρ)) = keysWithin es ys := by
  rcases es with _ | ⟨⟨k, v⟩, es⟩
  · rfl
  · have hequal := equal_renumber k
    simp only [List.map_cons, renumberEntry, keysWithin, anyOf_renumber, same_renumber, hequal]
    rw [keysWithin_renumber es ys]
termination_by structural es

theorem entriesWithin_renumber (lookedUp : Bool) (es : List (Object × Object)) (ys : List Object) :
    entriesWithin lookedUp (es.map (renumberEntry ρ)) (ys.map (renumber ρ)) =
      entriesWithin lookedUp es ys := by
  rcases es with _ | ⟨⟨k, v⟩, es⟩
  · rfl
  · have hk := equal_renumber k
    have hv := equal_renumber v
    simp only [List.map_cons, renumberEntry, entriesWithin, anyOf_renumber, value_renumber,
      Value.keyFault?_renumber, entriesWithin_renumber lookedUp es ys]
    split
    · rfl
    · -- a pair is taken apart in the same way, whatever numbers there are in it
      congr! 2
      funext y
      obtain ⟨w, n⟩ := y
      cases w with
      | tuple items =>
        rcases items with _ | ⟨k', _ | ⟨v', _ | ⟨x, xs⟩⟩⟩
        · rfl
        · rfl
        · simp [Value.renumber, hk, hv]
        · rfl
      | _ => rfl
termination_by structural es

theorem equalEntries_renumber (es fs : List (Object × Object)) :
    equalEntries (es.map (renumberEntry ρ)) (fs.map (renumberEntry ρ)) = equalEntries es fs := by
  rcases es with _ | ⟨⟨k, v⟩, es⟩
  · rfl
  · have hk := equal_renumber k
    have hv := equal_renumber v
    simp only [List.map_cons, renumberEntry, equalEntries, findEntry_renumber, same_renumber, hk]
    rw [equalEntries_renumber es fs]
    rcases findEntry (fun k' => if k.same k' then .ok true else k.equal k') fs with f | (_ | w)
    · rfl
    · rfl
    · simp [Functor.map, Except.map, hv]
termination_by structural es

end

@[simp] theorem matchesItem_renumber (item x : Object) :
    (item.renumber ρ).matchesItem (x.renumber ρ) = item.matchesItem x := by
  simp [matchesItem]

@[simp] theorem isAmong_renumber (x : Object) (items : List Object) :
    (x.renumber ρ).isAmong (items.map (renumber ρ)) = x.isAmong items := by
  simp [isAmong, anyOf_renumber]

/-! ## Order -/

@[simp] theorem leafRelated_renumber (r : Relation) (a b : Object) :
    leafRelated r (a.renumber ρ) (b.renumber ρ) = leafRelated r a b := by
  obtain ⟨v, m⟩ := a
  obtain ⟨w, n⟩ := b
  cases v with
  | text _ | bytes _ | buffer _ =>
    cases w <;> simp [leafRelated, uselessAmong, undefinedAmong, renumber, Value.renumber,
      Value.numeric?, Value.typeName, Value.useless?, Value.undefined?]
  | failure f =>
    simp [leafRelated, uselessAmong, undefinedAmong, renumber, Value.renumber,
      Value.typeName_failure]
    rfl
  | _ =>
    simp only [leafRelated, uselessAmong, undefinedAmong, renumber, Value.renumber,
      Value.numeric?_renumber, Value.useless?_renumber, Value.undefined?_renumber,
      Value.typeName_renumber]
    try rfl

@[simp] theorem within_renumber (lookedUp : Bool) (xs ys : List Object) :
    within lookedUp (xs.map (renumber ρ)) (ys.map (renumber ρ)) = within lookedUp xs ys := by
  induction xs with
  | nil => rfl
  | cons x xs ih => simp [within, anyOf_renumber, ih]

@[simp] theorem setRelated_renumber (r : Relation) (v w : Value) (xs ys : List Object) :
    setRelated r (v.renumber ρ) (w.renumber ρ) (xs.map (renumber ρ)) (ys.map (renumber ρ)) =
      setRelated r v w xs ys := by
  cases r <;> simp [setRelated]

mutual

@[simp] theorem related_renumber (r : Relation) (a b : Object) :
    (a.renumber ρ).related r (b.renumber ρ) = a.related r b := by
  obtain ⟨v, m⟩ := a
  obtain ⟨w, n⟩ := b
  have hleaf := leafRelated_renumber ρ r ⟨v, m⟩ ⟨w, n⟩
  cases v with
  | list xs =>
    cases w with
    | list ys => simp [renumber, Value.renumber, related, relatedAll_renumber r xs ys]
    | _ => exact hleaf
  | tuple xs =>
    cases w with
    | tuple ys => simp [renumber, Value.renumber, related, relatedAll_renumber r xs ys]
    | _ => exact hleaf
  | set xs =>
    have hsets := setRelated_renumber ρ r (.set xs) w xs
    simp only [renumber, Value.renumber, related, Value.setItems?_renumber] at hleaf hsets ⊢
    cases w.setItems? with
    | none => exact hleaf
    | some ys => simpa [Value.setItems?] using hsets ys
  | view p es =>
    have hsets := setRelated_renumber ρ r (.view p es) w (Value.viewItems p es)
    simp only [renumber, Value.renumber, related, Value.setItems?_renumber] at hleaf hsets ⊢
    cases p with
    | values => exact hleaf
    | keys | items =>
      cases w.setItems? with
      | none => exact hleaf
      | some ys => simpa [Value.setItems?] using hsets ys
  | _ => exact hleaf
termination_by structural a

theorem relatedAll_renumber (r : Relation) (xs ys : List Object) :
    relatedAll r (xs.map (renumber ρ)) (ys.map (renumber ρ)) = relatedAll r xs ys := by
  rcases xs with _ | ⟨x, xs⟩
  · cases ys <;> rfl
  · rcases ys with _ | ⟨y, ys⟩
    · rfl
    · simp only [List.map_cons, relatedAll, matchesItem_renumber]
      rw [related_renumber r x y, relatedAll_renumber r xs ys]
termination_by structural xs

end

end Object

/-! ## Sorting -/

namespace Sorting

@[simp] theorem before_renumber (a b : Object) :
    before (a.renumber ρ) (b.renumber ρ) = before a b := by
  simp [before]

theorem extend_renumber (down : Bool) (last : Object) (run xs : List Object) :
    extend down (last.renumber ρ) (run.map (Object.renumber ρ)) (xs.map (Object.renumber ρ)) =
      Prod.map (List.map (Object.renumber ρ)) (List.map (Object.renumber ρ)) <$>
        extend down last run xs := by
  induction xs generalizing last run with
  | nil => rfl
  | cons x xs ih =>
    rw [List.map_cons, extend, extend, before_renumber]
    cases before x last with
    | error f => rfl
    | ok b =>
      change (if b == down then _ else _) = _ <$> (if b == down then _ else _)
      split
      · exact ih x (x :: run)
      · rfl

theorem takeRun_renumber (xs : List Object) :
    takeRun (xs.map (Object.renumber ρ)) =
      Prod.map (List.map (Object.renumber ρ)) (List.map (Object.renumber ρ)) <$> takeRun xs := by
  rcases xs with _ | ⟨x, _ | ⟨y, rest⟩⟩
  · rfl
  · rfl
  · simp only [List.map_cons, takeRun, before_renumber]
    cases before y x with
    | error f => rfl
    | ok down =>
      change extend _ _ _ _ >>= _ = _ <$> (extend _ _ _ _ >>= _)
      refine bind_eq_map (extend_renumber ρ down y [y, x] rest) fun found => ?_
      cases down <;> simp [Prod.map]

theorem place_renumber (sorted : Array Object) (x : Object) (fuel low high : Nat) :
    place (sorted.map (Object.renumber ρ)) (x.renumber ρ) fuel low high =
      place sorted x fuel low high := by
  induction fuel generalizing low high with
  | zero => rfl
  | succ fuel ih =>
    have hmiddle (i : Nat) : ((sorted.map (Object.renumber ρ))[i]?.getD (x.renumber ρ)) =
        (sorted[i]?.getD x).renumber ρ := by
      rw [Array.getElem?_map]
      cases sorted[i]? <;> rfl
    simp only [place, hmiddle, before_renumber, ih]

theorem insert_renumber (sorted : Array Object) (x : Object) :
    insert (sorted.map (Object.renumber ρ)) (x.renumber ρ) =
      Array.map (Object.renumber ρ) <$> insert sorted x := by
  simp only [insert, place_renumber, Array.size_map]
  cases place sorted x (sorted.size + 1) 0 sorted.size with
  | error f => rfl
  | ok i => simp

theorem foldlM_insert_renumber (xs : List Object) (sorted : Array Object) :
    (xs.map (Object.renumber ρ)).foldlM insert (sorted.map (Object.renumber ρ)) =
      Array.map (Object.renumber ρ) <$> xs.foldlM insert sorted := by
  induction xs generalizing sorted with
  | nil => rfl
  | cons x xs ih =>
    rw [List.map_cons, List.foldlM_cons, List.foldlM_cons]
    exact bind_eq_map (insert_renumber ρ sorted x) ih

theorem runs_renumber (least fuel : Nat) (xs : List Object) :
    runs least fuel (xs.map (Object.renumber ρ)) =
      List.map (List.map (Object.renumber ρ)) <$> runs least fuel xs := by
  induction fuel generalizing xs with
  | zero => rfl
  | succ fuel ih =>
    cases xs with
    | nil => rfl
    | cons x xs =>
      rw [List.map_cons, runs, runs]
      refine bind_eq_map (takeRun_renumber ρ (x :: xs)) fun found => ?_
      obtain ⟨run, rest⟩ := found
      simp only [Prod.map, List.length_map, ← List.map_take, ← List.map_drop, ← List.map_toArray]
      refine bind_eq_map (foldlM_insert_renumber ρ _ _) fun run => ?_
      exact bind_eq_map (ih _) fun rest => by simp

theorem merge_renumber (done xs ys : List Object) :
    merge (done.map (Object.renumber ρ)) (xs.map (Object.renumber ρ)) (ys.map (Object.renumber ρ)) =
      List.map (Object.renumber ρ) <$> merge done xs ys := by
  fun_induction merge done xs ys with
  | case1 done ys => simp [merge, Functor.map, Except.map]
  | case2 done xs h =>
    cases xs with
    | nil => exact (h rfl).elim
    | cons x xs => simp [merge, Functor.map, Except.map]
  | case3 done x xs y ys ih₁ ih₂ =>
    simp only [List.map_cons, merge, before_renumber]
    cases before y x with
    | error f => rfl
    | ok first =>
      cases first with
      | true => exact ih₁
      | false => exact ih₂

theorem mergePairs_renumber : ∀ runs : List (List Object),
    mergePairs (runs.map (List.map (Object.renumber ρ))) =
      List.map (List.map (Object.renumber ρ)) <$> mergePairs runs
  | [] => rfl
  | [_] => rfl
  | xs :: ys :: rest => by
    refine bind_eq_map (merge_renumber ρ [] xs ys) fun merged => ?_
    exact bind_eq_map (mergePairs_renumber rest) fun rest => rfl

theorem mergeAll_renumber (fuel : Nat) (runs : List (List Object)) :
    mergeAll fuel (runs.map (List.map (Object.renumber ρ))) =
      List.map (Object.renumber ρ) <$> mergeAll fuel runs := by
  induction fuel generalizing runs with
  | zero =>
    rcases runs with _ | ⟨xs, _ | ⟨ys, rest⟩⟩
    · rfl
    · rfl
    · simp [mergeAll, Functor.map, Except.map]
  | succ fuel ih =>
    rcases runs with _ | ⟨xs, _ | ⟨ys, rest⟩⟩
    · rfl
    · rfl
    · exact bind_eq_map (mergePairs_renumber ρ (xs :: ys :: rest)) ih

theorem sorted_renumber (xs : List Object) :
    sorted (xs.map (Object.renumber ρ)) = List.map (Object.renumber ρ) <$> sorted xs := by
  simp only [sorted, List.length_map]
  refine bind_eq_map (runs_renumber ρ _ _ xs) fun parts => ?_
  rw [List.length_map]
  exact mergeAll_renumber ρ _ parts

end Sorting

end Splice
