import Splice.Proofs.Renumbering.Comparison
import Splice.Proofs.Renumbering.Display
import Splice.Value.Operation

/-!
# Operators do not depend on numbers
-/

namespace Splice

open Renumbering

variable (ρ : Renumbering)

namespace Object

/-! ## Arithmetic -/

theorem onNumbers_renumber (whole : Int → Int → Except Fault Value)
    (real : Binary64 → Binary64 → Except Fault Value)
    (hwhole : ∀ m n, Value.renumber ρ <$> whole m n = whole m n)
    (hreal : ∀ x y, Value.renumber ρ <$> real x y = real x y) (otherwise : Fault)
    (a b : Object) :
    onNumbers whole real otherwise (a.renumber ρ) (b.renumber ρ) =
      renumber ρ <$> onNumbers whole real otherwise a b := by
  have hnew {r : Except Fault Value} (h : Value.renumber ρ <$> r = r) :
      new <$> r = renumber ρ <$> new <$> r := by
    conv_lhs => rw [← h]
    rw [Functor.map_map, Functor.map_map]
    rfl
  simp only [onNumbers, value_renumber, Value.numeric?_renumber]
  split
  · exact hnew (hwhole _ _)
  · exact bind_eq_map_of_eq rfl fun x => hnew (hreal _ _)
  · exact bind_eq_map_of_eq rfl fun x => hnew (hreal _ _)
  · exact hnew (hreal _ _)
  · rfl

theorem ifDefined_renumber {α : Type} {a b : Object} {act act' : Except Fault α} {g : α → α}
    (h : act' = g <$> act) :
    ifDefined (a.renumber ρ) (b.renumber ρ) act' = g <$> ifDefined a b act := by
  simp only [ifDefined, undefinedAmong_renumber]
  cases undefinedAmong a b with
  | none => exact h
  | some why => rfl

theorem add_renumber (a b : Object) :
    (a.renumber ρ).add (b.renumber ρ) = renumber ρ <$> a.add b := by
  refine ifDefined_renumber ρ ?_
  have hnumbers := onNumbers_renumber ρ (fun m n => .ok (.int (m + n)))
    (fun x y => .ok (.real (x.add y))) (fun _ _ => rfl) (fun _ _ => rfl)
    (.operands "+" a.value.typeName b.value.typeName) a b
  simp only [value_renumber, Value.typeName_renumber]
  obtain ⟨v, m⟩ := a
  obtain ⟨w, n⟩ := b
  cases v with
  | text | bytes | buffer | list | tuple =>
    cases w <;> simp [Value.renumber, Functor.map, Except.map, apply_ite (renumber ρ)]
  | _ => exact hnumbers

theorem without_renumber (ys xs : List Object) :
    without (ys.map (renumber ρ)) (xs.map (renumber ρ)) =
      List.map (renumber ρ) <$> without ys xs := by
  induction xs with
  | nil => rfl
  | cons x xs ih =>
    rw [List.map_cons, without, without]
    refine bind_eq_map ih fun rest => bind_eq_map_of_eq (isAmong_renumber ρ x ys) fun found => ?_
    cases found <;> rfl

theorem sub_renumber (a b : Object) :
    (a.renumber ρ).sub (b.renumber ρ) = renumber ρ <$> a.sub b := by
  refine ifDefined_renumber ρ ?_
  have hnumbers := onNumbers_renumber ρ (fun m n => .ok (.int (m - n)))
    (fun x y => .ok (.real (x.sub y))) (fun _ _ => rfl) (fun _ _ => rfl)
    (.operands "-" a.value.typeName b.value.typeName) a b
  simp only [value_renumber, Value.typeName_renumber]
  obtain ⟨v, m⟩ := a
  obtain ⟨w, n⟩ := b
  cases v with
  | set xs =>
    cases w with
    | set ys =>
      simp only [Value.renumber, renumberAll_eq, without_renumber]
      cases without ys xs <;> simp [Functor.map, Except.map, Value.renumber]
    | _ => exact hnumbers
  | _ => exact hnumbers

@[simp] theorem repeatable?_renumber (v : Value) : repeatable? (v.renumber ρ) = repeatable? v := by
  cases v <;> simp [Value.renumber, repeatable?]

theorem copies_map {α β : Type} (n : Int) (g : α → β) (xs : List α) :
    copies n (xs.map g) = (copies n xs).map g := by
  simp [copies, List.map_flatten]

theorem repeated_renumber (a : Object) (size : Nat) (n : Int) :
    repeated (a.renumber ρ) size n = renumber ρ <$> repeated a size n := by
  obtain ⟨v, m⟩ := a
  cases v with
  | text | bytes | tuple | list | buffer =>
    simp only [repeated, renumber, Value.renumber, renumberAll_eq, copies_map,
      apply_ite (Functor.map (renumber ρ))]
    simp only [Functor.map, Except.map, apply_ite (renumber ρ), renumber_new, Value.renumber,
      renumberAll_eq, renumber]
  | _ =>
    simp only [repeated, renumber, Value.renumber, apply_ite (Functor.map (renumber ρ))]
    rfl

theorem mul_renumber (a b : Object) :
    (a.renumber ρ).mul (b.renumber ρ) = renumber ρ <$> a.mul b := by
  refine ifDefined_renumber ρ ?_
  have hnumbers := onNumbers_renumber ρ (fun m n => .ok (.int (m * n)))
    (fun x y => .ok (.real (x.mul y))) (fun _ _ => rfl) (fun _ _ => rfl)
    (.operands "*" a.value.typeName b.value.typeName) a b
  simp only [value_renumber, Value.typeName_renumber, repeatable?_renumber, Value.asInt?_renumber]
  split
  · split
    · exact repeated_renumber ρ _ _ _
    · rfl
  · split
    · exact repeated_renumber ρ _ _ _
    · rfl
  · exact hnumbers

theorem floorDiv_renumber (a b : Object) :
    (a.renumber ρ).floorDiv (b.renumber ρ) = renumber ρ <$> a.floorDiv b := by
  refine ifDefined_renumber ρ ?_
  simp only [value_renumber, Value.typeName_renumber]
  refine onNumbers_renumber ρ _ _ (fun m n => ?_) (fun x y => ?_) _ a b
  · split <;> rfl
  · split <;> rfl

@[simp] theorem isOwnRemainder_renumber (v w : Value) :
    isOwnRemainder (v.renumber ρ) (w.renumber ρ) = isOwnRemainder v w := by
  cases v with
  | int m => cases w <;> rfl
  | _ => rfl

theorem mod_renumber (a b : Object) :
    (a.renumber ρ).mod (b.renumber ρ) = renumber ρ <$> a.mod b := by
  refine ifDefined_renumber ρ ?_
  simp only [value_renumber, Value.typeName_renumber, isOwnRemainder_renumber]
  split
  · rfl
  · refine onNumbers_renumber ρ _ _ (fun m n => ?_) (fun x y => ?_) _ a b
    · split <;> rfl
    · split <;> rfl

theorem neg_renumber (a : Object) : (a.renumber ρ).neg = renumber ρ <$> a.neg := by
  simp only [neg, value_renumber, Value.undefined?_renumber, Value.numeric?_renumber,
    Value.typeName_renumber]
  split <;> rfl

@[simp] theorem length_renumber (v : Value) : (v.renumber ρ).length = v.length := by
  cases v with
  | failure f => simp [Value.renumber, Value.length, Value.typeName_failure]
  | _ => simp [Value.renumber, Value.length, Value.typeName]

/-! ## Keys -/

theorem asKey_renumber (a : Object) : (a.renumber ρ).asKey = renumber ρ <$> a.asKey := by
  simp only [asKey, value_renumber, Value.keyFault?_renumber]
  cases a.value.keyFault? <;> rfl

theorem lookupKey_renumber (k : Object) (es : List (Object × Object)) :
    (k.renumber ρ).lookupKey (es.map (renumberEntry ρ)) =
      Option.map (renumber ρ) <$> k.lookupKey es := by
  simp [lookupKey]

theorem insertKey_renumber (k v : Object) (es : List (Object × Object)) :
    insertKey (k.renumber ρ) (v.renumber ρ) (es.map (renumberEntry ρ)) =
      List.map (renumberEntry ρ) <$> insertKey k v es := by
  induction es with
  | nil => rfl
  | cons e es ih =>
    obtain ⟨k', v'⟩ := e
    simp only [List.map_cons, renumberEntry, insertKey, matchesItem_renumber, ih]
    rcases k'.matchesItem k with f | (_ | _)
    · rfl
    · cases insertKey k v es <;> rfl
    · rfl

theorem foldlM_insertKey_renumber (es done : List (Object × Object)) :
    (es.map (renumberEntry ρ)).foldlM
        (fun done (e : Object × Object) => do insertKey (← e.1.asKey) e.2 done)
        (done.map (renumberEntry ρ)) =
      List.map (renumberEntry ρ) <$>
        es.foldlM (fun done e => do insertKey (← e.1.asKey) e.2 done) done := by
  induction es generalizing done with
  | nil => rfl
  | cons e es ih =>
    rw [List.map_cons, List.foldlM_cons, List.foldlM_cons]
    refine bind_eq_map ?_ ih
    exact bind_eq_map (asKey_renumber ρ e.1) fun key => insertKey_renumber ρ key e.2 done

theorem makeDict_renumber (es : List (Object × Object)) :
    makeDict (es.map (renumberEntry ρ)) = Value.renumber ρ <$> makeDict es :=
  bind_eq_map (foldlM_insertKey_renumber ρ es []) fun done => by simp [Value.renumber]

/-! ## Indices -/

theorem itemAt_renumber {get get' : Nat → Option Object}
    (h : ∀ i, get' i = (get i).map (renumber ρ)) (container : String) (counted : Bool) (size : Nat)
    (index : Object) :
    itemAt container counted size get' (index.renumber ρ) =
      renumber ρ <$> itemAt container counted size get index := by
  simp only [itemAt, value_renumber, Value.asInt?_renumber, Value.typeName_renumber]
  cases index.value.asInt? with
  | none => rfl
  | some i =>
    simp only
    split
    · rfl
    · cases position? size i with
      | none => rfl
      | some j =>
        rw [Option.bind_some, Option.bind_some, h]
        cases get j <;> rfl

theorem valueAt_renumber (es : List (Object × Object)) (key : Object) :
    valueAt (es.map (renumberEntry ρ)) (key.renumber ρ) =
      ρ.result (renumber ρ) (valueAt es key) := by
  have hlookup : (do lookupKey (← (key.renumber ρ).asKey) (es.map (renumberEntry ρ))) =
      Option.map (renumber ρ) <$> (do lookupKey (← key.asKey) es) :=
    bind_eq_map (asKey_renumber ρ key) fun key => lookupKey_renumber ρ key es
  rw [valueAt, valueAt, hlookup]
  refine bind_eq_result (result_mapError ρ _ _).symm fun found => ?_
  cases found <;> rfl

@[simp] theorem parameterText_renumber (v : Value) :
    parameterText (v.renumber ρ) = parameterText v := by
  have hquoted := v.quoted_renumber ρ
  cases v <;> first | rfl | exact hquoted

@[simp] theorem narrowed_renumber (type : String) (parameters : Value) :
    narrowed type (parameters.renumber ρ) = narrowed type parameters := by
  have htext := parameterText_renumber ρ parameters
  cases parameters with
  | tuple xs =>
    cases xs with
    | nil => rfl
    | cons x xs =>
      simp only [Value.renumber, renumberAll_eq, List.map_cons, List.map_map, narrowed,
        value_renumber, parameterText_renumber, Function.comp_def]
  | list | set | dict | view | mute | failure | method =>
    simp only [Value.renumber, narrowed] at htext ⊢
    rw [htext]
  | _ => rfl

theorem subscript_renumber (a index : Object) :
    (a.renumber ρ).subscript (index.renumber ρ) =
      ρ.result (renumber ρ) (a.subscript index) := by
  have hitem {get get' : Nat → Option Object} (h : ∀ i, get' i = (get i).map (renumber ρ))
      (container : String) (counted : Bool) (size : Nat) :
      (itemAt container counted size get' (index.renumber ρ)).mapError Failure.ofFault =
        ρ.result (renumber ρ)
          ((itemAt container counted size get index).mapError Failure.ofFault) := by
    rw [itemAt_renumber ρ h, result_mapError]
  obtain ⟨v, m⟩ := a
  cases v with
  | list xs =>
    simp only [renumber, Value.renumber, renumberAll_eq, subscript, List.length_map]
    exact hitem (fun i => List.getElem?_map ..) ..
  | tuple xs =>
    simp only [renumber, Value.renumber, renumberAll_eq, subscript, List.length_map]
    exact hitem (fun i => List.getElem?_map ..) ..
  | text s => exact hitem (fun i => by simp [Function.comp_def]) ..
  | bytes bs | buffer bs => exact hitem (fun i => by simp [Function.comp_def, Value.renumber]) ..
  | range => exact hitem (fun i => by rfl) ..
  | dict es =>
    simp only [renumber, Value.renumber, renumberEntries_eq, subscript]
    exact valueAt_renumber ρ es index
  | type n =>
    simp only [renumber, Value.renumber, subscript, value_renumber, narrowed_renumber]
    split <;> rfl
  | failure f =>
    simp only [renumber, Value.renumber, subscript, Value.typeName_failure, Failure.kind_renumber]
    rfl
  | _ => rfl

/-! ## Membership -/

@[simp] theorem isAmongBytes_renumber (v : Value) (bs : List UInt8) :
    isAmongBytes (v.renumber ρ) bs = isAmongBytes v bs := by
  cases v with
  | failure f => simp [Value.renumber, isAmongBytes, Value.typeName_failure, Value.asInt?]
  | _ => rfl

@[simp] theorem isEntry_renumber (a : Object) (es : List (Object × Object)) :
    (a.renumber ρ).isEntry (es.map (renumberEntry ρ)) = a.isEntry es := by
  obtain ⟨v, m⟩ := a
  cases v with
  | tuple items =>
    rcases items with _ | ⟨k, _ | ⟨v, _ | ⟨x, xs⟩⟩⟩
    · rfl
    · rfl
    · simp only [renumber, Value.renumber, renumberAll_eq, List.map_cons, List.map_nil, isEntry,
        asKey_renumber, bind_map_left, lookupKey_renumber]
      congr! 3
      funext found
      cases found <;> simp
    · rfl
  | _ => rfl

@[simp] theorem isAmongNumbers_renumber (a : Object) (first step : Int) (left : Nat) :
    (a.renumber ρ).isAmongNumbers first step left = a.isAmongNumbers first step left := by
  induction left generalizing first with
  | zero => rfl
  | succ left ih =>
    have hmatches : (new (.int first)).matchesItem (a.renumber ρ) =
        (new (.int first)).matchesItem a := matchesItem_renumber ρ (new (.int first)) a
    simp only [isAmongNumbers, hmatches, ih]

@[simp] theorem isIn_renumber (a container : Object) :
    (a.renumber ρ).isIn (container.renumber ρ) = a.isIn container := by
  have hkey : (a.renumber ρ).asKey = renumber ρ <$> a.asKey := asKey_renumber ρ a
  obtain ⟨v, m⟩ := container
  cases v with
  | text s =>
    obtain ⟨w, n⟩ := a
    cases w with
    | failure f => simp [renumber, Value.renumber, isIn, Value.typeName_failure]
    | _ => rfl
  | set xs =>
    obtain ⟨w, n⟩ := a
    cases w with
    | set ys => rfl
    | _ =>
      simp only [renumber, Value.renumber, renumberAll_eq, renumberEntries_eq, isIn] at hkey ⊢
      simp only [hkey, bind_map_left, isAmong_renumber]
  | dict es =>
    simp [renumber, Value.renumber, isIn, hkey, lookupKey_renumber]
  | view p es =>
    cases p with
    | items => simp [renumber, Value.renumber, isIn]
    | keys => simp [renumber, Value.renumber, isIn, hkey, lookupKey_renumber]
    | values =>
      have hvalues := Value.viewItems_renumber ρ .values es
      simp only [Value.viewItems] at hvalues
      simp only [renumber, Value.renumber, renumberEntries_eq, isIn, hvalues, isAmong_renumber]
  | failure f => simp [renumber, Value.renumber, isIn, Value.typeName_failure]
  | range | list | tuple | bytes | buffer => simp [renumber, Value.renumber, isIn]
  | _ => rfl

end Object

end Splice
