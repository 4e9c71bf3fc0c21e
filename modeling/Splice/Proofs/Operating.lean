import Splice.Formula.Call
import Splice.Proofs.Holes

/-!
# Operators leave no holes

Whatever the operators make of whole values, they make of their parts or of plain data. So what
comes of whole operands is solid: an operand that is undefined makes an operator fail. The same goes
for the items and the members of a whole value, and sorting keeps to the objects that it is given.
-/

namespace Splice

/-! ## Operators -/

namespace Object

variable {a b : Object}

/-- An operator that wants both operands to be defined has to do with solid ones only. -/
theorem ensures_ifDefined {α : Type} {act : Except Fault α} {P : α → Prop}
    (ha : a.value.Whole) (hb : b.value.Whole)
    (h : a.value.Solid → b.value.Solid → Ensures act P) : Ensures (ifDefined a b act) P := by
  rw [ifDefined, undefinedAmong]
  cases ha' : a.value.undefined? with
  | some why => exact .error _
  | none =>
    cases hb' : b.value.undefined? with
    | some why => exact .error _
    | none =>
      exact h (ha.solid (Value.useless?_of_undefined? ha'))
        (hb.solid (Value.useless?_of_undefined? hb'))

/-- Numbers make plain data. -/
theorem solid_onNumbers {whole : Int → Int → Except Fault Value}
    {real : Binary64 → Binary64 → Except Fault Value} {otherwise : Fault}
    (hwhole : ∀ m n, Ensures (whole m n) Value.Solid)
    (hreal : ∀ x y, Ensures (real x y) Value.Solid) :
    Ensures (onNumbers whole real otherwise a b) (·.value.Solid) := by
  rw [onNumbers]
  split
  · exact .map (hwhole _ _)
  · exact .bind_any fun x => (hreal _ _).bind fun v hv => .ok hv
  · exact .bind_any fun x => (hreal _ _).bind fun v hv => .ok hv
  · exact .map (hreal _ _)
  · exact .error _

theorem solid_add (ha : a.value.Whole) (hb : b.value.Whole) :
    Ensures (a.add b) (·.value.Solid) := by
  rw [add]
  refine ensures_ifDefined ha hb fun ha hb => ?_
  -- what is added to nothing stays the object that it is
  split
  · refine .ok ?_
    split
    · exact ha
    · split
      · exact hb
      · exact Value.solid_plain rfl rfl
  · exact .error _
  · rename_i xs ys hx hy
    rw [hx, Value.solid_list] at ha
    rw [hy, Value.solid_list] at hb
    exact .ok (Value.solid_list.mpr (List.forall_mem_append.mpr ⟨ha, hb⟩))
  · exact .error _
  · rename_i xs ys hx hy
    refine .ok ?_
    split
    · exact hb
    · split
      · exact ha
      · rw [hx, Value.solid_tuple] at ha
        rw [hy, Value.solid_tuple] at hb
        exact Value.solid_tuple.mpr (List.forall_mem_append.mpr ⟨ha, hb⟩)
  · exact .error _
  · refine .ok ?_
    split
    · exact hb
    · split
      · exact ha
      · exact Value.solid_plain rfl rfl
  · refine .ok ?_
    split
    · exact ha
    · exact Value.solid_plain rfl rfl
  · exact .error _
  · exact .ok (Value.solid_plain rfl rfl)
  · exact .ok (Value.solid_plain rfl rfl)
  · exact .error _
  · exact solid_onNumbers (fun m n => .ok (Value.solid_plain rfl rfl))
      fun x y => .ok (Value.solid_plain rfl rfl)

theorem ensures_without {ys xs : List Object} :
    Ensures (without ys xs) fun left => ∀ x ∈ left, x ∈ xs := by
  induction xs with
  | nil => exact .ok nofun
  | cons x xs ih =>
    refine ih.bind fun rest hrest => .bind_any fun found => ?_
    split
    · exact .ok fun y hy => List.mem_cons_of_mem x (hrest y hy)
    · refine .ok fun y hy => ?_
      obtain rfl | hy := List.mem_cons.mp hy
      · exact List.mem_cons_self
      · exact List.mem_cons_of_mem x (hrest y hy)

theorem solid_sub (ha : a.value.Whole) (hb : b.value.Whole) :
    Ensures (a.sub b) (·.value.Solid) := by
  rw [sub]
  refine ensures_ifDefined ha hb fun ha hb => ?_
  split
  · rename_i xs ys hx hy
    rw [hx, Value.solid_set] at ha
    exact .map (ensures_without.mono fun left hleft =>
      Value.solid_set.mpr fun x hx => ha x (hleft x hx))
  · exact solid_onNumbers (fun m n => .ok (Value.solid_plain rfl rfl))
      fun x y => .ok (Value.solid_plain rfl rfl)

theorem mem_of_mem_copies {α : Type} {n : Int} {xs : List α} {x : α} (h : x ∈ copies n xs) :
    x ∈ xs := by
  obtain ⟨ys, hys, hx⟩ := List.mem_flatten.mp h
  rwa [(List.mem_replicate.mp hys).2] at hx

theorem solid_repeated (ha : a.value.Solid) (size : Nat) (n : Int) :
    Ensures (repeated a size n) (·.value.Solid) := by
  have hif {c : Prop} [Decidable c] {v : Value} (hv : v.Solid) :
      (if c then a else new v).value.Solid := by
    split
    · exact ha
    · exact hv
  refine .ite (.error _) ?_
  split
  · exact .ite (.error _) (.ite (.error _) (.ok (hif (Value.solid_plain rfl rfl))))
  · exact .ite (.error _) (.ite (.error _) (.ok (hif (Value.solid_plain rfl rfl))))
  · rename_i xs hx
    rw [hx, Value.solid_tuple] at ha
    exact .ite (.error _) (.ok (hif (Value.solid_tuple.mpr fun x h => ha x (mem_of_mem_copies h))))
  · rename_i xs hx
    rw [hx, Value.solid_list] at ha
    exact .ite (.error _) (.ok (Value.solid_list.mpr fun x h => ha x (mem_of_mem_copies h)))
  · exact .ite (.error _) (.ok (Value.solid_plain rfl rfl))
  · exact .ok ha

theorem solid_mul (ha : a.value.Whole) (hb : b.value.Whole) :
    Ensures (a.mul b) (·.value.Solid) := by
  rw [mul]
  refine ensures_ifDefined ha hb fun ha hb => ?_
  split
  · split
    · exact solid_repeated ha _ _
    · exact .error _
  · split
    · exact solid_repeated hb _ _
    · exact .error _
  · exact solid_onNumbers (fun m n => .ok (Value.solid_plain rfl rfl))
      fun x y => .ok (Value.solid_plain rfl rfl)

theorem solid_floorDiv (ha : a.value.Whole) (hb : b.value.Whole) :
    Ensures (a.floorDiv b) (·.value.Solid) := by
  refine ensures_ifDefined ha hb fun ha hb => solid_onNumbers (fun m n => ?_) fun x y => ?_
  · exact .ite (.error _) (.ok (Value.solid_plain rfl rfl))
  · exact .ite (.error _) (.ok (Value.solid_plain rfl rfl))

theorem solid_mod (ha : a.value.Whole) (hb : b.value.Whole) :
    Ensures (a.mod b) (·.value.Solid) := by
  refine ensures_ifDefined ha hb fun ha hb =>
    .ite (.ok ha) (solid_onNumbers (fun m n => ?_) fun x y => ?_)
  · exact .ite (.error _) (.ok (Value.solid_plain rfl rfl))
  · exact .ite (.error _) (.ok (Value.solid_plain rfl rfl))

theorem solid_neg (a : Object) : Ensures a.neg (·.value.Solid) := by
  rw [neg]
  split
  · exact .error _
  · exact .ok (Value.solid_plain rfl rfl)
  · exact .ok (Value.solid_plain rfl rfl)
  · exact .error _

/-! ## Keys and indices -/

theorem asKey_eq_ok {key : Object} (h : a.asKey = .ok key) : key = a := by
  rw [asKey] at h
  split at h <;> cases h
  rfl

theorem mem_of_findEntry {test : Object → Except Fault Bool} {es : List (Object × Object)} :
    Ensures (findEntry test es) fun found => ∀ o, found = some o → ∃ k, (k, o) ∈ es := by
  induction es with
  | nil => exact .ok nofun
  | cons e es ih =>
    obtain ⟨k, v⟩ := e
    rw [findEntry]
    split
    · exact .ok fun o ho => ⟨k, by cases ho; exact List.mem_cons_self⟩
    · refine ih.mono fun found hfound o ho => ?_
      obtain ⟨k', h⟩ := hfound o ho
      exact ⟨k', List.mem_cons_of_mem _ h⟩
    · exact .error _

/-- What is found under a key is solid. -/
theorem solid_lookupKey {es : List (Object × Object)} (hes : Value.EntriesSolid es) (k : Object) :
    Ensures (lookupKey k es) SolidIfFound := by
  refine mem_of_findEntry.mono fun found hfound o ho => ?_
  obtain ⟨k', h⟩ := hfound o ho
  exact (hes _ h).2

theorem solid_insertKey {es : List (Object × Object)} (hes : Value.EntriesSolid es) {k v : Object}
    (hk : k.value.Solid) (hv : v.value.Solid) :
    Ensures (insertKey k v es) Value.EntriesSolid := by
  induction es with
  | nil => exact .ok (by simpa [Value.EntriesSolid] using ⟨hk, hv⟩)
  | cons e es ih =>
    obtain ⟨k', v'⟩ := e
    obtain ⟨he, hes⟩ := List.forall_mem_cons.mp hes
    rw [insertKey]
    split
    · exact .ok (List.forall_mem_cons.mpr ⟨⟨he.1, hv⟩, hes⟩)
    · exact .map ((ih hes).mono fun rest hrest => List.forall_mem_cons.mpr ⟨he, hrest⟩)
    · exact .error _

theorem solid_foldlM_insertKey {entries es : List (Object × Object)}
    (h : Value.EntriesSolid entries) (hes : Value.EntriesSolid es) :
    Ensures (entries.foldlM (fun es e => do insertKey (← e.1.asKey) e.2 es) es)
      Value.EntriesSolid := by
  induction entries generalizing es with
  | nil => exact .ok hes
  | cons e entries ih =>
    obtain ⟨he, hrest⟩ := List.forall_mem_cons.mp h
    rw [List.foldlM_cons]
    refine .bind (P := Value.EntriesSolid) ?_ fun es hes => ih hrest hes
    refine .bind (P := fun key => key = e.1) (fun key hkey => asKey_eq_ok hkey) fun key hkey => ?_
    subst hkey
    exact solid_insertKey hes he.1 he.2

theorem solid_makeDict {entries : List (Object × Object)} (h : Value.EntriesSolid entries) :
    Ensures (makeDict entries) Value.Solid :=
  (solid_foldlM_insertKey h (List.forall_mem_nil _)).bind fun _ hes =>
    .ok (Value.solid_dict.mpr hes)

theorem solid_itemAt {container : String} {counted : Bool} {size : Nat} {get : Nat → Option Object}
    {index : Object} (h : ∀ i, SolidIfFound (get i)) :
    Ensures (itemAt container counted size get index) (·.value.Solid) := by
  rw [itemAt]
  split
  · exact .error _
  · refine .ite (.error _) ?_
    split
    · rename_i item hitem
      obtain ⟨i, -, hi⟩ := Option.bind_eq_some_iff.mp hitem
      exact .ok (h i item hi)
    · exact .error _

/-- The items of a whole value are solid. -/
theorem solid_subscript (ha : a.value.Whole) (index : Object) :
    Ensures (a.subscript index) (·.value.Solid) := by
  rw [subscript]
  have hparts := Value.whole_iff.mp ha
  split
  · rename_i xs hx
    rw [hx] at hparts
    exact .mapError (solid_itemAt fun i o h => hparts o (List.mem_of_getElem? h))
  · rename_i xs hx
    rw [hx] at hparts
    exact .mapError (solid_itemAt fun i o h => hparts o (List.mem_of_getElem? h))
  · exact .mapError (solid_itemAt fun i => solidIfFound_map fun c => Value.solid_plain rfl rfl)
  · exact .mapError (solid_itemAt fun i => solidIfFound_map fun b => Value.solid_plain rfl rfl)
  · exact .mapError (solid_itemAt fun i => solidIfFound_map fun b => Value.solid_plain rfl rfl)
  · exact .mapError (solid_itemAt fun i => solidIfFound_some (Value.solid_plain rfl rfl))
  · rename_i es hes
    rw [hes] at hparts
    rw [valueAt]
    refine .bind (P := SolidIfFound) ?_ fun found hfound => ?_
    · refine .mapError (.bind_any fun key => ?_)
      exact solid_lookupKey (Value.solid_parts_entries.mp hparts) key
    · cases found with
      | some o => exact .ok (hfound o rfl)
      | none => exact .error _
  · exact .ite (.ok (Value.solid_plain rfl rfl)) (.error _)
  · exact .error _
  · exact .error _

end Object

/-! ## Sorting -/

namespace Sorting

variable {P : Object → Prop}

theorem extend_forall {down : Bool} {last : Object} {run xs : List Object}
    (hrun : ∀ o ∈ run, P o) (hxs : ∀ o ∈ xs, P o) :
    Ensures (extend down last run xs) fun r => (∀ o ∈ r.1, P o) ∧ ∀ o ∈ r.2, P o := by
  induction xs generalizing last run with
  | nil => exact .ok ⟨hrun, nofun⟩
  | cons x xs ih =>
    obtain ⟨hx, hrest⟩ := List.forall_mem_cons.mp hxs
    refine .bind_any fun isBefore => .ite ?_ (.ok ⟨hrun, hxs⟩)
    exact ih (List.forall_mem_cons.mpr ⟨hx, hrun⟩) hrest

theorem takeRun_forall {xs : List Object} (h : ∀ o ∈ xs, P o) :
    Ensures (takeRun xs) fun r => (∀ o ∈ r.1, P o) ∧ ∀ o ∈ r.2, P o := by
  match xs with
  | [] => exact .ok ⟨nofun, nofun⟩
  | [x] => exact .ok ⟨h, nofun⟩
  | x :: y :: rest =>
    obtain ⟨hx, hy, hrest⟩ : P x ∧ P y ∧ ∀ o ∈ rest, P o := by simpa using h
    have hpair : ∀ o ∈ [y, x], P o := by simp [hx, hy]
    refine .bind_any fun down => (extend_forall hpair hrest).bind fun ⟨run, rest⟩ hr => .ok ?_
    refine ⟨?_, hr.2⟩
    cases down with
    | true => exact hr.1
    | false => exact fun o ho => hr.1 o (List.mem_reverse.mp ho)

theorem insert_forall {sorted : Array Object} {x : Object} (h : ∀ o ∈ sorted.toList, P o)
    (hx : P x) : Ensures (insert sorted x) fun r => ∀ o ∈ r.toList, P o := by
  -- `x` goes between the first `i` objects and the others
  refine .bind_any fun i => .ok fun o ho => ?_
  rcases List.mem_append.mp ho with ho | ho
  · exact h o (List.mem_of_mem_take ho)
  · obtain rfl | ho := List.mem_cons.mp ho
    · exact hx
    · exact h o (List.mem_of_mem_drop ho)

theorem foldlM_insert_forall {xs : List Object} (hxs : ∀ o ∈ xs, P o) {sorted : Array Object}
    (h : ∀ o ∈ sorted.toList, P o) :
    Ensures (xs.foldlM insert sorted) fun r => ∀ o ∈ r.toList, P o := by
  induction xs generalizing sorted with
  | nil => exact .ok h
  | cons x xs ih =>
    obtain ⟨hx, hxs⟩ := List.forall_mem_cons.mp hxs
    rw [List.foldlM_cons]
    exact (insert_forall h hx).bind fun sorted hsorted => ih hxs hsorted

theorem runs_forall {least fuel : Nat} {xs : List Object} (h : ∀ o ∈ xs, P o) :
    Ensures (runs least fuel xs) fun rs => ∀ run ∈ rs, ∀ o ∈ run, P o := by
  induction fuel generalizing xs with
  | zero => exact .ok nofun
  | succ fuel ih =>
    cases xs with
    | nil => exact .ok nofun
    | cons x xs =>
      rw [runs]
      refine (takeRun_forall h).bind fun ⟨run, rest⟩ ⟨hrun, hrest⟩ => ?_
      refine (foldlM_insert_forall (fun o ho => hrest o (List.mem_of_mem_take ho)) hrun).bind
        fun run hrun => ?_
      refine (ih fun o ho => hrest o (List.mem_of_mem_drop ho)).bind fun rs hrs => .ok ?_
      exact List.forall_mem_cons.mpr ⟨hrun, hrs⟩

theorem merge_forall {done xs ys : List Object} (hdone : ∀ o ∈ done, P o) (hxs : ∀ o ∈ xs, P o)
    (hys : ∀ o ∈ ys, P o) : Ensures (merge done xs ys) fun r => ∀ o ∈ r, P o := by
  fun_induction merge done xs ys with
  | case1 done ys => exact .ok (by simpa [or_imp, forall_and] using ⟨hdone, hys⟩)
  | case2 done xs => exact .ok (by simpa [or_imp, forall_and] using ⟨hdone, hxs⟩)
  | case3 done x xs y ys ihy ihx =>
    obtain ⟨hx, hxs'⟩ := List.forall_mem_cons.mp hxs
    obtain ⟨hy, hys'⟩ := List.forall_mem_cons.mp hys
    refine .bind_any fun isBefore => .ite ?_ ?_
    · exact ihy (List.forall_mem_cons.mpr ⟨hy, hdone⟩) hxs hys'
    · exact ihx (List.forall_mem_cons.mpr ⟨hx, hdone⟩) hxs' hys

theorem mergePairs_forall {rs : List (List Object)} (h : ∀ run ∈ rs, ∀ o ∈ run, P o) :
    Ensures (mergePairs rs) fun rs => ∀ run ∈ rs, ∀ o ∈ run, P o := by
  fun_induction mergePairs rs with
  | case1 xs ys rest ih =>
    obtain ⟨hxs, hys, hrest⟩ :
        (∀ o ∈ xs, P o) ∧ (∀ o ∈ ys, P o) ∧ ∀ run ∈ rest, ∀ o ∈ run, P o := by
      simpa using h
    refine (merge_forall nofun hxs hys).bind fun run hrun => (ih hrest).bind fun rs hrs => .ok ?_
    exact List.forall_mem_cons.mpr ⟨hrun, hrs⟩
  | case2 rest => exact .ok h

theorem mergeAll_forall {fuel : Nat} {rs : List (List Object)} (h : ∀ run ∈ rs, ∀ o ∈ run, P o) :
    Ensures (mergeAll fuel rs) fun r => ∀ o ∈ r, P o := by
  fun_induction mergeAll fuel rs with
  | case1 => exact .ok nofun
  | case2 fuel run => exact .ok (h run List.mem_cons_self)
  | case3 rest =>
    refine .ok fun o ho => ?_
    obtain ⟨run, hrun, ho⟩ := List.mem_flatten.mp ho
    exact h run hrun o ho
  | case4 fuel rest hne hone ih => exact (mergePairs_forall h).bind fun rs hrs => ih rs hrs

/-- Sorting keeps to the objects that it is given. -/
theorem sorted_forall {xs : List Object} (h : ∀ o ∈ xs, P o) :
    Ensures (sorted xs) fun r => ∀ o ∈ r, P o :=
  (runs_forall h).bind fun _ hrs => mergeAll_forall hrs

end Sorting

/-! ## Filling in -/

namespace Filling

/-- A piece that is an object as it was is a text. -/
def Piece.Solid (p : Piece) : Prop :=
  ∀ o, p.whole = some o → o.value.Solid

theorem solid_displayed {p : Place} {o : Object} : Ensures (displayed p o) Piece.Solid := by
  refine .bind_any fun s => .ok fun o' ho => ?_
  obtain ⟨htext, ho⟩ := Option.ite_none_right_eq_some.mp ho
  cases ho
  split at htext
  · rename_i t ht
    exact ht ▸ Value.solid_plain rfl rfl
  · cases htext

/-- Only a place for a text may leave its value as it is. -/
theorem solid_fill {bytes : Bool} {p : Place} {letter : Char} {position : Nat} {o : Object} :
    Ensures (fill bytes p letter position o) Piece.Solid := by
  have hnew (text : List Char) : Piece.Solid ⟨text, none⟩ := nofun
  unfold fill
  split
  case h_13 =>
    refine .ite ?_ ?_
    · exact .bind_any fun s => .ok (hnew s)
    · exact .bind_any fun s => .ok (hnew s)
  case h_16 | h_17 =>
    dsimp only
    split
    · exact solid_displayed
    · exact .ok (hnew _)
    · exact .ok (hnew _)
    · exact .error _
    · exact .error _
  case h_18 => exact .error _
  all_goals exact .bind_any fun s => .ok (hnew _)

theorem solid_fillPlace {bytes : Bool} {named : Option Object} {s : State} :
    Ensures (fillPlace bytes named s) fun r => r.1.Solid := by
  refine .bind_any fun s => ?_
  dsimp only
  refine .bind_any fun r => .bind_any fun r' => ?_
  split
  · exact .error _
  · refine .bind_any fun found => ?_
    obtain ⟨o, s⟩ := found
    exact solid_fill.bind fun piece hpiece => .ite (.ok hpiece) (.error _)

theorem solid_fillAll {bytes : Bool} {named : Option Object} {fuel : Nat} {s : State} :
    Ensures (fillAll bytes named fuel s) fun pieces => ∀ p ∈ pieces, p.Solid := by
  have hnew (text : List Char) : Piece.Solid ⟨text, none⟩ := nofun
  induction fuel generalizing s with
  | zero => exact .ok nofun
  | succ fuel ih =>
    rw [fillAll]
    split
    · exact .ite (.ok nofun) (.error _)
    · exact ih.bind fun ps hps => .ok (List.forall_mem_cons.mpr ⟨hnew _, hps⟩)
    · refine solid_fillPlace.bind fun ⟨piece, s⟩ hpiece => ih.bind fun ps hps => .ok ?_
      exact List.forall_mem_cons.mpr ⟨hpiece, hps⟩
    · exact ih.bind fun ps hps => .ok (List.forall_mem_cons.mpr ⟨hnew _, hps⟩)

/-- A pattern that is filled in is plain data. -/
theorem solid_filled {a : Object} (ha : Object.isPattern a.value = true) (args : Object) :
    Ensures (filled a args) (·.value.Solid) := by
  rw [filled]
  split
  · rename_i s hs
    refine solid_fillAll.bind fun pieces hpieces => ?_
    split
    · rename_i text o
      exact .ok (hpieces _ List.mem_cons_self o rfl)
    · exact .ite (.ok (Value.solid_plain rfl rfl)) (.ok (hs ▸ Value.solid_plain rfl rfl))
  · exact .bind_any fun ps => .ok (Value.solid_plain rfl rfl)
  · exact .bind_any fun ps => .ok (Value.solid_plain rfl rfl)
  · rename_i htext hbytes hbuffer
    cases hv : a.value with
    | text s => exact absurd hv (htext s)
    | bytes bs => exact absurd hv (hbytes bs)
    | buffer bs => exact absurd hv (hbuffer bs)
    | _ => simp [hv, Object.isPattern] at ha

end Filling

/-- What an operation makes of whole operands is solid. -/
theorem Object.solid_operate (op : Operation) {a b : Object} (ha : a.value.Whole)
    (hb : b.value.Whole) : Ensures (a.operate op b) (·.value.Solid) := by
  cases op with
  | add => exact .mapError (solid_add ha hb)
  | sub => exact .mapError (solid_sub ha hb)
  | mul => exact .mapError (solid_mul ha hb)
  | floorDiv => exact .mapError (solid_floorDiv ha hb)
  | mod =>
    rw [operate]
    split
    · rename_i hpattern
      exact Filling.solid_filled hpattern b
    · exact .mapError (solid_mod ha hb)

/-! ## Members -/

namespace Formula

theorem solid_itemsOf {part : String} {whole : Mark} {i : Nat} {vs : List Value}
    (h : ∀ v ∈ vs, v.Solid) : ∀ o ∈ itemsOf part whole i vs, o.value.Solid := by
  induction vs generalizing i with
  | nil => exact nofun
  | cons v vs ih =>
    obtain ⟨hv, hvs⟩ := List.forall_mem_cons.mp h
    exact List.forall_mem_cons.mpr ⟨hv, ih hvs⟩

/-- What a failure was made from is inside it, or plain data. -/
theorem solid_failureArguments {f : Failure} (h : ∀ p ∈ f.parts, p.value.Solid) :
    ∀ v ∈ failureArguments f, v.Solid := by
  rw [Failure.parts] at h
  rw [failureArguments]
  intro v hv
  split at hv
  case h_1 key hcause =>
    obtain rfl := List.mem_singleton.mp hv
    rw [hcause] at h
    exact h key (by simp)
  case h_2 kind message hcause =>
    obtain ⟨m, -, rfl⟩ := List.mem_map.mp hv
    exact Value.solid_plain rfl rfl
  case h_6 =>
    simp only [List.mem_cons, List.not_mem_nil, or_false] at hv
    obtain rfl | rfl | rfl | rfl | rfl := hv <;> exact Value.solid_plain rfl rfl
  case h_7 =>
    obtain rfl := List.mem_singleton.mp hv
    exact Value.solid_plain rfl rfl
  all_goals cases hv

/-- What a failure says about itself is inside it, or plain data. -/
theorem solid_failureMember {whole : Mark} {f : Failure} {name : String} {v : Value}
    (hf : (Value.failure f).Whole) (h : failureMember? whole f name = some v) : v.Solid := by
  have hparts : ∀ p ∈ f.parts, p.value.Solid := Value.whole_iff.mp hf
  unfold failureMember? at h
  split at h
  case h_1 key hcause =>
    cases h
    simpa [Failure.parts, hcause] using hparts
  case h_2 =>
    cases h
    exact Value.solid_tuple.mpr (solid_itemsOf (solid_failureArguments hparts))
  case h_3 =>
    obtain ⟨-, h⟩ := Option.ite_none_right_eq_some.mp h
    cases h
    cases f.code with
    | none => exact Value.solid_plain rfl rfl
    | some code => exact Value.solid_plain rfl rfl
  case h_4 =>
    obtain ⟨-, h⟩ := Option.ite_none_right_eq_some.mp h
    cases h
    cases f.span with
    | none => exact Value.solid_plain rfl rfl
    | some span =>
      have hint (n : Int) : (Value.int n).Solid := Value.solid_plain rfl rfl
      exact Value.solid_tuple.mpr (solid_itemsOf (by simp [hint]))
  case h_5 inner hcause =>
    cases h
    simpa [Failure.parts, hcause, Object.new] using hparts
  case h_10 =>
    cases h
    refine Value.solid_list.mpr (solid_itemsOf fun v hv => ?_)
    obtain ⟨n, -, rfl⟩ := List.mem_map.mp hv
    exact Value.solid_plain rfl rfl
  case h_14 | h_21 =>
    obtain ⟨-, h⟩ := Option.ite_none_right_eq_some.mp h
    cases h
    exact Value.solid_plain rfl rfl
  case h_22 => cases h
  all_goals
    cases h
    exact Value.solid_plain rfl rfl

/-- The parts of numbers and of ranges are numbers. -/
theorem solid_numberPart {v part : Value} {name : String} (h : v.numberPart? name = some part) :
    part.Solid := by
  unfold Value.numberPart? at h
  split at h
  case h_6 | h_7 | h_8 | h_9 =>
    obtain ⟨n, -, rfl⟩ := Option.map_eq_some_iff.mp h
    exact Value.solid_plain rfl rfl
  case h_10 => cases h
  all_goals
    cases h
    exact Value.solid_plain rfl rfl

theorem solid_plainMember {v found : Value} {name : String} (h : v.plainMember? name = some found) :
    found.Solid := by
  rw [Value.plainMember?] at h
  split at h
  · rename_i part hpart
    cases h
    exact solid_numberPart hpart
  · obtain ⟨-, h⟩ := Option.ite_none_right_eq_some.mp h
    cases h
    exact Value.solid_plain rfl rfl

/-- The members of a whole value are solid. -/
theorem solid_member {o : Object} {name : String} {found : Object} (ho : o.value.Whole)
    (h : member? o name = some found) : found.value.Solid := by
  rw [member?, Option.or_eq_some_iff] at h
  rcases h with h | ⟨-, h⟩
  · rw [usefulMember?] at h
    split at h
    case h_1 hv | h_2 hv | h_3 hv | h_4 hv =>
      obtain ⟨m, -, rfl⟩ := Option.map_eq_some_iff.mp h
      exact Value.solid_method.mpr (ho.solid (by rw [hv]; rfl))
    case h_5 f hf =>
      obtain ⟨v, hv, rfl⟩ := Option.map_eq_some_iff.mp h
      exact solid_failureMember (hf ▸ ho) hv
    case h_6 => cases h
  · obtain ⟨v, hv, rfl⟩ := Option.map_eq_some_iff.mp h
    exact solid_plainMember hv

end Formula

end Splice
