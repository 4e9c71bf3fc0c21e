import Splice.Formula.Call
import Splice.Proofs.Renumbering.Stores

/-!
# Calls do not depend on numbers

Functions, types, methods and members do the same with objects that have other numbers. Texts,
bytes and numbers are looked into, but there are no numbers of objects in them; collections are gone
through item by item.
-/

namespace Splice.Formula

open Compute Renumbering

variable {ρ : Renumbering}

section

variable {α β : Type} {g : α → β} (complaint : String) (args : List Object)

theorem mirrors_refuse : (refuse complaint : Compute α).Mirrors ρ g (refuse complaint) :=
  mirrors_fail _

/-- As many arguments are given. -/
theorem mirrors_refuse_given :
    (refuse (complaint ++ given args) : Compute α).Mirrors ρ g
      (refuse (complaint ++ given (args.map (Object.renumber ρ)))) := by
  rw [given, given, List.length_map]
  exact mirrors_refuse _

theorem mirrors_refuse_got :
    (refuse (complaint ++ got args) : Compute α).Mirrors ρ g
      (refuse (complaint ++ got (args.map (Object.renumber ρ)))) := by
  rw [got, got, List.length_map]
  exact mirrors_refuse _

end

/-! ## Making values of a type -/

theorem mirrors_wholeArgument (o : Object) :
    (wholeArgument o).Mirrors ρ id (wholeArgument (o.renumber ρ)) := by
  rw [wholeArgument, wholeArgument, Object.value_renumber, Value.asInt?_renumber,
    Value.typeName_renumber]
  cases o.value.asInt? with
  | some n => exact mirrors_pure rfl
  | none => exact mirrors_fail _

theorem mirrors_makeRange (args : List Object) :
    (makeRange args).Mirrors ρ (Value.renumber ρ)
      (makeRange (args.map (Object.renumber ρ))) := by
  rcases args with _ | ⟨a, _ | ⟨b, _ | ⟨c, _ | ⟨d, rest⟩⟩⟩⟩
  · exact mirrors_refuse _
  · exact (mirrors_wholeArgument a).bind fun _ => mirrors_pure rfl
  · exact (mirrors_wholeArgument a).bind fun _ => (mirrors_wholeArgument b).bind fun _ =>
      mirrors_pure rfl
  · refine (mirrors_wholeArgument a).bind fun m => (mirrors_wholeArgument b).bind fun n =>
      (mirrors_wholeArgument c).bind fun step => ?_
    dsimp only [id]
    split
    · exact mirrors_fail _
    · exact mirrors_pure rfl
  · exact mirrors_refuse_got _ (a :: b :: c :: d :: rest)

@[simp] theorem newText_renumber (s : List Char) : (newText s).renumber ρ = newText s := by
  rw [newText.eq_def]
  split
  · exact Object.renumber_ofChar ρ _
  · rfl

theorem mirrors_decodedText (bs : List UInt8) (encoding handler : String) :
    (decodedText bs encoding handler).Mirrors ρ (Object.renumber ρ)
      (decodedText bs encoding handler) := by
  rw [decodedText]
  split
  · exact mirrors_pure rfl
  · split
    · exact mirrors_fail _
    · exact (mirrors_ofFault_same rfl).bind fun s => mirrors_pure (newText_renumber s).symm

theorem mirrors_textArgument (name : String) (o : Object) :
    (textArgument name o).Mirrors ρ id (textArgument name (o.renumber ρ)) := by
  obtain ⟨v, m⟩ := o
  cases v with
  | text s => exact mirrors_pure rfl
  | failure f =>
    simp only [textArgument, Object.renumber, Value.renumber, Value.typeName_failure,
      Failure.kind_renumber]
    exact mirrors_refuse _
  | _ => exact mirrors_refuse _

/-- Only bytes can be decoded, and there are no numbers in them. -/
theorem mirrors_decoding (v : Value) (encoding handler : String) :
    Mirrors ρ (Object.renumber ρ)
      (match v with
        | .bytes bs | .buffer bs => decodedText bs encoding handler
        | .text _ => refuse "decoding str is not supported"
        | v => refuse ("decoding to str: need a bytes-like object, " ++ v.typeName ++ " found"))
      (match v.renumber ρ with
        | .bytes bs | .buffer bs => decodedText bs encoding handler
        | .text _ => refuse "decoding str is not supported"
        | v => refuse ("decoding to str: need a bytes-like object, " ++ v.typeName ++
            " found")) := by
  cases v with
  | bytes bs | buffer bs => exact mirrors_decodedText bs encoding handler
  | failure f =>
    simp only [Value.renumber, Value.typeName_failure, Failure.kind_renumber]
    exact mirrors_refuse _
  | _ => exact mirrors_refuse _

theorem mirrors_makeText (args : List Object) :
    (makeText args).Mirrors ρ (Object.renumber ρ)
      (makeText (args.map (Object.renumber ρ))) := by
  rcases args with _ | ⟨⟨v, m⟩, _ | ⟨encoding, rest⟩⟩
  · exact mirrors_pure rfl
  · have hdisplay := mirrors_ofFailure (Value.display_renumber ρ v)
    cases v with
    | text s => exact mirrors_pure rfl
    | _ => exact hdisplay.bind fun s => mirrors_pure rfl
  · have hlength : (rest.map (Object.renumber ρ)).length = rest.length := List.length_map _
    simp only [List.map_cons, makeText, hlength]
    split
    · exact mirrors_refuse_given _ (⟨v, m⟩ :: encoding :: rest)
    · refine (mirrors_textArgument "encoding" encoding).bind fun encoding => ?_
      cases rest with
      | nil => exact mirrors_decoding v encoding "strict"
      | cons handler rest =>
        exact (mirrors_textArgument "errors" handler).bind fun handler =>
          mirrors_decoding v encoding handler

theorem mirrors_readReal (s : List Char) (shown : String) :
    (readReal s shown).Mirrors ρ (Object.renumber ρ) (readReal s shown) := by
  rw [readReal]
  split
  · exact mirrors_pure rfl
  · exact mirrors_fail _

/-- What is made of a whole number is made of the same one. -/
theorem mirrors_ofWhole {β : Type} {g : β → β} {f : Int → Compute β}
    (hf : ∀ n, (f n).Mirrors ρ g (f n)) {otherwise otherwise' : Compute β}
    (hotherwise : otherwise.Mirrors ρ g otherwise') (v : Value) :
    Mirrors ρ g
      (match v.asInt? with
        | some n => f n
        | none => otherwise)
      (match (v.renumber ρ).asInt? with
        | some n => f n
        | none => otherwise') := by
  rw [Value.asInt?_renumber]
  cases v.asInt? with
  | some n => exact hf n
  | none => exact hotherwise

theorem mirrors_makeReal (args : List Object) :
    (makeReal args).Mirrors ρ (Object.renumber ρ)
      (makeReal (args.map (Object.renumber ρ))) := by
  rcases args with _ | ⟨⟨v, m⟩, _ | ⟨b, rest⟩⟩
  · exact mirrors_pure rfl
  · have hreal (n : Int) : Mirrors ρ (Object.renumber ρ)
        (do return .new (.real (← Compute.ofFault (Object.realOf n))))
        (do return .new (.real (← Compute.ofFault (Object.realOf n)))) :=
      (mirrors_ofFault_same rfl).bind fun _ => mirrors_pure rfl
    have hnone : (Compute.fail (.notNumeric v.typeName)).Mirrors ρ (Object.renumber ρ)
        (Compute.fail (.notNumeric (v.renumber ρ).typeName)) := by
      rw [Value.typeName_renumber]
      exact mirrors_fail _
    have hother := mirrors_ofWhole hreal hnone v
    cases v with
    | real x => exact mirrors_pure rfl
    | text s => exact mirrors_readReal _ _
    | bytes bs | buffer bs => exact mirrors_readReal _ _
    | undefined why => exact mirrors_fail _
    | _ => exact hother
  · exact mirrors_refuse_got _ (⟨v, m⟩ :: b :: rest)

theorem mirrors_readWhole (base : Nat) (s : List Char) (shown : String) :
    (readWhole base s shown).Mirrors ρ (Object.renumber ρ) (readWhole base s shown) := by
  rw [readWhole]
  split
  split
  · exact mirrors_fail _
  · split
    · exact mirrors_throw rfl
    · exact mirrors_pure rfl

theorem mirrors_makeWhole (args : List Object) :
    (makeWhole args).Mirrors ρ (Object.renumber ρ)
      (makeWhole (args.map (Object.renumber ρ))) := by
  rcases args with _ | ⟨⟨v, m⟩, _ | ⟨base, _ | ⟨c, rest⟩⟩⟩
  · exact mirrors_pure rfl
  · have hnone : Mirrors ρ (Object.renumber ρ)
        (refuse ("int() argument must be a string, a bytes-like object or a real number, not '" ++
          v.typeName ++ "'"))
        (refuse ("int() argument must be a string, a bytes-like object or a real number, not '" ++
          (v.renumber ρ).typeName ++ "'")) := by
      rw [Value.typeName_renumber]
      exact mirrors_refuse _
    have hother := mirrors_ofWhole (f := fun n => pure (.new (.int n)))
      (fun n => mirrors_pure rfl) hnone v
    cases v with
    | int n => exact mirrors_pure rfl
    | text s => exact mirrors_readWhole _ _ _
    | bytes bs | buffer bs => exact mirrors_readWhole _ _ _
    | real x =>
      simp only [makeWhole, List.map_cons, List.map_nil, Object.renumber, Value.renumber]
      split
      · exact mirrors_fail _
      · split
        · exact mirrors_fail _
        · exact mirrors_pure rfl
    | undefined why => exact mirrors_fail _
    | _ => exact hother
  · refine (mirrors_wholeArgument base).bind fun base => ?_
    dsimp only [id]
    split
    · exact mirrors_fail _
    · cases v with
      | text s => exact mirrors_readWhole _ _ _
      | bytes bs | buffer bs => exact mirrors_readWhole _ _ _
      | _ => exact mirrors_refuse _
  · exact mirrors_refuse_given _ (⟨v, m⟩ :: base :: c :: rest)

theorem mirrors_makeOfOne (type : String) {none : Compute Object}
    {some some' : Object → Compute Object} (hnone : none.Mirrors ρ (Object.renumber ρ) none)
    (hsome : ∀ o, (some o).Mirrors ρ (Object.renumber ρ) (some' (o.renumber ρ)))
    (args : List Object) :
    (makeOfOne type none some args).Mirrors ρ (Object.renumber ρ)
      (makeOfOne type none some' (args.map (Object.renumber ρ))) := by
  rcases args with _ | ⟨a, _ | ⟨b, rest⟩⟩
  · exact hnone
  · exact hsome a
  · exact mirrors_refuse_got _ (a :: b :: rest)

section

variable {draw : Nat → Compute (Option Object)} (hdraw : DrawsAlike ρ draw)
include hdraw

theorem mirrors_entryOf (i : Nat) (pair : Object) :
    (entryOf draw i pair).Mirrors ρ (Object.renumberEntry ρ)
      (entryOf draw i (pair.renumber ρ)) := by
  simp only [entryOf, Object.value_renumber, Value.isIterable_renumber, Value.items?_renumber,
    Option.isSome_map]
  split
  · exact mirrors_fail _
  · refine (mirrors_collect hdraw pair.value).bind fun parts => ?_
    rcases parts with _ | ⟨k, _ | ⟨v, _ | ⟨c, rest⟩⟩⟩
    · exact mirrors_fail _
    · exact mirrors_fail _
    · exact mirrors_pure rfl
    · simp only [List.map_cons, List.length_cons, List.length_map]
      exact mirrors_fail _

theorem mirrors_entriesOf (i : Nat) (os : List Object) :
    (entriesOf draw i os).Mirrors ρ (List.map (Object.renumberEntry ρ))
      (entriesOf draw i (os.map (Object.renumber ρ))) := by
  induction os generalizing i with
  | nil => exact mirrors_pure rfl
  | cons o os ih =>
    exact (mirrors_entryOf hdraw i o).bind fun e => (ih (i + 1)).bind fun es => mirrors_pure rfl

theorem mirrors_makeDictionary (o : Object) :
    (makeDictionary draw o).Mirrors ρ (Object.renumber ρ)
      (makeDictionary draw (o.renumber ρ)) := by
  obtain ⟨v, m⟩ := o
  have hother : Mirrors ρ (Object.renumber ρ)
      (do dict (← entriesOf draw 0 (← collect draw v)))
      (do dict (← entriesOf draw 0 (← collect draw (v.renumber ρ)))) :=
    (mirrors_collect hdraw v).bind fun os =>
      (mirrors_entriesOf hdraw 0 os).bind fun es => mirrors_dict ρ es
  cases v with
  | dict es => exact mirrors_pure (by simp [Value.renumber])
  | _ => exact hother

/-- A type makes the same of objects with other numbers. -/
theorem mirrors_callType (type : String) (args : List Object) :
    (callType draw type args).Mirrors ρ (Object.renumber ρ)
      (callType draw type (args.map (Object.renumber ρ))) := by
  unfold callType
  split
  · exact (mirrors_makeRange args).bind fun v => mirrors_pure rfl
  · exact mirrors_makeText args
  · exact mirrors_makeReal args
  · exact mirrors_makeWhole args
  · refine mirrors_makeOfOne _ (mirrors_pure rfl) (fun o => ?_) args
    rw [Object.value_renumber, Value.truth_renumber]
    exact (mirrors_ofFault_same rfl).bind fun _ => mirrors_pure rfl
  · refine mirrors_makeOfOne _ (mirrors_pure rfl) (fun o => ?_) args
    rw [Object.value_renumber]
    exact (mirrors_collect hdraw o.value).bind fun os => mirrors_list ρ os
  · refine mirrors_makeOfOne _ (mirrors_pure rfl) (fun o => ?_) args
    obtain ⟨v, m⟩ := o
    have hother := (mirrors_collect hdraw v).bind fun os => mirrors_tuple ρ os
    cases v with
    | tuple items => exact mirrors_pure rfl
    | _ => exact hother
  · exact mirrors_makeOfOne _ (mirrors_pure rfl) (mirrors_makeDictionary hdraw) args
  · refine mirrors_makeOfOne _ (mirrors_pure rfl) (fun o => ?_) args
    rw [Object.value_renumber]
    exact (mirrors_distinct hdraw o.value).bind fun os => mirrors_pure (by simp [Value.renumber])
  · rcases args with _ | ⟨a, _ | ⟨b, rest⟩⟩
    · exact mirrors_refuse _
    · exact mirrors_pure (by simp [Value.renumber])
    · exact mirrors_refuse _
  · rw [List.isEmpty_map]
    split
    · exact mirrors_pure rfl
    · exact mirrors_refuse _
  case h_18 => exact mirrors_fail _
  all_goals exact mirrors_refuse _

/-! ## Functions -/

omit hdraw in
theorem unsummable?_renumber (v : Value) : unsummable? (v.renumber ρ) = unsummable? v := by
  cases v <;> rfl

theorem mirrors_sumOf (v : Value) (start : Object) :
    (sumOf draw v start).Mirrors ρ (Object.renumber ρ)
      (sumOf draw (v.renumber ρ) (start.renumber ρ)) := by
  refine (mirrors_sourceOf ρ v).bind fun source => ?_
  rw [Object.value_renumber, unsummable?_renumber]
  cases unsummable? start.value with
  | some complaint => exact mirrors_refuse _
  | none =>
    refine mirrors_fold hdraw (fun total x => ?_) source start
    exact (mirrors_ofFault (Object.add_renumber ρ total x)).bind fun _ => mirrors_pure rfl

theorem mirrors_callBuiltin (f : Builtin) (args : List Object) :
    (callBuiltin draw f args).Mirrors ρ (Object.renumber ρ)
      (callBuiltin draw f (args.map (Object.renumber ρ))) := by
  cases f with
  | len =>
    rcases args with _ | ⟨a, _ | ⟨b, rest⟩⟩
    · exact mirrors_refuse _
    · simp only [callBuiltin, List.map_cons, List.map_nil, Object.value_renumber,
        Object.length_renumber]
      exact (mirrors_ofFault_same rfl).bind fun _ => mirrors_pure rfl
    · exact mirrors_refuse_given _ (a :: b :: rest)
  | sum =>
    rcases args with _ | ⟨a, _ | ⟨b, _ | ⟨c, rest⟩⟩⟩
    · exact mirrors_refuse _
    · simp only [callBuiltin, List.map_cons, List.map_nil, Object.value_renumber]
      exact mirrors_sumOf hdraw a.value (.new (.int 0))
    · simp only [callBuiltin, List.map_cons, List.map_nil, Object.value_renumber]
      exact mirrors_sumOf hdraw a.value b
    · exact mirrors_refuse_given _ (a :: b :: c :: rest)
  | sorted =>
    rcases args with _ | ⟨a, _ | ⟨b, rest⟩⟩
    · exact mirrors_refuse_got _ []
    · simp only [callBuiltin, List.map_cons, List.map_nil, Object.value_renumber]
      exact (mirrors_collect hdraw a.value).bind fun items =>
        (mirrors_ofFault (Sorting.sorted_renumber ρ items)).bind fun os => mirrors_list ρ os
    · exact mirrors_refuse_got _ (a :: b :: rest)
  | shortRange => exact (mirrors_makeRange args).bind fun v => mirrors_pure rfl

/-! ## Methods -/

theorem mirrors_itemsToJoin (v : Value) :
    (itemsToJoin draw v).Mirrors ρ (List.map (Object.renumber ρ))
      (itemsToJoin draw (v.renumber ρ)) := by
  rw [itemsToJoin, itemsToJoin, Value.isIterable_renumber, Value.items?_renumber,
    Option.isNone_map]
  split
  · exact mirrors_fail _
  · exact mirrors_collect hdraw v

omit hdraw in
theorem textItems_renumber (i : Nat) (os : List Object) :
    textItems i (os.map (Object.renumber ρ)) = textItems i os := by
  induction os generalizing i with
  | nil => rfl
  | cons o os ih =>
    obtain ⟨v, m⟩ := o
    cases v with
    | failure f => simp [textItems, Object.renumber, Value.renumber, Value.typeName_failure]
    | text s => simp [textItems, Object.renumber, Value.renumber, ih]
    | _ => rfl

omit hdraw in
theorem byteItems_renumber (i : Nat) (os : List Object) :
    byteItems i (os.map (Object.renumber ρ)) = byteItems i os := by
  induction os generalizing i with
  | nil => rfl
  | cons o os ih =>
    obtain ⟨v, m⟩ := o
    cases v with
    | failure f => simp [byteItems, Object.renumber, Value.renumber, Value.typeName_failure]
    | bytes bs | buffer bs => simp [byteItems, Object.renumber, Value.renumber, ih]
    | _ => rfl

theorem mirrors_joinItems (separator : String) (v : Value) :
    (joinItems draw separator v).Mirrors ρ (Object.renumber ρ)
      (joinItems draw separator (v.renumber ρ)) := by
  refine (mirrors_itemsToJoin hdraw v).bind fun items => ?_
  refine (mirrors_ofFault_same (textItems_renumber 0 items)).bind fun parts => ?_
  rcases items with _ | ⟨a, _ | ⟨b, rest⟩⟩
  · exact mirrors_pure rfl
  · exact mirrors_pure rfl
  · exact mirrors_pure rfl

omit hdraw in
@[simp] theorem stripped_renumber (self : Object) (s : String) (drop : List Char → List Char) :
    (stripped self s drop).renumber ρ = stripped (self.renumber ρ) s drop := by
  simp only [stripped, apply_ite (Object.renumber ρ), newText_renumber]

omit hdraw in
theorem mirrors_strip (self : Object) (s : String) (args : List Object) :
    (strip self s args).Mirrors ρ (Object.renumber ρ)
      (strip (self.renumber ρ) s (args.map (Object.renumber ρ))) := by
  rcases args with _ | ⟨⟨v, m⟩, _ | ⟨b, rest⟩⟩
  · exact mirrors_pure (stripped_renumber self s _).symm
  · cases v with
    | null | text => exact mirrors_pure (stripped_renumber self s _).symm
    | _ => exact mirrors_refuse _
  · exact mirrors_refuse_got _ (⟨v, m⟩ :: b :: rest)

theorem mirrors_callText (self : Object) (s : String) (m : Method) (args : List Object) :
    (callText draw self s m args).Mirrors ρ (Object.renumber ρ)
      (callText draw (self.renumber ρ) s m (args.map (Object.renumber ρ))) := by
  cases m with
  | upper | lower =>
    cases args with
    | nil => exact mirrors_pure rfl
    | cons a rest => exact mirrors_refuse_given _ (a :: rest)
  | strip => exact mirrors_strip self s args
  | join =>
    rcases args with _ | ⟨a, _ | ⟨b, rest⟩⟩
    · exact mirrors_refuse_given _ []
    · simp only [callText, List.map_cons, List.map_nil, Object.value_renumber]
      exact mirrors_joinItems hdraw s a.value
    · exact mirrors_refuse_given _ (a :: b :: rest)
  | part | get => exact mirrors_refuse_given _ args

theorem mirrors_callBytes (self : Object) {rebuild : List UInt8 → Value}
    (hrebuild : ∀ bs, (rebuild bs).renumber ρ = rebuild bs) (bs : List UInt8) (m : Method)
    (args : List Object) :
    (callBytes draw self rebuild bs m args).Mirrors ρ (Object.renumber ρ)
      (callBytes draw (self.renumber ρ) rebuild bs m (args.map (Object.renumber ρ))) := by
  have hstrip {c : Prop} [Decidable c] (kept : List UInt8) :
      (if c then self.renumber ρ else .new (rebuild kept)) =
        (if c then self else .new (rebuild kept)).renumber ρ := by
    rw [apply_ite (Object.renumber ρ), Object.renumber_new, hrebuild]
  have hnew (bs : List UInt8) : Object.new (rebuild bs) = (Object.new (rebuild bs)).renumber ρ := by
    rw [Object.renumber_new, hrebuild]
  unfold callBytes
  simp only [Object.value_renumber, Value.typeName_renumber]
  cases m with
  | upper | lower =>
    cases args with
    | nil => exact mirrors_pure (hnew _)
    | cons a rest => exact mirrors_refuse_given _ (a :: rest)
  | strip =>
    rcases args with _ | ⟨⟨v, m⟩, _ | ⟨b, rest⟩⟩
    · exact mirrors_pure (hstrip _)
    · cases v with
      | null | bytes | buffer => exact mirrors_pure (hstrip _)
      | failure f =>
        simp only [List.map_cons, List.map_nil, Object.renumber, Value.renumber,
          Value.typeName_failure, Failure.kind_renumber]
        exact mirrors_fail _
      | _ => exact mirrors_fail _
    · exact mirrors_refuse_got _ (⟨v, m⟩ :: b :: rest)
  | join =>
    rcases args with _ | ⟨a, _ | ⟨b, rest⟩⟩
    · exact mirrors_refuse_given _ []
    · simp only [List.map_cons, List.map_nil, Object.value_renumber]
      refine (mirrors_itemsToJoin hdraw a.value).bind fun items => ?_
      refine (mirrors_ofFault_same (byteItems_renumber 0 items)).bind fun parts => ?_
      have hnew := hnew (joinBytes bs parts)
      cases self.value.typeName == "bytes" with
      | false => exact mirrors_pure hnew
      | true =>
        rcases items with _ | ⟨⟨v, m⟩, _ | ⟨b, rest⟩⟩
        · exact mirrors_pure hnew
        · cases v with
          | bytes one => exact mirrors_pure rfl
          | _ => exact mirrors_pure hnew
        · cases v <;> exact mirrors_pure hnew
    · exact mirrors_refuse_given _ (a :: b :: rest)
  | part | get => exact mirrors_refuse_given _ args

omit hdraw in
theorem mirrors_callDict (entries : List (Object × Object)) (m : Method) (args : List Object) :
    (callDict entries m args).Mirrors ρ (Object.renumber ρ)
      (callDict (entries.map (Object.renumberEntry ρ)) m (args.map (Object.renumber ρ))) := by
  have hlookup (key : Object) :
      (do (← (key.renumber ρ).asKey).lookupKey (entries.map (Object.renumberEntry ρ))) =
        Option.map (Object.renumber ρ) <$> (do (← key.asKey).lookupKey entries) :=
    bind_eq_map (Object.asKey_renumber ρ key) fun key => Object.lookupKey_renumber ρ key entries
  cases m with
  | part p =>
    cases args with
    | nil => exact mirrors_pure (by simp [Value.renumber])
    | cons a rest => exact mirrors_refuse_given _ (a :: rest)
  | get =>
    rcases args with _ | ⟨key, _ | ⟨otherwise, _ | ⟨c, rest⟩⟩⟩
    · exact mirrors_refuse_got _ []
    · refine (mirrors_ofFault (hlookup key)).bind fun found => mirrors_pure ?_
      cases found <;> rfl
    · refine (mirrors_ofFault (hlookup key)).bind fun found => mirrors_pure ?_
      cases found <;> rfl
    · exact mirrors_refuse_got _ (key :: otherwise :: c :: rest)
  | upper | lower | strip | join => exact mirrors_refuse_given _ args

theorem mirrors_callMethod (receiver : Object) (m : Method) (args : List Object) :
    (callMethod draw receiver m args).Mirrors ρ (Object.renumber ρ)
      (callMethod draw (receiver.renumber ρ) m (args.map (Object.renumber ρ))) := by
  obtain ⟨v, mark⟩ := receiver
  cases v with
  | text s => exact mirrors_callText hdraw ⟨.text s, mark⟩ s m args
  | bytes bs => exact mirrors_callBytes hdraw ⟨.bytes bs, mark⟩ (fun _ => rfl) bs m args
  | buffer bs => exact mirrors_callBytes hdraw ⟨.buffer bs, mark⟩ (fun _ => rfl) bs m args
  | dict es =>
    simp only [callMethod, Object.renumber, Value.renumber, Object.renumberEntries_eq]
    exact mirrors_callDict es m args
  | failure f =>
    simp only [callMethod, Object.renumber, Value.renumber, Value.typeName_failure,
      Failure.kind_renumber]
    exact mirrors_fail _
  | _ => exact mirrors_fail _

/-- A call does the same with objects that have other numbers. -/
theorem mirrors_call (f : Object) (args : List Object) :
    (call draw f args).Mirrors ρ (Object.renumber ρ)
      (call draw (f.renumber ρ) (args.map (Object.renumber ρ))) := by
  obtain ⟨v, mark⟩ := f
  cases v with
  | type t => exact mirrors_callType hdraw t args
  | builtin b => exact mirrors_callBuiltin hdraw b args
  | method receiver m => exact mirrors_callMethod hdraw receiver m args
  | failure f =>
    simp only [call, Object.renumber, Value.renumber, Value.typeName_failure,
      Failure.kind_renumber]
    exact mirrors_fail _
  | _ => exact mirrors_fail _

end

/-! ## Members -/

theorem itemsOf_renumber (part : String) (whole : Mark) (i : Nat) (vs : List Value) :
    (itemsOf part whole i vs).map (Object.renumber ρ) =
      itemsOf part (whole.renumber ρ) i (vs.map (Value.renumber ρ)) := by
  induction vs generalizing i with
  | nil => rfl
  | cons v vs ih =>
    simp only [itemsOf, List.map_cons, ih]
    rfl

theorem spanValue_renumber (whole : Mark) (span : Option Span) :
    (spanValue whole span).renumber ρ = spanValue (whole.renumber ρ) span := by
  cases span with
  | none => rfl
  | some s => simp [spanValue, Value.renumber, itemsOf_renumber]

theorem failureArguments_renumber (f : Failure) :
    failureArguments (f.renumber ρ) = (failureArguments f).map (Value.renumber ρ) := by
  obtain ⟨cause, span, code, notes⟩ := f
  cases cause with
  | missingKey key => simp [failureArguments, Failure.renumber, Cause.renumber]
  | raised kind message => cases message <;> rfl
  | fault fault => cases fault <;> rfl
  | malformed what => cases what <;> rfl
  | evaluation code inner =>
    exact congrArg (fun s => [Value.text s]) (Cause.words_renumber ρ (.evaluation code inner))
  | fallback expr code inner =>
    exact congrArg (fun s => [Value.text s]) (Cause.words_renumber ρ (.fallback expr code inner))
  | _ => rfl

theorem failureMember?_renumber (whole : Mark) (f : Failure) (name : String) :
    failureMember? (whole.renumber ρ) (f.renumber ρ) name =
      (failureMember? whole f name).map (Value.renumber ρ) := by
  have hcode : Value.renumber ρ ((f.code.map .text).getD .null) =
      (f.code.map .text).getD .null := by
    cases f.code <;> rfl
  unfold failureMember?
  rw [failureArguments_renumber, Failure.text_renumber, Failure.kind_renumber,
    Failure.code_renumber, Failure.span_renumber, Failure.cause_renumber]
  -- for every cause, the name decides which member is meant
  cases f.cause
  all_goals
    simp only [Cause.renumber]
    split
    all_goals first
      | rfl
      | simp_all [Value.renumber, itemsOf_renumber, spanValue_renumber, Function.comp_def,
          apply_ite (Option.map (Value.renumber ρ))]

theorem usefulMember?_renumber (o : Object) (name : String) :
    usefulMember? (o.renumber ρ) name = (usefulMember? o name).map (Object.renumber ρ) := by
  obtain ⟨v, m⟩ := o
  cases v with
  | text | bytes | buffer | dict | failure =>
    simp only [usefulMember?, Object.renumber, Value.renumber, Option.map_map,
      failureMember?_renumber]
    rfl
  | _ => rfl

/-- The parts of numbers and ranges are numbers. -/
theorem numberPart?_renumber (v : Value) (name : String) :
    (v.renumber ρ).numberPart? name = (v.numberPart? name).map (Value.renumber ρ) := by
  -- what is found does not hold anything, so it is enough that the same is found
  have hplain : (v.numberPart? name).map (Value.renumber ρ) = v.numberPart? name := by
    unfold Value.numberPart?
    split
    all_goals first
      | rfl
      | (rw [Option.map_map]; rfl)
  rw [hplain]
  cases v with
  | list | tuple | set | dict | view | stream | mute | failure | method =>
    unfold Value.numberPart?
    split <;> simp_all [Value.renumber, Value.asInt?]
  | _ => rfl

@[simp] theorem methodNames_renumber (v : Value) :
    (v.renumber ρ).methodNames = v.methodNames := by
  cases v with
  | view p es => cases p <;> rfl
  | stream kind id => cases kind <;> rfl
  | _ => rfl

theorem plainMember?_renumber (v : Value) (name : String) :
    (v.renumber ρ).plainMember? name = (v.plainMember? name).map (Value.renumber ρ) := by
  rw [Value.plainMember?, Value.plainMember?, numberPart?_renumber, methodNames_renumber,
    Value.typeName_renumber]
  cases v.numberPart? name with
  | some part => rfl
  | none =>
    simp only [Option.map_none, apply_ite (Option.map (Value.renumber ρ))]
    rfl

theorem member?_renumber (o : Object) (name : String) :
    member? (o.renumber ρ) name = (member? o name).map (Object.renumber ρ) := by
  rw [member?, member?, usefulMember?_renumber, Object.value_renumber, plainMember?_renumber,
    Option.map_or, Option.map_map, Option.map_map]
  congr 2
  funext v
  exact (Object.renumber_part ρ o name v).symm

/-- Everything but a type has its class and the members of its own. -/
theorem mirrors_ownMember (o : Object) (name : String) :
    Mirrors ρ (Object.renumber ρ)
      (if name == "__class__" then return .new (.type o.value.qualifiedTypeName)
        else
          match member? o name with
          | some found => return found
          | none => Compute.fail (.noAttribute o.value.typeName name))
      (if name == "__class__" then return .new (.type (o.value.renumber ρ).qualifiedTypeName)
        else
          match member? (o.renumber ρ) name with
          | some found => return found
          | none => Compute.fail (.noAttribute (o.value.renumber ρ).typeName name)) := by
  rw [Value.qualifiedTypeName_renumber, Value.typeName_renumber, member?_renumber]
  split
  · exact mirrors_pure rfl
  · cases member? o name with
    | some found => exact mirrors_pure rfl
    | none => exact mirrors_fail _

/-- A member is found in an object with other numbers if it is found without them. -/
theorem mirrors_memberOf (o : Object) (name : String) :
    (memberOf o name).Mirrors ρ (Object.renumber ρ) (memberOf (o.renumber ρ) name) := by
  refine (mirrors_held ρ o).bind fun o => ?_
  have hother := mirrors_ownMember (ρ := ρ) o name
  obtain ⟨v, m⟩ := o
  cases v with
  | undefined why => exact mirrors_fail _
  | type n =>
    simp only [Object.renumber, Value.renumber]
    split
    · exact mirrors_pure rfl
    · split
      · exact mirrors_pure rfl
      · exact mirrors_fail _
  | _ => exact hother

end Splice.Formula
