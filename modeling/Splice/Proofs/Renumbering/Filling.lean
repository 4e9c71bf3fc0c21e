import Splice.Proofs.Renumbering.Operators

/-!
# Filling in does not depend on numbers

What is written in a place is a text. The one object that can come out of a pattern as it was is a
text that fills its place exactly, and it comes out with its other number.
-/

namespace Splice

open Renumbering

variable (ρ : Renumbering)

namespace Filling

/-- A state of filling in whose values have other numbers. -/
def State.renumber (s : State) : State :=
  { s with values := s.values.map (Object.renumber ρ) }

/-- A piece of a result with other numbers. -/
def Piece.renumber (p : Piece) : Piece :=
  { p with whole := p.whole.map (Object.renumber ρ) }

@[simp] theorem isNamed_renumber (bytes : Bool) (v : Value) :
    isNamed bytes (v.renumber ρ) = isNamed bytes v := by
  cases v <;> rfl

/-! ## Reading a place -/

theorem readFlags_renumber (p : Place) (s : State) :
    readFlags p (s.renumber ρ) = ((readFlags p s).1, (readFlags p s).2.renumber ρ) := by
  have hgo (rest : List Char) (n : Nat) : readFlags.go (s.renumber ρ) p rest n =
      ((readFlags.go s p rest n).1, (readFlags.go s p rest n).2.renumber ρ) := by
    fun_induction readFlags.go s p rest n with
    | case1 p rest n ih => rw [readFlags.go, ih]
    | case2 p rest n ih => rw [readFlags.go, ih]
    | case3 p rest n ih => rw [readFlags.go, ih]
    | case4 p rest n ih => rw [readFlags.go, ih]
    | case5 p rest n ih => rw [readFlags.go, ih]
    | case6 p rest n =>
      rw [readFlags.go]
      · rfl
      all_goals assumption
  exact hgo s.rest s.position

theorem nextValue_renumber (s : State) :
    nextValue (s.renumber ρ) =
      ρ.result (Prod.map (Object.renumber ρ) (State.renumber ρ)) (nextValue s) := by
  obtain ⟨rest, position, values⟩ := s
  cases values <;> rfl

theorem readNumber_renumber (most : Int) (tooBig : PatternFault) (s : State) :
    readNumber most tooBig (s.renumber ρ) =
      ρ.result (Prod.map id (State.renumber ρ)) (readNumber most tooBig s) := by
  have hrest : (s.renumber ρ).rest = s.rest := rfl
  rw [readNumber, readNumber, hrest]
  split <;> rfl

theorem sizeValue_renumber (most : Int) (tooBig : Fault) (s : State) :
    sizeValue most tooBig (s.renumber ρ) =
      ρ.result (Prod.map id (State.renumber ρ)) (sizeValue most tooBig s) := by
  refine bind_eq_result (nextValue_renumber ρ s) fun r => ?_
  simp only [Prod.map, Object.value_renumber, Value.asInt?_renumber]
  cases r.1.value.asInt? with
  | none => rfl
  | some n =>
    simp only
    split <;> rfl

theorem readWidth_renumber (p : Place) (s : State) :
    readWidth p (s.renumber ρ) =
      ρ.result (Prod.map id (State.renumber ρ)) (readWidth p s) := by
  rw [readWidth.eq_def, readWidth.eq_def]
  have hrest : (s.renumber ρ).rest = s.rest := rfl
  rw [hrest]
  split
  · exact bind_eq_result (sizeValue_renumber ρ _ _ (s.skip 1)) fun r => rfl
  · exact bind_eq_result (readNumber_renumber ρ _ _ s) fun r => rfl

theorem readPrecision_renumber (bytes : Bool) (p : Place) (s : State) :
    readPrecision bytes p (s.renumber ρ) =
      ρ.result (Prod.map id (State.renumber ρ)) (readPrecision bytes p s) := by
  rw [readPrecision.eq_def, readPrecision.eq_def]
  have hrest : (s.renumber ρ).rest = s.rest := rfl
  rw [hrest]
  split
  · exact bind_eq_result (sizeValue_renumber ρ _ _ (s.skip 2)) fun r => rfl
  · exact bind_eq_result (readNumber_renumber ρ _ _ (s.skip 1)) fun r => rfl
  · rfl

theorem skipSize_renumber (s : State) : skipSize (s.renumber ρ) = (skipSize s).renumber ρ := by
  obtain ⟨rest, position, values⟩ := s
  cases rest with
  | nil => rfl
  | cons c rest =>
    simp only [skipSize, State.renumber]
    split <;> rfl

/-! ## Laying values out -/

/-- What is made of a whole number is made of the same one. -/
theorem ofWhole_renumber {α : Type} (f : Int → Except Failure α)
    (hf : ∀ n, f n = ρ.result id (f n)) {e e' : PatternFault} (he : e' = e) (v : Value) :
    (match (v.renumber ρ).asInt? with
      | some n => f n
      | none => fail e') =
    ρ.result id (match v.asInt? with
      | some n => f n
      | none => fail e) := by
  rw [Value.asInt?_renumber, he]
  cases v.asInt? with
  | some n => exact hf n
  | none => rfl

theorem decimalOf_renumber (letter : Char) (v : Value) :
    decimalOf letter (v.renumber ρ) = ρ.result id (decimalOf letter v) := by
  have hother := ofWhole_renumber ρ .ok (fun _ => rfl)
    (congrArg (PatternFault.notNumber letter) (v.typeName_renumber ρ)) v
  cases v with
  | real x =>
    simp only [Value.renumber, decimalOf]
    split
    · rfl
    · split <;> rfl
  | undefined why => rfl
  | _ => exact hother

theorem decimal_renumber (p : Place) (letter : Char) (v : Value) :
    decimal p letter (v.renumber ρ) = ρ.result id (decimal p letter v) := by
  refine bind_eq_result (decimalOf_renumber ρ letter v) fun n => ?_
  simp only [id]
  split <;> rfl

theorem based_renumber (p : Place) (letter : Char) (v : Value) :
    based p letter (v.renumber ρ) = ρ.result id (based p letter v) := by
  rw [based, based, Value.asInt?_renumber, Value.typeName_renumber]
  cases v.asInt? <;> rfl

theorem realValue_renumber (bytes : Bool) (v : Value) :
    realValue bytes (v.renumber ρ) = ρ.result id (realValue bytes v) := by
  have hother := ofWhole_renumber ρ (fun n => (Object.realOf n).mapError .ofFault)
    (fun n => by rw [result_mapError, id_map])
    (congrArg (PatternFault.notReal bytes) (v.typeName_renumber ρ)) v
  cases v with
  | real | undefined => rfl
  | _ => exact hother

theorem realText_renumber (bytes : Bool) (p : Place) (letter : Char) (v : Value) :
    realText bytes p letter (v.renumber ρ) = ρ.result id (realText bytes p letter v) :=
  bind_eq_result (realValue_renumber ρ bytes v) fun _ => rfl

theorem character_renumber (p : Place) (v : Value) :
    character p (v.renumber ρ) = ρ.result id (character p v) := by
  have hother := ofWhole_renumber ρ (fun n =>
    if 0 ≤ n && n < 0x110000 then .ok (pad p [Char.ofNat n.toNat]) else fail .noCharacter)
    (fun n => by split <;> rfl) (rfl : PatternFault.notCharacter = _) v
  cases v with
  | text s =>
    simp only [Value.renumber, character]
    split <;> rfl
  | _ => exact hother

theorem byte_renumber (p : Place) (v : Value) : byte p (v.renumber ρ) = ρ.result id (byte p v) := by
  have hother := ofWhole_renumber ρ (fun n =>
    if 0 ≤ n && n < 256 then .ok (pad p [Char.ofNat n.toNat]) else fail .noByte)
    (fun n => by split <;> rfl) (rfl : PatternFault.notByte = _) v
  cases v with
  | bytes bs | buffer bs =>
    simp only [Value.renumber, byte]
    split <;> rfl
  | _ => exact hother

theorem displayed_renumber (p : Place) (o : Object) :
    displayed p (o.renumber ρ) = ρ.result (Piece.renumber ρ) (displayed p o) := by
  have hdisplay := o.value.display_renumber ρ
  rw [← Object.value_renumber] at hdisplay
  refine bind_eq_result hdisplay fun s => ?_
  obtain ⟨v, m⟩ := o
  cases v with
  | text t =>
    cases h : padText p s.toList == t.toList <;>
      simp [Object.renumber, Value.renumber, h] <;> rfl
  | _ => rfl

/-- What is written in a place is a text. -/
theorem ofText_renumber {r r' : Except Failure (List Char)} (h : r' = ρ.result id r) :
    (do return ⟨← r', none⟩ : Except Failure Piece) =
      ρ.result (Piece.renumber ρ) (do return ⟨← r, none⟩) :=
  bind_eq_result h fun _ => rfl

theorem fill_renumber (bytes : Bool) (p : Place) (letter : Char) (position : Nat) (o : Object) :
    fill bytes p letter position (o.renumber ρ) =
      ρ.result (Piece.renumber ρ) (fill bytes p letter position o) := by
  unfold fill
  simp only [Object.value_renumber]
  split
  case h_1 | h_2 | h_3 => exact ofText_renumber ρ (decimal_renumber ρ p _ _)
  case h_4 | h_5 | h_6 => exact ofText_renumber ρ (based_renumber ρ p _ _)
  case h_7 | h_8 | h_9 | h_10 | h_11 | h_12 => exact ofText_renumber ρ (realText_renumber ρ _ p _ _)
  case h_13 =>
    cases bytes with
    | true => exact ofText_renumber ρ (byte_renumber ρ p _)
    | false => exact ofText_renumber ρ (character_renumber ρ p _)
  case h_14 | h_15 =>
    rw [Value.shown_renumber]
    refine bind_eq_result (g := id) ?_ fun _ => rfl
    rw [result_mapError, id_map]
  case h_16 =>
    cases bytes with
    | true =>
      simp only [Value.typeName_renumber]
      cases o.value <;> rfl
    | false => exact displayed_renumber ρ p o
  case h_17 =>
    cases bytes with
    | true =>
      simp only [Value.typeName_renumber]
      cases o.value <;> rfl
    | false => rfl
  case h_18 => rfl

/-! ## Filling in -/

theorem fillPlace_renumber (bytes : Bool) (named : Option Object) (s : State) :
    fillPlace bytes (named.map (Object.renumber ρ)) (s.renumber ρ) =
      ρ.result (Prod.map (Piece.renumber ρ) (State.renumber ρ)) (fillPlace bytes named s) := by
  obtain ⟨rest, position, values⟩ := s
  unfold fillPlace
  refine bind_eq_result (g := State.renumber ρ) ?_ fun s => ?_
  · simp only [State.renumber]
    cases named with
    | none =>
      simp only [Option.map_none]
      split
      · rfl
      · rename_i hnamed
        cases hnamed
      · rfl
    | some o =>
      simp only [Option.map_some]
      split
      · rename_i hnamed
        cases hnamed
      · rename_i hnamed
        cases hnamed
        split
        · rfl
        · refine bind_eq_result ?_ fun found => rfl
          rw [← Object.subscript_renumber]
          congr 1
          split <;> rfl
      · rename_i rest _ _ _ hsome
        -- the text does not go on with a name
        have hparen (rest' : List Char) : rest ≠ '(' :: rest' := fun h => hsome _ _ h rfl
        split
        · exact absurd rfl (hparen _)
        · exact absurd rfl (hparen _)
        · rfl
  · rw [readFlags_renumber]
    refine bind_eq_result (readWidth_renumber ρ _ _) fun r => ?_
    refine bind_eq_result (readPrecision_renumber ρ bytes _ _) fun r => ?_
    simp only [Prod.map, id, skipSize_renumber]
    obtain ⟨rest, position, values⟩ := skipSize r.2
    cases rest with
    | nil => rfl
    | cons letter rest =>
      refine bind_eq_result (nextValue_renumber ρ ⟨letter :: rest, position, values⟩) fun r => ?_
      refine bind_eq_result (fill_renumber ρ bytes _ letter _ _) fun piece => ?_
      split <;> rfl

theorem fillAll_renumber (bytes : Bool) (named : Option Object) (fuel : Nat) (s : State) :
    fillAll bytes (named.map (Object.renumber ρ)) fuel (s.renumber ρ) =
      ρ.result (List.map (Piece.renumber ρ)) (fillAll bytes named fuel s) := by
  induction fuel generalizing s with
  | zero => rfl
  | succ fuel ih =>
    rw [fillAll.eq_def, fillAll.eq_def]
    have hrest : (s.renumber ρ).rest = s.rest := rfl
    simp only [hrest]
    split
    · have hvalues : (s.renumber ρ).values.isEmpty = s.values.isEmpty := List.isEmpty_map
      rw [hvalues, Option.isSome_map]
      split <;> rfl
    · exact bind_eq_result (ih (s.skip 2)) fun ps => rfl
    · refine bind_eq_result (fillPlace_renumber ρ bytes named (s.skip 1)) fun r => ?_
      exact bind_eq_result (ih r.2) fun ps => rfl
    · exact bind_eq_result (ih (s.skip _)) fun ps => rfl

theorem pieces_renumber (bytes : Bool) (pattern : List Char) (args : Object) :
    pieces bytes pattern (args.renumber ρ) =
      ρ.result (List.map (Piece.renumber ρ)) (pieces bytes pattern args) := by
  obtain ⟨v, m⟩ := args
  have hnamed : (if isNamed bytes (v.renumber ρ) then some (Object.renumber ρ ⟨v, m⟩) else none) =
      (if isNamed bytes v then some ⟨v, m⟩ else none).map (Object.renumber ρ) := by
    rw [isNamed_renumber]
    split <;> rfl
  unfold pieces
  simp only [Object.value_renumber]
  rw [hnamed, ← fillAll_renumber]
  congr 1
  cases v <;> simp [State.renumber, Value.renumber, Object.renumber]

/-- A pattern is filled in the same way with objects that have other numbers. -/
theorem filled_renumber (a args : Object) :
    filled (a.renumber ρ) (args.renumber ρ) = ρ.result (Object.renumber ρ) (filled a args) := by
  obtain ⟨v, m⟩ := a
  have htext (ps : List Piece) :
      (ps.map (Piece.renumber ρ)).flatMap Piece.text = ps.flatMap Piece.text := by
    rw [List.flatMap_map]
    rfl
  cases v with
  | text s =>
    refine bind_eq_result (pieces_renumber ρ _ _ _) fun ps => ?_
    have hrest : (if s.toList.contains '%' then
          (pure (.new (.text (String.ofList ((ps.map (Piece.renumber ρ)).flatMap Piece.text)))) :
            Except Failure Object)
        else pure (Object.renumber ρ ⟨.text s, m⟩)) =
        ρ.result (Object.renumber ρ) (if s.toList.contains '%' then
            pure (.new (.text (String.ofList (ps.flatMap Piece.text))))
          else pure ⟨.text s, m⟩) := by
      rw [htext]
      split <;> rfl
    rcases ps with _ | ⟨⟨text, _ | o⟩, _ | ⟨p, ps⟩⟩
    case text.cons.some.nil => rfl
    all_goals exact hrest
  | bytes bs | buffer bs =>
    refine bind_eq_result (pieces_renumber ρ _ _ _) fun ps => ?_
    dsimp only
    rw [htext]
    rfl
  | _ => rfl

end Filling

/-- Operators do the same with objects that have other numbers. -/
theorem Object.operate_renumber (op : Operation) (a b : Object) :
    operate op (a.renumber ρ) (b.renumber ρ) = ρ.result (renumber ρ) (operate op a b) := by
  cases op with
  | add => rw [operate, add_renumber, ← result_mapError, operate]
  | sub => rw [operate, sub_renumber, ← result_mapError, operate]
  | mul => rw [operate, mul_renumber, ← result_mapError, operate]
  | floorDiv => rw [operate, floorDiv_renumber, ← result_mapError, operate]
  | mod =>
    have hpattern : isPattern (a.value.renumber ρ) = isPattern a.value := by cases a.value <;> rfl
    simp only [operate, value_renumber, hpattern]
    split
    · exact Filling.filled_renumber ρ a b
    · rw [mod_renumber, result_mapError]

end Splice
