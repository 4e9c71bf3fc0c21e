import Splice.Proofs.Renumbering.Values
import Splice.Value.Display

/-!
# Numbers do not show
-/

namespace Splice

open Renumbering

variable (ρ : Renumbering)

mutual

/-- Numbers do not show. -/
@[simp] theorem Value.quoted_renumber (v : Value) : (v.renumber ρ).quoted = v.quoted := by
  cases v with
  | list xs => simp [Value.renumber, Value.quoted, Value.quotedAll_renumber xs]
  | tuple xs => simp [Value.renumber, Value.quoted, Value.quotedAll_renumber xs]
  | set xs => simp [Value.renumber, Value.quoted, Value.quotedAll_renumber xs]
  | dict es => simp [Value.renumber, Value.quoted, Value.quotedEntries_renumber es]
  | view p es => simp [Value.renumber, Value.quoted, Value.quotedParts_renumber p es]
  | failure f =>
    obtain ⟨c, span, code, notes⟩ := f
    simp [Value.renumber, Failure.renumber, Value.quoted, Cause.quotedArguments_renumber c]
  | method receiver m =>
    have htype := receiver.value.typeName_renumber ρ
    rw [← Object.value_renumber] at htype
    unfold Value.renumber Value.quoted Value.methodText
    rw [htype]
  | _ => rfl
termination_by structural v

theorem Value.quotedAll_renumber (xs : List Object) :
    Value.quotedAll (xs.map (Object.renumber ρ)) = Value.quotedAll xs := by
  rcases xs with _ | ⟨⟨v, m⟩, xs⟩
  · rfl
  · simp only [List.map_cons, Object.renumber, Value.quotedAll]
    rw [Value.quoted_renumber v, Value.quotedAll_renumber xs]
termination_by structural xs

theorem Value.quotedEntries_renumber (es : List (Object × Object)) :
    Value.quotedEntries (es.map (Object.renumberEntry ρ)) = Value.quotedEntries es := by
  rcases es with _ | ⟨⟨⟨k, m⟩, ⟨v, n⟩⟩, es⟩
  · rfl
  · simp only [List.map_cons, Object.renumberEntry, Object.renumber, Value.quotedEntries]
    rw [Value.quoted_renumber k, Value.quoted_renumber v, Value.quotedEntries_renumber es]
termination_by structural es

theorem Value.quotedParts_renumber (p : DictPart) (es : List (Object × Object)) :
    Value.quotedParts p (es.map (Object.renumberEntry ρ)) = Value.quotedParts p es := by
  rcases es with _ | ⟨⟨⟨k, m⟩, ⟨v, n⟩⟩, es⟩
  · rfl
  · simp only [List.map_cons, Object.renumberEntry, Object.renumber, Value.quotedParts]
    rw [Value.quoted_renumber k, Value.quoted_renumber v, Value.quotedParts_renumber p es]
termination_by structural es

theorem Cause.quotedArguments_renumber (c : Cause) :
    (c.renumber ρ).quotedArguments = c.quotedArguments := by
  cases c with
  | missingKey key =>
    obtain ⟨k, m⟩ := key
    simp [Cause.renumber, Object.renumber, Cause.quotedArguments, Value.quoted_renumber k]
  | evaluation code inner =>
    simp [Cause.renumber, Cause.quotedArguments, Failure.text_renumber inner]
  | fallback expr code inner =>
    simp [Cause.renumber, Cause.quotedArguments, Failure.text_renumber inner]
  | malformed w => cases w <;> rfl
  | _ => rfl
termination_by structural c

theorem Cause.words_renumber (c : Cause) : (c.renumber ρ).words = c.words := by
  cases c with
  | missingKey key =>
    obtain ⟨k, m⟩ := key
    simp [Cause.renumber, Object.renumber, Cause.words, Value.quoted_renumber k]
  | evaluation code inner => simp [Cause.renumber, Cause.words, Failure.text_renumber inner]
  | fallback expr code inner => simp [Cause.renumber, Cause.words, Failure.text_renumber inner]
  | _ => rfl
termination_by structural c

@[simp] theorem Failure.text_renumber (f : Failure) : (f.renumber ρ).text = f.text := by
  obtain ⟨c, span, code, notes⟩ := f
  simp [Failure.renumber, Failure.text, Cause.words_renumber c]
termination_by structural f

end

attribute [simp] Cause.words_renumber

mutual

theorem Cause.isReported_renumber (c : Cause) : (c.renumber ρ).isReported = c.isReported := by
  cases c with
  | evaluation code inner =>
    simp [Cause.renumber, Cause.isReported, Failure.isReported_renumber inner]
  | fallback expr code inner =>
    simp [Cause.renumber, Cause.isReported, Failure.isReported_renumber inner]
  | _ => rfl
termination_by structural c

@[simp] theorem Failure.isReported_renumber (f : Failure) :
    (f.renumber ρ).isReported = f.isReported := by
  obtain ⟨c, span, code, notes⟩ := f
  simp [Failure.renumber, Failure.isReported, Cause.isReported_renumber c]
termination_by structural f

end

@[simp] theorem Failure.message_renumber (f : Failure) : (f.renumber ρ).message = f.message := by
  simp [message]

mutual

@[simp] theorem Value.isWritable_renumber (v : Value) :
    (v.renumber ρ).isWritable = v.isWritable := by
  cases v with
  | list xs => simp [Value.renumber, Value.isWritable, Value.allWritable_renumber xs]
  | tuple xs => simp [Value.renumber, Value.isWritable, Value.allWritable_renumber xs]
  | set xs => simp [Value.renumber, Value.isWritable, Value.allWritable_renumber xs]
  | dict es => simp [Value.renumber, Value.isWritable, Value.entriesWritable_renumber es]
  | view p es => simp [Value.renumber, Value.isWritable, Value.entriesWritable_renumber es]
  | failure f =>
    obtain ⟨c, span, code, notes⟩ := f
    cases c with
    | missingKey key =>
      obtain ⟨k, m⟩ := key
      simp [Value.renumber, Failure.renumber, Cause.renumber, Object.renumber, Value.isWritable,
        Value.isWritable_renumber k]
    | _ => rfl
  | _ => rfl
termination_by structural v

theorem Value.allWritable_renumber (xs : List Object) :
    Value.allWritable (xs.map (Object.renumber ρ)) = Value.allWritable xs := by
  rcases xs with _ | ⟨⟨v, m⟩, xs⟩
  · rfl
  · simp only [List.map_cons, Object.renumber, Value.allWritable]
    rw [Value.isWritable_renumber v, Value.allWritable_renumber xs]
termination_by structural xs

theorem Value.entriesWritable_renumber (es : List (Object × Object)) :
    Value.entriesWritable (es.map (Object.renumberEntry ρ)) = Value.entriesWritable es := by
  rcases es with _ | ⟨⟨⟨k, m⟩, ⟨v, n⟩⟩, es⟩
  · rfl
  · simp only [List.map_cons, Object.renumberEntry, Object.renumber, Value.entriesWritable]
    rw [Value.isWritable_renumber k, Value.isWritable_renumber v, Value.entriesWritable_renumber es]
termination_by structural es

end

@[simp] theorem Value.shown_renumber (v : Value) : (v.renumber ρ).shown = v.shown := by
  simp [shown]

/-- What shows is the same. -/
theorem Value.display_renumber (v : Value) : (v.renumber ρ).display = ρ.result id v.display := by
  have hshown := v.shown_renumber ρ
  have hresult : ρ.result id (v.shown.mapError .ofFault) = v.shown.mapError .ofFault := by
    rw [result_mapError, id_map]
  cases v with
  | text | object | inert | mute => rfl
  | failure f =>
    have hwritable := (failure f).isWritable_renumber ρ
    simp only [renumber, display] at hwritable ⊢
    rw [hwritable, Failure.text_renumber]
    split <;> rfl
  | undefined why =>
    simp only [renumber, display]
    split <;> rfl
  | _ => exact (congrArg (Except.mapError Failure.ofFault) hshown).trans hresult.symm

theorem Value.token_renumber (na : String) (v : Value) :
    (v.renumber ρ).token na = ρ.result id (v.token na) := by
  rw [token, token, isMissing_renumber, display_renumber]
  split <;> rfl

end Splice
