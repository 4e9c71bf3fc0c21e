import Splice.World

/-!
# What comes of actions

An action comes to a result and leaves a world. These are the equations for the ways in which
actions are put together, and what follows from them about a sequence of two: it succeeds where both
parts do, and fails where the first fails or where the second does after the first.
-/

namespace Splice

/-- A world with one more entry in its log. -/
def World.noting (w : World) (topic : Topic) (text : String) : World :=
  { w with notices := w.notices ++ [⟨topic, text⟩] }

namespace Compute

variable {α β : Type}

theorem run_bind (c : Compute α) (next : α → Compute β) (store : Store) :
    (c >>= next).run.run store =
      match c.run.run store with
      | (.ok a, store') => (next a).run.run store'
      | (.error f, store') => (.error f, store') := by
  change StateT.run (ExceptT.bindCont next (c.run.run store).1) (c.run.run store).2 = _
  rcases c.run.run store with ⟨_ | a, store'⟩ <;> rfl

/-- What was done before a failure stays done, so the handler starts in the store that is left. -/
theorem run_tryCatch (c : Compute α) (handle : Failure → Compute α) (store : Store) :
    (tryCatch c handle).run.run store =
      match c.run.run store with
      | (.ok a, store') => (.ok a, store')
      | (.error f, store') => (handle f).run.run store' := by
  rw [ExceptT.run_tryCatch, StateT.run_bind]
  rcases c.run.run store with ⟨_ | a, store'⟩ <;> rfl

/-- A sequence of computations on the streams comes to a result where both parts do. -/
theorem run_bind_eq_ok_iff {c : Compute α} {next : α → Compute β} {store store' : Store} {b : β} :
    (c >>= next).run.run store = (.ok b, store') ↔
      ∃ a store₁, c.run.run store = (.ok a, store₁) ∧
        (next a).run.run store₁ = (.ok b, store') := by
  rw [run_bind]
  rcases c.run.run store with ⟨_ | a, store₁⟩
  · exact ⟨nofun, nofun⟩
  · exact ⟨fun h => ⟨a, store₁, rfl, h⟩, fun ⟨_, _, h, hnext⟩ => by cases h; exact hnext⟩

end Compute

namespace Action

variable {α β : Type}

/-- The result of an action, and the world after it. -/
def outcome (act : Action α) (w : World) : Except Failure α × World :=
  act.run.run w

theorem outcome_pure (a : α) (w : World) : outcome (pure a) w = (.ok a, w) := rfl

theorem outcome_throw (f : Failure) (w : World) :
    outcome (throw f : Action α) w = (.error f, w) := rfl

theorem outcome_bind (act : Action α) (next : α → Action β) (w : World) :
    outcome (act >>= next) w =
      match outcome act w with
      | (.ok a, w') => outcome (next a) w'
      | (.error f, w') => (.error f, w') := by
  change StateT.run (ExceptT.bindCont next (outcome act w).1) (outcome act w).2 = _
  rcases outcome act w with ⟨_ | a, w'⟩ <;> rfl

theorem outcome_tryCatch (act : Action α) (handle : Failure → Action α) (w : World) :
    outcome (tryCatch act handle) w =
      match outcome act w with
      | (.ok a, w') => (.ok a, w')
      | (.error f, w') => outcome (handle f) w' := by
  have hact : act.run.run w = outcome act w := rfl
  rw [outcome, ExceptT.run_tryCatch, StateT.run_bind, hact]
  rcases outcome act w with ⟨_ | a, w'⟩ <;> rfl

/-- A sequence succeeds where both parts do. -/
theorem outcome_bind_eq_ok_iff {act : Action α} {next : α → Action β} {w w' : World} {b : β} :
    outcome (act >>= next) w = (.ok b, w') ↔
      ∃ a w₁, outcome act w = (.ok a, w₁) ∧ outcome (next a) w₁ = (.ok b, w') := by
  rw [outcome_bind]
  rcases outcome act w with ⟨_ | a, w₁⟩
  · simp
  · constructor
    · exact fun h => ⟨a, w₁, rfl, h⟩
    · rintro ⟨a', w₁', h, hnext⟩
      cases h
      exact hnext

/-- A sequence fails where its first part does, or its second part after the first. -/
theorem outcome_bind_eq_error_iff {act : Action α} {next : α → Action β} {w w' : World}
    {f : Failure} :
    outcome (act >>= next) w = (.error f, w') ↔
      outcome act w = (.error f, w') ∨
        ∃ a w₁, outcome act w = (.ok a, w₁) ∧ outcome (next a) w₁ = (.error f, w') := by
  rw [outcome_bind]
  rcases outcome act w with ⟨_ | a, w₁⟩
  · simp
  · constructor
    · exact fun h => .inr ⟨a, w₁, rfl, h⟩
    · rintro (h | ⟨a', w₁', h, hnext⟩)
      · cases h
      · cases h
        exact hnext

/-- What is done to a result afterwards is done to the result only. -/
theorem outcome_map (act : Action α) (g : α → β) (w : World) :
    outcome (g <$> act) w = ((outcome act w).1.map g, (outcome act w).2) := by
  rw [map_eq_pure_bind, outcome_bind]
  rcases outcome act w with ⟨_ | a, w'⟩ <;> rfl

/-- What is done to a result afterwards does not make the action fail. -/
theorem outcome_map_eq_error_iff {act : Action α} {g : α → β} {w w' : World} {f : Failure} :
    outcome (g <$> act) w = (.error f, w') ↔ outcome act w = (.error f, w') := by
  rw [map_eq_pure_bind, outcome_bind_eq_error_iff]
  simp [outcome_pure]

/-- What is done to a result afterwards does not touch the world. -/
theorem outcome_map_eq_ok_iff {act : Action α} {g : α → β} {w w' : World} {b : β} :
    outcome (g <$> act) w = (.ok b, w') ↔ ∃ a, outcome act w = (.ok a, w') ∧ g a = b := by
  rw [map_eq_pure_bind, outcome_bind_eq_ok_iff]
  simp only [outcome_pure, Prod.mk.injEq, Except.ok.injEq]
  constructor
  · rintro ⟨a, w₁, h, rfl, rfl⟩
    exact ⟨a, h, rfl⟩
  · rintro ⟨a, h, rfl⟩
    exact ⟨a, w', h, rfl, rfl⟩

theorem outcome_get (w : World) : outcome (get : Action World) w = (.ok w, w) := rfl

/-- A computation on the streams changes the streams only. -/
theorem outcome_compute (c : Compute α) (w : World) :
    outcome (compute c) w =
      ((c.run.run w.store).1, { w with store := (c.run.run w.store).2 }) :=
  rfl

/-- Writing to the log succeeds and does nothing else. -/
theorem outcome_note (topic : Topic) (text : String) (w : World) :
    outcome (note topic text) w = (.ok (), w.noting topic text) :=
  rfl

end Action

end Splice
