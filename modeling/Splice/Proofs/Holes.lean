import Splice.Value.Basic

/-!
# Undefined values inside others

An undefined value in plain sight does no harm: nearly everything that is done with it fails. Inside
another value it is out of sight, and nothing fails before somebody gets at it. A value with such a
*hole* has, at some depth, an undefined value in it; a value without holes is `Whole`, and if it is
not undefined itself, it is `Solid`. Undefined values that count as something empty are no holes.
-/

namespace Splice

/-! ## What is inside a value -/

/-- The objects that a failure was made from. -/
def Failure.parts (f : Failure) : List Object :=
  match f.cause with
  | .missingKey key => [key]
  | .evaluation _ inner | .fallback _ _ inner => [.new (.failure inner)]
  | _ => []

namespace Value

/-- The objects that a value is made of. -/
def parts : Value → List Object
  | list xs | tuple xs | set xs => xs
  | dict es | view _ es => es.flatMap fun (k, v) => [k, v]
  | method o _ => [o]
  | failure f => f.parts
  | _ => []

/-- An object is a part of a value, or a part of a part, and so on. -/
inductive Inside (o : Object) : Value → Prop
  | part {v : Value} (h : o ∈ v.parts) : Inside o v
  | deeper {v : Value} {p : Object} (hp : p ∈ v.parts) (h : Inside o p.value) : Inside o v

/-- Something inside a value is undefined and good for nothing at all. -/
def HasHole (v : Value) : Prop :=
  ∃ o, Inside o v ∧ o.value.useless?.isSome = true

/-- Nothing inside a value is undefined. The value itself may be. -/
def Whole (v : Value) : Prop :=
  ¬ v.HasHole

/-- A value that is not undefined, and nothing inside it is. -/
structure Solid (v : Value) : Prop where
  defined : v.useless? = none
  whole : v.Whole

theorem Whole.solid {v : Value} (h : v.Whole) (hv : v.useless? = none) : v.Solid :=
  ⟨hv, h⟩

/-- A value is whole if its parts are solid. -/
theorem whole_iff {v : Value} : v.Whole ↔ ∀ p ∈ v.parts, p.value.Solid := by
  constructor
  · intro h p hp
    refine ⟨?_, fun ⟨o, ho, hhole⟩ => h ⟨o, .deeper hp ho, hhole⟩⟩
    cases hp' : p.value.useless? with
    | none => rfl
    | some why => exact absurd ⟨p, .part hp, by rw [hp']; rfl⟩ h
  · rintro h ⟨o, ho, hhole⟩
    cases ho with
    | part hp => simp [(h o hp).defined] at hhole
    | deeper hp ho => exact (h _ hp).whole ⟨o, ho, hhole⟩

theorem solid_iff {v : Value} : v.Solid ↔ v.useless? = none ∧ ∀ p ∈ v.parts, p.value.Solid := by
  rw [← whole_iff]
  exact ⟨fun h => ⟨h.defined, h.whole⟩, fun h => ⟨h.1, h.2⟩⟩

/-- A value without parts is whole. -/
theorem whole_of_parts_eq_nil {v : Value} (h : v.parts = []) : v.Whole := by
  simp [whole_iff, h]

/-- Plain data is solid. -/
theorem solid_plain {v : Value} (hparts : v.parts = []) (hdefined : v.useless? = none) : v.Solid :=
  (whole_of_parts_eq_nil hparts).solid hdefined

theorem whole_undefined (why : Missing) : (undefined why).Whole :=
  whole_of_parts_eq_nil rfl

@[simp] theorem solid_list {xs : List Object} : (list xs).Solid ↔ ∀ x ∈ xs, x.value.Solid := by
  simp [solid_iff (v := list xs), parts, useless?]

@[simp] theorem solid_tuple {xs : List Object} : (tuple xs).Solid ↔ ∀ x ∈ xs, x.value.Solid := by
  simp [solid_iff (v := tuple xs), parts, useless?]

@[simp] theorem solid_set {xs : List Object} : (set xs).Solid ↔ ∀ x ∈ xs, x.value.Solid := by
  simp [solid_iff (v := set xs), parts, useless?]

/-- The keys and values of some entries are solid. -/
def EntriesSolid (es : List (Object × Object)) : Prop :=
  ∀ e ∈ es, e.1.value.Solid ∧ e.2.value.Solid

theorem solid_parts_entries {es : List (Object × Object)} :
    (∀ p ∈ es.flatMap fun (k, v) => [k, v], p.value.Solid) ↔ EntriesSolid es := by
  simp only [List.mem_flatMap, EntriesSolid]
  constructor
  · intro h e he
    exact ⟨h e.1 ⟨e, he, by simp⟩, h e.2 ⟨e, he, by simp⟩⟩
  · rintro h p ⟨e, he, hp⟩
    obtain rfl | rfl : p = e.1 ∨ p = e.2 := by simpa using hp
    · exact (h e he).1
    · exact (h e he).2

@[simp] theorem solid_dict {es : List (Object × Object)} : (dict es).Solid ↔ EntriesSolid es := by
  simp only [solid_iff (v := dict es), parts, solid_parts_entries, useless?, true_and]

@[simp] theorem solid_view {p : DictPart} {es : List (Object × Object)} :
    (view p es).Solid ↔ EntriesSolid es := by
  simp only [solid_iff (v := view p es), parts, solid_parts_entries, useless?, true_and]

@[simp] theorem solid_method {o : Object} {m : Method} : (method o m).Solid ↔ o.value.Solid := by
  simp [solid_iff (v := method o m), parts, useless?]

/-- What is not undefined is not good for nothing. -/
theorem useless?_of_undefined? {v : Value} (h : v.undefined? = none) : v.useless? = none := by
  cases v with
  | undefined why => cases h
  | _ => rfl

/-- The items that a solid value holds are solid. -/
theorem Whole.items {v : Value} (h : v.Whole) {items : List Object}
    (hitems : v.items? = some items) : ∀ x ∈ items, x.value.Solid := by
  have hparts := whole_iff.mp h
  cases v with
  | list xs | tuple xs | set xs =>
    cases hitems
    exact hparts
  | dict es =>
    cases hitems
    intro x hx
    obtain ⟨e, he, rfl⟩ := List.mem_map.mp hx
    exact (solid_parts_entries.mp hparts e he).1
  | view p es =>
    cases hitems
    have hes := solid_parts_entries.mp hparts
    intro x hx
    cases p with
    | items =>
      obtain ⟨⟨k, v⟩, he, rfl⟩ := List.mem_map.mp hx
      simpa [Object.new] using hes _ he
    | keys =>
      obtain ⟨e, he, rfl⟩ := List.mem_map.mp hx
      exact (hes e he).1
    | values =>
      obtain ⟨e, he, rfl⟩ := List.mem_map.mp hx
      exact (hes e he).2
  | text s =>
    cases hitems
    intro x hx
    obtain ⟨c, -, rfl⟩ := List.mem_map.mp hx
    exact solid_plain rfl rfl
  | bytes bs | buffer bs =>
    cases hitems
    intro x hx
    obtain ⟨b, -, rfl⟩ := List.mem_map.mp hx
    exact solid_plain rfl rfl
  | undefined why =>
    rw [items?] at hitems
    split at hitems
    · cases hitems
      simp
    · cases hitems
  | _ => cases hitems

end Value

/-! ## Results that may be missing -/

/-- What has been found is solid, if anything has. -/
def SolidIfFound (found : Option Object) : Prop :=
  ∀ o, found = some o → o.value.Solid

theorem solidIfFound_none : SolidIfFound none := by
  simp [SolidIfFound]

theorem solidIfFound_some {o : Object} (h : o.value.Solid) : SolidIfFound (some o) := by
  intro o' ho'
  cases ho'
  exact h

theorem solidIfFound_map {α : Type} {found : Option α} {f : α → Object}
    (h : ∀ a, (f a).value.Solid) : SolidIfFound (found.map f) := by
  cases found with
  | none => exact solidIfFound_none
  | some a => exact solidIfFound_some (h a)

/-- If a computation comes to something, that has a property. -/
def Ensures {ε α : Type} (r : Except ε α) (P : α → Prop) : Prop :=
  ∀ a, r = .ok a → P a

namespace Ensures

variable {ε ε' α β : Type} {r : Except ε α} {P Q : α → Prop} {R : β → Prop}

theorem ok {a : α} (h : P a) : Ensures (.ok a : Except ε α) P := by
  intro a' ha
  cases ha
  exact h

theorem error (f : ε) : Ensures (.error f : Except ε α) P :=
  nofun

theorem mono (h : Ensures r P) (hPQ : ∀ a, P a → Q a) : Ensures r Q :=
  fun a ha => hPQ a (h a ha)

theorem bind {next : α → Except ε β} (h : Ensures r P) (hnext : ∀ a, P a → Ensures (next a) R) :
    Ensures (r >>= next) R := by
  cases r with
  | error f => exact error f
  | ok a => exact hnext a (h a rfl)

/-- What the first computation comes to does not matter. -/
theorem bind_any {next : α → Except ε β} (hnext : ∀ a, Ensures (next a) R) :
    Ensures (r >>= next) R :=
  bind (fun _ _ => trivial : Ensures r fun _ => True) fun a _ => hnext a

theorem ite {c : Prop} [Decidable c] {r' : Except ε α} (h : Ensures r P) (h' : Ensures r' P) :
    Ensures (if c then r else r') P := by
  split
  · exact h
  · exact h'

theorem map {g : α → β} (h : Ensures r fun a => R (g a)) : Ensures (r.map g) R := by
  cases r with
  | error f => exact error f
  | ok a => exact ok (h a rfl)

theorem mapError {g : ε → ε'} (h : Ensures r P) : Ensures (r.mapError g) P := by
  cases r with
  | error f => exact error _
  | ok a => exact ok (h a rfl)

end Ensures

end Splice
