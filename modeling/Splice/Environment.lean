import Splice.Value.Basic

/-!
# Environments

An environment says which objects names stand for. It is made of layers: a name is looked up in one
layer after the other, innermost first, and every assignment goes into the innermost layer. An
environment can be entered, which puts a fresh layer and some given ones in front of it, and left
again; what was entered is then as it was, because assignments never get past the fresh layer.

A fixed environment has one layer that refuses assignments.
-/

namespace Splice

namespace Bindings

/-- Gives a name a value; a name that is there already keeps its place. -/
def put (name : String) (v : Object) : Bindings → Bindings
  | [] => [(name, v)]
  | (n, old) :: rest => if n = name then (n, v) :: rest else (n, old) :: put name v rest

/-- Takes a name away. -/
def erase (name : String) (b : Bindings) : Bindings :=
  b.filter (·.1 != name)

@[simp] theorem lookup_put (b : Bindings) (name n : String) (v : Object) :
    (put name v b).lookup n = if n = name then some v else b.lookup n := by
  induction b with
  | nil =>
    by_cases h : n = name
    · simp [put, h]
    · have : (n == name) = false := by simp [h]
      simp [put, List.lookup_cons, h, this]
  | cons e rest ih =>
    obtain ⟨m, old⟩ := e
    by_cases hm : m = name
    · subst hm
      by_cases h : n = m
      · subst h; simp [put]
      · have : (n == m) = false := by simp [h]
        simp [put, List.lookup_cons, h, this]
    · by_cases h : n = m
      · subst h; simp [put, hm]
      · have : (n == m) = false := by simp [h]
        simp [put, List.lookup_cons, hm, this, ih]

end Bindings

/-- Names with their values, in layers. -/
inductive Environment where
  /-- One layer that takes no assignments. -/
  | fixed (vars : Bindings)
  /-- Layers, the innermost of which takes the assignments. -/
  | chain (front : Bindings) (others : List Bindings)
  /-- Layers in front of an environment. -/
  | within (front : Bindings) (others : List Bindings) (outer : Environment)
  deriving Inhabited

namespace Environment

/-- What the first layer with this name gives it. -/
def get? : Environment → String → Option Object
  | fixed vars, n => vars.lookup n
  | chain front others, n => (front :: others).findSome? (·.lookup n)
  | within front others outer, n =>
    ((front :: others).findSome? (·.lookup n)).or (outer.get? n)

/-- What names stand for in an environment and, behind it, among global names. -/
def backedBy (globals : Bindings) (env : Environment) : String → Option Object :=
  fun n => (env.get? n).or (globals.lookup n)

/-- Gives a name a value in the innermost layer. -/
def assign (name : String) (v : Object) : Environment → Except Fault Environment
  | fixed _ => .error .fixedMapping
  | chain front others => .ok (chain (front.put name v) others)
  | within front others outer => .ok (within (front.put name v) others outer)

/-- The innermost layer. -/
def front : Environment → Bindings
  | fixed vars => vars
  | chain front _ => front
  | within front _ _ => front

/-- Takes a name away from the innermost layer, where it has to be. -/
def erase (name : String) (env : Environment) : Except Failure Environment :=
  if (env.front.lookup name).isNone then
    .error (.missingKey
      (.new (.text ("Key not found in the first mapping: " ++ Text.quoted name))))
  else
    match env with
    | fixed _ => .error (.ofFault .fixedMapping)
    | chain front others => .ok (chain (front.erase name) others)
    | within front others outer => .ok (within (front.erase name) others outer)

/-- All layers, innermost first. -/
def layers : Environment → List Bindings
  | fixed vars => [vars]
  | chain front others => front :: others
  | within front others outer => front :: others ++ outer.layers

/-- How many mappings an environment is made of; one that was entered counts as one. -/
def width : Environment → Nat
  | fixed _ => 1
  | chain _ others => 1 + others.length
  | within _ others _ => 2 + others.length

/-- All names that have a value, without repetition. -/
def names (env : Environment) : List String :=
  (env.layers.flatMap (·.map (·.1))).eraseDups

/-- An environment in which assignments leave the given layers alone. -/
def scope (maps : List Bindings) : Environment :=
  chain [] maps

/-- Puts a fresh layer and the given ones in front. -/
def enter (maps : List Bindings) (env : Environment) : Environment :=
  within [] maps env

/-- What was entered last. -/
def leave : Environment → Environment
  | within _ _ outer => outer
  | env => env

/-! ## Looking up after assigning -/

@[simp] theorem get?_scope (maps : List Bindings) (n : String) :
    (scope maps).get? n = maps.findSome? (·.lookup n) := by
  simp [scope, get?, List.findSome?]

@[simp] theorem get?_enter (maps : List Bindings) (env : Environment) (n : String) :
    (env.enter maps).get? n = (maps.findSome? (·.lookup n)).or (env.get? n) := by
  simp [enter, get?, List.findSome?]

@[simp] theorem leave_enter (maps : List Bindings) (env : Environment) :
    (env.enter maps).leave = env := rfl

/-- An assigned name stands for what was assigned and every other name for what it did. -/
theorem get?_assign {env env' : Environment} {name : String} {v : Object}
    (h : env.assign name v = .ok env') (n : String) :
    env'.get? n = if n = name then some v else env.get? n := by
  cases env with
  | fixed vars => simp [assign] at h
  | chain front others =>
    obtain rfl : chain (front.put name v) others = env' := by simpa [assign] using h
    by_cases hn : n = name <;> simp [get?, List.findSome?, hn]
  | within front others outer =>
    obtain rfl : within (front.put name v) others outer = env' := by simpa [assign] using h
    by_cases hn : n = name <;> simp [get?, List.findSome?, hn]

end Environment

end Splice
