import Splice.Evaluator
import Splice.Proofs.Front

/-!
# One name space for many codes

A formula is evaluated in a name space of its own, made from the environment and the global names
behind it, and the names that it rebound are then written to the innermost layer. Codes that are
evaluated one after another should nevertheless see what they would see in a single name space that
outlives them all. A `Session` is such a name space; code that fails leaves it as it was, and a name
that is given the very object that it stands for goes on standing for that one.

How code is run does not matter for this: a runner gives a result and a name space, and what is
written is found by comparing that with the names that the code knew. That values do not hold on to
a name space is part of the type of a runner, which gets to know what names stand for and not where
this is kept.

`follows_evaluate` is the step: an evaluation does in an environment what it does in the session
that the environment stands for. The name under which the functions that are always there can be
replaced is the exception. It is never written to an environment, so a session has to hold on to
what it stands for; with a session that does not, the two come apart
(`not_reports_unguarded_session`).
-/

open Splice.Action

namespace Splice

namespace Formula

/-! ## Sessions -/

/-- A name space that codes are run in one after another. -/
structure Session where
  names : String → Option Object
  store : Store

/-- What names stand for after some have been assigned in a name space. A name that was given the
very object that it stood for goes on standing for it, and so do the names in `guarded`. -/
def reassigned (guarded : List String) (assigned : Space) (names : String → Option Object) :
    String → Option Object :=
  fun n =>
    match assigned.assigned.lookup n with
    | some now => if n ∈ guarded ∨ (names n).any (·.same now) then names n else some now
    | none => names n

namespace Session

variable (run : Runner) (guarded : List String)

/-- Runs code in a session. Blank code fails, and code that fails rebinds no name. -/
def evaluate (s : Session) (code : String) : Except Failure Object × Session :=
  if Text.allBlank code.toList then (.error (.ofFault .emptyCode), s)
  else
    match (run code s.names).run.run s.store with
    | (.ok (o, space), store) => (.ok o, ⟨reassigned guarded space s.names, store⟩)
    | (.error reason, store) => (.error reason, ⟨s.names, store⟩)

/-- A session after some codes. -/
def after (codes : List String) (s : Session) : Session :=
  codes.foldl (fun s code => (s.evaluate run guarded code).2) s

/-- A name is given another object by some code. -/
def Rebinds (s : Session) (code n : String) : Prop :=
  ∃ o space store now, (run code s.names).run.run s.store = (.ok (o, space), store) ∧
    (n, now) ∈ space.assigned ∧ ∀ old, s.names n = some old → old.same now = false

end Session

/-- What an evaluation has to report of code that came to a result when it was run: a value as it
is, and a failure as one of this code, provided that the reason can be put into words. -/
def Reports (code : String) (ran reported : Except Failure Object) : Prop :=
  match ran with
  | .ok o => reported = .ok o
  | .error reason =>
    ∃ f, reported = .error f ∧
      ((Value.failure reason).isWritable = true → f = .evaluation code reason)

theorem Reports.isOk_eq {code : String} {ran reported : Except Failure Object}
    (h : Reports code ran reported) : reported.isOk = ran.isOk := by
  cases ran with
  | ok o => rw [h]
  | error reason =>
    obtain ⟨f, rfl, -⟩ := h
    rfl

theorem reports_ofCode (code : String) (reason : Failure) :
    Reports code (.error reason) (.error (.ofCode code reason)) :=
  ⟨_, rfl, fun h => if_pos h⟩

/-- A world after some codes have been evaluated in it, whatever came of them. -/
def evaluateAll (run : Runner) (globals : Bindings) (codes : List String) (w : World) : World :=
  codes.foldl (fun w code => (outcome (evaluateBy run globals code) w).2) w

/-! ## Writing back -/

/-- Bindings with some names put into them. -/
def putAll (es : List (String × Object)) (b : Bindings) : Bindings :=
  es.foldl (fun b e => b.put e.1 e.2) b

theorem lookup_eq_none_of_not_mem {es : List (String × Object)} {n : String}
    (h : n ∉ es.map (·.1)) : es.lookup n = none := by
  rw [List.lookup_eq_none_iff]
  intro e he
  simpa using fun heq : n = e.1 => h (List.mem_map.mpr ⟨e, he, heq.symm⟩)

/-- A name that was put in is found, and every other name as before. -/
theorem lookup_putAll {es : List (String × Object)} (h : (es.map (·.1)).Nodup) (b : Bindings)
    (n : String) : (putAll es b).lookup n = (es.lookup n).or (b.lookup n) := by
  induction es generalizing b with
  | nil => rfl
  | cons e es ih =>
    obtain ⟨m, o⟩ := e
    rw [List.map_cons, List.nodup_cons] at h
    rw [putAll, List.foldl_cons, ← putAll, ih h.2, Bindings.lookup_put, List.lookup_cons]
    by_cases hn : n = m
    · subst hn
      simp [lookup_eq_none_of_not_mem h.1]
    · have hne : (n == m) = false := by simpa using hn
      simp [hn, hne]

/-- Of names that occur once, looking among some of them finds what looking among all does, if that
is one of them. -/
theorem lookup_filter {es : List (String × Object)} (h : (es.map (·.1)).Nodup)
    (p : String × Object → Bool) (n : String) :
    (es.filter p).lookup n = (es.lookup n).filter fun o => p (n, o) := by
  induction es with
  | nil => rfl
  | cons e es ih =>
    obtain ⟨m, o⟩ := e
    rw [List.map_cons, List.nodup_cons] at h
    have ih := ih h.2
    by_cases hn : n = m
    · subst hn
      rw [lookup_eq_none_of_not_mem h.1] at ih
      cases hp : p (n, o) <;> simp [hp, ih, Option.filter]
    · have hne : (n == m) = false := by simpa using hn
      cases hp : p (m, o) <;> simp [hp, hne, ih, List.lookup_cons]

/-- Names are defined one after another in the innermost layer. -/
theorem outcome_forM_define (es : List (String × Object)) (w : World) (h : w.env.Writable) :
    outcome (es.forM fun e => define e.1 e.2) w =
      (.ok (), { w with env := w.env.withFront (putAll es w.env.front) }) := by
  induction es generalizing w with
  | nil => rw [putAll, List.foldl_nil, Environment.withFront_front]; rfl
  | cons e es ih =>
    -- the induction goes on from the world in which the first name is defined
    let w' : World := { w with env := w.env.withFront (w.env.front.put e.1 e.2) }
    have hw' : w'.env.Writable := Environment.writable_withFront.mpr h
    have hfront : w'.env.front = w.env.front.put e.1 e.2 := Environment.front_withFront h _
    rw [List.forM_eq_forM, List.forM_cons, ← List.forM_eq_forM, outcome_bind,
      outcome_define_of_writable h]
    change outcome (es.forM fun e => define e.1 e.2) w' = _
    rw [ih w' hw', hfront, Environment.withFront_withFront]
    rfl

/-- What an evaluation of code that is not blank comes to, given what running the code does. -/
theorem outcome_evaluateBy {run : Runner} {globals : Bindings} {code : String} {w : World}
    (hw : w.env.Writable) (hcode : Text.allBlank code.toList = false) :
    outcome (evaluateBy run globals code) w =
      match (run code (w.env.backedBy globals)).run.run w.store with
      | (.ok (o, space), store) =>
        (.ok o, { w with
          env := w.env.withFront (putAll (space.rebound (w.env.backedBy globals)) w.env.front),
          store })
      | (.error reason, store) => (.error (.ofCode code reason), { w with store }) := by
  rw [evaluateBy, if_neg (by simp [hcode]), outcome_bind, outcome_get]
  simp only
  rw [outcome_tryCatch, runWriting, outcome_bind, outcome_compute]
  rcases (run code (w.env.backedBy globals)).run.run w.store with ⟨reason | ⟨o, space⟩, store⟩
  · rfl
  · simp only
    rw [outcome_bind, outcome_forM_define _ { w with store } hw]
    rfl

theorem outcome_evaluateBy_blank {run : Runner} {globals : Bindings} {code : String} {w : World}
    (hcode : Text.allBlank code.toList = true) :
    outcome (evaluateBy run globals code) w =
      (.error (.evaluation code (.ofFault .emptyCode)), w) := by
  rw [evaluateBy, if_pos hcode]
  rfl

/-! ## Environments and sessions -/

/-- A world stands for a session: in its environment, with the global names behind it, names stand
for what they stand for in the session, and streams are in the same state. -/
structure Follows (globals : Bindings) (w : World) (s : Session) : Prop where
  writable : w.env.Writable
  names : w.env.backedBy globals = s.names
  store : w.store = s.store

/-- Every name is rebound once. -/
theorem nodup_rebound (before : String → Option Object) (space : Space) :
    ((space.rebound before).map (·.1)).Nodup :=
  space.distinct.sublist (List.filter_sublist.map _)

/-- After the rebound names have been written to an environment, names stand for what they stand for
after all assignments; those that were not written are guarded, or were given the object that they
stood for. -/
theorem backedBy_putAll {globals : Bindings} {env : Environment} (henv : env.Writable)
    (space : Space) :
    (env.withFront (putAll (space.rebound (env.backedBy globals)) env.front)).backedBy globals =
      reassigned [builtinsName] space (env.backedBy globals) := by
  funext n
  have hbefore : env.backedBy globals n =
      ((env.front.lookup n).or ((env.withFront []).get? n)).or (globals.lookup n) := by
    rw [Environment.backedBy, ← Environment.get?_withFront henv, Environment.withFront_front]
  have hafter :
      (env.withFront (putAll (space.rebound (env.backedBy globals)) env.front)).backedBy globals n =
        ((space.rebound (env.backedBy globals)).lookup n).or (env.backedBy globals n) := by
    rw [hbefore, Environment.backedBy, Environment.get?_withFront henv,
      lookup_putAll (nodup_rebound _ space)]
    simp only [Option.or_assoc]
  rw [hafter, Space.rebound, lookup_filter space.distinct, reassigned]
  cases space.assigned.lookup n with
  | none => rfl
  | some now =>
    by_cases hbuiltins : n = builtinsName
    · simp [Option.filter, hbuiltins]
    · cases hsame : (env.backedBy globals n).any (·.same now) <;>
        simp [Option.filter, hbuiltins, hsame]

section

variable {run : Runner} {globals : Bindings} {w : World} {s : Session}

/-- An evaluation reports what comes of the code in the session that its environment stands for, and
the environment stands for the session afterwards. -/
theorem follows_evaluate (run : Runner) (h : Follows globals w s) (code : String) :
    Reports code (s.evaluate run [builtinsName] code).1
        (outcome (evaluateBy run globals code) w).1 ∧
      Follows globals (outcome (evaluateBy run globals code) w).2
        (s.evaluate run [builtinsName] code).2 := by
  rw [Session.evaluate]
  cases hcode : Text.allBlank code.toList with
  | true =>
    rw [outcome_evaluateBy_blank hcode]
    exact ⟨⟨_, rfl, fun _ => rfl⟩, h⟩
  | false =>
    rw [outcome_evaluateBy h.writable hcode, h.names, h.store]
    rcases (run code s.names).run.run s.store with ⟨reason | ⟨o, space⟩, store⟩
    · exact ⟨reports_ofCode code reason, h.writable, h.names, rfl⟩
    · refine ⟨rfl, Environment.writable_withFront.mpr h.writable, ?_, rfl⟩
      rw [← h.names]
      exact backedBy_putAll h.writable space

/-- A world goes on standing for a session when code after code is evaluated in both. -/
theorem follows_evaluateAll (run : Runner) (h : Follows globals w s) (codes : List String) :
    Follows globals (evaluateAll run globals codes w) (s.after run [builtinsName] codes) := by
  induction codes generalizing w s with
  | nil => exact h
  | cons code codes ih => exact ih (follows_evaluate run h code).2

/-- An evaluation changes the innermost layer only, there only names that the code has rebound, and
nothing if it fails. -/
theorem env_evaluateBy (run : Runner) (h : Follows globals w s) (code : String) :
    (∀ f, (outcome (evaluateBy run globals code) w).1 = .error f →
        (outcome (evaluateBy run globals code) w).2.env = w.env) ∧
      ∃ front, (outcome (evaluateBy run globals code) w).2.env = w.env.withFront front ∧
        ∀ n, front.lookup n ≠ w.env.front.lookup n → n ≠ builtinsName ∧ s.Rebinds run code n := by
  cases hcode : Text.allBlank code.toList with
  | true =>
    rw [outcome_evaluateBy_blank hcode]
    exact ⟨fun _ _ => rfl, w.env.front, (Environment.withFront_front _).symm, by simp⟩
  | false =>
    rw [outcome_evaluateBy h.writable hcode, h.names, h.store]
    rcases hresult : (run code s.names).run.run s.store with ⟨reason | ⟨o, space⟩, store⟩
    · exact ⟨fun _ _ => rfl, w.env.front, (Environment.withFront_front _).symm, by simp⟩
    · refine ⟨nofun, _, rfl, fun n hn => ?_⟩
      rw [lookup_putAll (nodup_rebound _ space)] at hn
      cases hlookup : (space.rebound s.names).lookup n with
      | none => simp [hlookup] at hn
      | some now =>
        obtain ⟨before, after, hmem, -⟩ := List.lookup_eq_some_iff.mp hlookup
        have hmem : (n, now) ∈ space.rebound s.names := by simp [hmem]
        rw [Space.rebound, List.mem_filter, Bool.and_eq_true, bne_iff_ne, Bool.not_eq_true'] at hmem
        refine ⟨hmem.2.1, o, space, store, now, hresult, hmem.1, fun old hold => ?_⟩
        simpa [hold] using hmem.2.2

/-- Evaluations of code after code change the innermost layer only. -/
theorem env_evaluateAll (run : Runner) (h : Follows globals w s) (codes : List String) :
    ∃ front, (evaluateAll run globals codes w).env = w.env.withFront front := by
  induction codes generalizing w s with
  | nil => exact ⟨w.env.front, (Environment.withFront_front _).symm⟩
  | cons code codes ih =>
    obtain ⟨-, front, hfront, -⟩ := env_evaluateBy run h code
    obtain ⟨front', hfront'⟩ := ih (follows_evaluate run h code).2
    rw [hfront, Environment.withFront_withFront] at hfront'
    exact ⟨front', hfront'⟩

end

/-- Codes that are evaluated one after another see and do what they see and do in one session: each
reports what comes of it there, and afterwards names stand for the same and streams are in the same
state. A failure leaves the environment as it was, and everything else only changes the innermost
layer, at names that the code has rebound. -/
theorem evaluateBy_reports_session (run : Runner) (globals : Bindings) {w : World}
    (hw : w.env.Writable) (codes : List String) (code : String) :
    let s := Session.after run [builtinsName] codes ⟨w.env.backedBy globals, w.store⟩
    let before := evaluateAll run globals codes w
    let result := outcome (evaluateBy run globals code) before
    Reports code (s.evaluate run [builtinsName] code).1 result.1 ∧
      (∀ n, result.2.env.backedBy globals n = (s.evaluate run [builtinsName] code).2.names n) ∧
      result.2.store = (s.evaluate run [builtinsName] code).2.store ∧
      (∀ f, result.1 = .error f → result.2.env = before.env) ∧
      ∃ front, result.2.env = w.env.withFront front ∧
        ∀ n, front.lookup n ≠ before.env.front.lookup n →
          n ≠ builtinsName ∧ s.Rebinds run code n := by
  intro s before result
  have hstart : Follows globals w ⟨w.env.backedBy globals, w.store⟩ := ⟨hw, rfl, rfl⟩
  have hbefore : Follows globals before s := follows_evaluateAll run hstart codes
  obtain ⟨hreports, hafter⟩ := follows_evaluate run hbefore code
  obtain ⟨hfailed, front, hfront, hrebound⟩ := env_evaluateBy run hbefore code
  obtain ⟨front₀, hfront₀⟩ := env_evaluateAll run hstart codes
  have henv : result.2.env = w.env.withFront front := by
    rw [hfront, hfront₀, Environment.withFront_withFront]
  exact ⟨hreports, congrFun hafter.names, hafter.store, hfailed, front, henv, hrebound⟩

/-- Behind a code that gives a name from another layer a new value and one that fails after that, a
third code sees the new value; the other layer stays as it was. -/
theorem evaluateBy_shadowed_name :
    let behind : Bindings := [("x", .new (.int 2)), ("y", .new (.int 3))]
    let globals : Bindings := [("z", .new (.int 4))]
    let w : World := .new (.chain [("x", .new (.int 1))] [behind]) .empty
    let codes := ["y := x + z", "[y := 0][1]"]
    let result := outcome (evaluateBy run globals "x := x + y") (evaluateAll run globals codes w)
    result.1.isOk = true ∧ ∃ front, result.2.env = .chain front [behind] := by
  intro behind globals w codes result
  obtain ⟨hreports, -, -, -, front, hfront, -⟩ :=
    evaluateBy_reports_session run globals (w := w) trivial codes "x := x + y"
  exact ⟨hreports.isOk_eq.trans (by decide +kernel), front, hfront⟩

/-- A session in which nothing is guarded does not do what evaluations do: it has lost `len` once
the functions that are always there have been replaced. And an evaluation does not fail in its own
way if the reason has too many digits to be put into words. -/
theorem not_reports_unguarded_session :
    (¬ ∀ w : World, w.env.Writable → ∀ codes code,
      Reports code
        ((Session.after run [] codes ⟨w.env.backedBy [], w.store⟩).evaluate run [] code).1
        (outcome (evaluate [] code) (evaluateAll run [] codes w)).1) ∧
    ¬ ∀ w : World, w.env.Writable → ∀ code f,
      (outcome (evaluate [] code) w).1 = .error f → f.kind = .evaluationError := by
  constructor
  · intro hall
    have h := hall (.new (.chain [] []) .empty) trivial ["__builtins__ := \x7b\x7d"] "len([1])"
    exact absurd h.isOk_eq (by decide +kernel)
  · intro hall
    let w : World :=
      .new (.chain [("d", .new (.dict [])), ("n", .new (.int (10 ^ 2200)))] []) .empty
    have hkind : (match (outcome (evaluate [] "d[n * n]") w).1 with
        | .ok _ => none
        | .error f => some f.kind) = some .valueError := by decide +kernel
    cases hresult : (outcome (evaluate [] "d[n * n]") w).1 with
    | ok => simp [hresult] at hkind
    | error f => simp [hresult, hall w trivial _ f hresult] at hkind

end Formula

end Splice
