import Mathlib.Data.List.Induction
import Splice.Cursor
import Splice.Proofs.Scanning

/-!
# Cursors side by side

Whoever takes a template apart one segment at a time gets what a scan of the whole template gives:
its segments in order, then the error that stops it if there is one, and from then on nothing but
the end (`Scan.answer`). A cursor is suspended between two steps of the scan, which may be in front
of a block that cannot be read after the literal text before it has been handed out; so the whole
scan from the place of a cursor, and not the template, is what a cursor stands for.

On a shelf, a command only touches the cursor that it names. What a cursor answers therefore depends
on the commands that name it and on nothing else (`answersTo_run`), and each name is an iteration of
its own, in whatever order the commands come (`cursors_independent`).
-/

namespace Splice

/-- What asking a scan for its segments one after another gives when that has been done `k` times
before. -/
def Scan.answer (s : Scan) (k : Nat) : Advance :=
  match s.segments[k]? with
  | some segment => .segment segment
  | none =>
    match s.error with
    | some e => if k = s.segments.length then .failed e else .ended
    | none => .ended

theorem Scan.answer_of_ended (k : Nat) : (Scan.mk [] none).answer k = .ended := by
  simp [answer]

theorem Scan.answer_failed_succ (e : ScanError) (k : Nat) :
    (Scan.mk [] (some e)).answer (k + 1) = .ended := by
  simp [answer]

theorem Scan.answer_cons_succ (x : Segment) (xs : List Segment) (e : Option ScanError) (k : Nat) :
    (Scan.mk (x :: xs) e).answer (k + 1) = (Scan.mk xs e).answer k := by
  simp [answer]

/-! ## One cursor -/

namespace Cursor

variable (d : Delimiters)

/-- What is left to scan from the place of a cursor. -/
def remaining (c : Cursor) : Scan :=
  ⟨(d.scanFrom c.position c.rest).1, (d.scanFrom c.position c.rest).2⟩

/-- A cursor that has been advanced `k` times. -/
def advanced : (k : Nat) → Cursor → Cursor
  | 0, c => c
  | k + 1, c => advanced k (c.next d).2

theorem remaining_start (template : String) : (start template).remaining d = d.scan template := rfl

theorem advanced_succ (k : Nat) (c : Cursor) :
    c.advanced d (k + 1) = ((c.advanced d k).next d).2 := by
  induction k generalizing c with
  | zero => rfl
  | succ k ih => exact ih (c.next d).2

/-- There is nothing left behind the end of a template. -/
theorem remaining_nil (p : Nat) : (Cursor.mk p []).remaining d = ⟨[], none⟩ := by
  rw [remaining, Delimiters.scanFrom_nil]

/-- Advancing a cursor gives the first answer of what is left to scan, and leaves a cursor of which
the other answers are left. -/
theorem next_eq_answer (c : Cursor) :
    (c.next d).1 = (c.remaining d).answer 0 ∧
      ∀ k, ((c.next d).2.remaining d).answer k = (c.remaining d).answer (k + 1) := by
  rw [next]
  cases hstep : d.step c.position c.rest with
  | done =>
    rw [remaining_nil, remaining, Delimiters.scanFrom_of_done hstep]
    exact ⟨rfl, fun k => by rw [Scan.answer_of_ended, Scan.answer_of_ended]⟩
  | failed e =>
    rw [remaining_nil, remaining, Delimiters.scanFrom_of_failed hstep]
    exact ⟨rfl, fun k => by rw [Scan.answer_of_ended, Scan.answer_failed_succ]⟩
  | segment seg rest =>
    rw [remaining, remaining, Delimiters.scanFrom_of_segment hstep]
    exact ⟨rfl, fun k => (Scan.answer_cons_succ ..).symm⟩

/-- A cursor that has been advanced `k` times gives answer `k` of what was left to scan. -/
theorem next_advanced (k : Nat) (c : Cursor) :
    ((c.advanced d k).next d).1 = (c.remaining d).answer k := by
  induction k generalizing c with
  | zero => exact (c.next_eq_answer d).1
  | succ k ih => rw [advanced, ih, (c.next_eq_answer d).2]

end Cursor

/-! ## Cursors on a shelf -/

/-- The name of the cursor that a command is about. -/
def CursorCommand.name : CursorCommand → String
  | start name _ => name
  | next name => name

namespace Shelf

variable (d : Delimiters)

theorem lookup_put (name n : String) (c : Cursor) (s : Shelf) :
    (put name c s).lookup n = if n = name then some c else s.lookup n := by
  induction s with
  | nil =>
    by_cases h : n = name
    · simp [put, h]
    · have hne : (n == name) = false := by simpa using h
      simp [put, List.lookup_cons, h, hne]
  | cons entry rest ih =>
    obtain ⟨m, old⟩ := entry
    by_cases hm : m = name
    · subst hm
      by_cases h : n = m
      · simp [put, h]
      · have hne : (n == m) = false := by simpa using h
        simp [put, List.lookup_cons, h, hne]
    · by_cases h : n = m
      · subst h
        simp [put, hm]
      · have hne : (n == m) = false := by simpa using h
        simp [put, List.lookup_cons, hm, hne, ih]

/-- What a command makes of the cursor that it names. -/
def touched (c : Option Cursor) : CursorCommand → Option Cursor
  | .start _ template => some (.start template)
  | .next _ => c.map fun c => (c.next d).2

/-- What a command answers, given the cursor that it names. -/
def told (c : Option Cursor) : CursorCommand → Option Advance
  | .start .. => none
  | .next _ => some ((c.map fun c => (c.next d).1).getD .ended)

/-- Everything that a command does: it goes by the cursor that it names, and changes no other. -/
theorem perform_spec (s : Shelf) (command : CursorCommand) :
    (perform d s command).1 = told d (s.lookup command.name) command ∧
      ∀ n, (perform d s command).2.lookup n =
        if n = command.name then touched d (s.lookup n) command else s.lookup n := by
  cases command with
  | start name template => exact ⟨rfl, fun n => lookup_put ..⟩
  | next name =>
    rw [perform, CursorCommand.name]
    cases hc : s.lookup name with
    | none =>
      refine ⟨rfl, fun n => ?_⟩
      by_cases hn : n = name
      · subst hn
        simp [touched, hc]
      · simp [hn]
    | some c =>
      refine ⟨rfl, fun n => ?_⟩
      by_cases hn : n = name
      · subst hn
        simp [touched, hc, lookup_put]
      · simp [hn, lookup_put]

/-- The shelf after some commands. -/
def after (s : Shelf) (commands : List CursorCommand) : Shelf :=
  commands.foldl (fun s command => (perform d s command).2) s

theorem after_concat (s : Shelf) (commands : List CursorCommand) (command : CursorCommand) :
    after d s (commands ++ [command]) = (perform d (after d s commands) command).2 := by
  rw [after, List.foldl_append]
  rfl

theorem run_cons (s : Shelf) (command : CursorCommand) (commands : List CursorCommand) :
    run d s (command :: commands) =
      (perform d s command).1 :: run d (perform d s command).2 commands :=
  rfl

/-- Commands that come after others are carried out on the shelf that those have left. -/
theorem run_append (s : Shelf) (before behind : List CursorCommand) :
    run d s (before ++ behind) = run d s before ++ run d (after d s before) behind := by
  induction before generalizing s with
  | nil => rfl
  | cons command before ih => exact congrArg (_ :: ·) (ih _)

theorem length_run (s : Shelf) (commands : List CursorCommand) :
    (run d s commands).length = commands.length := by
  induction commands generalizing s with
  | nil => rfl
  | cons command commands ih => exact congrArg (· + 1) (ih _)

/-! ## One name among others -/

/-- The answers to the commands that name one cursor, out of the answers to all commands. -/
def answersTo (name : String) (commands : List CursorCommand) (answers : List (Option Advance)) :
    List (Option Advance) :=
  ((commands.zip answers).filter (·.1.name = name)).map (·.2)

/-- What the commands for one cursor are answered only depends on that cursor and on them: leaving
out all other commands, and starting with a shelf on which all other cursors are different, makes no
difference. -/
theorem answersTo_run {s s' : Shelf} {name : String} (h : s.lookup name = s'.lookup name)
    (commands : List CursorCommand) :
    answersTo name commands (run d s commands) =
      run d s' (commands.filter (·.name = name)) := by
  induction commands generalizing s s' with
  | nil => rfl
  | cons command commands ih =>
    obtain ⟨hanswer, hshelf⟩ := perform_spec d s command
    obtain ⟨hanswer', hshelf'⟩ := perform_spec d s' command
    by_cases hname : command.name = name
    · subst hname
      -- both shelves hold the same cursor under the name, and then again afterwards
      have hagree : (perform d s command).2.lookup command.name =
          (perform d s' command).2.lookup command.name := by rw [hshelf, hshelf', h]
      have hnext := ih hagree
      rw [run_cons, List.filter_cons_of_pos (by simp), run_cons, ← hnext, hanswer', ← h, ← hanswer]
      simp [answersTo]
    · have hagree : (perform d s command).2.lookup name = s'.lookup name := by
        rw [hshelf, if_neg (Ne.symm hname), h]
      have hnext := ih hagree
      rw [List.filter_cons_of_neg (by simpa using hname), ← hnext, run_cons]
      simp [answersTo, hname]

/-- What a command for a cursor makes of its template and of how often it has been advanced. -/
def counted (p : Option (String × Nat)) : CursorCommand → Option (String × Nat)
  | .start _ template => some (template, 0)
  | .next _ => p.map fun (template, k) => (template, k + 1)

/-- What has become of a cursor: the template that it was last started on, and how often it has been
advanced since then, if it has been started. -/
def progress (name : String) (commands : List CursorCommand) : Option (String × Nat) :=
  (commands.filter (·.name = name)).foldl counted none

theorem progress_concat (name : String) (commands : List CursorCommand) (command : CursorCommand) :
    progress name (commands ++ [command]) =
      if command.name = name then counted (progress name commands) command
      else progress name commands := by
  rw [progress, List.filter_append, List.foldl_append, ← progress]
  by_cases h : command.name = name <;> simp [h]

/-- A name on a shelf stands for a cursor on the template that it was last started on, advanced as
often as it has been since then. -/
theorem lookup_after (name : String) (commands : List CursorCommand) :
    (after d [] commands).lookup name =
      (progress name commands).map fun (template, k) => (Cursor.start template).advanced d k := by
  induction commands using List.reverseRecOn with
  | nil => rfl
  | append_singleton commands command ih =>
    rw [after_concat, (perform_spec d _ command).2, progress_concat]
    by_cases hname : name = command.name
    · rw [if_pos hname, if_pos hname.symm, ih]
      cases command with
      | start => rfl
      | next =>
        cases hp : progress name commands with
        | none => rfl
        | some p => exact congrArg some (Cursor.advanced_succ d p.2 _).symm
    · rw [if_neg hname, if_neg (Ne.symm hname), ih]

/-- Cursors on one shelf are independent. In any sequence of commands, advancing a cursor that has
been advanced `k` times since it was last started gives answer `k` of the scan of its template:
segment by segment, then the error of the scan, then the end. And the answers that one cursor gives
are those that it gives if all commands for other cursors are left out, whatever the shelf has held
under their names. -/
theorem cursors_independent (d : Delimiters) :
    (∀ before name behind,
      (run d [] (before ++ .next name :: behind))[before.length]? =
        some (some (((progress name before).map fun (template, k) =>
          (d.scan template).answer k).getD .ended))) ∧
      ∀ (s : Shelf) commands name,
        answersTo name commands (run d s commands) =
          run d (s.filter (·.1 = name)) (commands.filter (·.name = name)) := by
  refine ⟨fun before name behind => ?_, fun s commands name => answersTo_run d ?_ commands⟩
  · rw [run_append, List.getElem?_append_right (Nat.le_of_eq (length_run ..)), length_run,
      Nat.sub_self, run_cons, List.getElem?_cons_zero, (perform_spec d _ _).1]
    simp only [told, CursorCommand.name, lookup_after, Option.map_map]
    congr 4
    funext ⟨template, k⟩
    exact (Cursor.next_advanced d k (.start template)).trans
      (congrArg (·.answer k) (Cursor.remaining_start d template))
  · induction s with
    | nil => rfl
    | cons entry s ih =>
      obtain ⟨n, c⟩ := entry
      by_cases hn : n = name
      · simp [hn]
      · have hne : (name == n) = false := by simpa using Ne.symm hn
        simp [hn, List.lookup_cons, hne, ih]

end Shelf

end Splice
