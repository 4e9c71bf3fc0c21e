import Mathlib.Data.List.DropRight
import Splice.Margin

/-!
# Lines

Trimming takes literals apart into lines and puts them together again. The lines of a text are what
`List.splitOn` gives at line breaks, so the library's lemmas apply to them. When two texts are put
side by side, the last line of the one and the first line of the other become one line: `glue`.
-/

namespace Splice.Margin

/-! ## Lines of characters -/

theorem splitLines_eq_splitOn (t : List Char) : splitLines t = t.splitOn '\n' := by
  induction t with
  | nil => rfl
  | cons x t ih =>
    obtain ⟨l, ls, hl⟩ := List.exists_cons_of_ne_nil (List.splitOn_ne_nil '\n' t)
    rw [splitLines, List.splitOn_cons_eq_if_modifyHead, ih, hl]
    by_cases hx : x = '\n' <;> simp [hx]

theorem splitLines_ne_nil (t : List Char) : splitLines t ≠ [] := by
  rw [splitLines_eq_splitOn]
  exact List.splitOn_ne_nil _ t

theorem joinLines_eq_intercalate (ls : List (List Char)) :
    joinLines ls = ['\n'].intercalate ls := by
  induction ls with
  | nil => rfl
  | cons l ls ih =>
    cases ls with
    | nil => simp [joinLines]
    | cons l' ls =>
      rw [joinLines, ih, List.intercalate_cons_cons]
      · simp
      · simp

/-! ## Gluing lines -/

section

variable {α β : Type}

/-- The lines of two texts side by side: the last line of the one goes on in the first line of the
other. -/
def glue : List (List α) → List (List α) → List (List α)
  | [], ys => ys
  | [l], ys => ys.modifyHead (l ++ ·)
  | l :: l' :: ls, ys => l :: glue (l' :: ls) ys

theorem glue_cons {l : List α} {ls : List (List α)} (h : ls ≠ []) (ys : List (List α)) :
    glue (l :: ls) ys = l :: glue ls ys := by
  obtain ⟨l', ls, rfl⟩ := List.exists_cons_of_ne_nil h
  rfl

theorem glue_nil_right {ls : List (List α)} (h : ls ≠ []) : glue ls [[]] = ls := by
  induction ls with
  | nil => exact absurd rfl h
  | cons l ls ih =>
    cases ls with
    | nil => simp [glue]
    | cons l' ls => rw [glue_cons (by simp), ih (by simp)]

/-- Something in front of the first line stays there. -/
theorem glue_modifyHead_cons (x : α) {ls : List (List α)} (h : ls ≠ []) (ys : List (List α)) :
    glue (ls.modifyHead (x :: ·)) ys = (glue ls ys).modifyHead (x :: ·) := by
  obtain ⟨l, ls, rfl⟩ := List.exists_cons_of_ne_nil h
  cases ls with
  | nil => cases ys <;> simp [glue]
  | cons l' ls => rfl

theorem splitOn_append [DecidableEq α] (sep : α) (xs ys : List α) :
    (xs ++ ys).splitOn sep = glue (xs.splitOn sep) (ys.splitOn sep) := by
  induction xs with
  | nil =>
    obtain ⟨l, ls, hl⟩ := List.exists_cons_of_ne_nil (List.splitOn_ne_nil sep ys)
    simp [glue, hl]
  | cons x xs ih =>
    rw [List.cons_append, List.splitOn_cons_eq_if_modifyHead, List.splitOn_cons_eq_if_modifyHead,
      ih]
    split
    · rw [glue_cons (List.splitOn_ne_nil sep xs)]
    · rw [← glue_modifyHead_cons x (List.splitOn_ne_nil sep xs)]

/-- Renaming characters without confusing any with the separator renames them in the lines. -/
theorem splitOn_map [DecidableEq α] [DecidableEq β] {f : α → β} (hf : Function.Injective f)
    (sep : α) (xs : List α) : (xs.map f).splitOn (f sep) = (xs.splitOn sep).map (List.map f) := by
  induction xs with
  | nil => rfl
  | cons x xs ih =>
    obtain ⟨l, ls, hl⟩ := List.exists_cons_of_ne_nil (List.splitOn_ne_nil sep xs)
    rw [List.map_cons, List.splitOn_cons_eq_if_modifyHead, List.splitOn_cons_eq_if_modifyHead, ih,
      hl]
    by_cases hx : x = sep
    · simp [hx]
    · simp [hx, hf.eq_iff]

end

/-! ## The least of some numbers -/

theorem least_eq_min? (ns : List Nat) : least ns = ns.min? := by
  induction ns with
  | nil => rfl
  | cons n ns ih =>
    rw [least, ih, List.min?_cons]
    cases ns.min? <;> rfl

end Splice.Margin
