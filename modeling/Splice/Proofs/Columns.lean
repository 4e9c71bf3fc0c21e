import Mathlib.Order.Bounds.Basic
import Splice.Recycling

/-!
# What recycling makes of columns

Columns are combined by reading across them. If all have tokens, line `i` is made up of one token of
each, the one at the remainder of `i` by the length of the column (`token?`), so that every token is
shown on the line of its own index. There is no remainder to be taken of a column without tokens:
`row?` has no result then, and no line is made (`Recycled.divisor`).

The strict policy asks that every length be one or the greatest. That is a matter of two columns
only, because the greatest length is the length of some column: what is refused are two columns of
different lengths, neither of them one (`mismatched_iff`). Whatever is not refused is combined as it
is without the policy.
-/

namespace Splice.Recycling

/-! ## Rows -/

/-- The token that a column shows on line `i`; none, if there is no remainder by its length. -/
def token? (i : Nat) (column : List String) : Option String :=
  if column.length = 0 then none else column[i % column.length]?

/-- The tokens that make up line `i`, one of each column in their order. -/
def row? (columns : List (List String)) (i : Nat) : Option (List String) :=
  columns.mapM (token? i)

/-- The length of the longest column, and one if there are no columns. -/
def IsHeight (columns : List (List String)) (n : Nat) : Prop :=
  (columns = [] → n = 1) ∧ (columns ≠ [] → IsGreatest {k | ∃ c ∈ columns, c.length = k} n)

/-- Two columns have different lengths, neither of which is one or less. -/
def Mismatched (columns : List (List String)) : Prop :=
  ∃ c ∈ columns, ∃ c' ∈ columns, 1 < c.length ∧ 1 < c'.length ∧ c.length ≠ c'.length

variable {columns : List (List String)}

theorem token?_of_ne_nil {column : List String} (h : column ≠ []) (i : Nat) :
    token? i column = some (tokenAt column.toArray i) := by
  have hpos : 0 < column.length := List.length_pos_iff.mpr h
  have hlt : i % column.length < column.length := Nat.mod_lt i hpos
  rw [token?, if_neg (Nat.ne_of_gt hpos), List.getElem?_eq_getElem hlt, tokenAt]
  simp [hlt]

/-- Of columns that all have tokens, there is a row for every line. -/
theorem row?_of_not_mem (h : [] ∉ columns) (i : Nat) :
    row? columns i = some ((columns.map List.toArray).map (tokenAt · i)) := by
  induction columns with
  | nil => rfl
  | cons c columns ih =>
    rw [List.mem_cons, not_or] at h
    obtain ⟨hc, hrest⟩ := h
    rw [row?, List.mapM_cons, token?_of_ne_nil (Ne.symm hc), ← row?, ih hrest]
    rfl

/-- In its own row, a token stands where its column stands among the columns. -/
theorem tokenAt_of_getElem? {column : List String} {k : Nat} {t : String}
    (h : column[k]? = some t) : tokenAt column.toArray k = t := by
  obtain ⟨hlt, rfl⟩ := List.getElem?_eq_some_iff.mp h
  rw [tokenAt, List.size_toArray, Nat.mod_eq_of_lt hlt]
  simp [hlt]

/-! ## Heights -/

theorem isHeight_height (columns : List (List String)) : IsHeight columns (height columns) := by
  cases columns with
  | nil => exact ⟨fun _ => rfl, fun h => absurd rfl h⟩
  | cons c columns =>
    refine ⟨nofun, fun _ => ?_⟩
    have hmax : ((c :: columns).map List.length).max? = some (height (c :: columns)) := by
      rw [height, List.map_cons, List.max?_cons', List.foldl_cons, Nat.zero_max]
      exact nofun
    obtain ⟨hmem, hle⟩ := List.max?_eq_some_iff.mp hmax
    obtain ⟨c', hc', hlength⟩ := List.mem_map.mp hmem
    refine ⟨⟨c', hc', hlength⟩, ?_⟩
    rintro k ⟨c'', hc'', rfl⟩
    exact hle _ (List.mem_map_of_mem hc'')

/-- No column is longer than there are lines. -/
theorem length_le_height {c : List String} (hc : c ∈ columns) : c.length ≤ height columns :=
  ((isHeight_height columns).2 (List.ne_nil_of_mem hc)).2 ⟨c, hc, rfl⟩

/-- What the strict policy refuses is a matter of two columns. -/
theorem mismatched_iff (h : [] ∉ columns) :
    Mismatched columns ↔
      ((columns.map List.length).all fun k => k == 1 || k == height columns) = false := by
  rw [← Bool.not_eq_true, List.all_eq_true]
  constructor
  · -- of two different lengths, one is not the greatest
    rintro ⟨c, hc, c', hc', hlt, hlt', hne⟩ hall
    have hone : ∀ c ∈ columns, 1 < c.length → c.length = height columns := by
      intro c hc hlt
      have := hall c.length (List.mem_map_of_mem hc)
      simp only [Bool.or_eq_true, beq_iff_eq] at this
      omega
    exact hne ((hone c hc hlt).trans (hone c' hc' hlt').symm)
  · -- a length that is not the greatest is different from the greatest, which some column has
    intro hall
    simp only [List.mem_map, not_forall, Bool.or_eq_true, beq_iff_eq, not_or] at hall
    obtain ⟨_, ⟨c, hc, rfl⟩, hone, hne⟩ := hall
    obtain ⟨c', hc', hheight⟩ := ((isHeight_height columns).2 (List.ne_nil_of_mem hc)).1
    have hpos : c.length ≠ 0 := fun hzero => h (List.length_eq_zero_iff.mp hzero ▸ hc)
    have hle := length_le_height hc
    exact ⟨c, hc, c', hc', by omega, by omega, by omega⟩

/-! ## Policies -/

/-- A column without tokens leaves no lines, whatever the policy. -/
theorem lines_of_mem (h : [] ∈ columns) (policy : Policy) : lines policy columns = .ok [] := by
  have hzero : (columns.map List.length).contains 0 = true :=
    List.contains_iff_mem.mpr (List.mem_map.mpr ⟨[], h, rfl⟩)
  unfold lines
  simp only [hzero, if_true]

section

variable (h : [] ∉ columns)
include h

theorem contains_zero_of_not_mem : (columns.map List.length).contains 0 = false := by
  rw [← Bool.not_eq_true, List.contains_iff_mem, List.mem_map]
  rintro ⟨c, hc, hlength⟩
  exact h (List.length_eq_zero_iff.mp hlength ▸ hc)

/-- There is a line for every token of the longest column. -/
theorem lines_cycle :
    lines .cycle columns =
      .ok ((List.range (height columns)).map (line (columns.map List.toArray))) := by
  unfold lines
  simp only [contains_zero_of_not_mem h, Bool.false_eq_true, if_false]

theorem lines_unknown (name : String) : lines (.unknown name) columns = .error (.policy name) := by
  unfold lines
  simp only [contains_zero_of_not_mem h, Bool.false_eq_true, if_false]

theorem lines_strict_of_mismatched (hm : Mismatched columns) :
    lines .strict columns = .error (.lengths (columns.map List.length)) := by
  unfold lines
  simp only [contains_zero_of_not_mem h, (mismatched_iff h).mp hm, Bool.false_eq_true, if_false]

/-- What the strict policy lets pass is combined as without it. -/
theorem lines_strict_of_not_mismatched (hm : ¬ Mismatched columns) :
    lines .strict columns = lines .cycle columns := by
  rw [mismatched_iff h, Bool.not_eq_false] at hm
  rw [lines_cycle h]
  unfold lines
  simp only [contains_zero_of_not_mem h, hm, Bool.false_eq_true, if_false, if_true]

end

/-! ## Recycling -/

/-- What becomes of some columns. If one of them has no tokens, there are no lines. Otherwise there
are as many lines as the longest column has tokens, each made up of a row; a token stands in the row
of its own index at the place of its column. The strict policy comes to the same unless it refuses
the columns, which it does if and only if all of them have tokens and two do not match, and then it
names all lengths. No line is made where a column has no length to divide by. -/
structure Recycled (columns : List (List String)) : Prop where
  blank : [] ∈ columns → ∀ policy, lines policy columns = .ok []
  cycle : [] ∉ columns → ∃ rows : List (List String),
    lines .cycle columns = .ok (rows.map String.join) ∧ IsHeight columns rows.length ∧
      (∀ (i : Nat) (row : List String), rows[i]? = some row → row? columns i = some row) ∧
        ∀ (j k : Nat) (column : List String) (t : String),
          columns[j]? = some column → column[k]? = some t →
            ∃ row, rows[k]? = some row ∧ row[j]? = some t
  strict : ¬ Mismatched columns → lines .strict columns = lines .cycle columns
  refused : ∀ f, (lines .strict columns).mapError Failure.ofRefusal = .error f ↔
    [] ∉ columns ∧ Mismatched columns ∧
      f = .of (.recycling (columns.map fun c => (c.length : Int)))
  divisor : ∀ policy ls, lines policy columns = .ok ls → ls ≠ [] → ∀ c ∈ columns, 0 < c.length

/-- Every list of columns is recycled in this way. -/
theorem recycled (columns : List (List String)) : Recycled columns where
  blank := lines_of_mem
  cycle h := by
    refine ⟨(List.range (height columns)).map fun i =>
      (columns.map List.toArray).map (tokenAt · i), ?_, ?_, ?_, ?_⟩
    · rw [lines_cycle h, List.map_map]
      rfl
    · rw [List.length_map, List.length_range]
      exact isHeight_height columns
    · intro i row hrow
      obtain ⟨hlt, rfl⟩ := List.getElem?_eq_some_iff.mp hrow
      rw [row?_of_not_mem h, List.getElem_map, List.getElem_range]
    · intro j k column t hc ht
      have hk : k < height columns :=
        Nat.lt_of_lt_of_le (List.getElem?_eq_some_iff.mp ht).1
          (length_le_height (List.mem_of_getElem? hc))
      refine ⟨(columns.map List.toArray).map (tokenAt · k), ?_, ?_⟩
      · rw [List.getElem?_map, List.getElem?_range hk, Option.map_some]
      · rw [List.getElem?_map, List.getElem?_map, hc, Option.map_some, Option.map_some,
          tokenAt_of_getElem? ht]
  strict hm := by
    by_cases h : [] ∈ columns
    · rw [lines_of_mem h, lines_of_mem h]
    · exact lines_strict_of_not_mismatched h hm
  refused f := by
    by_cases h : [] ∈ columns
    · rw [lines_of_mem h]
      exact ⟨nofun, fun hf => absurd h hf.1⟩
    by_cases hm : Mismatched columns
    · rw [lines_strict_of_mismatched h hm]
      have hfailure : Failure.ofRefusal (.lengths (columns.map List.length)) =
          .of (.recycling (columns.map fun c => (c.length : Int))) := by
        rw [Failure.ofRefusal, List.map_map]
        rfl
      rw [Except.mapError, hfailure, Except.error.injEq]
      exact ⟨fun hf => ⟨h, hm, hf.symm⟩, fun hf => hf.2.2.symm⟩
    · rw [lines_strict_of_not_mismatched h hm, lines_cycle h]
      exact ⟨nofun, fun hf => absurd hf.2.1 hm⟩
  divisor policy ls hls hne c hc := by
    refine List.length_pos_iff.mpr fun hnil => hne ?_
    rw [lines_of_mem (hnil ▸ hc), Except.ok.injEq] at hls
    exact hls.symm

/-- A column of one token goes with any other; two columns of two and three tokens do not go with
each other, except next to a column without tokens. -/
example :
    lines .strict [["a", "b"], ["-"], ["c", "d"]] = .ok ["a-c", "b-d"] ∧
      lines .cycle [["a", "b"], ["c", "d", "e"]] = .ok ["ac", "bd", "ae"] ∧
      lines .strict [["a", "b"], ["c", "d", "e"]] = .error (.lengths [2, 3]) ∧
      lines .strict [["a", "b"], ["c", "d", "e"], []] = .ok [] := by
  decide +kernel

end Splice.Recycling
