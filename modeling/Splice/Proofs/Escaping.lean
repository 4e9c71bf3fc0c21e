import Splice.Proofs.Written

/-!
# Blocks that escape their markers

Without nesting, a marker inside a block is doubled as it is in literal text, but the two are read
in a different order: a block asks for its closing marker first. A run of closing markers behind a
block is therefore read into the block as far as it goes in pairs, which is why a literal behind a
block cannot begin with the closing marker and why code cannot begin with the opening one. With
these two exceptions everything that can be said can be written, and in one way only:
`scan_iff_escaped`.
-/

namespace Splice.Delimiters

open Passage

section

variable {o c : Char} (h : o ≠ c)

include h

/-- A doubled marker in code. -/
theorem flatBody_marker {x : Char} (hx : x = o ∨ x = c) (s : List Char) :
    (pair o c false h).flatBody (x :: x :: s) =
      ((pair o c false h).flatBody s).cons [x] [x, x] := by
  rcases hx with rfl | rfl
  · simp [flatBody_cons, after?_singleton_of_ne h]
  · simp [flatBody_cons]

/-- Any other character in code. -/
theorem flatBody_plain {x : Char} (ho : x ≠ o) (hc : x ≠ c) (s : List Char) :
    (pair o c false h).flatBody (x :: s) = ((pair o c false h).flatBody s).cons [x] [x] := by
  simp [flatBody_cons, after?_singleton_of_ne ho, after?_singleton_of_ne hc]

/-- A single closing marker ends the code. -/
theorem flatBody_closing {s : List Char} (hs : s.head? ≠ some c) :
    (pair o c false h).flatBody (c :: s) = .closed [] [c] s := by
  simp [flatBody_cons, after?_singleton_eq_none.mpr hs]

/-- Code with its markers doubled reads as the code, whatever is written behind it. -/
theorem flatBody_doubled (k r : List Char) :
    (pair o c false h).flatBody (doubled o c k ++ r) =
      ((pair o c false h).flatBody r).cons k (doubled o c k) := by
  induction k with
  | nil => rw [doubled_nil, List.nil_append, Body.cons_nil]
  | cons x k ih =>
    by_cases hx : x = o ∨ x = c
    · rw [doubled_cons_marker hx, List.cons_append, List.cons_append, flatBody_marker h hx, ih,
        Body.cons_cons]
      rfl
    · rw [not_or] at hx
      rw [doubled_cons_plain hx.1 hx.2, List.cons_append, flatBody_plain h hx.1 hx.2, ih,
        Body.cons_cons]
      rfl

/-- A block that is closed was written by doubling the markers of its code, and its closing marker
is a single one. -/
theorem flatBody_spec {s k raw rest : List Char}
    (hs : (pair o c false h).flatBody s = .closed k raw rest) :
    raw = doubled o c k ++ [c] ∧ rest.head? ≠ some c := by
  fun_induction flatBody (pair o c false h) s generalizing k raw rest with
  | case1 => simp at hs
  | case2 x s r hr r' hr' ih =>
    -- a doubled closing marker
    obtain ⟨k', raw', hb, rfl, rfl⟩ := Body.cons_eq_closed.mp hs
    obtain ⟨rfl, hrest⟩ := ih hb
    exact ⟨by simp [doubled_cons_marker], hrest⟩
  | case3 x s r hr hr' =>
    -- the closing marker of the block: what comes next is no second one
    simp only [Body.closed.injEq] at hs
    obtain ⟨rfl, rfl, rfl⟩ := hs
    exact ⟨rfl, after?_singleton_eq_none.mp hr'⟩
  | case4 x s hc r hr r' hr' ih =>
    -- a doubled opening marker
    obtain ⟨k', raw', hb, rfl, rfl⟩ := Body.cons_eq_closed.mp hs
    obtain ⟨rfl, hrest⟩ := ih hb
    exact ⟨by simp [doubled_cons_marker], hrest⟩
  | case5 => simp at hs
  | case6 x s hc ho ih =>
    -- any other character
    obtain ⟨k', raw', hb, rfl, rfl⟩ := Body.cons_eq_closed.mp hs
    obtain ⟨rfl, hrest⟩ := ih hb
    rw [opening_pair, after?_singleton_eq_none] at ho
    rw [closing_pair, after?_singleton_eq_none] at hc
    refine ⟨?_, hrest⟩
    rw [List.singleton_append, List.singleton_append,
      doubled_cons_plain (by simpa using ho) (by simpa using hc), List.cons_append]

/-- The first character of code that is spelled with its markers doubled. -/
theorem head?_doubled_closing (k rest : List Char) :
    (doubled o c k ++ c :: rest).head? ≠ some o ↔ k.head? ≠ some o := by
  rw [List.head?_append, head?_doubled]
  cases k with
  | nil => simpa using h.symm
  | cons x k => simp

/-- Reading blocks without nesting. -/
theorem escapeGrammar : BlockGrammar false h (doubled o c) (fun k => k.head? ≠ some o)
    (fun t => t.head? ≠ some c) where
  closed_iff := by
    intro s k raw rest hs
    have hbody : (pair o c false h).body s = (pair o c false h).flatBody s := rfl
    rw [hbody]
    constructor
    · intro hb
      have happ := flatBody_append hb
      obtain ⟨rfl, hrest⟩ := flatBody_spec h hb
      rw [List.append_assoc, List.singleton_append] at happ
      rw [← happ, head?_doubled_closing h] at hs
      exact ⟨hs, hrest, rfl, happ.symm⟩
    · rintro ⟨-, hrest, rfl, rfl⟩
      rw [flatBody_doubled, flatBody_closing h hrest, Body.cons_closed, List.append_nil]
  head?_ne := fun rest hk => (head?_doubled_closing h _ rest).mpr hk
  after_nil := by simp
  after_opening := fun s => by simpa using h
  after_doubled := by
    intro t r ht
    rw [List.head?_append, head?_doubled]
    obtain ⟨x, t, rfl⟩ := List.exists_cons_of_ne_nil ht
    simp

end

/-- Passages that can be told from how they are escaped: no literal is empty, no code begins with
the opening marker, no literal follows a literal, and none behind a block begins with the closing
marker. -/
def Escapable (o c : Char) : List Passage → Prop :=
  Canonical (fun k => k.head? ≠ some o) (fun t => t.head? ≠ some c)

/-- Passages one after another with the markers doubled in literal text and in code. -/
def escaped (o c : Char) (ps : List Passage) : String :=
  String.ofList (writtenAll o c (doubled o c) ps)

/-- Two different characters are accepted as markers, and with them the scan undoes escaping: what
can be told from how it is escaped comes back with the pieces that it was escaped to, whatever scans
was escaped from what comes out, and so a template scans if and only if it was escaped from exactly
one list of such passages. -/
theorem scan_iff_escaped {o c : Char} (h : o ≠ c) :
    make? (String.singleton o) (String.singleton c) false = .ok (pair o c false h) ∧
      (∀ ps, Escapable o c ps →
        (pair o c false h).scan (escaped o c ps) = ⟨placed o c (doubled o c) 0 ps, none⟩) ∧
      (∀ template segs, ((pair o c false h).scan template).result = .ok segs →
        Escapable o c (segs.map Segment.passage) ∧
          escaped o c (segs.map Segment.passage) = template) ∧
      ∀ template, (∃ segs, ((pair o c false h).scan template).result = .ok segs) ↔
        ∃! ps, Escapable o c ps ∧ escaped o c ps = template :=
  ⟨make?_pair false h, (escapeGrammar h).scan_iff_written⟩

/-- A run of closing markers goes into the block in front of it as far as there are pairs, and a run
of opening markers into the literal. -/
theorem scan_marker_runs :
    '<' ≠ '>' ∧ Escapable '<' '>' [.literal ['<'], .block ['x', '>'], .block ['y']] ∧
      (pair '<' '>' false (by decide)).scan "<<<x>>><y>" =
        ⟨[.literal "<" ⟨"<<", ⟨0, 2⟩⟩, .block "x>" ⟨"<x>>>", ⟨2, 7⟩⟩, .block "y" ⟨"<y>", ⟨7, 10⟩⟩],
          none⟩ := by
  have hps : Escapable '<' '>' [.literal ['<'], .block ['x', '>'], .block ['y']] :=
    ⟨by simp, by simp, by simp [Follows]⟩
  exact ⟨by decide, hps, (scan_iff_escaped (by decide)).2.1 _ hps⟩

end Splice.Delimiters
