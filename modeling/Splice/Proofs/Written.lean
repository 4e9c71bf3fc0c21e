import Splice.Proofs.Passage
import Splice.Proofs.Scanning

/-!
# Scanning what was written

For markers of one character each, the scan undoes the writing of passages, and every template that
scans was written from the passages that come out. The two ways of reading blocks differ in how code
is spelled, in which codes can be read, and in what may stand behind a closed block; `BlockGrammar`
collects what has to be known about one of them. Everything about runs of markers that go across the
border of two segments is proved once, from these assumptions: `scan_iff_written`.
-/

namespace Splice

namespace Delimiters

open Passage

/-! ## Markers of one character -/

/-- Two different characters as markers. -/
def pair (o c : Char) (nested : Bool) (h : o ≠ c) : Delimiters :=
  ⟨[o], [c], nested, by simp, by simp, fun _ => by simpa using h⟩

@[simp] theorem opening_pair (o c : Char) (nested : Bool) (h : o ≠ c) :
    (pair o c nested h).opening = [o] := rfl

@[simp] theorem closing_pair (o c : Char) (nested : Bool) (h : o ≠ c) :
    (pair o c nested h).closing = [c] := rfl

/-- These are the delimiters that a caller gets for two different characters. -/
theorem make?_pair {o c : Char} (nested : Bool) (h : o ≠ c) :
    make? (String.singleton o) (String.singleton c) nested = .ok (pair o c nested h) := by
  simp [make?, pair, h]

@[simp] theorem after?_singleton_self (m : Char) (s : List Char) :
    after? [m] (m :: s) = some s := by
  simp [after?]

theorem after?_singleton_eq_none {m : Char} {s : List Char} :
    after? [m] s = none ↔ s.head? ≠ some m := by
  cases s with
  | nil => simp [after?]
  | cons x s => by_cases h : m = x <;> simp [after?, h, eq_comm]

theorem after?_singleton_of_ne {m x : Char} (h : x ≠ m) (s : List Char) :
    after? [m] (x :: s) = none :=
  after?_singleton_eq_none.mpr (by simpa using h)

theorem Run.cons_cons (t w t' w' : List Char) (r : Run) :
    (r.cons t w).cons t' w' = r.cons (t' ++ t) (w' ++ w) := by
  simp [Run.cons]

theorem Body.cons_nil (b : Body) : b.cons [] [] = b := by
  cases b <;> simp [Body.cons]

theorem Body.cons_cons (k w k' w' : List Char) (b : Body) :
    (b.cons k w).cons k' w' = b.cons (k' ++ k) (w' ++ w) := by
  cases b <;> simp [Body.cons, Nat.add_assoc]

theorem Body.cons_closed (t w k raw rest : List Char) :
    (Body.closed k raw rest).cons t w = .closed (t ++ k) (w ++ raw) rest := rfl

/-- Where a run of literal text may stop without harm: at the end, or at a block. -/
def Stops (o : Char) (s : List Char) : Prop :=
  s = [] ∨ ∃ code, s = o :: code ∧ code.head? ≠ some o

/-- Literal text that is not empty stops at no place where literal text may stop. -/
theorem not_stops_doubled {o c : Char} {t : List Char} (ht : t ≠ []) (r : List Char) :
    ¬ Stops o (doubled o c t ++ r) := by
  obtain ⟨x, t, rfl⟩ := List.exists_cons_of_ne_nil ht
  by_cases hx : x = o ∨ x = c
  · rw [doubled_cons_marker hx]
    rintro (e | ⟨code, e, hcode⟩)
    · simp at e
    · simp only [List.cons_append, List.cons.injEq] at e
      obtain ⟨rfl, rfl⟩ := e
      simp at hcode
  · rw [not_or] at hx
    rw [doubled_cons_plain hx.1 hx.2]
    rintro (e | ⟨code, e, -⟩)
    · simp at e
    · exact hx.1 (List.cons.inj e).1

/-- What is written where literal text may stop does not begin with a literal. -/
theorem follows_literal_of_stops {o c : Char} {spell : List Char → List Char}
    {Code After : List Char → Prop} {ps : List Passage} (hps : Canonical Code After ps)
    (hs : Stops o (writtenAll o c spell ps)) {t : List Char} :
    ∀ x ∈ ps.head?, Follows After (literal t) x := by
  intro x hx
  obtain ⟨xs, rfl⟩ := List.head?_eq_some_iff.mp hx
  cases x with
  | literal t' => exact absurd hs (not_stops_doubled (hps.literals t' (by simp)) _)
  | block k => trivial

section

variable {o c : Char} {nested : Bool} (h : o ≠ c)

include h

/-- A doubled marker in literal text. -/
theorem literalRun_marker {x : Char} (hx : x = o ∨ x = c) (s : List Char) :
    (pair o c nested h).literalRun (x :: x :: s) =
      ((pair o c nested h).literalRun s).cons [x] [x, x] := by
  rcases hx with rfl | rfl
  · simp [literalRun_cons]
  · simp [literalRun_cons, after?_singleton_of_ne h.symm]

/-- Any other character in literal text. -/
theorem literalRun_plain {x : Char} (ho : x ≠ o) (hc : x ≠ c) (s : List Char) :
    (pair o c nested h).literalRun (x :: s) =
      ((pair o c nested h).literalRun s).cons [x] [x] := by
  simp [literalRun_cons, after?_singleton_of_ne ho, after?_singleton_of_ne hc]

/-- A text with its markers doubled reads as the text, whatever is written behind it. -/
theorem literalRun_doubled (t r : List Char) :
    (pair o c nested h).literalRun (doubled o c t ++ r) =
      ((pair o c nested h).literalRun r).cons t (doubled o c t) := by
  induction t with
  | nil => rfl
  | cons x t ih =>
    by_cases hx : x = o ∨ x = c
    · rw [doubled_cons_marker hx, List.cons_append, List.cons_append, literalRun_marker h hx, ih,
        Run.cons_cons]
      rfl
    · rw [not_or] at hx
      rw [doubled_cons_plain hx.1 hx.2, List.cons_append, literalRun_plain h hx.1 hx.2, ih,
        Run.cons_cons]
      rfl

/-- A single opening marker ends a run at once. -/
theorem literalRun_opening {s : List Char} (hs : s.head? ≠ some o) :
    (pair o c nested h).literalRun (o :: s) = ⟨[], [], o :: s, .block s⟩ := by
  simp [literalRun_cons, after?_singleton_eq_none.mpr hs]

/-- What a run of literal text leaves behind: the run was written by doubling its markers, and it
stops at the end, at a single opening marker, or at a single closing marker. -/
theorem literalRun_spec (nested : Bool) (s : List Char) :
    ((pair o c nested h).literalRun s).raw = doubled o c ((pair o c nested h).literalRun s).text ∧
      (match ((pair o c nested h).literalRun s).ending with
        | .finished => ((pair o c nested h).literalRun s).rest = []
        | .block code =>
          ((pair o c nested h).literalRun s).rest = o :: code ∧ code.head? ≠ some o
        | .stray => True) := by
  fun_induction literalRun (pair o c nested h) s with
  | case1 => exact ⟨rfl, rfl⟩
  | case2 x s r hr r' hr' ih =>
    obtain ⟨hraw, hend⟩ := ih
    exact ⟨by simp [Run.cons, hraw, doubled_cons_marker], hend⟩
  | case3 x s r hr hr' =>
    rw [opening_pair] at hr hr'
    exact ⟨rfl, after?_eq_some_iff.mp hr, after?_singleton_eq_none.mp hr'⟩
  | case4 x s _ r hr r' hr' ih =>
    obtain ⟨hraw, hend⟩ := ih
    exact ⟨by simp [Run.cons, hraw, doubled_cons_marker], hend⟩
  | case5 => exact ⟨rfl, trivial⟩
  | case6 x s ho hc ih =>
    obtain ⟨hraw, hend⟩ := ih
    rw [opening_pair, after?_singleton_eq_none] at ho
    rw [closing_pair, after?_singleton_eq_none] at hc
    refine ⟨?_, hend⟩
    simp only [Run.cons, hraw, List.singleton_append]
    rw [doubled_cons_plain (by simpa using ho) (by simpa using hc)]

/-- A step over literal text that is not empty. -/
theorem step_doubled {t r : List Char} (ht : t ≠ []) (hr : Stops o r) (p : Nat) :
    (pair o c nested h).step p (doubled o c t ++ r) =
      .segment ((literal t).readFrom p (doubled o c t)) r := by
  obtain ⟨x, t, rfl⟩ := List.exists_cons_of_ne_nil ht
  rw [step, literalRun_doubled]
  rcases hr with rfl | ⟨code, rfl, hcode⟩
  · simp [Run.cons, readFrom]
  · simp [literalRun_opening h hcode, Run.cons, readFrom]

/-- A step at a single opening marker reads a block. -/
theorem step_opening {s : List Char} (hs : s.head? ≠ some o) (p : Nat) :
    (pair o c nested h).step p (o :: s) = (pair o c nested h).blockStep p s := by
  rw [step, literalRun_opening h hs]

/-- A segment is either literal text up to a place where it may stop, or a block. -/
theorem cases_of_step {p : Nat} {s rest : List Char} {seg : Segment}
    (hs : (pair o c nested h).step p s = .segment seg rest) :
    (∃ t, t ≠ [] ∧ Stops o rest ∧ s = doubled o c t ++ rest ∧
        seg = (literal t).readFrom p (doubled o c t)) ∨
      ∃ code, s = o :: code ∧ code.head? ≠ some o ∧
        (pair o c nested h).blockStep p code = .segment seg rest := by
  have happ := literalRun_append (pair o c nested h) s
  obtain ⟨hraw, hspec⟩ := literalRun_spec h nested s
  rcases step_cases (pair o c nested h) p s with ⟨-, e⟩ | ⟨code, hend, htext, e⟩ | ⟨-, -, e⟩ |
    ⟨hend, htext, e⟩
  · simp [e] at hs
  · rw [hend] at hspec
    rw [hraw, htext, hspec.1] at happ
    exact .inr ⟨code, happ.symm, hspec.2, e ▸ hs⟩
  · simp [e] at hs
  · rw [e, Step.segment.injEq] at hs
    obtain ⟨rfl, rfl⟩ := hs
    refine .inl ⟨_, htext, ?_, by rw [← hraw, happ], by rw [hraw, readFrom]⟩
    cases hrun : ((pair o c nested h).literalRun s).ending with
    | finished => rw [hrun] at hspec; exact .inl hspec
    | block code => rw [hrun] at hspec; exact .inr ⟨code, hspec⟩
    | stray => exact absurd hrun hend

/-- A closed block is a step. -/
theorem blockStep_closed {s k raw rest : List Char}
    (hs : (pair o c nested h).body s = .closed k raw rest) (p : Nat) :
    (pair o c nested h).blockStep p s =
      .segment (.block (String.ofList k) (.at p (o :: raw))) rest :=
  blockStep_of_closed hs

theorem closed_of_blockStep {p : Nat} {s rest : List Char} {seg : Segment}
    (hs : (pair o c nested h).blockStep p s = .segment seg rest) :
    ∃ k raw, (pair o c nested h).body s = .closed k raw rest ∧
      seg = .block (String.ofList k) (.at p (o :: raw)) := by
  rw [blockStep] at hs
  split at hs
  · rename_i k raw rest' hb
    obtain ⟨rfl, rfl⟩ := Step.segment.inj hs
    exact ⟨k, raw, hb, rfl⟩
  · simp at hs
  · simp at hs

end

/-! ## Whole templates -/

/-- What has to be known about a way of reading blocks: which codes it accepts, how it reads them
back from how they are spelled, and what may stand behind the closing marker. -/
structure BlockGrammar {o c : Char} (nested : Bool) (h : o ≠ c) (spell : List Char → List Char)
    (Code After : List Char → Prop) : Prop where
  closed_iff : ∀ {s k raw rest : List Char}, s.head? ≠ some o →
    ((pair o c nested h).body s = .closed k raw rest ↔
      Code k ∧ After rest ∧ raw = spell k ++ [c] ∧ s = spell k ++ c :: rest)
  head?_ne : ∀ {k : List Char} (rest : List Char), Code k → (spell k ++ c :: rest).head? ≠ some o
  after_nil : After []
  after_opening : ∀ s : List Char, After (o :: s)
  after_doubled : ∀ {t : List Char} (r : List Char), t ≠ [] → (After (doubled o c t ++ r) ↔ After t)

namespace BlockGrammar

variable {o c : Char} {nested : Bool} {h : o ≠ c} {spell : List Char → List Char}
  {Code After : List Char → Prop} (g : BlockGrammar nested h spell Code After)

include g

/-- What may stand behind a block, seen from the passages and from how they are written. -/
theorem after_writtenAll_iff {ps : List Passage} (hps : Canonical Code After ps) (k : List Char) :
    After (writtenAll o c spell ps) ↔ ∀ x ∈ ps.head?, Follows After (block k) x := by
  cases ps with
  | nil => simpa using g.after_nil
  | cons x xs =>
    rw [writtenAll_cons]
    cases x with
    | literal t =>
      rw [written, g.after_doubled _ (hps.literals t (by simp))]
      simp [Follows]
    | block k' => simpa [written, Follows] using g.after_opening _

/-- Behind a literal, canonical passages are written so that literal text may stop there. -/
theorem stops_writtenAll {t : List Char} {xs : List Passage}
    (hxs : Canonical Code After (literal t :: xs)) : Stops o (writtenAll o c spell xs) := by
  obtain ⟨-, -, hf, hxs⟩ := Canonical.cons_iff.mp hxs
  cases xs with
  | nil => exact .inl rfl
  | cons x xs =>
    cases x with
    | literal t' => exact absurd (hf (literal t') rfl) id
    | block k =>
      refine .inr ⟨spell k ++ c :: writtenAll o c spell xs, by simp [written], ?_⟩
      exact g.head?_ne _ (hxs.codes k (by simp))

/-- The scan of canonical passages gives them back, each with the piece that it was written as. -/
theorem scanFrom_writtenAll {ps : List Passage} (hps : Canonical Code After ps) (p : Nat) :
    (pair o c nested h).scanFrom p (writtenAll o c spell ps) = (placed o c spell p ps, none) := by
  induction ps generalizing p with
  | nil => exact scanFrom_nil _ p
  | cons x xs ih =>
    have hxs := (Canonical.cons_iff.mp hps).2.2.2
    -- one step takes exactly the first passage off, because of what the next one begins with
    have hstep : (pair o c nested h).step p (writtenAll o c spell (x :: xs)) =
        .segment (x.readFrom p (x.written o c spell)) (writtenAll o c spell xs) := by
      rw [writtenAll_cons]
      cases x with
      | literal t => exact step_doubled h (hps.literals t (by simp)) (g.stops_writtenAll hps) p
      | block k =>
        have hk := hps.codes k (by simp)
        have hafter := (g.after_writtenAll_iff hxs k).mpr (Canonical.cons_iff.mp hps).2.2.1
        have hhead := g.head?_ne (writtenAll o c spell xs) hk
        have hbody := (g.closed_iff hhead).mpr ⟨hk, hafter, rfl, rfl⟩
        simp only [written, List.cons_append, List.append_assoc, List.nil_append]
        rw [step_opening h hhead, blockStep_closed h hbody]
        rfl
    rw [scanFrom_of_segment hstep, stop_readFrom, ih hxs]
    rfl

/-- A template that scans was written from canonical passages, those that come out. -/
theorem canonical_of_scanFrom {p : Nat} {s : List Char} {segs : List Segment}
    (hs : (pair o c nested h).scanFrom p s = (segs, none)) :
    Canonical Code After (segs.map Segment.passage) ∧
      writtenAll o c spell (segs.map Segment.passage) = s := by
  fun_induction scanFrom (pair o c nested h) p s generalizing segs with
  | case1 p s hstep =>
    obtain rfl := eq_nil_of_step_done hstep
    obtain rfl : [] = segs := congrArg Prod.fst hs
    exact ⟨.nil, rfl⟩
  | case2 => simp at hs
  | case3 p s seg rest hstep more error hrest ih =>
    -- the rest was written from canonical passages, and how it begins limits what stands in front
    obtain ⟨rfl, rfl⟩ := Prod.mk.inj hs
    obtain ⟨hmore, hwritten⟩ := ih hrest
    rw [List.map_cons]
    rcases cases_of_step h hstep with ⟨t, ht, hstop, rfl, rfl⟩ | ⟨code, rfl, hcode, hblock⟩
    · rw [passage_readFrom, writtenAll_cons, hwritten]
      refine ⟨Canonical.cons_iff.mpr ⟨?_, by simp, ?_, hmore⟩, rfl⟩
      · rintro t' ⟨⟩
        exact ht
      · exact follows_literal_of_stops hmore (hwritten ▸ hstop)
    · obtain ⟨k, raw, hbody, rfl⟩ := closed_of_blockStep h hblock
      obtain ⟨hk, hafter, rfl, rfl⟩ := (g.closed_iff hcode).mp hbody
      have hpassage : (Segment.block (String.ofList k) (.at p (o :: (spell k ++ [c])))).passage =
          block k := by simp [Segment.passage]
      rw [hpassage, writtenAll_cons, hwritten]
      refine ⟨Canonical.cons_iff.mpr ⟨by simp, ?_, ?_, hmore⟩, by simp [written]⟩
      · rintro k' ⟨⟩
        exact hk
      · exact (g.after_writtenAll_iff hmore k).mp (hwritten ▸ hafter)

/-- The scan and the writing of passages are inverse to each other: canonical passages come back
from how they are written, each with its own piece, and a template scans if and only if exactly one
list of canonical passages is written like it. -/
theorem scan_iff_written :
    (∀ ps, Canonical Code After ps →
      (pair o c nested h).scan (String.ofList (writtenAll o c spell ps)) =
        ⟨placed o c spell 0 ps, none⟩) ∧
      (∀ template segs, ((pair o c nested h).scan template).result = .ok segs →
        Canonical Code After (segs.map Segment.passage) ∧
          String.ofList (writtenAll o c spell (segs.map Segment.passage)) = template) ∧
      ∀ template, (∃ segs, ((pair o c nested h).scan template).result = .ok segs) ↔
        ∃! ps, Canonical Code After ps ∧ String.ofList (writtenAll o c spell ps) = template := by
  have hto : ∀ ps, Canonical Code After ps →
      (pair o c nested h).scan (String.ofList (writtenAll o c spell ps)) =
        ⟨placed o c spell 0 ps, none⟩ := by
    intro ps hps
    rw [Delimiters.scan, String.toList_ofList, g.scanFrom_writtenAll hps]
  have hfrom : ∀ template segs, ((pair o c nested h).scan template).result = .ok segs →
      Canonical Code After (segs.map Segment.passage) ∧
        String.ofList (writtenAll o c spell (segs.map Segment.passage)) = template := by
    intro template segs hs
    have hscan : (pair o c nested h).scanFrom 0 template.toList = (segs, none) := by
      rw [result_scan_eq_ok_iff] at hs
      exact hs
    obtain ⟨hcanonical, hwritten⟩ := g.canonical_of_scanFrom hscan
    exact ⟨hcanonical, by rw [hwritten, String.ofList_toList]⟩
  refine ⟨hto, hfrom, fun template => ⟨?_, ?_⟩⟩
  · rintro ⟨segs, hs⟩
    refine ⟨segs.map Segment.passage, hfrom template segs hs, ?_⟩
    rintro ps ⟨hps, rfl⟩
    obtain rfl : placed o c spell 0 ps = segs := by simpa [hto ps hps, Scan.result] using hs
    exact (map_passage_placed 0 ps).symm
  · rintro ⟨ps, ⟨hps, rfl⟩, -⟩
    exact ⟨placed o c spell 0 ps, by rw [hto ps hps]; rfl⟩

end BlockGrammar

end Delimiters

end Splice
