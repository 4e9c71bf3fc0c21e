import Splice.Delimiters
import Splice.Segment

/-!
# Scanning

A scan reads a template from left to right and splits it into segments. Outside blocks a doubled
marker stands for the marker itself; a single opening marker starts a block, and a single closing
marker is an error. Inside a block the same doubling applies, the first single closing marker ends
the block, and a single opening marker is an error; with nesting, markers are counted instead,
quoted texts are skipped, and the code is taken as it stands.

The scan is driven by one step, which yields the next segment and the rest of the template. Whoever
asks for one segment at a time and whoever asks for all of them use the same step, so they cannot
disagree. The rest is always shorter (`Delimiters.length_of_step`), which is why scanning ends.
-/

namespace Splice

namespace Delimiters

/-! ## Literal text -/

/-- What comes after a run of literal text. -/
inductive RunEnd where
  /-- The end of the template. -/
  | finished
  /-- A block, whose code starts here. -/
  | block (code : List Char)
  /-- A single closing marker. -/
  | stray
  deriving DecidableEq, Repr

/-- A run of literal text: what it says, what it was written as, and what follows. -/
structure Run where
  text : List Char
  raw : List Char
  rest : List Char
  ending : RunEnd
  deriving DecidableEq, Repr

/-- A run with more literal text in front of it. -/
def Run.cons (text raw : List Char) (r : Run) : Run :=
  { r with text := text ++ r.text, raw := raw ++ r.raw }

/-- The run of literal text at the start of a text. -/
def literalRun (d : Delimiters) (s : List Char) : Run :=
  match s with
  | [] => ⟨[], [], [], .finished⟩
  | c :: cs =>
    match _ : after? d.opening (c :: cs) with
    | some r =>
      match _ : after? d.opening r with
      | some r' => (literalRun d r').cons d.opening (d.opening ++ d.opening)
      | none => ⟨[], [], c :: cs, .block r⟩
    | none =>
      match _ : after? d.closing (c :: cs) with
      | some r =>
        match _ : after? d.closing r with
        | some r' => (literalRun d r').cons d.closing (d.closing ++ d.closing)
        | none => ⟨[], [], c :: cs, .stray⟩
      | none => (literalRun d cs).cons [c] [c]
termination_by s.length
decreasing_by
  · exact Nat.lt_trans (length_lt_of_after? d.opening_ne ‹after? d.opening r = some r'›)
      (length_lt_of_after? d.opening_ne ‹after? d.opening (c :: cs) = some r›)
  · exact Nat.lt_trans (length_lt_of_after? d.closing_ne ‹after? d.closing r = some r'›)
      (length_lt_of_after? d.closing_ne ‹after? d.closing (c :: cs) = some r›)
  · simp

/-! ## Blocks -/

/-- What comes of reading a block after its opening marker. -/
inductive Body where
  /-- The block is closed: its code, what was read (with the closing marker), and what follows. -/
  | closed (code raw rest : List Char)
  | unclosed
  /-- A single opening marker after this many characters. -/
  | opened (offset : Nat)
  deriving DecidableEq, Repr

/-- A block with more in front: characters of the code, and what they were written as. -/
def Body.cons (code raw : List Char) : Body → Body
  | closed c r rest => closed (code ++ c) (raw ++ r) rest
  | unclosed => unclosed
  | opened k => opened (raw.length + k)

/-- Reads a block without nesting. The closing marker is looked for first, so that equal markers can
close what they open. -/
def flatBody (d : Delimiters) (s : List Char) : Body :=
  match s with
  | [] => .unclosed
  | c :: cs =>
    match _ : after? d.closing (c :: cs) with
    | some r =>
      match _ : after? d.closing r with
      | some r' => (flatBody d r').cons d.closing (d.closing ++ d.closing)
      | none => .closed [] d.closing r
    | none =>
      match _ : after? d.opening (c :: cs) with
      | some r =>
        match _ : after? d.opening r with
        | some r' => (flatBody d r').cons d.opening (d.opening ++ d.opening)
        | none => .opened 0
      | none => (flatBody d cs).cons [c] [c]
termination_by s.length
decreasing_by
  · exact Nat.lt_trans (length_lt_of_after? d.closing_ne ‹after? d.closing r = some r'›)
      (length_lt_of_after? d.closing_ne ‹after? d.closing (c :: cs) = some r›)
  · exact Nat.lt_trans (length_lt_of_after? d.opening_ne ‹after? d.opening r = some r'›)
      (length_lt_of_after? d.opening_ne ‹after? d.opening (c :: cs) = some r›)
  · simp

/-- Reads a block with nesting: `depth` blocks are open inside it, and `quote` is the quote that
encloses the current position. Inside quotes a backslash takes the next character with it. -/
def nestedBody (d : Delimiters) (depth : Nat) (quote : Option Char) (s : List Char) : Body :=
  match quote, s with
  | _, [] => .unclosed
  | some q, c :: cs =>
    if c = '\\' then
      match cs with
      | [] => .unclosed
      | x :: rest => (nestedBody d depth (some q) rest).cons [c, x] [c, x]
    else (nestedBody d depth (if c = q then none else some q) cs).cons [c] [c]
  | none, c :: cs =>
    if isQuote c then (nestedBody d depth (some c) cs).cons [c] [c]
    else
      match _ : after? d.closing (c :: cs) with
      | some r =>
        match depth with
        | 0 => .closed [] d.closing r
        | k + 1 => (nestedBody d k none r).cons d.closing d.closing
      | none =>
        match _ : after? d.opening (c :: cs) with
        | some r => (nestedBody d (depth + 1) none r).cons d.opening d.opening
        | none => (nestedBody d depth none cs).cons [c] [c]
termination_by s.length
decreasing_by
  all_goals first
    | exact length_lt_of_after? d.closing_ne ‹after? d.closing (c :: cs) = some r›
    | exact length_lt_of_after? d.opening_ne ‹after? d.opening (c :: cs) = some r›
    | (simp_all; try omega)

/-- Reads a block after its opening marker. -/
def body (d : Delimiters) (s : List Char) : Body :=
  if d.nested then d.nestedBody 0 none s else d.flatBody s

/-! ## Steps -/

/-- What the next segment of a template is. -/
inductive Step where
  | done
  | failed (error : ScanError)
  | segment (segment : Segment) (rest : List Char)
  deriving DecidableEq, Repr

/-- The step that reads a block: `position` is that of its opening marker. -/
def blockStep (d : Delimiters) (position : Nat) (code : List Char) : Step :=
  match d.body code with
  | .closed text raw rest =>
    .segment (.block (String.ofList text) (.at position (d.opening ++ raw))) rest
  | .unclosed => .failed (.unmatched position (String.ofList d.opening))
  | .opened k =>
    .failed (.nesting (position + d.opening.length + k) (String.ofList d.opening))

/-- The next segment of a template of which `s` is left at `position`. Literal text comes out as
soon as a block follows it, whatever becomes of the block. -/
def step (d : Delimiters) (position : Nat) (s : List Char) : Step :=
  let run := d.literalRun s
  match run.ending, run.text with
  | .stray, _ =>
    .failed (.unmatched (position + run.raw.length) (String.ofList d.closing))
  | .block code, [] => d.blockStep position code
  | .finished, [] => .done
  | _, text => .segment (.literal (String.ofList text) (.at position run.raw)) run.rest

/-! ## The rest is shorter -/

theorem literalRun_append (d : Delimiters) (s : List Char) :
    (d.literalRun s).raw ++ (d.literalRun s).rest = s := by
  fun_induction literalRun d s with
  | case1 => rfl
  | case2 c cs r h r' h' ih =>
    rw [after?_eq_some_iff.mp h, after?_eq_some_iff.mp h']
    simp [Run.cons, ih]
  | case3 => rfl
  | case4 c cs ho r h r' h' ih =>
    rw [after?_eq_some_iff.mp h, after?_eq_some_iff.mp h']
    simp [Run.cons, ih]
  | case5 => rfl
  | case6 c cs _ _ ih => simp [Run.cons, ih]

/-- The code that a run stops at follows an opening marker. -/
theorem rest_of_literalRun_block {d : Delimiters} {s code : List Char}
    (h : (d.literalRun s).ending = .block code) :
    (d.literalRun s).rest = d.opening ++ code := by
  fun_induction literalRun d s with
  | case1 => simp at h
  | case2 c cs r _ r' _ ih => exact ih h
  | case3 c cs r hr _ =>
    obtain rfl : r = code := by simpa using h
    exact after?_eq_some_iff.mp hr
  | case4 c cs _ r _ r' _ ih => exact ih h
  | case5 => simp at h
  | case6 c cs _ _ ih => exact ih h

/-- A run writes at least as much as it says. -/
theorem length_text_le (d : Delimiters) (s : List Char) :
    (d.literalRun s).text.length ≤ (d.literalRun s).raw.length := by
  fun_induction literalRun d s <;> simp_all [Run.cons] <;> omega

/-- Only a closed block can be closed with more in front of it. -/
theorem Body.cons_eq_closed {b : Body} {c w code raw rest : List Char} :
    b.cons c w = .closed code raw rest ↔
      ∃ code' raw', b = .closed code' raw' rest ∧ code = c ++ code' ∧ raw = w ++ raw' := by
  cases b with
  | closed c' w' t' =>
    constructor
    · intro h
      simp only [Body.cons, Body.closed.injEq] at h
      exact ⟨c', w', by rw [h.2.2], h.1.symm, h.2.1.symm⟩
    · rintro ⟨c'', w'', h, rfl, rfl⟩
      simp only [Body.closed.injEq] at h
      simp [Body.cons, h]
  | unclosed => simp [Body.cons]
  | opened k => simp [Body.cons]

theorem flatBody_append {d : Delimiters} {s code raw rest : List Char}
    (h : d.flatBody s = .closed code raw rest) : raw ++ rest = s := by
  fun_induction flatBody d s generalizing code raw rest with
  | case1 => simp at h
  | case2 c cs r hr r' hr' ih =>
    obtain ⟨code', raw', hb, rfl, rfl⟩ := Body.cons_eq_closed.mp h
    rw [after?_eq_some_iff.mp hr, after?_eq_some_iff.mp hr', ← ih hb]
    simp
  | case3 c cs r hr _ =>
    simp only [Body.closed.injEq] at h
    obtain ⟨-, rfl, rfl⟩ := h
    exact (after?_eq_some_iff.mp hr).symm
  | case4 c cs _ r hr r' hr' ih =>
    obtain ⟨code', raw', hb, rfl, rfl⟩ := Body.cons_eq_closed.mp h
    rw [after?_eq_some_iff.mp hr, after?_eq_some_iff.mp hr', ← ih hb]
    simp
  | case5 => simp at h
  | case6 c cs _ _ ih =>
    obtain ⟨code', raw', hb, rfl, rfl⟩ := Body.cons_eq_closed.mp h
    simp [ih hb]

theorem nestedBody_append {d : Delimiters} {depth : Nat} {q : Option Char}
    {s code raw rest : List Char} (h : d.nestedBody depth q s = .closed code raw rest) :
    raw ++ rest = s := by
  fun_induction nestedBody d depth q s generalizing code raw rest with
  | case1 => simp at h
  | case2 => simp at h
  | case3 depth q x t ih =>
    obtain ⟨code', raw', hb, rfl, rfl⟩ := Body.cons_eq_closed.mp h
    simp [ih hb]
  | case4 depth q c cs _ ih =>
    obtain ⟨code', raw', hb, rfl, rfl⟩ := Body.cons_eq_closed.mp h
    simp [ih hb]
  | case5 depth c cs _ ih =>
    obtain ⟨code', raw', hb, rfl, rfl⟩ := Body.cons_eq_closed.mp h
    simp [ih hb]
  | case6 c cs _ r hr =>
    simp only [Body.closed.injEq] at h
    obtain ⟨-, rfl, rfl⟩ := h
    exact (after?_eq_some_iff.mp hr).symm
  | case7 c cs _ r hr k ih =>
    obtain ⟨code', raw', hb, rfl, rfl⟩ := Body.cons_eq_closed.mp h
    rw [after?_eq_some_iff.mp hr, ← ih hb]
    simp
  | case8 depth c cs _ _ r hr ih =>
    obtain ⟨code', raw', hb, rfl, rfl⟩ := Body.cons_eq_closed.mp h
    rw [after?_eq_some_iff.mp hr, ← ih hb]
    simp
  | case9 depth c cs _ _ _ ih =>
    obtain ⟨code', raw', hb, rfl, rfl⟩ := Body.cons_eq_closed.mp h
    simp [ih hb]

theorem body_append {d : Delimiters} {s code raw rest : List Char}
    (h : d.body s = .closed code raw rest) : raw ++ rest = s := by
  unfold body at h
  split at h
  · exact nestedBody_append h
  · exact flatBody_append h

/-- A run without text wrote nothing. -/
theorem raw_of_text_eq_nil {d : Delimiters} {s : List Char}
    (h : (d.literalRun s).text = []) : (d.literalRun s).raw = [] := by
  fun_induction literalRun d s with
  | case1 => rfl
  | case2 => simp [Run.cons, d.opening_ne] at h
  | case3 => rfl
  | case4 => simp [Run.cons, d.closing_ne] at h
  | case5 => rfl
  | case6 => simp [Run.cons] at h

/-- Every segment takes something from the template. -/
theorem length_of_step {d : Delimiters} {p : Nat} {s rest : List Char} {seg : Segment}
    (h : d.step p s = .segment seg rest) : rest.length < s.length := by
  have whole := congrArg List.length (literalRun_append d s)
  have said := length_text_le d s
  simp only [List.length_append] at whole
  simp only [step] at h
  split at h
  · simp at h
  · rename_i code hcode htext
    have hraw := raw_of_text_eq_nil htext
    have hrest := rest_of_literalRun_block hcode
    unfold blockStep at h
    split at h
    · rename_i c w t hb
      simp only [Step.segment.injEq] at h
      have := congrArg List.length (body_append hb)
      rw [hraw, hrest] at whole
      have := List.length_pos_iff.mpr d.opening_ne
      simp only [List.length_append, List.length_nil] at *
      rw [← h.2]
      omega
    · simp at h
    · simp at h
  · simp at h
  · rename_i htext _ _ _ _
    simp only [Step.segment.injEq] at h
    have : (d.literalRun s).text ≠ [] := by
      intro hnil
      cases hend : (d.literalRun s).ending <;> simp_all
    have := List.length_pos_iff.mpr this
    rw [← h.2]
    omega

/-! ## Whole scans -/

/-- All segments of a template of which `s` is left at `position`, and the error that ends them. -/
def scanFrom (d : Delimiters) (position : Nat) (s : List Char) :
    List Segment × Option ScanError :=
  match _ : d.step position s with
  | .done => ([], none)
  | .failed e => ([], some e)
  | .segment seg rest =>
    let (more, error) := scanFrom d seg.source.span.stop.toNat rest
    (seg :: more, error)
termination_by s.length
decreasing_by exact length_of_step ‹d.step position s = .segment seg rest›

end Delimiters

/-- The segments of a template, up to its end or to the error that stops the scan. -/
structure Scan where
  segments : List Segment
  error : Option ScanError
  deriving DecidableEq, Repr

namespace Scan

/-- The segments of a scan that reached the end. -/
def result (s : Scan) : Except ScanError (List Segment) :=
  match s.error with
  | none => .ok s.segments
  | some e => .error e

end Scan

/-- Scans a whole template. -/
def Delimiters.scan (d : Delimiters) (template : String) : Scan :=
  let (segments, error) := d.scanFrom 0 template.toList
  ⟨segments, error⟩

end Splice
