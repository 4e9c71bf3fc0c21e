import Splice.Scan

/-!
# The scan, one turn at a time

`literalRun`, `flatBody` and `nestedBody` recurse on what is left of the template, so each turn of
these loops is an equation here: what the marker at the front decides, and what is read after it.
`step_cases` says everything that one step of the scan can do, and `scanFrom_of_segment` how a scan
goes on after it. Statements about whole scans follow from these by induction; none of them opens
the definitions again.
-/

namespace Splice.Delimiters

/-! ## Turns of the loops -/

@[simp] theorem literalRun_nil (d : Delimiters) : d.literalRun [] = ⟨[], [], [], .finished⟩ := by
  rw [literalRun]

/-- One turn through literal text. -/
theorem literalRun_cons (d : Delimiters) (x : Char) (s : List Char) :
    d.literalRun (x :: s) =
      match after? d.opening (x :: s) with
      | some r =>
        match after? d.opening r with
        | some r' => (d.literalRun r').cons d.opening (d.opening ++ d.opening)
        | none => ⟨[], [], x :: s, .block r⟩
      | none =>
        match after? d.closing (x :: s) with
        | some r =>
          match after? d.closing r with
          | some r' => (d.literalRun r').cons d.closing (d.closing ++ d.closing)
          | none => ⟨[], [], x :: s, .stray⟩
        | none => (d.literalRun s).cons [x] [x] := by
  rw [literalRun]
  split
  · rename_i r h
    rw [h]
    split <;> rename_i h' <;> simp only [h']
  · rename_i h
    rw [h]
    split
    · rename_i r h
      rw [h]
      split <;> rename_i h' <;> simp only [h']
    · rename_i h'
      simp only [h']

/-- One turn through a block without nesting. -/
theorem flatBody_cons (d : Delimiters) (x : Char) (s : List Char) :
    d.flatBody (x :: s) =
      match after? d.closing (x :: s) with
      | some r =>
        match after? d.closing r with
        | some r' => (d.flatBody r').cons d.closing (d.closing ++ d.closing)
        | none => .closed [] d.closing r
      | none =>
        match after? d.opening (x :: s) with
        | some r =>
          match after? d.opening r with
          | some r' => (d.flatBody r').cons d.opening (d.opening ++ d.opening)
          | none => .opened 0
        | none => (d.flatBody s).cons [x] [x] := by
  rw [flatBody]
  split
  · rename_i r h
    rw [h]
    split <;> rename_i h' <;> simp only [h']
  · rename_i h
    rw [h]
    split
    · rename_i r h
      rw [h]
      split <;> rename_i h' <;> simp only [h']
    · rename_i h'
      simp only [h']

/-- A backslash inside quotes takes the next character with it. -/
theorem nestedBody_backslash (d : Delimiters) (depth : Nat) (q x : Char) (s : List Char) :
    d.nestedBody depth (some q) ('\\' :: x :: s) =
      (d.nestedBody depth (some q) s).cons ['\\', x] ['\\', x] := by
  rw [nestedBody.eq_def]
  rfl

/-- Inside quotes only the same quote matters. -/
theorem nestedBody_quoted (d : Delimiters) (depth : Nat) (q : Char) {x : Char} (h : x ≠ '\\')
    (s : List Char) :
    d.nestedBody depth (some q) (x :: s) =
      (d.nestedBody depth (if x = q then none else some q) s).cons [x] [x] := by
  rw [nestedBody.eq_def]
  exact if_neg h

/-- A quote in code hides what it encloses. -/
theorem nestedBody_quote (d : Delimiters) (depth : Nat) {q : Char} (h : isQuote q = true)
    (s : List Char) :
    d.nestedBody depth none (q :: s) = (d.nestedBody depth (some q) s).cons [q] [q] := by
  rw [nestedBody, if_pos h]

/-- One turn through code with nesting, outside quotes. -/
theorem nestedBody_cons (d : Delimiters) (depth : Nat) {x : Char} (h : isQuote x = false)
    (s : List Char) :
    d.nestedBody depth none (x :: s) =
      match after? d.closing (x :: s) with
      | some r =>
        match depth with
        | 0 => .closed [] d.closing r
        | k + 1 => (d.nestedBody k none r).cons d.closing d.closing
      | none =>
        match after? d.opening (x :: s) with
        | some r => (d.nestedBody (depth + 1) none r).cons d.opening d.opening
        | none => (d.nestedBody depth none s).cons [x] [x] := by
  rw [nestedBody, if_neg (by simp [h])]
  split
  · rename_i r h'
    cases depth <;> simp only [h']
  · rename_i h'
    simp only [h']
    split <;> rename_i h'' <;> simp only [h'']

/-! ### Turns by what stands at the front -/

/-- A doubled opening marker in literal text. -/
theorem literalRun_opening_twice (d : Delimiters) (r : List Char) :
    d.literalRun (d.opening ++ (d.opening ++ r)) =
      (d.literalRun r).cons d.opening (d.opening ++ d.opening) := by
  obtain ⟨x, s, e⟩ := List.exists_cons_of_ne_nil
    (List.append_ne_nil_of_left_ne_nil d.opening_ne (d.opening ++ r))
  rw [e, literalRun_cons, ← e]
  simp only [after?_append]

/-- Literal text stops at an opening marker that is not doubled. -/
theorem literalRun_opening_once {d : Delimiters} {r : List Char} (h : after? d.opening r = none) :
    d.literalRun (d.opening ++ r) = ⟨[], [], d.opening ++ r, .block r⟩ := by
  obtain ⟨x, s, e⟩ := List.exists_cons_of_ne_nil
    (List.append_ne_nil_of_left_ne_nil d.opening_ne r)
  rw [e, literalRun_cons, ← e]
  simp only [after?_append, h]

/-- A doubled closing marker in literal text, where no opening marker stands. -/
theorem literalRun_closing_twice {d : Delimiters} {r : List Char}
    (h : after? d.opening (d.closing ++ (d.closing ++ r)) = none) :
    d.literalRun (d.closing ++ (d.closing ++ r)) =
      (d.literalRun r).cons d.closing (d.closing ++ d.closing) := by
  obtain ⟨x, s, e⟩ := List.exists_cons_of_ne_nil
    (List.append_ne_nil_of_left_ne_nil d.closing_ne (d.closing ++ r))
  rw [e] at h
  rw [e, literalRun_cons, h, ← e]
  simp only [after?_append]

/-- A character of literal text where no marker stands. -/
theorem literalRun_other {d : Delimiters} {x : Char} {s : List Char}
    (ho : after? d.opening (x :: s) = none) (hc : after? d.closing (x :: s) = none) :
    d.literalRun (x :: s) = (d.literalRun s).cons [x] [x] := by
  rw [literalRun_cons, ho, hc]

/-- A doubled closing marker in a block. -/
theorem flatBody_closing_twice (d : Delimiters) (r : List Char) :
    d.flatBody (d.closing ++ (d.closing ++ r)) =
      (d.flatBody r).cons d.closing (d.closing ++ d.closing) := by
  obtain ⟨x, s, e⟩ := List.exists_cons_of_ne_nil
    (List.append_ne_nil_of_left_ne_nil d.closing_ne (d.closing ++ r))
  rw [e, flatBody_cons, ← e]
  simp only [after?_append]

/-- A closing marker that is not doubled ends a block. -/
theorem flatBody_closing_once {d : Delimiters} {r : List Char} (h : after? d.closing r = none) :
    d.flatBody (d.closing ++ r) = .closed [] d.closing r := by
  obtain ⟨x, s, e⟩ := List.exists_cons_of_ne_nil
    (List.append_ne_nil_of_left_ne_nil d.closing_ne r)
  rw [e, flatBody_cons, ← e]
  simp only [after?_append, h]

/-- A doubled opening marker in a block, where no closing marker stands. -/
theorem flatBody_opening_twice {d : Delimiters} {r : List Char}
    (h : after? d.closing (d.opening ++ (d.opening ++ r)) = none) :
    d.flatBody (d.opening ++ (d.opening ++ r)) =
      (d.flatBody r).cons d.opening (d.opening ++ d.opening) := by
  obtain ⟨x, s, e⟩ := List.exists_cons_of_ne_nil
    (List.append_ne_nil_of_left_ne_nil d.opening_ne (d.opening ++ r))
  rw [e] at h
  rw [e, flatBody_cons, h, ← e]
  simp only [after?_append]

/-- A character of a block where no marker stands. -/
theorem flatBody_other {d : Delimiters} {x : Char} {s : List Char}
    (hc : after? d.closing (x :: s) = none) (ho : after? d.opening (x :: s) = none) :
    d.flatBody (x :: s) = (d.flatBody s).cons [x] [x] := by
  rw [flatBody_cons, hc, ho]

/-- A marker that is found begins with the character that it is found at. -/
theorem head?_of_after? {m s r : List Char} {x : Char} (hm : m ≠ [])
    (h : after? m (x :: s) = some r) : m.head? = some x := by
  obtain ⟨y, m, rfl⟩ := List.exists_cons_of_ne_nil hm
  obtain ⟨rfl, -⟩ := List.cons.inj (after?_eq_some_iff.mp h)
  rfl

/-- Outside quotes, a closing marker ends the innermost block that is open. -/
theorem nestedBody_closing_marker {d : Delimiters} {depth : Nat} {x : Char} {r : List Char}
    (hm : d.closing.head? = some x) (hx : isQuote x = false) :
    d.nestedBody depth none (d.closing ++ r) =
      match depth with
      | 0 => .closed [] d.closing r
      | k + 1 => (d.nestedBody k none r).cons d.closing d.closing := by
  obtain ⟨m, e⟩ := List.head?_eq_some_iff.mp hm
  have hfound : after? d.closing (x :: (m ++ r)) = some r := by
    rw [← List.cons_append, ← e, after?_append]
  have hs : d.closing ++ r = x :: (m ++ r) := by rw [e, List.cons_append]
  rw [hs, nestedBody_cons d depth hx, hfound]

/-- Outside quotes, an opening marker where no closing one stands begins a block. -/
theorem nestedBody_opening_marker {d : Delimiters} {depth : Nat} {x : Char} {r : List Char}
    (hm : d.opening.head? = some x) (hx : isQuote x = false)
    (hc : after? d.closing (d.opening ++ r) = none) :
    d.nestedBody depth none (d.opening ++ r) =
      (d.nestedBody (depth + 1) none r).cons d.opening d.opening := by
  obtain ⟨m, e⟩ := List.head?_eq_some_iff.mp hm
  have hfound : after? d.opening (x :: (m ++ r)) = some r := by
    rw [← List.cons_append, ← e, after?_append]
  have hs : d.opening ++ r = x :: (m ++ r) := by rw [e, List.cons_append]
  rw [hs] at hc
  rw [hs, nestedBody_cons d depth hx, hc, hfound]

/-- Outside quotes, a character where no marker stands. -/
theorem nestedBody_other {d : Delimiters} {depth : Nat} {x : Char} {s : List Char}
    (hx : isQuote x = false) (hc : after? d.closing (x :: s) = none)
    (ho : after? d.opening (x :: s) = none) :
    d.nestedBody depth none (x :: s) = (d.nestedBody depth none s).cons [x] [x] := by
  rw [nestedBody_cons d depth hx, hc, ho]

/-- Only a refused block is refused with more in front of it. -/
theorem Body.cons_eq_opened {b : Body} {code raw : List Char} {k : Nat} :
    b.cons code raw = .opened k ↔ ∃ j, b = .opened j ∧ k = raw.length + j := by
  cases b <;> simp [Body.cons, eq_comm]

/-- A block that counts its markers is closed or it is not; it is never refused for a marker. -/
theorem nestedBody_ne_opened (d : Delimiters) (depth : Nat) (q : Option Char) (s : List Char)
    (k : Nat) : d.nestedBody depth q s ≠ .opened k := by
  intro h
  fun_induction nestedBody d depth q s generalizing k with
  | case1 | case2 | case6 => simp at h
  | case3 _ _ _ _ ih | case4 _ _ _ _ _ ih | case5 _ _ _ _ ih | case7 _ _ _ _ _ _ ih
  | case8 _ _ _ _ _ _ _ ih | case9 _ _ _ _ _ _ ih =>
    obtain ⟨j, hj, -⟩ := Body.cons_eq_opened.mp h
    exact ih j hj

/-! ## Where the loops stop -/

/-- What a run of literal text stops at: the end of the template or a marker that is not doubled. -/
theorem literalRun_rest (d : Delimiters) (s : List Char) :
    match (d.literalRun s).ending with
    | .finished => (d.literalRun s).rest = []
    | .block code => (d.literalRun s).rest = d.opening ++ code ∧ after? d.opening code = none
    | .stray =>
      after? d.opening (d.literalRun s).rest = none ∧
        ∃ r, (d.literalRun s).rest = d.closing ++ r ∧ after? d.closing r = none := by
  fun_induction literalRun d s with
  | case1 => rfl
  | case2 _ _ _ _ _ _ ih | case4 _ _ _ _ _ _ _ ih | case6 _ _ _ _ ih => exact ih
  | case3 x s r h h' => exact ⟨after?_eq_some_iff.mp h, h'⟩
  | case5 x s h r h' h'' => exact ⟨h, r, after?_eq_some_iff.mp h', h''⟩

/-- A block is refused at an opening marker that is not doubled. -/
theorem flatBody_opened {d : Delimiters} {s : List Char} {k : Nat} (h : d.flatBody s = .opened k) :
    ∃ u r, s = u ++ (d.opening ++ r) ∧ u.length = k ∧ after? d.opening r = none := by
  fun_induction flatBody d s generalizing k with
  | case1 | case3 => simp at h
  | case2 x s r hr r' hr' ih =>
    obtain ⟨j, hj, rfl⟩ := Body.cons_eq_opened.mp h
    obtain ⟨u, t, rfl, rfl, ht⟩ := ih hj
    refine ⟨d.closing ++ d.closing ++ u, t, ?_, by rw [List.length_append], ht⟩
    rw [after?_eq_some_iff.mp hr, after?_eq_some_iff.mp hr', List.append_assoc, List.append_assoc]
  | case4 x s _ r hr r' hr' ih =>
    obtain ⟨j, hj, rfl⟩ := Body.cons_eq_opened.mp h
    obtain ⟨u, t, rfl, rfl, ht⟩ := ih hj
    refine ⟨d.opening ++ d.opening ++ u, t, ?_, by rw [List.length_append], ht⟩
    rw [after?_eq_some_iff.mp hr, after?_eq_some_iff.mp hr', List.append_assoc, List.append_assoc]
  | case5 x s _ r hr hr' =>
    obtain rfl : 0 = k := by simpa using h
    exact ⟨[], r, by rw [List.nil_append, after?_eq_some_iff.mp hr], rfl, hr'⟩
  | case6 x s _ _ ih =>
    obtain ⟨j, hj, rfl⟩ := Body.cons_eq_opened.mp h
    obtain ⟨u, t, rfl, rfl, ht⟩ := ih hj
    exact ⟨[x] ++ u, t, rfl, by rw [List.length_append], ht⟩

theorem closing_suffix_of_flatBody {d : Delimiters} {s k raw rest : List Char}
    (h : d.flatBody s = .closed k raw rest) : d.closing <:+ raw := by
  fun_induction flatBody d s generalizing k raw with
  | case1 | case5 => simp at h
  | case2 _ _ _ _ _ _ ih | case4 _ _ _ _ _ _ _ ih | case6 _ _ _ _ ih =>
    obtain ⟨k', raw', hb, rfl, rfl⟩ := Body.cons_eq_closed.mp h
    exact (ih hb).trans (List.suffix_append _ _)
  | case3 =>
    simp only [Body.closed.injEq] at h
    exact h.2.1 ▸ List.suffix_rfl

theorem closing_suffix_of_nestedBody {d : Delimiters} {depth : Nat} {q : Option Char}
    {s k raw rest : List Char} (h : d.nestedBody depth q s = .closed k raw rest) :
    d.closing <:+ raw := by
  fun_induction nestedBody d depth q s generalizing k raw with
  | case1 | case2 => simp at h
  | case3 _ _ _ _ ih | case4 _ _ _ _ _ ih | case5 _ _ _ _ ih | case7 _ _ _ _ _ _ ih
  | case8 _ _ _ _ _ _ _ ih | case9 _ _ _ _ _ _ ih =>
    obtain ⟨k', raw', hb, rfl, rfl⟩ := Body.cons_eq_closed.mp h
    exact (ih hb).trans (List.suffix_append _ _)
  | case6 =>
    simp only [Body.closed.injEq] at h
    exact h.2.1 ▸ List.suffix_rfl

/-- What was read of a closed block ends with the closing marker. -/
theorem closing_suffix_of_body {d : Delimiters} {s k raw rest : List Char}
    (h : d.body s = .closed k raw rest) : d.closing <:+ raw := by
  unfold body at h
  split at h
  · exact closing_suffix_of_nestedBody h
  · exact closing_suffix_of_flatBody h

/-- Only a block that does not nest is refused for a marker. -/
theorem body_opened {d : Delimiters} {s : List Char} {k : Nat} (h : d.body s = .opened k) :
    d.nested = false ∧
      ∃ u r, s = u ++ (d.opening ++ r) ∧ u.length = k ∧ after? d.opening r = none := by
  unfold body at h
  split at h
  · exact absurd h (nestedBody_ne_opened d 0 none s k)
  · rename_i hflat
    exact ⟨by simpa using hflat, flatBody_opened h⟩

/-! ## Steps -/

/-- Everything that one step can do. -/
theorem step_cases (d : Delimiters) (p : Nat) (s : List Char) :
    (d.literalRun s).ending = .stray ∧
        d.step p s =
          .failed (.unmatched (p + (d.literalRun s).raw.length) (String.ofList d.closing)) ∨
      (∃ code, (d.literalRun s).ending = .block code ∧ (d.literalRun s).text = [] ∧
        d.step p s = d.blockStep p code) ∨
      (d.literalRun s).ending = .finished ∧ (d.literalRun s).text = [] ∧ d.step p s = .done ∨
      (d.literalRun s).ending ≠ .stray ∧ (d.literalRun s).text ≠ [] ∧
        d.step p s =
          .segment (.literal (String.ofList (d.literalRun s).text) (.at p (d.literalRun s).raw))
            (d.literalRun s).rest := by
  rw [step]
  rcases hr : d.literalRun s with ⟨text, raw, rest, ending⟩
  cases ending with
  | stray => exact .inl ⟨rfl, rfl⟩
  | block code =>
    cases text with
    | nil => exact .inr (.inl ⟨code, rfl, rfl, rfl⟩)
    | cons => exact .inr (.inr (.inr ⟨by simp, by simp, rfl⟩))
  | finished =>
    cases text with
    | nil => exact .inr (.inr (.inl ⟨rfl, rfl, rfl⟩))
    | cons => exact .inr (.inr (.inr ⟨by simp, by simp, rfl⟩))

/-- A step at an opening marker that is not doubled reads a block. -/
theorem step_opening_once {d : Delimiters} {p : Nat} {code : List Char}
    (h : after? d.opening code = none) : d.step p (d.opening ++ code) = d.blockStep p code := by
  rw [step, literalRun_opening_once h]

/-- A step over literal text that is not empty and does not run into a closing marker. -/
theorem step_literalRun {d : Delimiters} {p : Nat} {s : List Char}
    (hend : (d.literalRun s).ending ≠ .stray) (htext : (d.literalRun s).text ≠ []) :
    d.step p s =
      .segment (.literal (String.ofList (d.literalRun s).text) (.at p (d.literalRun s).raw))
        (d.literalRun s).rest := by
  rcases d.step_cases p s with ⟨h, -⟩ | ⟨code, -, h, -⟩ | ⟨-, h, -⟩ | ⟨-, -, h⟩
  · exact absurd h hend
  · exact absurd h htext
  · exact absurd h htext
  · exact h

/-- A closed block is a step. -/
theorem blockStep_of_closed {d : Delimiters} {p : Nat} {s k raw rest : List Char}
    (h : d.body s = .closed k raw rest) :
    d.blockStep p s = .segment (.block (String.ofList k) (.at p (d.opening ++ raw))) rest := by
  rw [blockStep, h]

/-- A segment is a run of literal text, or a block that begins at an opening marker which is not
doubled. -/
theorem segment_cases {d : Delimiters} {p : Nat} {s rest : List Char} {x : Segment}
    (h : d.step p s = .segment x rest) :
    ((d.literalRun s).ending ≠ .stray ∧ (d.literalRun s).text ≠ [] ∧
        rest = (d.literalRun s).rest ∧
        x = .literal (String.ofList (d.literalRun s).text) (.at p (d.literalRun s).raw)) ∨
      ∃ code k raw, s = d.opening ++ code ∧ after? d.opening code = none ∧
        d.body code = .closed k raw rest ∧
        x = .block (String.ofList k) (.at p (d.opening ++ raw)) := by
  have happ := literalRun_append d s
  have hrest := literalRun_rest d s
  rcases d.step_cases p s with ⟨-, e⟩ | ⟨code, hend, htext, e⟩ | ⟨-, -, e⟩ | ⟨hend, htext, e⟩
  · exact absurd (e.symm.trans h) (by simp)
  · rw [hend] at hrest
    rw [raw_of_text_eq_nil htext, hrest.1, List.nil_append] at happ
    rw [e, blockStep] at h
    split at h
    · rename_i k raw rest' hb
      obtain ⟨rfl, rfl⟩ := Step.segment.inj h
      exact .inr ⟨code, k, raw, happ.symm, hrest.2, hb, rfl⟩
    · cases h
    · cases h
  · exact absurd (e.symm.trans h) (by simp)
  · obtain ⟨rfl, rfl⟩ := Step.segment.inj (e.symm.trans h)
    exact .inl ⟨hend, htext, rfl, rfl⟩

theorem step_nil (d : Delimiters) (p : Nat) : d.step p [] = .done := by
  rw [step, literalRun_nil]

/-- Only at the end of the template a scan ends. -/
theorem eq_nil_of_step_done {d : Delimiters} {p : Nat} {s : List Char} (h : d.step p s = .done) :
    s = [] := by
  have hrest := literalRun_rest d s
  rcases d.step_cases p s with ⟨-, e⟩ | ⟨code, -, -, e⟩ | ⟨hend, htext, -⟩ | ⟨-, -, e⟩
  · exact absurd (e.symm.trans h) (by simp)
  · rw [e, blockStep] at h
    split at h <;> cases h
  · rw [hend] at hrest
    rw [← literalRun_append d s, raw_of_text_eq_nil htext, hrest, List.append_nil]
  · exact absurd (e.symm.trans h) (by simp)

/-! ## Whole scans -/

theorem scanFrom_of_done {d : Delimiters} {p : Nat} {s : List Char} (h : d.step p s = .done) :
    d.scanFrom p s = ([], none) := by
  rw [scanFrom]
  split <;> simp_all

theorem scanFrom_nil (d : Delimiters) (p : Nat) : d.scanFrom p [] = ([], none) :=
  scanFrom_of_done (d.step_nil p)

theorem scanFrom_of_failed {d : Delimiters} {p : Nat} {s : List Char} {e : ScanError}
    (h : d.step p s = .failed e) : d.scanFrom p s = ([], some e) := by
  rw [scanFrom]
  split <;> simp_all

/-- After a segment the scan goes on where the segment stopped. -/
theorem scanFrom_of_segment {d : Delimiters} {p : Nat} {s rest : List Char} {seg : Segment}
    (h : d.step p s = .segment seg rest) :
    d.scanFrom p s =
      (seg :: (d.scanFrom seg.source.span.stop.toNat rest).1,
        (d.scanFrom seg.source.span.stop.toNat rest).2) := by
  rw [scanFrom]
  split <;> simp_all

/-- A template scans if its scan from the start ends without an error. -/
theorem result_scan_eq_ok_iff {d : Delimiters} {template : String} {segs : List Segment} :
    (d.scan template).result = .ok segs ↔ d.scanFrom 0 template.toList = (segs, none) := by
  rw [scan, Scan.result]
  rcases d.scanFrom 0 template.toList with ⟨segs', _ | e⟩ <;> simp

end Splice.Delimiters
