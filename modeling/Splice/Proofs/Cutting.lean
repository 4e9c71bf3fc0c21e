import Splice.Proofs.Tiling

/-!
# Cutting a template behind a block

A scan looks ahead: for a marker, and behind a marker for a second one. So what stands further on
could decide how an earlier part is read. Behind a closed block it does not. Every marker that the
scan has found up to there lies in front of the cut, since the scan went on behind it; and where it
has found none, there is none either when the text is shorter (`after?_eq_none_of_append`).

The `_cut` lemmas say this of one loop each: what the loop read is read in the same way when only a
part of the rest is left. On the other side of the cut the scan starts afresh, and starting at
another place changes nothing but the places (`scanFrom_shift`). `scan_cut_at_block` joins the two.
-/

namespace Splice

/-! ## Looking for a marker in less text -/

theorem after?_eq_none_of_append {m u v : List Char} (h : after? m (u ++ v) = none) :
    after? m u = none := by
  cases hu : after? m u with
  | none => rfl
  | some r =>
    rw [after?_eq_some_iff.mp hu, List.append_assoc, after?_append] at h
    cases h

namespace Delimiters

/-! ## The loops -/

/-- A run of literal text up to a block is the same run if the block has less text behind it. -/
theorem literalRun_cut {d : Delimiters} {s code v : List Char}
    (h : (d.literalRun s).ending = .block (code ++ v)) :
    d.literalRun ((d.literalRun s).raw ++ (d.opening ++ code)) =
      ⟨(d.literalRun s).text, (d.literalRun s).raw, d.opening ++ code, .block code⟩ := by
  fun_induction literalRun d s with
  | case1 => cases h
  | case2 x s r hr r' hr' ih =>
    simp only [Run.cons, List.append_assoc]
    rw [literalRun_opening_twice, ih h]
    simp [Run.cons]
  | case3 x s r hr hr' =>
    obtain rfl : r = code ++ v := by simpa using h
    exact literalRun_opening_once (after?_eq_none_of_append hr')
  | case4 x s ho r hr r' hr' ih =>
    have happ := literalRun_append d r'
    rw [rest_of_literalRun_block h] at happ
    rw [after?_eq_some_iff.mp hr, after?_eq_some_iff.mp hr', ← happ] at ho
    simp only [Run.cons, List.append_assoc]
    rw [literalRun_closing_twice (after?_eq_none_of_append (v := v) (by simpa using ho)), ih h]
    simp [Run.cons]
  | case5 => cases h
  | case6 x s ho hc ih =>
    have happ := literalRun_append d s
    rw [rest_of_literalRun_block h] at happ
    rw [← happ] at ho hc
    simp only [Run.cons, List.cons_append, List.nil_append]
    rw [literalRun_other (after?_eq_none_of_append (v := v) (by simpa using ho))
      (after?_eq_none_of_append (v := v) (by simpa using hc)), ih h]
    simp [Run.cons]

/-- A closed block without nesting is the same block if less text stands behind it. -/
theorem flatBody_cut {d : Delimiters} {s k raw rest v : List Char}
    (h : d.flatBody s = .closed k raw (rest ++ v)) :
    d.flatBody (raw ++ rest) = .closed k raw rest := by
  fun_induction flatBody d s generalizing k raw with
  | case1 | case5 => cases h
  | case2 x s r hr r' hr' ih =>
    obtain ⟨k', raw', hb, rfl, rfl⟩ := Body.cons_eq_closed.mp h
    rw [List.append_assoc, List.append_assoc, flatBody_closing_twice, ih hb]
    rfl
  | case3 x s r hr hr' =>
    simp only [Body.closed.injEq] at h
    obtain ⟨rfl, rfl, rfl⟩ := h
    exact flatBody_closing_once (after?_eq_none_of_append hr')
  | case4 x s hc r hr r' hr' ih =>
    obtain ⟨k', raw', hb, rfl, rfl⟩ := Body.cons_eq_closed.mp h
    rw [after?_eq_some_iff.mp hr, after?_eq_some_iff.mp hr', ← flatBody_append hb] at hc
    rw [List.append_assoc, List.append_assoc,
      flatBody_opening_twice (after?_eq_none_of_append (v := v) (by simpa using hc)), ih hb]
    rfl
  | case6 x s hc ho ih =>
    obtain ⟨k', raw', hb, rfl, rfl⟩ := Body.cons_eq_closed.mp h
    rw [← flatBody_append hb] at hc ho
    rw [List.append_assoc, List.singleton_append,
      flatBody_other (after?_eq_none_of_append (v := v) (by simpa using hc))
        (after?_eq_none_of_append (v := v) (by simpa using ho)), ih hb]
    rfl

/-- A closed block with nesting is the same block if less text stands behind it. -/
theorem nestedBody_cut {d : Delimiters} {depth : Nat} {q : Option Char} {s k raw rest v : List Char}
    (h : d.nestedBody depth q s = .closed k raw (rest ++ v)) :
    d.nestedBody depth q (raw ++ rest) = .closed k raw rest := by
  fun_induction nestedBody d depth q s generalizing k raw with
  | case1 | case2 => cases h
  | case3 depth q x t ih =>
    -- a backslash inside quotes, with the character behind it
    obtain ⟨k', raw', hb, rfl, rfl⟩ := Body.cons_eq_closed.mp h
    rw [List.append_assoc, List.cons_append, List.cons_append, List.nil_append,
      nestedBody_backslash, ih hb]
    rfl
  | case4 depth q x s hx ih =>
    obtain ⟨k', raw', hb, rfl, rfl⟩ := Body.cons_eq_closed.mp h
    simp only [dite_eq_ite] at ih
    rw [List.append_assoc, List.singleton_append, nestedBody_quoted d depth q hx, ih hb]
    rfl
  | case5 depth x s hx ih =>
    obtain ⟨k', raw', hb, rfl, rfl⟩ := Body.cons_eq_closed.mp h
    rw [List.append_assoc, List.singleton_append, nestedBody_quote d depth hx, ih hb]
    rfl
  | case6 x s hx r hr =>
    simp only [Body.closed.injEq] at h
    obtain ⟨rfl, rfl, rfl⟩ := h
    rw [nestedBody_closing_marker (head?_of_after? d.closing_ne hr) (by simpa using hx)]
  | case7 x s hx r hr depth ih =>
    obtain ⟨k', raw', hb, rfl, rfl⟩ := Body.cons_eq_closed.mp h
    rw [List.append_assoc,
      nestedBody_closing_marker (head?_of_after? d.closing_ne hr) (by simpa using hx)]
    simp only [ih hb]
    rfl
  | case8 depth x s hx hc r hr ih =>
    obtain ⟨k', raw', hb, rfl, rfl⟩ := Body.cons_eq_closed.mp h
    rw [after?_eq_some_iff.mp hr, ← nestedBody_append hb] at hc
    rw [List.append_assoc,
      nestedBody_opening_marker (head?_of_after? d.opening_ne hr) (by simpa using hx)
        (after?_eq_none_of_append (v := v) (by simpa using hc)), ih hb]
    rfl
  | case9 depth x s hx hc ho ih =>
    obtain ⟨k', raw', hb, rfl, rfl⟩ := Body.cons_eq_closed.mp h
    rw [← nestedBody_append hb] at hc ho
    rw [List.append_assoc, List.singleton_append,
      nestedBody_other (by simpa using hx) (after?_eq_none_of_append (v := v) (by simpa using hc))
        (after?_eq_none_of_append (v := v) (by simpa using ho)), ih hb]
    rfl

/-- A closed block is the same block if less text stands behind it. -/
theorem body_cut {d : Delimiters} {s k raw rest v : List Char}
    (h : d.body s = .closed k raw (rest ++ v)) : d.body (raw ++ rest) = .closed k raw rest := by
  unfold body at h ⊢
  split at h
  · rw [if_pos ‹_›, nestedBody_cut h]
  · rw [if_neg ‹_›, flatBody_cut h]

/-! ## Steps -/

/-- The step over a block is the same if less text stands behind the block. -/
theorem step_block_cut {d : Delimiters} {p : Nat} {code k raw rest v : List Char}
    (hsingle : after? d.opening code = none) (h : d.body code = .closed k raw (rest ++ v)) :
    d.step p (d.opening ++ (raw ++ rest)) =
      .segment (.block (String.ofList k) (.at p (d.opening ++ raw))) rest := by
  have hcode : code = raw ++ rest ++ v := by rw [List.append_assoc, body_append h]
  rw [hcode] at hsingle
  rw [step_opening_once (after?_eq_none_of_append hsingle), blockStep_of_closed (body_cut h)]

/-- The step over literal text in front of a block is the same if the block has less text behind
it. -/
theorem step_literal_cut {d : Delimiters} {p : Nat} {s code v : List Char}
    (hend : (d.literalRun s).ending = .block (code ++ v)) (htext : (d.literalRun s).text ≠ []) :
    d.step p ((d.literalRun s).raw ++ (d.opening ++ code)) =
      .segment (.literal (String.ofList (d.literalRun s).text) (.at p (d.literalRun s).raw))
        (d.opening ++ code) := by
  have hcut := literalRun_cut hend
  rw [step_literalRun (by rw [hcut]; exact nofun) (by rw [hcut]; exact htext), hcut]

/-- Behind a literal the scan goes on with a block. -/
theorem block_of_step_rest {d : Delimiters} {p q : Nat} {s rest rest' : List Char} {x y : Segment}
    (h : d.step p s = .segment x rest) (hx : x.isLiteral = true)
    (hy : d.step q rest = .segment y rest') : y.isLiteral = false := by
  rw [← Bool.not_eq_true]
  intro hliteral
  obtain ⟨-, rfl⟩ := literal_of_step h hx
  exact (literal_of_step hy hliteral).1 (d.text_literalRun_rest s)

@[simp] theorem stop_at (p : Nat) (raw : List Char) :
    (Extent.at p raw).span.stop = ((p + raw.length : Nat) : Int) := by
  simp [Extent.at]

/-! ## Whole scans -/

/-- The first segment of a scan is that of a step, and the scan goes on behind it. -/
theorem step_of_scanFrom {d : Delimiters} {p : Nat} {s : List Char} {x : Segment}
    {xs : List Segment} {error : Option ScanError} (h : d.scanFrom p s = (x :: xs, error)) :
    ∃ rest, d.step p s = .segment x rest ∧
      d.scanFrom x.source.span.stop.toNat rest = (xs, error) := by
  have hhead : (d.scanFrom p s).1.head? = some x := by rw [h]; rfl
  obtain ⟨rest, hstep⟩ := step_of_head?_scanFrom hhead
  rw [scanFrom_of_segment hstep, Prod.mk.injEq, List.cons.injEq] at h
  exact ⟨rest, hstep, Prod.ext h.1.2 h.2⟩

/-- Literal text in front of a block is the same if less text stands behind what the scan of the
rest begins with. -/
theorem step_literal_cut_rest {d : Delimiters} {p q : Nat} {s u v rest : List Char} {x y : Segment}
    (h : d.step p s = .segment x (u ++ v)) (hx : x.isLiteral = true)
    (hu : d.step q u = .segment y rest) (hy : y.isLiteral = false) :
    ∃ raw, s = raw ++ (u ++ v) ∧ x.source = .at p raw ∧ d.step p (raw ++ u) = .segment x u := by
  rcases segment_cases h with ⟨hend, htext, hrest, rfl⟩ | ⟨_, _, _, -, -, -, rfl⟩
  · refine ⟨(d.literalRun s).raw, by rw [hrest, literalRun_append], rfl, ?_⟩
    rcases segment_cases hu with ⟨-, -, -, rfl⟩ | ⟨code, k, raw, rfl, -, -, -⟩
    · cases hy
    · have hstop := d.literalRun_rest s
      rw [← hrest] at hstop
      cases he : (d.literalRun s).ending with
      | finished => simp [he, d.opening_ne] at hstop
      | stray => exact absurd he hend
      | block code' =>
        rw [he] at hstop
        obtain ⟨hcode, -⟩ := hstop
        rw [List.append_assoc, List.append_cancel_left_eq] at hcode
        rw [← hcode] at he
        exact step_literal_cut he htext
  · cases hx

/-- A scan that yields a block has gone through a part of the text that scans to what it has yielded
up to there, and goes on like the scan of what is left. -/
theorem scanFrom_cut {d : Delimiters} {pre post : List Segment} {code : String} {source : Extent}
    {error : Option ScanError} {p : Nat} {s : List Char}
    (h : d.scanFrom p s = (pre ++ .block code source :: post, error)) :
    ∃ u v, s = u ++ v ∧ source.span.stop = ((p + u.length : Nat) : Int) ∧
      d.scanFrom p u = (pre ++ [.block code source], none) ∧
      d.scanFrom (p + u.length) v = (post, error) := by
  induction pre generalizing p s with
  | nil =>
    -- the block itself: nothing is left in front of the cut
    obtain ⟨rest, hstep, hmore⟩ := step_of_scanFrom h
    rcases segment_cases hstep with ⟨-, -, -, hx⟩ | ⟨after, k, raw, rfl, hsingle, hb, hx⟩
    · cases hx
    · obtain ⟨rfl, rfl⟩ := Segment.block.inj hx
      have hclosed : d.body after = .closed k raw ([] ++ rest) := hb
      have hcut := step_block_cut (p := p) hsingle hclosed
      rw [List.append_nil] at hcut
      refine ⟨d.opening ++ raw, rest, by rw [List.append_assoc, body_append hb], stop_at _ _,
        ?_, ?_⟩
      · rw [scanFrom_of_segment hcut, Segment.source, stop_at, Int.toNat_natCast,
          scanFrom_nil]
        rfl
      · rwa [Segment.source, stop_at, Int.toNat_natCast] at hmore
  | cons x pre ih =>
    rw [List.cons_append] at h
    obtain ⟨rest, hstep, hmore⟩ := step_of_scanFrom h
    obtain ⟨u, v, rfl, hstop, hu, hv⟩ := ih hmore
    -- the step over the first segment is the same in front of the cut
    obtain ⟨raw, rfl, hx, hcut⟩ : ∃ raw, s = raw ++ (u ++ v) ∧ x.source = .at p raw ∧
        d.step p (raw ++ u) = .segment x u := by
      cases hliteral : x.isLiteral with
      | true =>
        obtain ⟨y, ys, hys⟩ : ∃ y ys, pre ++ [.block code source] = y :: ys :=
          List.exists_cons_of_ne_nil (by simp)
        rw [hys] at hu
        obtain ⟨rest', hy, -⟩ := step_of_scanFrom hu
        have hall : pre ++ .block code source :: post = y :: (ys ++ post) := by
          rw [← List.cons_append, ← hys, List.append_assoc, List.singleton_append]
        rw [hall] at hmore
        obtain ⟨rest'', hy', -⟩ := step_of_scanFrom hmore
        exact step_literal_cut_rest hstep hliteral hy (block_of_step_rest hstep hliteral hy')
      | false =>
        rcases segment_cases hstep with ⟨-, -, -, rfl⟩ | ⟨after, k, raw, rfl, hsingle, hb, rfl⟩
        · cases hliteral
        · refine ⟨d.opening ++ raw, by rw [List.append_assoc, body_append hb], rfl, ?_⟩
          rw [List.append_assoc, step_block_cut hsingle hb]
    have hplace : x.source.span.stop.toNat = p + raw.length := by
      rw [hx, stop_at, Int.toNat_natCast]
    rw [hplace] at hstop hu hv
    refine ⟨raw ++ u, v, by rw [List.append_assoc], ?_, ?_, ?_⟩
    · rw [hstop, List.length_append, Nat.add_assoc]
    · rw [scanFrom_of_segment hcut, hplace, hu]
      rfl
    · rw [List.length_append, ← Nat.add_assoc, hv]

/-! ## Other places -/

/-- The same step in a text that starts `k` characters earlier. -/
def Step.shift (k : Nat) : Step → Step
  | done => done
  | failed e => failed (e.shift k)
  | segment x rest => segment (x.shift k) rest

theorem shift_at (k p : Nat) (raw : List Char) :
    Extent.at (k + p) raw =
      ⟨(Extent.at p raw).raw,
        ⟨k + (Extent.at p raw).span.start, k + (Extent.at p raw).span.stop⟩⟩ := by
  simp [Extent.at, Int.add_assoc]

theorem blockStep_shift (d : Delimiters) (k p : Nat) (s : List Char) :
    d.blockStep (k + p) s = (d.blockStep p s).shift k := by
  rw [blockStep, blockStep]
  cases d.body s with
  | closed c raw rest => simp only [Step.shift, Segment.shift, shift_at]
  | unclosed => rfl
  | opened j => simp only [Step.shift, ScanError.shift, Nat.add_assoc]

theorem step_shift (d : Delimiters) (k p : Nat) (s : List Char) :
    d.step (k + p) s = (d.step p s).shift k := by
  rw [step, step]
  rcases d.literalRun s with ⟨text, raw, rest, ending⟩
  cases ending with
  | stray => simp only [Step.shift, ScanError.shift, Nat.add_assoc]
  | block code =>
    cases text with
    | nil => exact d.blockStep_shift k p code
    | cons c t => simp only [Step.shift, Segment.shift, shift_at]
  | finished =>
    cases text with
    | nil => rfl
    | cons c t => simp only [Step.shift, Segment.shift, shift_at]

/-- A scan that starts at another place finds the same, at other places. -/
theorem scanFrom_shift (d : Delimiters) (k p : Nat) (s : List Char) :
    d.scanFrom (k + p) s =
      ((d.scanFrom p s).1.map (Segment.shift k), (d.scanFrom p s).2.map (ScanError.shift k)) := by
  fun_induction scanFrom d p s with
  | case1 p s h =>
    rw [scanFrom_of_done (by rw [step_shift, h]; rfl)]
    rfl
  | case2 p s e h =>
    rw [scanFrom_of_failed (by rw [step_shift, h]; rfl)]
    rfl
  | case3 p s x rest h more error hmore ih =>
    have hstep : d.step (k + p) s = .segment (x.shift k) rest := by rw [step_shift, h]; rfl
    have hplace : (x.shift k).source.span.stop.toNat = k + x.source.span.stop.toNat := by
      obtain ⟨raw, -, -, hx, -⟩ := segment_of_step h
      have hshift : (x.shift k).source.span.stop = k + x.source.span.stop := by cases x <;> rfl
      rw [hshift, hx, stop_at]
      omega
    rw [scanFrom_of_segment hstep, hplace, ih, hmore]
    rfl

end Delimiters

/-- The same scan of a text that starts `k` characters earlier. -/
def Scan.shift (k : Nat) (s : Scan) : Scan :=
  ⟨s.segments.map (Segment.shift k), s.error.map (ScanError.shift k)⟩

namespace Delimiters

/-- A template can be cut where a block ends, whether or not it scans to its end: the part in front
of the cut scans to the segments up to the block, and the part behind it scans to what comes after
the block, the error included, with every place counted from the cut. -/
theorem scan_cut_at_block {d : Delimiters} {template : String} {pre post : List Segment}
    {code : String} {source : Extent} {error : Option ScanError} {p : Nat}
    (hscan : d.scan template = ⟨pre ++ .block code source :: post, error⟩)
    (hp : source.span.stop = p) :
    d.scan (String.ofList (template.toList.take p)) = ⟨pre ++ [.block code source], none⟩ ∧
      (d.scan (String.ofList (template.toList.drop p))).shift p = ⟨post, error⟩ := by
  obtain ⟨hsegments, herror⟩ := Scan.mk.inj hscan
  have hfrom : d.scanFrom 0 template.toList = (pre ++ .block code source :: post, error) :=
    Prod.ext hsegments herror
  obtain ⟨u, v, hcut, hstop, hu, hv⟩ := scanFrom_cut hfrom
  rw [hp, Nat.zero_add, Int.natCast_inj] at hstop
  rw [Nat.zero_add, ← hstop, ← Nat.add_zero p, scanFrom_shift] at hv
  subst hstop
  rw [hcut, List.take_left, List.drop_left]
  constructor
  · rw [scan, String.toList_ofList, hu]
  · rw [scan, String.toList_ofList, Scan.shift]
    exact congrArg₂ Scan.mk (congrArg Prod.fst hv) (congrArg Prod.snd hv)

/-- A closing marker that is a part of the opening one, so that behind the block a marker could have
begun in front of the cut; the template then fails at another one. -/
theorem scan_cut_at_overlapping_markers :
    let d : Delimiters := ⟨['<', '<'], ['<'], false, by simp, by simp, by simp⟩
    d.scan "<<x<<<y<" = ⟨[.block "x<" ⟨"<<x<<<", ⟨0, 6⟩⟩], some (.unmatched 7 "<")⟩ ∧
      d.scan "<<x<<<" = ⟨[.block "x<" ⟨"<<x<<<", ⟨0, 6⟩⟩], none⟩ ∧
      (d.scan "y<").shift 6 = ⟨[], some (.unmatched 7 "<")⟩ := by
  intro d
  have hscan : d.scan "<<x<<<y<" =
      ⟨[] ++ .block "x<" ⟨"<<x<<<", ⟨0, 6⟩⟩ :: [], some (.unmatched 7 "<")⟩ := by decide +kernel
  exact ⟨hscan, scan_cut_at_block hscan rfl⟩

end Delimiters

end Splice
