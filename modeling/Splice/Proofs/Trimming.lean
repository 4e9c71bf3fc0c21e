import Splice.Proofs.Separated

/-!
# Trimming literal by literal

Trimming works on one literal at a time, and on the lines of each. It agrees with `trimmed`, which
works on the lines of the whole template, as long as no literal follows a literal: then the last
line of a literal is either the last line of the template or goes on in a block, so the literal
alone tells whether the line is blank and how far it is indented.

The proof goes in two steps. `edged` are the segments with only the edges taken off; what that does
to the layout is `layout_edged`. Then each literal's lines are followed into the lines of the whole:
`indents_edged` for the margin that they count for, and `lines_rebuild` for what is taken off.
-/

namespace Splice.Margin

open Text

/-! ## The edges -/

/-- Segments of which the first has index `i` of `n`, with the edges of the template taken off. -/
def edged (n : Nat) : (i : Nat) → List Segment → List Segment
  | _, [] => []
  | i, .literal t s :: rest =>
    .literal (String.ofList (piece i n t.toList).text) s :: edged n (i + 1) rest
  | i, .block c s :: rest => .block c s :: edged n (i + 1) rest

/-- Whether the first of some segments has lost a line in front. -/
def opened (n i : Nat) : List Segment → Bool
  | .literal t _ :: _ => (piece i n t.toList).fresh
  | _ => false

theorem piece_of_pos {i : Nat} (hi : 0 < i) (n : Nat) (t : List Char) :
    piece i n t = ⟨if i + 1 = n then trimEnd t else t, false, i + 1 == n⟩ := by
  simp [piece, Nat.ne_of_gt hi]

theorem opened_of_pos {i : Nat} (hi : 0 < i) (n : Nat) (segs : List Segment) :
    opened n i segs = false := by
  match segs with
  | [] => rfl
  | .literal t s :: rest => rw [opened, piece_of_pos hi]
  | .block c s :: rest => rfl

theorem trimBack_block (code : String) (source : Extent) (rest : List Item) :
    trimBack (.block code source :: rest) = .block code source :: trimBack rest :=
  trimBack_append_block [] code source rest

/-- Behind the first segment, only the back of the template is taken off. -/
theorem layout_edged_of_pos {n i : Nat} (hi : 0 < i) {segs : List Segment}
    (hn : n = i + segs.length) (h : Separated segs) :
    layout (edged n i segs) = trimBack (layout segs) := by
  induction segs generalizing i with
  | nil => rfl
  | cons x rest ih =>
    have ih := ih (Nat.succ_pos i) (by rw [hn, List.length_cons]; omega) h.tail
    cases x with
    | block code source => rw [edged, layout, layout, ih, trimBack_block]
    | literal t s =>
      rw [edged, layout, layout, ih, piece_of_pos hi, String.toList_ofList]
      rcases h.tail_cases with rfl | ⟨code, source, rest, rfl⟩
      · have hlast : i + 1 = n := hn.symm
        rw [if_pos hlast, layout, List.append_nil, trimBack_chars]
        exact List.append_nil _
      · have hlast : ¬ i + 1 = n := by
          simp only [List.length_cons] at hn
          omega
        rw [if_neg hlast, layout, trimBack_block, trimBack_append_block]

/-- The edges of the literals are the edges of the template. -/
theorem layout_edged {segs : List Segment} (h : Separated segs) :
    layout (edged segs.length 0 segs) = trimBack (trimFront (layout segs)).1 ∧
      opened segs.length 0 segs = (trimFront (layout segs)).2 := by
  cases segs with
  | nil => exact ⟨rfl, rfl⟩
  | cons x rest =>
    have hrest : layout (edged (rest.length + 1) 1 rest) = trimBack (layout rest) :=
      layout_edged_of_pos Nat.one_pos (Nat.add_comm _ _) h.tail
    cases x with
    | block code source =>
      refine ⟨?_, rfl⟩
      rw [List.length_cons, edged, layout, layout, hrest, ← trimBack_block]
      rfl
    | literal t s =>
      have hblocked : Blocked (layout rest) := by
        rcases h.tail_cases with rfl | ⟨code, source, rest, rfl⟩
        · exact blocked_nil
        · exact blocked_block code source _
      rw [List.length_cons, edged, layout, layout, hrest, trimFront_chars_append _ hblocked,
        String.toList_ofList]
      refine ⟨?_, rfl⟩
      rcases h.tail_cases with rfl | ⟨code, source, rest, rfl⟩
      · rw [layout, List.append_nil, trimBack_chars]
        exact List.append_nil _
      · rw [layout, trimBack_block, trimBack_append_block]
        rfl

/-! ## Lines of literals and lines of the template -/

/-- The lines among some that the margin is taken off: all, or all but the first. -/
def marginLines (opened : Bool) (ls : List Line) : List Line :=
  if opened then ls else ls.drop 1

/-- Takes a given margin off these lines. -/
def outdentFrom (opened : Bool) (margin : Nat) (ls : List Line) : List Line :=
  if opened then ls.map (outdent margin) else ls.take 1 ++ (ls.drop 1).map (outdent margin)

/-- The indentations of the lines that hold anything besides indentation. -/
def indentations (ls : List Line) : List Nat :=
  (ls.filter fun l => !l.all Item.isIndent).map indentation

theorem indentations_cons (l : Line) (ls : List Line) :
    indentations (l :: ls) =
      if l.all Item.isIndent then indentations ls else indentation l :: indentations ls := by
  rw [indentations, List.filter_cons]
  cases l.all Item.isIndent <;> rfl

/-- Before the last line of a literal, a line counts unless it is blank. -/
theorem indents_cons {final : Bool} {l : List Char} {ls : List (List Char)} (h : ls ≠ []) :
    indents final (l :: ls) =
      if l.all isIndent then indents final ls else indentOf l :: indents final ls := by
  obtain ⟨l', ls, rfl⟩ := List.exists_cons_of_ne_nil h
  rfl

theorem indentation_chars (l : List Char) : indentation (chars l) = indentOf l := by
  rw [indentation, chars, List.takeWhile_map, List.length_map]
  rfl

theorem all_isIndent_chars (l : List Char) : (chars l).all Item.isIndent = l.all isIndent := by
  rw [chars, List.all_map]
  rfl

theorem outdent_chars (margin : Nat) (l : List Char) :
    outdent margin (chars l) = chars (dedentLine margin l) := by
  rw [outdent, indentation_chars, dedentLine, chars, chars, List.map_drop]

/-- A line of a literal that goes on in a block is indented as far as the literal shows. -/
theorem indentation_append_block (l : Line) (code : String) (source : Extent) (r : Line) :
    indentation (l ++ .block code source :: r) = indentation l := by
  rw [indentation, indentation, List.takeWhile_append]
  split
  · rename_i hall
    simp [hall]
  · rfl

theorem outdent_append_block (margin : Nat) (l : Line) (code : String) (source : Extent)
    (r : Line) :
    outdent margin (l ++ .block code source :: r) =
      outdent margin l ++ .block code source :: r := by
  have hle : min margin (indentation l) ≤ l.length :=
    (min_le_right _ _).trans (List.takeWhile_prefix _).length_le
  rw [outdent, outdent, indentation_append_block, List.drop_append_of_le_length hle]

/-- The lines of the characters of a text. -/
theorem lines_chars (t : List Char) : lines (chars t) = (splitLines t).map chars := by
  rw [splitLines_eq_splitOn]
  exact splitOn_map Item.char_injective '\n' t

theorem newline_not_mem_of_mem_splitLines {t l : List Char} (h : l ∈ splitLines t) : '\n' ∉ l := by
  induction t generalizing l with
  | nil =>
    obtain rfl : l = [] := by simpa [splitLines] using h
    simp
  | cons x t ih =>
    rw [splitLines] at h
    split at h
    · rcases List.mem_cons.mp h with rfl | h
      · simp
      · exact ih h
    · rename_i hx
      split at h
      · obtain rfl : l = [x] := by simpa using h
        simpa using Ne.symm hx
      · rename_i l' ls hl
        rcases List.mem_cons.mp h with rfl | h
        · have hl' := ih (l := l') (by simp [hl])
          simpa [hl'] using Ne.symm hx
        · exact ih (by simp [hl, h])

/-- A text put together from lines has these lines. -/
theorem lines_chars_joinLines {ls : List (List Char)} (hne : ls ≠ [])
    (hls : ∀ l ∈ ls, '\n' ∉ l) : lines (chars (joinLines ls)) = ls.map chars := by
  rw [lines_chars, splitLines_eq_splitOn, joinLines_eq_intercalate,
    List.splitOn_intercalate '\n' hls hne]

/-- Taking the margin off a literal takes it off the lines that it has in the template. -/
theorem lines_dedent (margin : Nat) (p : Piece) :
    lines (chars (p.dedent margin)) = outdentFrom p.fresh margin (lines (chars p.text)) := by
  have hdedent : ∀ l ∈ splitLines p.text, '\n' ∉ dedentLine margin l := fun l hl hmem =>
    newline_not_mem_of_mem_splitLines hl (List.mem_of_mem_drop hmem)
  rw [lines_chars p.text, Piece.dedent]
  cases hsplit : splitLines p.text with
  | nil => exact absurd hsplit (splitLines_ne_nil p.text)
  | cons l ls =>
    rw [hsplit] at hdedent
    rw [lines_chars_joinLines (by simp)]
    · cases p.fresh <;> simp [outdentFrom, outdent_chars]
    · intro l' hl'
      rcases List.mem_cons.mp hl' with rfl | hl'
      · split
        · exact hdedent l (by simp)
        · exact newline_not_mem_of_mem_splitLines (t := p.text) (by simp [hsplit])
      · obtain ⟨l'', hl'', rfl⟩ := List.mem_map.mp hl'
        exact hdedent l'' (by simp [hl''])

section

variable (code : String) (source : Extent) (r : Line) (rs : List Line)

/-- Where the lines of a literal go on in a block, the margin can be taken off before or after. -/
theorem glue_map_outdent (margin : Nat) {ls : List Line} (h : ls ≠ []) :
    glue (ls.map (outdent margin)) ((.block code source :: r) :: rs.map (outdent margin)) =
      (glue ls ((.block code source :: r) :: rs)).map (outdent margin) := by
  induction ls with
  | nil => exact absurd rfl h
  | cons l ls ih =>
    cases ls with
    | nil => simp [glue, outdent_append_block]
    | cons l' ls =>
      rw [List.map_cons, glue_cons (by simp), ih (by simp)]
      rfl

theorem glue_outdentFrom (opened : Bool) (margin : Nat) {ls : List Line} (h : ls ≠ []) :
    glue (outdentFrom opened margin ls)
        (outdentFrom false margin ((.block code source :: r) :: rs)) =
      outdentFrom opened margin (glue ls ((.block code source :: r) :: rs)) := by
  cases opened with
  | true => exact glue_map_outdent code source r rs margin h
  | false =>
    obtain ⟨l, ls, rfl⟩ := List.exists_cons_of_ne_nil h
    cases ls with
    | nil => rfl
    | cons l' ls =>
      have hglue := glue_map_outdent code source r rs margin (List.cons_ne_nil l' ls)
      rw [glue_cons (by simp)]
      simp only [outdentFrom, Bool.false_eq_true, if_false, List.take_succ_cons, List.take_zero,
        List.drop_succ_cons, List.drop_zero, List.singleton_append]
      rw [glue_cons (by simp), hglue]

/-- The lines of a literal that goes on in a block count as they do for the literal alone. -/
theorem indentations_glue {ls : List (List Char)} (h : ls ≠ []) :
    indentations (glue (ls.map chars) ((.block code source :: r) :: rs)) =
      indents false ls ++ indentations rs := by
  induction ls with
  | nil => exact absurd rfl h
  | cons l ls ih =>
    cases ls with
    | nil => simp [glue, indentations, indents, indentation_append_block, indentation_chars]
    | cons l' ls =>
      rw [List.map_cons, glue_cons (by simp), indentations_cons, ih (by simp), all_isIndent_chars,
        indentation_chars, indents_cons (List.cons_ne_nil l' ls)]
      split <;> rfl

theorem indentations_glue_marginLines (p : Piece) (hp : p.final = false) :
    indentations (marginLines p.fresh
        (glue (lines (chars p.text)) ((.block code source :: r) :: rs))) =
      indents p.final p.marginLines ++ indentations rs := by
  obtain ⟨l, ls, hsplit⟩ := List.exists_cons_of_ne_nil (splitLines_ne_nil p.text)
  rw [hp, lines_chars, Piece.marginLines, hsplit]
  cases p.fresh with
  | true => exact indentations_glue code source r rs (by simp)
  | false =>
    cases ls with
    | nil => rfl
    | cons l' ls => exact indentations_glue code source r rs (List.cons_ne_nil l' ls)

end

/-- The lines of the literal at the end of the template count unless they are blank. -/
theorem indentations_chars (ls : List (List Char)) :
    indentations (ls.map chars) = indents true ls := by
  induction ls with
  | nil => rfl
  | cons l ls ih =>
    rw [List.map_cons, indentations_cons, ih, all_isIndent_chars, indentation_chars]
    cases ls with
    | nil => simp [indents]
    | cons l' ls => rw [indents_cons (List.cons_ne_nil l' ls)]

theorem marginLines_chars (p : Piece) :
    marginLines p.fresh (lines (chars p.text)) = p.marginLines.map chars := by
  rw [lines_chars, Piece.marginLines, marginLines]
  cases p.fresh with
  | true => rfl
  | false => exact List.drop_one.trans List.map_tail.symm

/-! ## The margin and what is left -/

/-- The lines of two layouts side by side. -/
theorem lines_append (xs ys : List Item) : lines (xs ++ ys) = glue (lines xs) (lines ys) :=
  splitOn_append _ xs ys

/-- The lines of a layout that begins with a block. -/
theorem lines_block (code : String) (source : Extent) (rest : List Item) :
    ∃ r rs, lines rest = r :: rs ∧
      lines (.block code source :: rest) = (.block code source :: r) :: rs := by
  obtain ⟨r, rs, h⟩ := List.exists_cons_of_ne_nil (lines_ne_nil rest)
  exact ⟨r, rs, h, by rw [lines_cons (by simp), h, List.modifyHead_cons]⟩

/-- The lines that count for the margin of the literals are those of the template. -/
theorem indents_edged {n i : Nat} {segs : List Segment} (hn : n = i + segs.length)
    (h : Separated segs) :
    ((pieces n i segs).flatMap fun p => indents p.final p.marginLines) =
      indentations (marginLines (opened n i segs) (lines (layout (edged n i segs)))) := by
  induction segs generalizing i with
  | nil => rfl
  | cons x rest ih =>
    have ih := ih (i := i + 1) (by rw [hn, List.length_cons]; omega) h.tail
    rw [opened_of_pos (Nat.succ_pos i)] at ih
    cases x with
    | block code source =>
      obtain ⟨r, rs, hrest, hlines⟩ := lines_block code source (layout (edged n (i + 1) rest))
      rw [pieces, ih, edged, layout, hlines, hrest]
      rfl
    | literal t s =>
      have hfinal : (piece i n t.toList).final = (i + 1 == n) := rfl
      rw [pieces, List.flatMap_cons, ih, opened, edged, layout, String.toList_ofList]
      -- the last line of the literal is that of the template, or it goes on in a block
      rcases h.tail_cases with rfl | ⟨code, source, rest, rfl⟩
      · have hlast : (piece i n t.toList).final = true := by
          rw [hfinal]
          simpa using hn.symm
        rw [hlast, edged, layout, List.append_nil, marginLines_chars, indentations_chars]
        exact List.append_nil _
      · have hlast : (piece i n t.toList).final = false := by
          rw [hfinal]
          simp only [List.length_cons] at hn
          simp
          omega
        obtain ⟨r, rs, hrest, hlines⟩ := lines_block code source (layout (edged n (i + 2) rest))
        rw [edged, layout, lines_append, hlines,
          indentations_glue_marginLines code source r rs _ hlast]
        rfl

/-- Without the margin of the literals, the template is without its margin. -/
theorem lines_rebuild (margin : Nat) {n i : Nat} {segs : List Segment}
    (hn : n = i + segs.length) (h : Separated segs) :
    lines (layout (rebuild margin n i segs)) =
      outdentFrom (opened n i segs) margin (lines (layout (edged n i segs))) := by
  induction segs generalizing i with
  | nil => cases hn; rfl
  | cons x rest ih =>
    have ih := ih (i := i + 1) (by rw [hn, List.length_cons]; omega) h.tail
    rw [opened_of_pos (Nat.succ_pos i)] at ih
    cases x with
    | block code source =>
      obtain ⟨r, rs, hrest, hlines⟩ := lines_block code source (layout (edged n (i + 1) rest))
      rw [rebuild, layout, edged, layout, hlines, lines_cons (by simp), ih, hrest]
      rfl
    | literal t s =>
      -- a literal without text left is no different, for its lines, from one that is left out
      have hrebuild : layout (rebuild margin n i (.literal t s :: rest)) =
          chars ((piece i n t.toList).dedent margin) ++ layout (rebuild margin n (i + 1) rest) := by
        rw [rebuild]
        split
        · rename_i hnil
          rw [hnil]
          rfl
        · rw [layout, String.toList_ofList]
      rw [hrebuild, lines_append, ih, lines_dedent, opened, edged, layout, String.toList_ofList,
        lines_append]
      rcases h.tail_cases with rfl | ⟨code, source, rest, rfl⟩
      · have hnil : lines (layout (edged n (i + 1) [])) = [[]] := rfl
        have hne : outdentFrom (piece i n t.toList).fresh margin
            (lines (chars (piece i n t.toList).text)) ≠ [] := by
          rw [← lines_dedent]
          exact lines_ne_nil _
        rw [hnil, glue_nil_right (lines_ne_nil _)]
        exact glue_nil_right hne
      · obtain ⟨r, rs, hrest, hlines⟩ := lines_block code source (layout (edged n (i + 2) rest))
        rw [edged, layout, hlines]
        exact glue_outdentFrom code source r rs _ margin (lines_ne_nil _)

/-- The margin is taken off as it is found: no line has one to lose if none counts. -/
theorem outdentFrom_margin (opened : Bool) (ls : List Line) :
    outdentFrom opened ((indentations (marginLines opened ls)).min?.getD 0) ls =
      if opened then outdentAll ls else ls.take 1 ++ outdentAll (ls.drop 1) := by
  have hall : ∀ ls : List Line,
      ls.map (outdent ((indentations ls).min?.getD 0)) = outdentAll ls := by
    intro ls
    rw [outdentAll, marginOf, indentations]
    cases ((ls.filter fun l => !l.all Item.isIndent).map indentation).min? with
    | none =>
      -- no line counts, and then the margin that is taken off is zero
      have hid : outdent 0 = id := funext fun l => by simp [outdent]
      rw [Option.getD_none, hid, List.map_id]
    | some margin => rfl
  cases opened with
  | true => exact hall ls
  | false => exact congrArg (ls.take 1 ++ ·) (hall (ls.drop 1))

/-- Trimming the literals trims the layout. -/
theorem layout_trim {segs : List Segment} (h : Separated segs) :
    layout (trim segs) = trimmed (layout segs) := by
  obtain ⟨hedged, hopened⟩ := layout_edged h
  have hmargin : margin segs =
      (indentations (marginLines (opened segs.length 0 segs)
        (lines (layout (edged segs.length 0 segs))))).min?.getD 0 := by
    rw [margin, least_eq_min?, indents_edged (Nat.zero_add _).symm h]
  rw [← unlines_lines (layout (trim segs)), trim, lines_rebuild _ (Nat.zero_add _).symm h, hmargin,
    outdentFrom_margin, hedged, hopened, ← closeLines_lines, trimmed, openLines_lines]

/-- Trimming gives the literals other texts and leaves those without text out. -/
theorem retexted_rebuild (margin n i : Nat) (segs : List Segment) :
    Retexted segs (rebuild margin n i segs) := by
  induction segs generalizing i with
  | nil => exact .nil
  | cons x segs ih =>
    cases x with
    | block code source => exact .block code source (ih (i + 1))
    | literal text source =>
      rw [rebuild]
      split
      · exact .dropped text source (ih (i + 1))
      · rename_i hne
        refine .literal text _ source (fun h => hne ?_) (ih (i + 1))
        simpa using h

/-- Trimming is what `trimmed` says, for every template: the segments of a scan have no literal
behind a literal, and for such segments the result of trimming is laid out as the trimmed layout,
with all blocks as they were and with no literals but those that had some text left. There is only
one such result. -/
theorem trim_eq_trimmed :
    (∀ (d : Delimiters) (template : String), Separated (d.scan template).segments) ∧
      ∀ segs : List Segment, Separated segs →
        layout (trim segs) = trimmed (layout segs) ∧ Retexted segs (trim segs) ∧
          ∀ out, Retexted segs out → layout out = trimmed (layout segs) → out = trim segs := by
  refine ⟨separated_scan, fun segs h => ?_⟩
  have hlayout := layout_trim h
  have hretexted : Retexted segs (trim segs) := retexted_rebuild _ _ 0 segs
  exact ⟨hlayout, hretexted, fun out hout heq =>
    hout.eq_of_layout h hretexted (heq.trans hlayout.symm)⟩

/-- Lines that blocks interrupt, a blank line between them, and both edges. -/
theorem trim_interrupted_lines :
    Separated
        [.literal "\n    a " ⟨"\n    a ", ⟨0, 7⟩⟩, .block "x" ⟨"<x>", ⟨7, 10⟩⟩,
          .literal "\n      \n   " ⟨"\n      \n   ", ⟨10, 21⟩⟩, .block "y" ⟨"<y>", ⟨21, 24⟩⟩,
          .literal " b\n " ⟨" b\n ", ⟨24, 28⟩⟩] ∧
      trim
        [.literal "\n    a " ⟨"\n    a ", ⟨0, 7⟩⟩, .block "x" ⟨"<x>", ⟨7, 10⟩⟩,
          .literal "\n      \n   " ⟨"\n      \n   ", ⟨10, 21⟩⟩, .block "y" ⟨"<y>", ⟨21, 24⟩⟩,
          .literal " b\n " ⟨" b\n ", ⟨24, 28⟩⟩] =
        [.literal " a " ⟨"\n    a ", ⟨0, 7⟩⟩, .block "x" ⟨"<x>", ⟨7, 10⟩⟩,
          .literal "\n   \n" ⟨"\n      \n   ", ⟨10, 21⟩⟩, .block "y" ⟨"<y>", ⟨21, 24⟩⟩,
          .literal " b" ⟨" b\n ", ⟨24, 28⟩⟩] := by
  have hsegs : ∀ t₁ s₁ c₁ s₂ t₂ s₃ c₂ s₄ t₃ s₅, Separated
      [.literal t₁ s₁, .block c₁ s₂, .literal t₂ s₃, .block c₂ s₄, .literal t₃ s₅] := by
    simp [Separated, Segment.isLiteral]
  refine ⟨hsegs .., ((trim_eq_trimmed.2 _ (hsegs ..)).2.2 _ ?_ (by decide)).symm⟩
  exact .literal _ _ _ (by decide) (.block _ _ (.literal _ _ _ (by decide) (.block _ _
    (.literal _ _ _ (by decide) .nil))))

end Splice.Margin
