import Splice.Proofs.Agreement
import Splice.Proofs.Columns
import Splice.Proofs.Separated

/-!
# The normal form of segments

Segments are in normal form if no literal is empty and none follows another one. Merging literals
that follow each other and leaving empty ones out brings all segments into normal form
(`Segment.normal`), and rendering cannot tell segments with the same normal form apart. One text is
the same because texts are put behind each other. For lines, literals are columns of one token among
the columns of the blocks, and these are neutral wherever lengths are looked at: they are no column
without tokens, they make no other column too long or too short, and where there are no columns at
all there is one line, as there is for literals alone (`Recycling.ColumnsAlike`). Only the lengths
that a refusal lists tell how many literals there were.

So it makes no difference where literal text is split, and that trimming leaves out literals of
which no text is left.
-/

open Splice.Action

namespace Splice

/-! ## Merging literals -/

namespace Segment

/-- Literal text in front of segments in normal form. It is merged with a literal that they begin
with, and makes a literal of its own only if it is not empty. -/
def prepend (t : String) : List Segment → List Segment
  | .literal t' source :: segs => .literal (t ++ t') source :: segs
  | segs => if t = "" then segs else .literal t default :: segs

/-- The normal form of segments: literals that follow each other are merged, and empty ones are left
out. What a literal was read from is forgotten. -/
def normal : List Segment → List Segment
  | [] => []
  | .literal t _ :: segs => prepend t (normal segs)
  | .block code source :: segs => .block code source :: normal segs

/-- No literal is empty, and none follows another one. -/
structure IsNormal (segs : List Segment) : Prop where
  nonempty : ∀ t source, .literal t source ∈ segs → t ≠ ""
  separated : Margin.Separated segs

/-- Text in front of anything but a literal makes a literal of its own, or nothing. -/
theorem prepend_of_head? {segs : List Segment} (h : ∀ x ∈ segs.head?, x.isLiteral = false)
    (t : String) : prepend t segs = if t = "" then segs else .literal t default :: segs := by
  cases segs with
  | nil => rfl
  | cons x segs =>
    cases x with
    | literal t' source => exact absurd (h _ rfl) nofun
    | block code source => rfl

/-- What text in front of segments can come to. -/
theorem prepend_cases (t : String) (segs : List Segment) :
    (∃ t' source rest, segs = .literal t' source :: rest ∧
        prepend t segs = .literal (t ++ t') source :: rest) ∨
      (∀ x ∈ segs.head?, x.isLiteral = false) ∧ t = "" ∧ prepend t segs = segs ∨
      (∀ x ∈ segs.head?, x.isLiteral = false) ∧ t ≠ "" ∧
        prepend t segs = .literal t default :: segs := by
  by_cases h : ∀ x ∈ segs.head?, x.isLiteral = false
  · by_cases ht : t = ""
    · exact .inr (.inl ⟨h, ht, by rw [prepend_of_head? h, if_pos ht]⟩)
    · exact .inr (.inr ⟨h, ht, by rw [prepend_of_head? h, if_neg ht]⟩)
  · match segs, h with
    | [], h => exact absurd nofun h
    | .literal t' source :: rest, _ => exact .inl ⟨t', source, rest, rfl, rfl⟩
    | .block code source :: rest, h => exact absurd (fun x hx => by cases hx; rfl) h

theorem prepend_empty (segs : List Segment) : prepend "" segs = segs := by
  rcases prepend_cases "" segs with ⟨t', source, rest, rfl, h⟩ | ⟨-, -, h⟩ | ⟨-, h, -⟩
  · rw [h, String.empty_append]
  · exact h
  · exact absurd rfl h

/-- Text can be put in front piece by piece. -/
theorem prepend_append (t u : String) (segs : List Segment) :
    prepend (t ++ u) segs = prepend t (prepend u segs) := by
  rcases prepend_cases u segs with ⟨t', source, rest, rfl, h⟩ | ⟨-, rfl, h⟩ | ⟨hsegs, hu, h⟩
  · rw [h, prepend, prepend, String.append_assoc]
  · rw [h, String.append_empty]
  · have hne : t ++ u ≠ "" := fun hnil => hu (String.append_eq_empty_iff.mp hnil).2
    rcases prepend_cases (t ++ u) segs with ⟨t', source, rest, rfl, -⟩ | ⟨-, hnil, -⟩ | ⟨-, -, h'⟩
    · exact absurd (hsegs _ rfl) nofun
    · exact absurd hnil hne
    · rw [h, h', prepend]

theorem isNormal_prepend {segs : List Segment} (h : IsNormal segs) (t : String) :
    IsNormal (prepend t segs) := by
  rcases prepend_cases t segs with ⟨t', source, rest, rfl, h'⟩ | ⟨-, -, h'⟩ | ⟨hsegs, ht, h'⟩
  · rw [h']
    refine ⟨fun u s hu => ?_, List.isChain_cons.mpr ?_⟩
    · rcases List.mem_cons.mp hu with heq | hu
      · cases heq
        intro hnil
        exact h.nonempty t' source List.mem_cons_self (String.append_eq_empty_iff.mp hnil).2
      · exact h.nonempty u s (List.mem_cons_of_mem _ hu)
    · exact List.isChain_cons.mp h.separated
  · rw [h']
    exact h
  · rw [h']
    refine ⟨fun u s hu => ?_, List.isChain_cons.mpr ⟨fun x hx hboth => ?_, h.separated⟩⟩
    · rcases List.mem_cons.mp hu with heq | hu
      · cases heq
        exact ht
      · exact h.nonempty u s hu
    · exact absurd (hsegs x hx) (by rw [hboth.2]; exact nofun)

theorem isNormal_normal (segs : List Segment) : IsNormal (normal segs) := by
  induction segs with
  | nil => exact ⟨nofun, List.isChain_nil⟩
  | cons seg segs ih =>
    cases seg with
    | literal t source => exact isNormal_prepend ih t
    | block code source =>
      refine ⟨fun t s ht => ?_, List.isChain_cons.mpr ⟨fun x _ hboth => ?_, ih.separated⟩⟩
      · rcases List.mem_cons.mp ht with heq | ht
        · cases heq
        · exact ih.nonempty t s ht
      · exact absurd hboth.1 nofun

/-- The normal form of segments depends on those behind only through their normal form. -/
theorem normal_append {segs segs' : List Segment} (h : normal segs = normal segs')
    (front : List Segment) : normal (front ++ segs) = normal (front ++ segs') := by
  induction front with
  | nil => exact h
  | cons seg front ih =>
    cases seg with
    | literal t source => exact congrArg (prepend t) ih
    | block code source => exact congrArg (Segment.block code source :: ·) ih

/-- It makes no difference where literal text is split. -/
theorem normal_split (front behind : List Segment) (t u : String) (source s₁ s₂ : Extent) :
    normal (front ++ .literal (t ++ u) source :: behind) =
      normal (front ++ .literal t s₁ :: .literal u s₂ :: behind) := by
  have hsplit : normal (.literal (t ++ u) source :: behind) =
      normal (.literal t s₁ :: .literal u s₂ :: behind) := prepend_append t u (normal behind)
  exact normal_append hsplit front

/-- It makes no difference if an empty literal is left out. -/
theorem normal_drop (front behind : List Segment) (source : Extent) :
    normal (front ++ .literal "" source :: behind) = normal (front ++ behind) := by
  have hdrop : normal (.literal "" source :: behind) = normal behind :=
    prepend_empty (normal behind)
  exact normal_append hdrop front

end Segment

open Segment World

namespace Margin

/-- Puts the trimmed literals back, also those that became empty. -/
def rebuildAll (margin n : Nat) : (i : Nat) → List Segment → List Segment
  | _, [] => []
  | i, .literal t s :: rest =>
    .literal (String.ofList ((piece i n t.toList).dedent margin)) s ::
      rebuildAll margin n (i + 1) rest
  | i, .block c s :: rest => .block c s :: rebuildAll margin n (i + 1) rest

/-- The segments of a template without the layout around it, with all literals in their places. -/
def trimAll (segs : List Segment) : List Segment :=
  rebuildAll (margin segs) segs.length 0 segs

theorem normal_rebuild (margin n i : Nat) (segs : List Segment) :
    normal (rebuild margin n i segs) = normal (rebuildAll margin n i segs) := by
  induction segs generalizing i with
  | nil => rfl
  | cons seg segs ih =>
    cases seg with
    | block code source => exact congrArg (Segment.block code source :: ·) (ih (i + 1))
    | literal t source =>
      rw [rebuild, rebuildAll, normal, ← ih (i + 1)]
      split
      · rename_i hnil
        rw [hnil]
        exact (prepend_empty _).symm
      · rfl

/-- It makes no difference that trimming leaves out literals without text. -/
theorem normal_trim (segs : List Segment) : normal (trim segs) = normal (trimAll segs) :=
  normal_rebuild (margin segs) segs.length 0 segs

end Margin

/-! ## Columns of one token among others -/

namespace Recycling

/-- Two lists of columns are alike if they have the same columns of another length than one, in the
same order, and show the same on every line. -/
structure ColumnsAlike (xs ys : List (List String)) : Prop where
  long : (xs.filter fun c => c.length ≠ 1) = ys.filter fun c => c.length ≠ 1
  line : ∀ i, line (xs.map List.toArray) i = line (ys.map List.toArray) i

theorem line_cons (c : List String) (columns : List (List String)) (i : Nat) :
    line ((c :: columns).map List.toArray) i =
      tokenAt c.toArray i ++ line (columns.map List.toArray) i := by
  rw [line, line, List.map_cons, List.map_cons, String.join_cons]

theorem tokenAt_singleton (t : String) (i : Nat) : tokenAt [t].toArray i = t := by
  simp [tokenAt, Nat.mod_one]

namespace ColumnsAlike

variable {xs ys : List (List String)}

theorem refl (xs : List (List String)) : ColumnsAlike xs xs :=
  ⟨rfl, fun _ => rfl⟩

theorem symm (h : ColumnsAlike xs ys) : ColumnsAlike ys xs :=
  ⟨h.long.symm, fun i => (h.line i).symm⟩

theorem trans {zs : List (List String)} (h : ColumnsAlike xs ys) (h' : ColumnsAlike ys zs) :
    ColumnsAlike xs zs :=
  ⟨h.long.trans h'.long, fun i => (h.line i).trans (h'.line i)⟩

theorem cons (h : ColumnsAlike xs ys) (c : List String) : ColumnsAlike (c :: xs) (c :: ys) := by
  refine ⟨?_, fun i => ?_⟩
  · rw [List.filter_cons, List.filter_cons, h.long]
  · rw [line_cons, line_cons, h.line]

/-- Columns of one token each, next to each other, are like one column with both tokens in one. -/
theorem merge (t u : String) (xs : List (List String)) :
    ColumnsAlike ([t] :: [u] :: xs) ([t ++ u] :: xs) := by
  refine ⟨rfl, fun i => ?_⟩
  rw [line_cons, line_cons, line_cons, tokenAt_singleton, tokenAt_singleton, tokenAt_singleton,
    String.append_assoc]

/-- A column of one empty token is like none. -/
theorem empty (xs : List (List String)) : ColumnsAlike ([""] :: xs) xs := by
  refine ⟨rfl, fun i => ?_⟩
  rw [line_cons, tokenAt_singleton, String.empty_append]

variable (h : ColumnsAlike xs ys)
include h

/-- Columns of another length than one are in both. -/
theorem mem_of_length_ne_one {c : List String} (hc : c ∈ xs) (hone : c.length ≠ 1) : c ∈ ys := by
  have hmem : c ∈ xs.filter fun c => c.length ≠ 1 := List.mem_filter.mpr ⟨hc, by simpa using hone⟩
  rw [h.long] at hmem
  exact (List.mem_filter.mp hmem).1

theorem nil_mem (hx : [] ∈ xs) : [] ∈ ys :=
  h.mem_of_length_ne_one hx nofun

theorem mismatched (hx : Mismatched xs) : Mismatched ys := by
  obtain ⟨c, hc, c', hc', hlt, hlt', hne⟩ := hx
  exact ⟨c, h.mem_of_length_ne_one hc (Nat.ne_of_gt hlt), c',
    h.mem_of_length_ne_one hc' (Nat.ne_of_gt hlt'), hlt, hlt', hne⟩

/-- A column of one token is no longer than there are lines in any case. -/
theorem height_le (hy : [] ∉ ys) : height xs ≤ height ys := by
  have hpos : 1 ≤ height ys := by
    cases ys with
    | nil => exact Nat.le_refl 1
    | cons c ys =>
      have hc : c ≠ [] := fun hnil => hy (hnil ▸ List.mem_cons_self)
      have hlength : 0 < c.length := List.length_pos_iff.mpr hc
      have hle : c.length ≤ height (c :: ys) := length_le_height List.mem_cons_self
      omega
  by_cases hnil : xs = []
  · rw [hnil]
    exact hpos
  · obtain ⟨c, hc, hlength⟩ := ((isHeight_height xs).2 hnil).1
    by_cases hone : c.length = 1
    · rw [← hlength, hone]
      exact hpos
    · rw [← hlength]
      exact length_le_height (h.mem_of_length_ne_one hc hone)

/-- Without a column that has no tokens, there are equally many lines. -/
theorem height_eq (hx : [] ∉ xs) : height xs = height ys :=
  Nat.le_antisymm (h.height_le fun hy => hx (h.symm.nil_mem hy)) (h.symm.height_le hx)

/-- Without the columns of one token, the lengths are the same. -/
theorem lengths_eq :
    (xs.map fun c => (c.length : Int)).filter (· ≠ 1) =
      (ys.map fun c => (c.length : Int)).filter (· ≠ 1) := by
  have hlong (zs : List (List String)) : (zs.map fun c => (c.length : Int)).filter (· ≠ 1) =
      (zs.filter fun c => c.length ≠ 1).map fun c => (c.length : Int) := by
    rw [List.filter_map]
    refine congrArg _ (List.filter_congr fun c _ => ?_)
    simp only [Function.comp_apply, decide_eq_decide]
    omega
  rw [hlong, hlong, h.long]

theorem lines_cycle_eq (hx : [] ∉ xs) : lines .cycle xs = lines .cycle ys := by
  rw [lines_cycle hx, lines_cycle fun hy => hx (h.symm.nil_mem hy), h.height_eq hx]
  exact congrArg Except.ok (List.map_congr_left fun i _ => h.line i)

end ColumnsAlike

end Recycling

open Recycling

namespace Renderer

variable {r : Renderer}

/-! ## Rendering -/

/-- The columns of segments are like those of their normal form. -/
theorem alike_filledIn_normal (segs : List Segment) (columns : List (List String)) :
    ColumnsAlike (filledIn segs columns) (filledIn (normal segs) columns) := by
  induction segs generalizing columns with
  | nil => exact .refl _
  | cons seg segs ih =>
    cases seg with
    | block code source =>
      cases columns with
      | nil => exact .refl _
      | cons column columns => exact (ih columns).cons column
    | literal t source =>
      have hfront : ColumnsAlike ([t] :: filledIn (normal segs) columns)
          (filledIn (prepend t (normal segs)) columns) := by
        rcases prepend_cases t (normal segs) with ⟨t', s, rest, hrest, h⟩ | ⟨-, rfl, h⟩ | ⟨-, -, h⟩
        · rw [h, hrest]
          exact .merge t t' (filledIn rest columns)
        · rw [h]
          exact .empty _
        · rw [h]
          exact .refl _
      exact ((ih columns).cons [t]).trans hfront

theorem blocks_prepend (t : String) (segs : List Segment) :
    blocks (prepend t segs) = blocks segs := by
  rcases prepend_cases t segs with ⟨t', source, rest, rfl, h⟩ | ⟨-, -, h⟩ | ⟨-, -, h⟩
  · rw [h, blocks_literal, blocks_literal]
  · rw [h]
  · rw [h, blocks_literal]

theorem blocks_normal (segs : List Segment) : blocks (normal segs) = blocks segs := by
  induction segs with
  | nil => rfl
  | cons seg segs ih =>
    cases seg with
    | literal t source => rw [normal, blocks_prepend, ih, blocks_literal]
    | block code source => rw [normal, blocks_block, blocks_block, ih]

theorem joined_prepend (r : Renderer) (t : String) (segs : List Segment) :
    r.joined (prepend t segs) = (t ++ ·) <$> r.joined segs := by
  rcases prepend_cases t segs with ⟨t', source, rest, rfl, h⟩ | ⟨-, rfl, h⟩ | ⟨-, -, h⟩
  · simp [h, joined_literal, String.append_assoc]
  · simp [h]
  · rw [h, joined_literal]

/-- The text of segments is that of their normal form. -/
theorem joined_normal (r : Renderer) (segs : List Segment) :
    r.joined (normal segs) = r.joined segs := by
  induction segs with
  | nil => rfl
  | cons seg segs ih =>
    cases seg with
    | literal t source => rw [normal, joined_prepend, ih, joined_literal]
    | block code source => rw [normal, joined_block, joined_block, ih]

/-- Two renders to lines come to the same lines or to the same failure, or both refuse the columns,
and then the lengths that they list are the same but for those that are one. The worlds afterwards
differ in their logs at most. -/
inductive LinesAlike :
    Except Failure (List String) × World → Except Failure (List String) × World → Prop
  | lines {ls : List String} {w₁ w₂ : World} (hw : SameButLog w₁ w₂) :
    LinesAlike (.ok ls, w₁) (.ok ls, w₂)
  | failed {f : Failure} {w₁ w₂ : World} (hw : SameButLog w₁ w₂) :
    LinesAlike (.error f, w₁) (.error f, w₂)
  | refused {ns ns' : List Int} {w₁ w₂ : World} (hw : SameButLog w₁ w₂)
    (h : ns.filter (· ≠ 1) = ns'.filter (· ≠ 1)) :
    LinesAlike (.error (.of (.recycling ns)), w₁) (.error (.of (.recycling ns')), w₂)

/-- Columns that are alike are combined alike, whatever the policy. -/
theorem combined_alike {xs ys : List (List String)} (h : ColumnsAlike xs ys) {w₁ w₂ : World}
    (hw : SameButLog w₁ w₂) : LinesAlike (r.combined xs, w₁) (r.combined ys, w₂) := by
  unfold combined
  by_cases hx : [] ∈ xs
  · rw [lines_of_mem hx, lines_of_mem (h.nil_mem hx)]
    exact .lines hw
  have hy : [] ∉ ys := fun hy => hx (h.symm.nil_mem hy)
  cases r.policy with
  | unknown name =>
    rw [lines_unknown hx, lines_unknown hy]
    exact .failed hw
  | cycle =>
    rw [h.lines_cycle_eq hx, lines_cycle hy]
    exact .lines hw
  | strict =>
    by_cases hm : Mismatched xs
    · rw [lines_strict_of_mismatched hx hm, lines_strict_of_mismatched hy (h.mismatched hm)]
      refine .refused hw ?_
      rw [List.map_map, List.map_map]
      exact h.lengths_eq
    · rw [lines_strict_of_not_mismatched hx hm,
        lines_strict_of_not_mismatched hy fun hm' => hm (h.symm.mismatched hm'),
        h.lines_cycle_eq hx, lines_cycle hy]
      exact .lines hw

/-- Whatever the transform does, two lists of segments get the same text, and columns that combine
to the same lines. -/
structure SharesForm (r : Renderer) (segs segs' : List Segment) : Prop where
  text : r.joined segs = r.joined segs'
  lines : ∀ w, Together Eq (fun w₁ w₂ xs ys => LinesAlike (r.combined xs, w₁) (r.combined ys, w₂))
    (outcome (r.columns segs) w) (outcome (r.columns segs') w)

/-- Two lists of segments are rendered alike: the transform is asked for the same codes in the same
order, in worlds that differ in their logs only, and the same comes out, as a text and as lines. -/
structure RendersAlike (r : Renderer) (segs segs' : List Segment) (w : World) : Prop where
  asked : AskedAlike SameButLog (r.asked segs w) (r.asked segs' w)
  askedByLine : AskedAlike SameButLog (r.askedByLine segs w) (r.askedByLine segs' w)
  text : Together SameButLog Same (outcome (r.render segs) w) (outcome (r.render segs') w)
  lines : LinesAlike (outcome (r.renderLines segs) w) (outcome (r.renderLines segs') w)

section

variable {segs segs' : List Segment} (h : normal segs = normal segs')
include h

theorem blocks_eq_of_normal : blocks segs = blocks segs' := by
  rw [← blocks_normal segs, h, blocks_normal]

/-- With the blocks of both gathered, the columns are alike. -/
theorem alike_filledIn (columns : List (List String)) :
    ColumnsAlike (filledIn segs columns) (filledIn segs' columns) := by
  have hsegs := alike_filledIn_normal segs columns
  rw [h] at hsegs
  exact hsegs.trans (alike_filledIn_normal segs' columns).symm

theorem sharesForm (r : Renderer) : r.SharesForm segs segs' where
  text := by rw [← joined_normal, h, joined_normal]
  lines w := by
    rw [columns_eq, columns_eq, ← blocks_eq_of_normal h]
    have hsame : Together Eq Same (outcome (r.gather (blocks segs)) w)
        (outcome (r.gather (blocks segs)) w) := by
      rcases outcome (r.gather (blocks segs)) w with ⟨f | columns, w'⟩
      · exact .error rfl
      · exact .ok rfl rfl
    refine hsame.map fun {columns columns' w₁ w₂} hw hcolumns => ?_
    obtain rfl : columns = columns' := hcolumns
    obtain rfl : w₁ = w₂ := hw
    exact combined_alike (alike_filledIn h columns) ⟨rfl, rfl, rfl⟩

theorem rendersAlike (hr : r.transform.IgnoresLog) (w : World) : r.RendersAlike segs segs' w := by
  have hstart (manner : String) : SameButLog (started segs manner w) (started segs' manner w) :=
    (sameButLog_started ..).symm.trans (sameButLog_started ..)
  have hblocks := blocks_eq_of_normal h
  constructor
  case asked =>
    rw [Renderer.asked, Renderer.asked, ← hblocks]
    exact askedAlike_of_ignoresLog hr (hstart " segments") (blocks segs)
  case askedByLine =>
    rw [Renderer.askedByLine, Renderer.askedByLine, ← hblocks]
    exact askedAlike_of_ignoresLog hr (hstart " segments as lines") (blocks segs)
  case text =>
    rw [outcome_render_eq_joined, outcome_render_eq_joined, ← (sharesForm h r).text]
    exact together_joined_of_ignoresLog hr (hstart " segments") segs
  case lines =>
    have hgather := together_gather_of_ignoresLog hr (hstart " segments as lines") (blocks segs)
    rcases hdone : outcome (r.gather (blocks segs)) (started segs " segments as lines" w) with
      ⟨f | columns, w₁⟩
    · rw [hdone] at hgather
      obtain ⟨w₂, hdone', hw⟩ := hgather.exists_error
      rw [outcome_renderLines_of_gather_error r hdone,
        outcome_renderLines_of_gather_error r (hblocks ▸ hdone')]
      exact .failed hw
    · rw [hdone] at hgather
      obtain ⟨w₂, hdone', hw⟩ := hgather.exists_ok
      rw [outcome_renderLines_of_gather r hdone,
        outcome_renderLines_of_gather r (hblocks ▸ hdone')]
      exact combined_alike (alike_filledIn h columns) hw

end

/-- Rendering depends on the normal form of segments only. If two lists have the same, they get the
same text and the same lines, whatever the transform does; and if the transform does not read the
log, in which the numbers of segments are announced, the renders come to the same with every
separator, marker and policy, ask for the same codes, and leave the same environment and streams. In
particular, literal text can be split anywhere, empty literals can be left out, even if nothing else
is there, and trimming could as well leave all literals in their places. -/
theorem depends_on_normal_form (r : Renderer) :
    (∀ segs segs', normal segs = normal segs' →
      r.SharesForm segs segs' ∧ (r.transform.IgnoresLog → ∀ w, r.RendersAlike segs segs' w)) ∧
    (∀ segs, IsNormal (normal segs) ∧ normal (Margin.trim segs) = normal (Margin.trimAll segs)) ∧
    ∀ front behind t u source s₁ s₂,
      normal (front ++ .literal (t ++ u) source :: behind) =
          normal (front ++ .literal t s₁ :: .literal u s₂ :: behind) ∧
        normal (front ++ .literal "" source :: behind) = normal (front ++ behind) :=
  ⟨fun _ _ h => ⟨sharesForm h r, fun hr w => rendersAlike h hr w⟩,
    fun segs => ⟨isNormal_normal segs, Margin.normal_trim segs⟩,
    fun front behind t u source s₁ s₂ =>
      ⟨normal_split front behind t u source s₁ s₂, normal_drop front behind source⟩⟩

/-- A literal that is split in three, one of them empty, and an empty one at the end. -/
theorem depends_on_normal_form_split :
    let r : Renderer := { byName with separator := ", ", policy := .strict }
    let w : World := named [("x", .new (.list [.new (.text "b"), .new (.text "c")]))]
    let segs : List Segment := [.literal "a-" default, .block "x" default]
    let segs' : List Segment :=
      [.literal "a" default, .literal "" default, .literal "-" default, .block "x" default,
        .literal "" default]
    normal segs = normal segs' ∧ r.transform.IgnoresLog ∧
      (∃ w', outcome (r.render segs') w = (.ok "a-b, c", w')) ∧
        ∃ w', outcome (r.renderLines segs') w = (.ok ["a-b", "a-c"], w') := by
  intro r w segs segs'
  have hnormal : normal segs = normal segs' := by decide
  have hr : r.transform.IgnoresLog :=
    Transform.ignoresLog_of_discreet fun code => (composed_lookup code).discreet
  have h := ((depends_on_normal_form r).1 segs segs' hnormal).2 hr w
  obtain ⟨w₁, htext, -⟩ := h.text.exists_ok (a := "a-b, c")
  have hlines := h.lines
  rw [show outcome (r.renderLines segs) w = (.ok ["a-b", "a-c"], _) from rfl] at hlines
  cases hlines
  exact ⟨hnormal, hr, ⟨w₁, htext⟩, _, rfl⟩

/-- An empty literal makes one line with nothing on it, as no segments do. -/
example : (outcome (byName.renderLines [.literal "" default]) (named [])).1 = .ok [""] := rfl

end Renderer

end Splice
