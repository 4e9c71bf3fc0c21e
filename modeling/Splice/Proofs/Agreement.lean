import Splice.Proofs.Blocks
import Splice.Proofs.Columns

/-!
# One text and lines

Rendering to one text and rendering to lines are two ways to put the same columns together. The
columns are gathered in the same way for both, so the same happens in the world, and a block that
fails in one fails in the other. What is different comes afterwards: one text is always there, while
columns of different lengths may be refused.

Where every block yields a single token nothing is left to combine. There is one line then, whatever
the policy, and it is the text; so too where there are no blocks, and where there are no segments.
-/

open Splice.Action

namespace Splice

open Segment World

/-! ## Columns of one token -/

namespace Recycling

/-- Some columns of one token, or none at all, make up one line. -/
theorem height_singletons (texts : List String) : height (texts.map ([·])) = 1 := by
  obtain ⟨hnone, hsome⟩ := isHeight_height (texts.map ([·]))
  by_cases hnil : texts.map ([·]) = []
  · exact hnone hnil
  · obtain ⟨column, hcolumn, hlength⟩ := (hsome hnil).1
    obtain ⟨t, -, rfl⟩ := List.mem_map.mp hcolumn
    exact hlength.symm

/-- With a policy that means something, columns of one token combine to one line. -/
theorem lines_singletons {policy : Policy} (hpolicy : ∀ name, policy ≠ .unknown name)
    (texts : List String) : lines policy (texts.map ([·])) = .ok [String.join texts] := by
  have hblank : [] ∉ texts.map ([·]) := by simp
  have hmatched : ¬ Mismatched (texts.map ([·])) := by
    rintro ⟨column, hcolumn, -, -, hlt, -⟩
    obtain ⟨t, -, rfl⟩ := List.mem_map.mp hcolumn
    exact absurd hlt (Nat.lt_irrefl 1)
  have hline : line ((texts.map ([·])).map List.toArray) 0 = String.join texts := by
    simp [line, tokenAt, List.map_map, Function.comp_def]
  have hcycle : lines .cycle (texts.map ([·])) = .ok [String.join texts] := by
    rw [lines_cycle hblank, height_singletons, List.range_one, List.map_singleton, hline]
  cases policy with
  | unknown name => exact absurd rfl (hpolicy name)
  | strict => rw [lines_strict_of_not_mismatched hblank hmatched, hcycle]
  | cycle => exact hcycle

end Recycling

namespace Renderer

variable {r : Renderer}

/-! ## Both ways to render -/

/-- What the transform is asked for when segments are rendered to lines. -/
def askedByLine (r : Renderer) (segs : List Segment) (w : World) : List (String × World) :=
  r.asks (blocks segs) (started segs " segments as lines" w)

/-- Rendering to one text and to lines goes through the segments in one and the same way. Only the
entry in the log before it is another, and what is made of the columns after it: a text always, and
lines unless the columns are refused. -/
structure SharesColumns (r : Renderer) (segs : List Segment) (w : World) : Prop where
  text : outcome (r.render segs) w =
    match outcome (r.columns segs) (started segs " segments" w) with
    | (.ok columns, w') => (.ok (String.join (columns.map r.separator.intercalate)), w')
    | (.error f, w') => (.error f, w')
  lines : outcome (r.renderLines segs) w =
    match outcome (r.columns segs) (started segs " segments as lines" w) with
    | (.ok columns, w') => (r.combined columns, w')
    | (.error f, w') => (.error f, w')

/-- Rendering to one text and to lines, from the same world. The transform is asked alike, and the
worlds afterwards only differ in their logs. A failure of a block leaves one if and only if it
leaves the other. If there is a text, there are lines or the columns are refused. If the policy
means something and all blocks that are reached yield a single token, there is a text, and it is the
one line. -/
structure Agrees (r : Renderer) (segs : List Segment) (w : World) : Prop where
  asked : AskedAlike SameButLog (r.asked segs w) (r.askedByLine segs w)
  after : SameButLog (outcome (r.render segs) w).2 (outcome (r.renderLines segs) w).2
  failing : ∀ f, (∃ w₁, outcome (r.render segs) w = (.error f, w₁)) ↔
    ∃ w₂, outcome (r.renderLines segs) w = (.error f, w₂) ∧
      ∃ code source stage f₀,
        r.Raises segs (started segs " segments as lines" w) code source stage f₀ w₂ ∧
          f = stage.leaving code source f₀
  combined : ∀ {text w₁}, outcome (r.render segs) w = (.ok text, w₁) →
    ∃ columns w₂, text = String.join (columns.map r.separator.intercalate) ∧
      outcome (r.renderLines segs) w = (r.combined columns, w₂)
  single : (∀ name, r.policy ≠ .unknown name) →
    (∀ code v, (code, v) ∈ r.asked segs w → ∃ token v', r.Yields code v [token] v') →
      ∃ text w₁ w₂, outcome (r.render segs) w = (.ok text, w₁) ∧
        outcome (r.renderLines segs) w = (.ok [text], w₂)

/-! ## Blocks with one token -/

/-- Blocks that yield single tokens are gathered to columns of one token. -/
theorem gather_of_yields_single (bs : List (String × Extent)) (w : World)
    (h : ∀ code v, (code, v) ∈ r.asks bs w → ∃ token v', r.Yields code v [token] v') :
    ∃ (tokens : List String) (w' : World),
      outcome (r.gather bs) w = (.ok (tokens.map ([·])), w') := by
  induction bs generalizing w with
  | nil => exact ⟨[], w, rfl⟩
  | cons b bs ih =>
    obtain ⟨code, source⟩ := b
    obtain ⟨token, w₁, hyields⟩ := h code w List.mem_cons_self
    have htokens : outcome (r.tokens code source) w = (.ok [token], w₁) :=
      r.outcome_tokens_eq_ok_iff.mpr hyields
    have hrest : ∀ c v, (c, v) ∈ r.asks bs w₁ → ∃ token v', r.Yields c v [token] v' := by
      intro c v hmem
      apply h c v
      rw [asks_cons_of_ok r htokens]
      exact List.mem_cons_of_mem _ hmem
    obtain ⟨tokens, w', hgather⟩ := ih w₁ hrest
    refine ⟨token :: tokens, w', ?_⟩
    rw [outcome_gather_cons_of_ok r htokens]
    exact outcome_map_eq_ok_iff.mpr ⟨_, hgather, rfl⟩

/-- Columns of one token have only such columns filled in between them. -/
theorem exists_filledIn_singletons (segs : List Segment) (tokens : List String) :
    ∃ texts : List String, filledIn segs (tokens.map ([·])) = texts.map ([·]) := by
  induction segs generalizing tokens with
  | nil => exact ⟨[], rfl⟩
  | cons seg segs ih =>
    cases seg with
    | literal t source =>
      obtain ⟨texts, htexts⟩ := ih tokens
      exact ⟨t :: texts, congrArg ([t] :: ·) htexts⟩
    | block code source =>
      cases tokens with
      | nil => exact ⟨[], rfl⟩
      | cons token tokens =>
        obtain ⟨texts, htexts⟩ := ih tokens
        exact ⟨token :: texts, congrArg ([token] :: ·) htexts⟩

/-- A column of one token is joined to that token. -/
theorem map_intercalate_singletons (separator : String) (texts : List String) :
    (texts.map ([·])).map separator.intercalate = texts := by
  rw [List.map_map]
  have hone : separator.intercalate ∘ ([·]) = id := by
    funext t
    simp
  rw [hone, List.map_id]

/-! ## Agreement -/

section

variable (hr : r.transform.IgnoresLog) (segs : List Segment) (w : World)
include hr

/-- The blocks are gathered alike in both ways to render. -/
theorem together_gather_by_line :
    Together SameButLog Same
      (outcome (r.gather (blocks segs)) (started segs " segments" w))
      (outcome (r.gather (blocks segs)) (started segs " segments as lines" w)) :=
  together_gather_of_ignoresLog hr
    ((sameButLog_started ..).symm.trans (sameButLog_started ..)) (blocks segs)

/-- A failure of a block leaves the one render if and only if it leaves the other. -/
theorem fails_by_line_iff (f : Failure) :
    (∃ w₁, outcome (r.render segs) w = (.error f, w₁)) ↔
      ∃ w₂, outcome (r.renderLines segs) w = (.error f, w₂) ∧
        ∃ code source stage f₀,
          r.Raises segs (started segs " segments as lines" w) code source stage f₀ w₂ ∧
            f = stage.leaving code source f₀ := by
  have hgather := (together_gather_by_line hr segs w).exists_error_iff f
  constructor
  · rintro ⟨w₁, h⟩
    rw [outcome_render_eq_joined, outcome_joined_eq_error_iff] at h
    obtain ⟨w₂, hlines⟩ := hgather.mp ⟨w₁, h⟩
    have hcolumns := r.outcome_columns_eq_error_iff_gather.mpr hlines
    exact ⟨w₂, r.outcome_renderLines_of_gather_error hlines,
      r.outcome_columns_eq_error_iff.mp hcolumns⟩
  · rintro ⟨w₂, -, hraises⟩
    have hcolumns := r.outcome_columns_eq_error_iff.mpr hraises
    obtain ⟨w₁, h⟩ := hgather.mpr ⟨w₂, r.outcome_columns_eq_error_iff_gather.mp hcolumns⟩
    exact ⟨w₁, r.outcome_render_of_gather_error h⟩

/-- What is one text in one render, are columns to be combined in the other. -/
theorem combined_by_line {text : String} {w₁ : World}
    (h : outcome (r.render segs) w = (.ok text, w₁)) :
    ∃ columns w₂, text = String.join (columns.map r.separator.intercalate) ∧
      outcome (r.renderLines segs) w = (r.combined columns, w₂) := by
  have hgather := together_gather_by_line hr segs w
  rcases htext : outcome (r.gather (blocks segs)) (started segs " segments" w) with
    ⟨f | columns, w'⟩
  · rw [outcome_render_of_gather_error r htext] at h
    cases h
  · rw [outcome_render_of_gather r htext] at h
    rw [htext] at hgather
    obtain ⟨w₂, hlines, -⟩ := hgather.exists_ok
    cases h
    exact ⟨filledIn segs columns, w₂, rfl, r.outcome_renderLines_of_gather hlines⟩

/-- If all blocks yield single tokens, the text is the one line. -/
theorem single_line (hpolicy : ∀ name, r.policy ≠ .unknown name)
    (h : ∀ code v, (code, v) ∈ r.asked segs w → ∃ token v', r.Yields code v [token] v') :
    ∃ text w₁ w₂, outcome (r.render segs) w = (.ok text, w₁) ∧
      outcome (r.renderLines segs) w = (.ok [text], w₂) := by
  obtain ⟨tokens, w₁, htext⟩ := gather_of_yields_single (blocks segs) _ h
  obtain ⟨texts, htexts⟩ := exists_filledIn_singletons segs tokens
  have hgather := together_gather_by_line hr segs w
  rw [htext] at hgather
  obtain ⟨w₂, hlines, -⟩ := hgather.exists_ok
  have hrender := r.outcome_render_of_gather htext
  have hrenderLines := r.outcome_renderLines_of_gather hlines
  rw [htexts, map_intercalate_singletons] at hrender
  rw [htexts, combined, Recycling.lines_singletons hpolicy] at hrenderLines
  exact ⟨String.join texts, w₁, w₂, hrender, hrenderLines⟩

end

/-- With a transform that does not read the log, the announcements make no difference. -/
theorem agrees (hr : r.transform.IgnoresLog) (segs : List Segment) (w : World) :
    r.Agrees segs w where
  asked := askedAlike_of_ignoresLog hr
    ((sameButLog_started ..).symm.trans (sameButLog_started ..)) (blocks segs)
  after := by
    rw [after_render, after_renderLines]
    exact (together_gather_by_line hr segs w).after
  failing := fails_by_line_iff hr segs w
  combined := combined_by_line hr segs w
  single := single_line hr segs w

/-- Rendering to one text and rendering to lines agree. Whatever the transform does, both go through
the segments in the same way and differ before and after that only. So if the transform does not
read the log, they ask for the same codes in the same order, leave the same environment and the same
streams, even if the columns are then refused, and fail with the same failure, tagged in the same
way, if a block does. If every block yields a single token, the one line is the text, with every
separator and with both policies. -/
theorem lines_agree (r : Renderer) (segs : List Segment) (w : World) :
    r.SharesColumns segs w ∧ (r.transform.IgnoresLog → r.Agrees segs w) :=
  ⟨⟨r.outcome_render_eq_columns segs w, r.outcome_renderLines_eq_columns segs w⟩,
    fun hr => agrees hr segs w⟩

/-- Two names with one token each are rendered to one line, and a name that nothing has fails both
renders. -/
theorem lines_agree_names :
    let r : Renderer := { byName with separator := ", ", policy := .strict }
    let w : World := named [("x", .new (.text "a")), ("y", .new (.text "b"))]
    let segs : List Segment := [.block "x" default, .literal "-" default, .block "y" default]
    (∃ text w₁ w₂, outcome (r.render segs) w = (.ok text, w₁) ∧
      outcome (r.renderLines segs) w = (.ok [text], w₂)) ∧
      ∃ f w₂, outcome (r.renderLines (segs ++ [.block "z" default])) w = (.error f, w₂) ∧
        f.cause = .missingKey (.new (.text "z")) := by
  intro r w segs
  have hr : r.transform.IgnoresLog :=
    Transform.ignoresLog_of_discreet fun code => (composed_lookup code).discreet
  constructor
  · refine ((lines_agree r segs w).2 hr).single nofun fun code v hmem => ?_
    have hasked : r.asked segs w =
        [("x", started segs " segments" w), ("y", started segs " segments" w)] := rfl
    rw [hasked] at hmem
    obtain ⟨rfl, rfl⟩ | ⟨rfl, rfl⟩ : code = "x" ∧ v = _ ∨ code = "y" ∧ v = _ := by
      simpa using hmem
    · exact ⟨"a", _, _, _, rfl, rfl⟩
    · exact ⟨"b", _, _, _, rfl, rfl⟩
  · have hfails := ((lines_agree r (segs ++ [.block "z" default]) w).2 hr).failing
    obtain ⟨w₂, hlines, -⟩ := (hfails _).mp ⟨_, rfl⟩
    exact ⟨_, w₂, hlines, rfl⟩

/-- Where there is nothing to render, there is one line with nothing on it. -/
example : (outcome (byName.renderLines []) (named [])).1 = .ok [""] := rfl

end Renderer

end Splice
