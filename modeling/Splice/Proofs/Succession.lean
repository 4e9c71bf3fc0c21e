import Splice.Proofs.Blocks

/-!
# Segments behind segments

Rendering is compatible with putting segments behind each other. Whatever the transform does, the
text of all segments is the text of the first ones, followed by the text that the others get in the
world that the first ones have left (`Renderer.joined_append`); if the first ones fail, nothing has
become of the others.

A render also announces in the log how many segments there are, so rendering the two parts by
themselves leaves another log than rendering all of them. For a transform that does not read the log
this makes no difference, and the law holds of whole renders (`render_append`). Rendering the
segments before a block tells whether the block is reached, and if so, what it sees.
-/

open Splice.Action

namespace Splice

open Segment World

namespace Renderer

/-- Rendering segments with others behind them. If the first ones become a text, all that comes then
is what comes of the others in the world after that, with the text in front; and the transform is
asked for what the first ones ask for, then for what the others ask for in that world. If the first
ones fail, so do all of them, with the same failure in the same world, and the transform is asked
for nothing else. -/
structure GoesOn (r : Renderer) (segs rest : List Segment) (w : World) : Prop where
  ok : ∀ {text w₁}, outcome (r.render segs) w = (.ok text, w₁) →
    Together SameButLog Same (outcome (r.render (segs ++ rest)) w)
        (outcome ((text ++ ·) <$> r.render rest) w₁) ∧
      AskedAlike SameButLog (r.asked (segs ++ rest) w) (r.asked segs w ++ r.asked rest w₁)
  error : ∀ {f w₁}, outcome (r.render segs) w = (.error f, w₁) →
    (∃ w₂, outcome (r.render (segs ++ rest)) w = (.error f, w₂) ∧ SameButLog w₁ w₂) ∧
      AskedAlike SameButLog (r.asked (segs ++ rest) w) (r.asked segs w)

/-- The transform is asked for the codes of blocks in the order of the segments: for all of them if
the render succeeds, and otherwise up to the one that the failure leaves. The code of a block is
asked for if and only if the segments before it become a text, and it finds the world that they
leave. -/
structure InOrder (r : Renderer) (segs : List Segment) (w : World) : Prop where
  codes : (r.asked segs w).map (·.1) <+: (blocks segs).map (·.1)
  complete : ∀ {text w'}, outcome (r.render segs) w = (.ok text, w') →
    (r.asked segs w).map (·.1) = (blocks segs).map (·.1)
  failing : ∀ {f w'}, outcome (r.render segs) w = (.error f, w') →
    ∃ front code source behind v, segs = front ++ .block code source :: behind ∧
      (r.asked segs w).map (·.1) = (blocks front).map (·.1) ++ [code] ∧
        (r.asked segs w).getLast? = some (code, v) ∧
          outcome (r.tokens code source) v = (.error f, w')
  reached : ∀ {front code source behind}, segs = front ++ .block code source :: behind →
    (∀ {text w₁}, outcome (r.render front) w = (.ok text, w₁) →
      ∃ v, (r.asked segs w)[(blocks front).length]? = some (code, v) ∧ SameButLog w₁ v) ∧
    ∀ {f w₁}, outcome (r.render front) w = (.error f, w₁) →
      (r.asked segs w)[(blocks front).length]? = none

variable {r : Renderer}

/-- Segments that are rendered get the same text in a world with another log. -/
theorem joined_of_render (hr : r.transform.IgnoresLog) {segs : List Segment} {w w₁ w' : World}
    {text : String} (h : outcome (r.render segs) w = (.ok text, w₁)) (hw : SameButLog w w') :
    ∃ v, outcome (r.joined segs) w' = (.ok text, v) ∧ SameButLog w₁ v := by
  rw [outcome_render_eq_joined] at h
  have hstart : SameButLog (started segs " segments" w) w' :=
    (sameButLog_started ..).symm.trans hw
  have hjoined := together_joined_of_ignoresLog hr hstart segs
  rw [h] at hjoined
  exact hjoined.exists_ok

/-- Segments that fail do so in a world with another log. -/
theorem joined_of_render_error (hr : r.transform.IgnoresLog) {segs : List Segment}
    {w w₁ w' : World} {f : Failure} (h : outcome (r.render segs) w = (.error f, w₁))
    (hw : SameButLog w w') :
    ∃ v, outcome (r.joined segs) w' = (.error f, v) ∧ SameButLog w₁ v := by
  rw [outcome_render_eq_joined] at h
  have hstart : SameButLog (started segs " segments" w) w' :=
    (sameButLog_started ..).symm.trans hw
  have hjoined := together_joined_of_ignoresLog hr hstart segs
  rw [h] at hjoined
  exact hjoined.exists_error

theorem gather_of_joined {segs : List Segment} {w w' : World} {text : String}
    (h : outcome (r.joined segs) w = (.ok text, w')) :
    ∃ columns, outcome (r.gather (blocks segs)) w = (.ok columns, w') := by
  rw [joined_eq] at h
  obtain ⟨columns, hcolumns, -⟩ := outcome_map_eq_ok_iff.mp h
  exact ⟨columns, hcolumns⟩

theorem goesOn (hr : r.transform.IgnoresLog) (segs rest : List Segment) (w : World) :
    r.GoesOn segs rest w where
  ok {text w₁} h := by
    obtain ⟨v, hv, hw₁⟩ := joined_of_render hr h (sameButLog_started (segs ++ rest) " segments" w)
    have hrest : SameButLog v (started rest " segments" w₁) :=
      hw₁.symm.trans (sameButLog_started ..)
    constructor
    · have hall : outcome (r.render (segs ++ rest)) w =
          outcome ((text ++ ·) <$> r.joined rest) v := by
        rw [outcome_render_eq_joined, joined_append, outcome_bind, hv]
      have hbehind : outcome ((text ++ ·) <$> r.render rest) w₁ =
          outcome ((text ++ ·) <$> r.joined rest) (started rest " segments" w₁) := by
        rw [map_eq_pure_bind, map_eq_pure_bind, outcome_bind, outcome_bind,
          outcome_render_eq_joined]
      rw [hall, hbehind]
      exact (together_joined_of_ignoresLog hr hrest rest).map
        fun _ htext => congrArg (text ++ ·) htext
    · obtain ⟨columns, hcolumns⟩ := gather_of_joined hv
      rw [asked, blocks_append, asks_append_of_ok r hcolumns]
      have hfirst : SameButLog (started (segs ++ rest) " segments" w)
          (started segs " segments" w) :=
        (sameButLog_started ..).symm.trans (sameButLog_started ..)
      exact List.rel_append (askedAlike_of_ignoresLog hr hfirst (blocks segs))
        (askedAlike_of_ignoresLog hr hrest (blocks rest))
  error {f w₁} h := by
    obtain ⟨v, hv, hw₁⟩ :=
      joined_of_render_error hr h (sameButLog_started (segs ++ rest) " segments" w)
    constructor
    · refine ⟨v, ?_, hw₁⟩
      rw [outcome_render_eq_joined, joined_append, outcome_bind, hv]
    · rw [asked, blocks_append, asks_append_of_error r (outcome_joined_eq_error_iff r |>.mp hv)]
      exact askedAlike_of_ignoresLog hr
        ((sameButLog_started ..).symm.trans (sameButLog_started ..)) (blocks segs)

theorem inOrder (hr : r.transform.IgnoresLog) (segs : List Segment) (w : World) :
    r.InOrder segs w where
  codes := codes_asks_isPrefix ..
  complete {text w'} h := by
    rw [outcome_render_eq_joined] at h
    obtain ⟨columns, hcolumns⟩ := gather_of_joined h
    exact codes_asks_of_ok r hcolumns
  failing {f w'} h := by
    rw [outcome_render_eq_joined, outcome_joined_eq_error_iff, gather_eq_error_iff] at h
    obtain ⟨before, code, source, after, v, hblocks, hasks, ⟨columns, hcolumns⟩, hfails⟩ := h
    have hblock : (blocks segs)[before.length]? = some (code, source) := by
      rw [hblocks, List.getElem?_append_right (Nat.le_refl _), Nat.sub_self,
        List.getElem?_cons_zero]
    obtain ⟨front, behind, rfl, hlength⟩ := exists_of_getElem?_blocks hblock
    have hbefore : before = blocks front := by
      rw [blocks_append, blocks_block] at hblocks
      exact (List.append_inj_left hblocks hlength).symm
    refine ⟨front, code, source, behind, v, rfl, ?_, ?_, hfails⟩
    · rw [asked, hasks, List.map_append, codes_asks_of_ok r hcolumns, hbefore]
      rfl
    · rw [asked, hasks, List.getLast?_concat]
  reached {front code source behind} hsegs := by
    have hblocks : blocks segs = blocks front ++ (code, source) :: blocks behind := by
      rw [hsegs, blocks_append, blocks_block]
    rw [asked, hblocks]
    constructor
    · intro text w₁ h
      obtain ⟨v, hv, hw₁⟩ := joined_of_render hr h (sameButLog_started segs " segments" w)
      exact ⟨v, (getElem?_asks_iff r).mpr ⟨rfl, gather_of_joined hv⟩, hw₁⟩
    · intro f w₁ h
      obtain ⟨v, hv, -⟩ := joined_of_render_error hr h (sameButLog_started segs " segments" w)
      rw [asks_append_of_error r ((outcome_joined_eq_error_iff r).mp hv)]
      exact List.getElem?_eq_none (r.length_asks_le ..)

/-- A render with a transform that records its codes records what the transform is asked for. -/
theorem calls_render_recording (h : r.transform.LeavesRecord) (segs : List Segment) (w : World) :
    (outcome (r.recording.render segs) w).2.calls =
      w.calls ++ (r.recording.asked segs w).map (·.1) := by
  have hgather := calls_gather_recording h (blocks segs) (started segs " segments" w)
  rw [outcome_render_eq_joined, joined_eq, map_eq_pure_bind, outcome_bind]
  generalize outcome (r.recording.gather (blocks segs)) _ = x at hgather ⊢
  rcases x with ⟨f | columns, w'⟩
  · exact hgather
  · exact hgather

/-- Rendering goes through segments in order, one after the other. With any transform, the text of
segments and others behind them is the text of the first ones and then, in the world that those have
left, the text of the others; a failure of the first ones ends it. If the transform does not read
the log, this is so of whole renders: the outcome, the environment, the streams and what the
transform is asked for are those of the two parts, one after the other, and the code of a block is
asked for if the segments before it can be rendered, in the world that they leave. What a transform
is asked for is what it records if it records its codes. -/
theorem render_append (r : Renderer) :
    (∀ segs rest, r.joined (segs ++ rest) =
      (r.joined segs >>= fun text => (text ++ ·) <$> r.joined rest)) ∧
    (r.transform.IgnoresLog → ∀ segs w, (∀ rest, r.GoesOn segs rest w) ∧ r.InOrder segs w) ∧
    (r.transform.LeavesRecord → ∀ segs w, (outcome (r.recording.render segs) w).2.calls =
      w.calls ++ (r.recording.asked segs w).map (·.1)) :=
  ⟨r.joined_append, fun hr segs w => ⟨fun rest => goesOn hr segs rest w, inOrder hr segs w⟩,
    calls_render_recording⟩

/-- Looking names up records nothing. -/
theorem leavesRecord_byName : byName.transform.LeavesRecord := by
  intro code w
  change (outcome (lookup code) w).2.calls = w.calls
  cases hname : w.env.get? code with
  | none => rw [outcome_lookup_of_none hname]
  | some o => rw [outcome_lookup hname]

/-- A name is assigned by the first segments and used by the others. -/
theorem render_append_assigning :
    let r : Renderer := { transform := (Hook.plain (.formula [])).run }
    let segs : List Segment := [.block "x := y" default, .literal "-" default]
    let rest : List Segment := [.block "x + y" default]
    let w : World := named [("y", .new (.int 5))]
    (outcome (r.render (segs ++ rest)) w).1.toOption = some "5-10" ∧
      (r.asked segs w).map (·.1) = ["x := y"] ∧
      (outcome (byName.recording.render [.block "y" default, .block "z" default]) w).2.calls =
        ["y", "z"] := by
  intro r segs rest w
  have hr : r.transform.IgnoresLog :=
    Transform.ignoresLog_run (show (Hook.plain (.formula [])).Discreet from trivial)
  obtain ⟨hgoes, horder⟩ := r.render_append.2.1 hr segs w
  have hfirst : outcome (r.render segs) w = (.ok "5-", (outcome (r.render segs) w).2) := by
    have htext : (outcome (r.render segs) w).1.toOption = some "5-" := by decide +kernel
    rcases hdone : outcome (r.render segs) w with ⟨f | text, w₁⟩
    · rw [hdone] at htext
      cases htext
    · rw [hdone] at htext
      rw [Option.some.inj htext]
  refine ⟨?_, horder.complete hfirst, ?_⟩
  · rw [((hgoes rest).ok hfirst).1.result_eq]
    decide +kernel
  · rw [byName.render_append.2.2 leavesRecord_byName]
    decide +kernel

end Renderer

end Splice
