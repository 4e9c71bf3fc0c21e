import Mathlib.Data.List.Chain
import Splice.Proofs.Layout
import Splice.Proofs.Scanning

/-!
# Segments whose literals are apart

A scan reads literal text as far as it goes, so no literal follows a literal in what it yields,
whatever the delimiters are (`separated_scan`). Where that is so, a layout says which literal each
of its characters belongs to: the blocks tell the literals apart. So the segments with a given
layout are determined once it is known which literals and blocks they come from
(`Retexted.eq_of_layout`).
-/

namespace Splice.Delimiters

/-- Where a run of literal text stops, no other begins. -/
theorem text_literalRun_rest (d : Delimiters) (s : List Char) :
    (d.literalRun (d.literalRun s).rest).text = [] := by
  fun_induction literalRun d s with
  | case1 => rw [literalRun_nil]
  | case2 _ _ _ _ _ _ ih | case4 _ _ _ _ _ _ _ ih | case6 _ _ _ _ ih => exact ih
  | case3 x s r h h' => simp [literalRun_cons, h, h']
  | case5 x s h r h' h'' => simp [literalRun_cons, h, h', h'']

/-- A step yields a literal only where literal text begins, and reads it as far as it goes. -/
theorem literal_of_step {d : Delimiters} {p : Nat} {s rest : List Char} {seg : Segment}
    (h : d.step p s = .segment seg rest) (hseg : seg.isLiteral = true) :
    (d.literalRun s).text ≠ [] ∧ rest = (d.literalRun s).rest := by
  rcases segment_cases h with ⟨-, htext, hrest, -⟩ | ⟨code, k, raw, -, -, -, rfl⟩
  · exact ⟨htext, hrest⟩
  · exact absurd hseg Bool.false_ne_true

/-- The first segment of a scan is that of its first step. -/
theorem step_of_head?_scanFrom {d : Delimiters} {p : Nat} {s : List Char} {seg : Segment}
    (h : (d.scanFrom p s).1.head? = some seg) : ∃ rest, d.step p s = .segment seg rest := by
  cases hs : d.step p s with
  | done => simp [scanFrom_of_done hs] at h
  | failed e => simp [scanFrom_of_failed hs] at h
  | segment x rest =>
    rw [scanFrom_of_segment hs, List.head?_cons] at h
    exact ⟨rest, by rw [Option.some.inj h]⟩

end Splice.Delimiters

namespace Splice.Margin

/-- No literal follows a literal. -/
def Separated (segments : List Segment) : Prop :=
  segments.IsChain fun x y => ¬ (x.isLiteral = true ∧ y.isLiteral = true)

/-- Behind a literal the template ends or goes on with a block. -/
theorem Separated.tail_cases {t : String} {s : Extent} {rest : List Segment}
    (h : Separated (.literal t s :: rest)) :
    rest = [] ∨ ∃ code source rest', rest = .block code source :: rest' := by
  cases rest with
  | nil => exact .inl rfl
  | cons x rest =>
    cases x with
    | literal t' s' => exact absurd ⟨rfl, rfl⟩ (List.isChain_cons_cons.mp h).1
    | block code source => exact .inr ⟨code, source, rest, rfl⟩

theorem Separated.tail {x : Segment} {rest : List Segment} (h : Separated (x :: rest)) :
    Separated rest :=
  h.of_cons

theorem separated_scanFrom (d : Delimiters) (p : Nat) (s : List Char) :
    Separated (d.scanFrom p s).1 := by
  fun_induction Delimiters.scanFrom d p s with
  | case1 | case2 => exact List.isChain_nil
  | case3 p s x rest h more error hmore ih =>
    rw [hmore] at ih
    refine List.isChain_cons.mpr ⟨?_, ih⟩
    rintro y hy ⟨hx, hy'⟩
    -- the literal took all the literal text there was, so the next step cannot begin with any
    obtain ⟨-, rfl⟩ := Delimiters.literal_of_step h hx
    have hhead : (d.scanFrom x.source.span.stop.toNat (d.literalRun s).rest).1.head? = some y := by
      rw [hmore]
      exact hy
    obtain ⟨rest', hstep⟩ := Delimiters.step_of_head?_scanFrom hhead
    exact (Delimiters.literal_of_step hstep hy').1 (Delimiters.text_literalRun_rest d s)

/-- In what a scan yields, no literal follows a literal. -/
theorem separated_scan (d : Delimiters) (template : String) :
    Separated (d.scan template).segments :=
  separated_scanFrom d 0 template.toList

/-! ## Other texts for the literals -/

/-- The second segments are the first with other texts for some of the literals, of which those
without text are left out. -/
inductive Retexted : List Segment → List Segment → Prop
  | nil : Retexted [] []
  | block (code : String) (source : Extent) {segs out : List Segment} (h : Retexted segs out) :
    Retexted (.block code source :: segs) (.block code source :: out)
  | literal (text text' : String) (source : Extent) {segs out : List Segment} (hne : text' ≠ "")
    (h : Retexted segs out) : Retexted (.literal text source :: segs) (.literal text' source :: out)
  | dropped (text : String) (source : Extent) {segs out : List Segment} (h : Retexted segs out) :
    Retexted (.literal text source :: segs) out

namespace Retexted

/-- Where the template ends or a block stands, so it does with other texts. -/
theorem blocked_layout {segs out : List Segment} (h : Retexted segs out)
    (hsegs : segs = [] ∨ ∃ code source rest, segs = .block code source :: rest) :
    Blocked (layout out) := by
  rcases hsegs with rfl | ⟨code, source, rest, rfl⟩
  · cases h
    exact blocked_nil
  · cases h
    exact blocked_block code source _

/-- A literal becomes one with some text, or goes; then that text is empty. -/
theorem literal_cases {text : String} {source : Extent} {segs out : List Segment}
    (h : Retexted (.literal text source :: segs) out) :
    ∃ text' out', Retexted segs out' ∧ layout out = chars text' ++ layout out' ∧
      out = match text' with
        | [] => out'
        | _ => .literal (String.ofList text') source :: out' := by
  cases h with
  | literal _ text' _ hne h =>
    refine ⟨text'.toList, _, h, rfl, ?_⟩
    split
    · rename_i hnil
      exact absurd (String.toList_eq_nil_iff.mp hnil) hne
    · rw [String.ofList_toList]
  | dropped _ _ h => exact ⟨[], out, h, rfl, rfl⟩

/-- The layout determines the texts. -/
theorem eq_of_layout {segs out out' : List Segment} (hsegs : Separated segs)
    (h : Retexted segs out) (h' : Retexted segs out') (heq : layout out = layout out') :
    out = out' := by
  induction segs generalizing out out' with
  | nil =>
    cases h
    cases h'
    rfl
  | cons x segs ih =>
    cases x with
    | block code source =>
      cases h with | block _ _ h =>
      cases h' with | block _ _ h' =>
      rw [ih hsegs.tail h h' (List.cons.inj heq).2]
    | literal text source =>
      obtain ⟨t, rest, hrest, hlayout, rfl⟩ := h.literal_cases
      obtain ⟨t', rest', hrest', hlayout', rfl⟩ := h'.literal_cases
      rw [hlayout, hlayout'] at heq
      obtain ⟨rfl, hrests⟩ := chars_append_inj (hrest.blocked_layout hsegs.tail_cases)
        (hrest'.blocked_layout hsegs.tail_cases) heq
      rw [ih hsegs.tail hrest hrest' hrests]

end Retexted

end Splice.Margin
