import Mathlib.Data.List.Infix
import Splice.Proofs.Agreement
import Splice.Proofs.Location

/-!
# Texts with their markers doubled

A text that is to appear in a template as it stands has its markers doubled, from left to right
(`Delimiters.verbatim`). The scan reads pairs of markers from left to right as well, but it reads
them in the doubled text, where markers are in other places and pieces of them may come to stand
next to each other. What has to be shown is that doubling a marker never makes one appear further to
the left: where no marker stands in the text, none stands in the doubled text
(`after?_doubleMarkers`).

This is so because both texts are the same up to the end of the first marker
(`doubleMarkers_cases`). One that was not there before would have to go further than that, and so it
would have the first marker inside it, and more. Markers that are equal are equally long, and
markers without a common character cannot be inside each other (`eq_of_subset`).
-/

open Splice.Action

namespace Splice

namespace Delimiters

/-! ## Doubling -/

/-- A text with its markers doubled, from left to right. -/
def doubleMarkers (d : Delimiters) (s : List Char) : List Char :=
  match s with
  | [] => []
  | c :: cs =>
    match _ : after? d.opening (c :: cs) with
    | some r => d.opening ++ (d.opening ++ doubleMarkers d r)
    | none =>
      match _ : after? d.closing (c :: cs) with
      | some r => d.closing ++ (d.closing ++ doubleMarkers d r)
      | none => c :: doubleMarkers d cs
termination_by s.length
decreasing_by
  · exact length_lt_of_after? d.opening_ne ‹after? d.opening (c :: cs) = some r›
  · exact length_lt_of_after? d.closing_ne ‹after? d.closing (c :: cs) = some r›
  · simp

/-- The template that shows a text as it stands. -/
def verbatim (d : Delimiters) (text : String) : String :=
  String.ofList (d.doubleMarkers text.toList)

/-- Markers that are not mistaken for pieces of each other: they are the same marker, or they have
no character in common. -/
def Unmixed (d : Delimiters) : Prop :=
  d.opening = d.closing ∨ d.opening.Disjoint d.closing

/-- One of the two markers. -/
def IsMarker (d : Delimiters) (m : List Char) : Prop :=
  m = d.opening ∨ m = d.closing

variable {d : Delimiters}

theorem IsMarker.ne_nil {m : List Char} (hm : d.IsMarker m) : m ≠ [] := by
  rcases hm with rfl | rfl
  · exact d.opening_ne
  · exact d.closing_ne

/-- A text begins with the same characters when its markers are doubled, up to the end of the first
marker. -/
theorem doubleMarkers_cases (d : Delimiters) (s : List Char) :
    d.doubleMarkers s = s ∨
      ∃ u m r r', d.IsMarker m ∧ s = (u ++ m) ++ r ∧ d.doubleMarkers s = (u ++ m) ++ r' := by
  fun_induction doubleMarkers d s with
  | case1 => exact .inl rfl
  | case2 c cs r hr _ =>
    exact .inr ⟨[], d.opening, r, _, .inl rfl, after?_eq_some_iff.mp hr, rfl⟩
  | case3 c cs _ r hr _ =>
    exact .inr ⟨[], d.closing, r, _, .inr rfl, after?_eq_some_iff.mp hr, rfl⟩
  | case4 c cs _ _ ih =>
    rcases ih with ih | ⟨u, m, r, r', hm, hs, hd⟩
    · exact .inl (congrArg (c :: ·) ih)
    · exact .inr ⟨c :: u, m, r, r', hm, congrArg (c :: ·) hs, congrArg (c :: ·) hd⟩

/-! ## Reading doubled markers -/

section

variable (h : d.Unmixed)
include h

/-- A marker that is made of characters of a marker is the same marker. -/
theorem eq_of_subset {m m' : List Char} (hm : d.IsMarker m) (hm' : d.IsMarker m')
    (hsub : m' ⊆ m) : m' = m := by
  obtain ⟨y, hy⟩ := List.exists_mem_of_ne_nil m' hm'.ne_nil
  rcases h with heq | hdisjoint
  · rcases hm with rfl | rfl <;> rcases hm' with rfl | rfl <;> simp [heq]
  · rcases hm with rfl | rfl <;> rcases hm' with rfl | rfl
    · rfl
    · exact absurd hy (hdisjoint (hsub hy))
    · exact absurd (hsub hy) (hdisjoint hy)
    · rfl

/-- Where no marker stands, none appears when the markers behind are doubled. -/
theorem after?_doubleMarkers {m s : List Char} {x : Char} (hm : d.IsMarker m)
    (hnone : after? m (x :: s) = none) : after? m (x :: d.doubleMarkers s) = none := by
  rw [← Option.not_isSome_iff_eq_none, Option.isSome_iff_exists]
  rintro ⟨t, ht⟩
  rcases d.doubleMarkers_cases s with heq | ⟨u, m', r, r', hm', rfl, hd⟩
  · rw [heq, hnone] at ht
    cases ht
  · -- both texts begin like this, and the doubled one also begins with the marker
    have hfront : x :: (u ++ m') <+: x :: d.doubleMarkers (u ++ m' ++ r) := ⟨r', by rw [hd]; rfl⟩
    have hmarker : m <+: x :: d.doubleMarkers (u ++ m' ++ r) :=
      ⟨t, (after?_eq_some_iff.mp ht).symm⟩
    rcases Nat.le_total m.length (x :: (u ++ m')).length with hle | hle
    · -- the marker was there before
      obtain ⟨t', ht'⟩ := List.prefix_of_prefix_length_le hmarker hfront hle
      have hfound : after? m (x :: (u ++ m' ++ r)) = some (t' ++ r) := by
        rw [after?_eq_some_iff, ← List.append_assoc, ht']
        rfl
      rw [hfound] at hnone
      cases hnone
    · -- the marker has the first one inside it, and is longer
      have hinside := List.prefix_of_prefix_length_le hfront hmarker hle
      have hsub : m' ⊆ m := fun y hy =>
        hinside.subset (List.mem_cons_of_mem x (List.mem_append_right u hy))
      have hlength := hinside.length_le
      rw [eq_of_subset h hm hm' hsub, List.length_cons, List.length_append] at hlength
      omega

/-- Where a closing marker that is not an opening one stands, no opening one stands. -/
theorem after?_opening_closing (hne : d.opening ≠ d.closing) (r : List Char) :
    after? d.opening (d.closing ++ r) = none := by
  have hdisjoint : d.opening.Disjoint d.closing := h.resolve_left hne
  obtain ⟨x, opening, hopening⟩ := List.exists_cons_of_ne_nil d.opening_ne
  obtain ⟨y, closing, hclosing⟩ := List.exists_cons_of_ne_nil d.closing_ne
  have hxy : x ≠ y := by
    rintro rfl
    exact hdisjoint (hopening ▸ List.mem_cons_self) (hclosing ▸ List.mem_cons_self)
  rw [hopening, hclosing, List.cons_append, after?, if_neg hxy]

/-- A text with its markers doubled is read as one run of literal text, which says the text. -/
theorem literalRun_doubleMarkers (s : List Char) :
    d.literalRun (d.doubleMarkers s) = ⟨s, d.doubleMarkers s, [], .finished⟩ := by
  fun_induction doubleMarkers d s with
  | case1 => exact literalRun_nil d
  | case2 c cs r hr ih =>
    rw [literalRun_opening_twice, ih, after?_eq_some_iff.mp hr]
    simp [Run.cons]
  | case3 c cs ho r hr ih =>
    have hs := after?_eq_some_iff.mp hr
    have hne : d.opening ≠ d.closing := by
      intro heq
      rw [hs, ← heq, after?_append] at ho
      cases ho
    rw [literalRun_closing_twice (after?_opening_closing h hne _), ih, hs]
    simp [Run.cons]
  | case4 c cs ho hc ih =>
    rw [literalRun_other (after?_doubleMarkers h (.inl rfl) ho)
      (after?_doubleMarkers h (.inr rfl) hc), ih]
    rfl

/-- A text with its markers doubled scans to one literal, and an empty one to nothing. -/
theorem scan_verbatim (text : String) :
    d.scan (d.verbatim text) =
      ⟨if text = "" then []
        else [.literal text ⟨d.verbatim text, ⟨0, (d.verbatim text).length⟩⟩], none⟩ := by
  have hrun := literalRun_doubleMarkers h text.toList
  rw [scan, verbatim, String.toList_ofList]
  by_cases htext : text = ""
  · have hnil : d.doubleMarkers "".toList = [] := by
      rw [show "".toList = [] from rfl, doubleMarkers]
    rw [if_pos htext, htext, hnil, scanFrom_nil]
  · have hne : text.toList ≠ [] := fun hnil => htext (String.toList_eq_nil_iff.mp hnil)
    have hended : (d.literalRun (d.doubleMarkers text.toList)).ending ≠ .stray := by
      rw [hrun]
      intro hstray
      cases hstray
    have hstep := d.step_literalRun (p := 0) hended (by rw [hrun]; exact hne)
    rw [if_neg htext, scanFrom_of_segment hstep, hrun, scanFrom_nil]
    simp [Extent.at]

end

end Delimiters

/-! ## Rendering doubled markers -/

open Segment World

namespace Settings

/-- A template is rendered to this text, and to this text as the only line, and the transform has no
part in it: it is asked for nothing, and whatever it is, the same comes out in the same world, which
differs in its log only. -/
structure Shows (s : Settings) (template said : String) : Prop where
  text : ∀ w, ∃ w', SameButLog w w' ∧ ∀ t, outcome (s.render t template) w = (.ok said, w')
  lines : (∀ name, s.policy ≠ .unknown name) →
    ∀ w, ∃ w', SameButLog w w' ∧ ∀ t, outcome (s.renderLines t template) w = (.ok [said], w')
  unasked : ∀ t manner w, s.asked t manner template w = []

/-- A template without blocks shows the texts of its literals. -/
theorem shows_of_blocks_eq_nil {s : Settings} {template : String} {segs : List Segment}
    {texts : List String} (hpieces : s.pieces template = .ok segs) (hblocks : blocks segs = [])
    (htexts : Renderer.filledIn segs [] = texts.map ([·])) :
    s.Shows template (String.join texts) := by
  have hgather (t : Transform) (w : World) :
      outcome ((s.renderer t).gather (blocks segs)) w = (.ok [], w) := by
    rw [hblocks]
    rfl
  constructor
  case text =>
    refine fun w => ⟨Renderer.started segs " segments" (s.scanned segs w), ⟨rfl, rfl, rfl⟩,
      fun t => ?_⟩
    rw [s.outcome_render_of_ok hpieces, Renderer.outcome_render_of_gather _ (hgather t _), htexts,
      Renderer.map_intercalate_singletons]
  case lines =>
    refine fun hpolicy w => ⟨Renderer.started segs " segments as lines" (s.scanned segs w),
      ⟨rfl, rfl, rfl⟩, fun t => ?_⟩
    have hlines : (s.renderer t).combined (texts.map ([·])) = .ok [String.join texts] := by
      have hknown : ∀ name, (s.renderer t).policy ≠ .unknown name := hpolicy
      rw [Renderer.combined, Recycling.lines_singletons hknown]
      rfl
    rw [s.outcome_renderLines_of_ok hpieces, Renderer.outcome_renderLines_of_gather _ (hgather t _),
      htexts, hlines]
  case unasked =>
    intro t manner w
    rw [asked_of_pieces hpieces, hblocks]
    rfl

end Settings

namespace Delimiters

/-- A text with its markers doubled renders to itself. If the markers are equal or have no character
in common, the doubled text scans to a single literal that says the text and was read from all of
it, or to nothing if the text is empty; and with any settings for these markers that do not trim, it
is rendered to the text, as one text and as the only line, without the transform and without a
change to anything but the log. -/
theorem verbatim_renders_to_itself (d : Delimiters) (h : d.Unmixed) (text : String) :
    d.scan (d.verbatim text) =
        ⟨if text = "" then []
          else [.literal text ⟨d.verbatim text, ⟨0, (d.verbatim text).length⟩⟩], none⟩ ∧
      ∀ s : Settings, s.delimiters = d → s.trim = false → s.Shows (d.verbatim text) text := by
  refine ⟨scan_verbatim h text, ?_⟩
  rintro s rfl htrim
  have hpieces := s.pieces_of_scan htrim (scan_verbatim h text)
  by_cases htext : text = ""
  · rw [if_pos htext] at hpieces
    rw [htext] at hpieces ⊢
    have htexts : Renderer.filledIn [] [] = ([] : List String).map ([·]) := rfl
    exact Settings.shows_of_blocks_eq_nil hpieces rfl htexts
  · rw [if_neg htext] at hpieces
    have hjoin : String.join [text] = text := by simp
    rw [← hjoin]
    exact Settings.shows_of_blocks_eq_nil hpieces rfl rfl

/-- A marker that overlaps with itself is doubled where it is read first. -/
theorem verbatim_overlapping :
    let d : Delimiters := ⟨['a', 'b', 'a'], ['a', 'b', 'a'], false, by simp, by simp, by simp⟩
    let s : Settings := ⟨d, false, "", standardMissing, .strict⟩
    d.verbatim "ababa" = "abaababa" ∧ d.Unmixed ∧
      (d.scan "abaababa").segments = [.literal "ababa" ⟨"abaababa", ⟨0, 8⟩⟩] ∧
        s.Shows "abaababa" "ababa" := by
  intro d s
  have hverbatim : d.verbatim "ababa" = "abaababa" := by decide +kernel
  have h := d.verbatim_renders_to_itself (.inl rfl) "ababa"
  rw [hverbatim] at h
  exact ⟨hverbatim, .inl rfl, by rw [h.1]; rfl, h.2 s rfl rfl⟩

end Delimiters

end Splice
