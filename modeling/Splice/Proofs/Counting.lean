import Splice.Proofs.Tiling

/-!
# Blocks that need no counting

There are two ways to read a block. Without nesting, doubled markers are escapes, and the first
closing marker that stands alone ends the block; with nesting, markers are counted and quotes hide
what they enclose. The rules are tried in different orders, and one of the two ways looks further
ahead than the other.

In a block that was written with its code as it stands, no escape was used, so no marker stands in
the code (`length_of_flatBody`). Where no quote stands either, neither way has a rule to apply but
the one for plain characters, up to the closing marker, and there both stop
(`nestedBody_of_flatBody`). Literal text is read in the same way in both. So the scans go in step as
long as blocks are plain.
-/

namespace Splice.Delimiters

/-- A block that was written with its code as it stands, in which there are no quotes. -/
def Plain (d : Delimiters) : Segment → Prop
  | .literal .. => True
  | .block code source =>
    source.raw.toList = d.opening ++ code.toList ++ d.closing ∧
      ∀ x ∈ code.toList, isQuote x = false

/-! ## In a block -/

/-- What was read of a block is longer than its code, by the closing marker at least. -/
theorem length_of_flatBody {d : Delimiters} {s code raw rest : List Char}
    (h : d.flatBody s = .closed code raw rest) :
    code.length + d.closing.length ≤ raw.length := by
  fun_induction flatBody d s generalizing code raw with
  | case1 | case5 => simp at h
  | case2 _ _ _ _ _ _ ih | case4 _ _ _ _ _ _ _ ih | case6 _ _ _ _ ih =>
    obtain ⟨code', raw', hb, rfl, rfl⟩ := Body.cons_eq_closed.mp h
    have := ih hb
    simp only [List.length_append]
    omega
  | case3 =>
    simp only [Body.closed.injEq] at h
    simp [← h.1, ← h.2.1]

section

/-! Two ways to read the same markers. -/

variable {flat counting : Delimiters} (hopening : counting.opening = flat.opening)
  (hclosing : counting.closing = flat.closing)
include hopening hclosing

/-- A block that was written with its code as it stands is read in the same way when markers are
counted, if no quote hides its end. -/
theorem nestedBody_of_flatBody (hquote : ∀ x ∈ flat.closing, isQuote x = false)
    {s code raw rest : List Char} (h : flat.flatBody s = .closed code raw rest)
    (hraw : raw = code ++ flat.closing) (hcode : ∀ x ∈ code, isQuote x = false) :
    counting.nestedBody 0 none s = .closed code raw rest := by
  fun_induction flatBody flat s generalizing code raw with
  | case1 | case5 => simp at h
  | case2 _ _ _ _ _ _ _ =>
    -- an escape in the code takes up one marker more than it stands for
    obtain ⟨code', raw', hb, rfl, rfl⟩ := Body.cons_eq_closed.mp h
    have hlong := length_of_flatBody hb
    have hmarker := List.length_pos_iff.mpr flat.closing_ne
    have hlength := congrArg List.length hraw
    simp only [List.length_append] at hlength
    omega
  | case4 _ _ _ _ _ _ _ _ =>
    obtain ⟨code', raw', hb, rfl, rfl⟩ := Body.cons_eq_closed.mp h
    have hlong := length_of_flatBody hb
    have hmarker := List.length_pos_iff.mpr flat.opening_ne
    have hlength := congrArg List.length hraw
    simp only [List.length_append] at hlength
    omega
  | case3 x s r hr _ =>
    obtain ⟨rfl, rfl, rfl⟩ := Body.closed.inj h
    have hx : x ∈ flat.closing := List.mem_of_head? (head?_of_after? flat.closing_ne hr)
    rw [nestedBody_cons counting 0 (hquote x hx), hclosing, hr]
  | case6 x s hc ho ih =>
    obtain ⟨code', raw', hb, rfl, rfl⟩ := Body.cons_eq_closed.mp h
    have hraw' : raw' = code' ++ flat.closing := List.cons.inj hraw |>.2
    have hrest := ih hb hraw' fun y hy => hcode y (List.mem_cons_of_mem x hy)
    rw [nestedBody_other (hcode x List.mem_cons_self) (hclosing ▸ hc) (hopening ▸ ho), hrest]
    rfl

/-! ## Through a template -/

/-- Literal text is read in the same way whether blocks nest or not. -/
theorem literalRun_congr (s : List Char) : counting.literalRun s = flat.literalRun s := by
  fun_induction literalRun flat s with
  | case1 => rw [literalRun_nil]
  | case2 x s r h r' h' ih => rw [literalRun_cons, hopening, h]; simp only [h', ih]
  | case3 x s r h h' => rw [literalRun_cons, hopening, h]; simp only [h']
  | case4 x s h r h' r' h'' ih =>
    rw [literalRun_cons, hopening, hclosing, h, h']
    simp only [h'', ih]
  | case5 x s h r h' h'' => rw [literalRun_cons, hopening, hclosing, h, h']; simp only [h'']
  | case6 x s h h' ih => rw [literalRun_cons, hopening, hclosing, h, h', ih]

variable (hnested : counting.nested = true) (hflat : flat.nested = false)
  (hquote : ∀ x ∈ flat.closing, isQuote x = false)
include hnested hflat hquote

/-- A step over a literal, or over a plain block, is the same step when markers are counted. -/
theorem step_of_step_flat {p : Nat} {s rest : List Char} {x : Segment}
    (h : flat.step p s = .segment x rest) (hx : flat.Plain x) :
    counting.step p s = .segment x rest := by
  have hrun := literalRun_congr hopening hclosing s
  rcases segment_cases h with ⟨hend, htext, rfl, rfl⟩ | ⟨code, k, raw, rfl, hsingle, hb, rfl⟩
  · rw [← hrun] at hend htext ⊢
    exact step_literalRun hend htext
  · obtain ⟨hraw, hcode⟩ := hx
    rw [Extent.at, String.toList_ofList, String.toList_ofList, List.append_assoc,
      List.append_cancel_left_eq] at hraw
    rw [String.toList_ofList] at hcode
    rw [body, hflat, if_neg Bool.false_ne_true] at hb
    have hbody : counting.body code = .closed k raw rest := by
      rw [body, hnested, if_pos rfl]
      exact nestedBody_of_flatBody hopening hclosing hquote hb hraw hcode
    rw [← hopening] at hsingle ⊢
    rw [step_opening_once hsingle, blockStep_of_closed hbody]

/-- Where a scan yields literals and plain blocks, so it does when markers are counted, up to its
end if it has one. -/
theorem scanFrom_flat_isPrefix (p : Nat) (s : List Char)
    (hplain : ∀ x ∈ (flat.scanFrom p s).1, flat.Plain x) :
    (flat.scanFrom p s).1 <+: (counting.scanFrom p s).1 ∧
      ((flat.scanFrom p s).2 = none → counting.scanFrom p s = flat.scanFrom p s) := by
  fun_induction scanFrom flat p s with
  | case1 p s h =>
    rw [eq_nil_of_step_done h, scanFrom_nil]
    exact ⟨List.nil_prefix, fun _ => rfl⟩
  | case2 p s e h => exact ⟨List.nil_prefix, fun hnone => by cases hnone⟩
  | case3 p s x rest h more error hmore ih =>
    obtain ⟨hx, hrest⟩ := List.forall_mem_cons.mp hplain
    rw [hmore] at ih
    obtain ⟨hyields, hended⟩ := ih hrest
    rw [scanFrom_of_segment
      (step_of_step_flat hopening hclosing hnested hflat hquote h hx)]
    refine ⟨(List.prefix_cons_inj x).mpr hyields, fun hnone => ?_⟩
    rw [hended hnone]

end

/-- Blocks that nest and blocks that do not are told apart by their escapes and their quotes only.
With two markers that can be used for both, and no quote in the closing one, let a scan without
nesting yield only blocks that were written with their code as it stands, and without quotes in it.
Then counting markers yields the same segments, and if the one scan reaches the end of the template,
the other does so with nothing else. -/
theorem counting_yields_flat {opening closing : String} {flat counting : Delimiters}
    (hflat : make? opening closing false = .ok flat)
    (hcounting : make? opening closing true = .ok counting)
    (hquote : ∀ x ∈ closing.toList, isQuote x = false) {template : String}
    (hplain : ∀ x ∈ (flat.scan template).segments, flat.Plain x) :
    (flat.scan template).segments <+: (counting.scan template).segments ∧
      ∀ segs, (flat.scan template).result = .ok segs → counting.scan template = ⟨segs, none⟩ := by
  obtain ⟨hopening, hclosing, hnested⟩ := make?_eq_ok_iff.mp hcounting
  obtain ⟨hopening', hclosing', hnested'⟩ := make?_eq_ok_iff.mp hflat
  rw [← hclosing'] at hquote
  obtain ⟨hyields, hended⟩ := scanFrom_flat_isPrefix (hopening.trans hopening'.symm)
    (hclosing.trans hclosing'.symm) hnested hnested' hquote 0 template.toList hplain
  refine ⟨hyields, fun segs hsegs => ?_⟩
  have hscan := result_scan_eq_ok_iff.mp hsegs
  rw [hscan] at hended
  rw [scan, hended rfl]

/-- The opening marker is the first half of the closing one, and stands in literal text as well. -/
theorem counting_yields_flat_overlapping :
    ∃ flat counting : Delimiters,
      make? "<" "<>" false = .ok flat ∧ make? "<" "<>" true = .ok counting ∧
      counting.scan "x<<<a<>y" =
        ⟨[.literal "x<" ⟨"x<<", ⟨0, 3⟩⟩, .block "a" ⟨"<a<>", ⟨3, 7⟩⟩,
          .literal "y" ⟨"y", ⟨7, 8⟩⟩], none⟩ := by
  let flat : Delimiters := ⟨['<'], ['<', '>'], false, by decide, by decide, nofun⟩
  let counting : Delimiters := ⟨['<'], ['<', '>'], true, by decide, by decide, by decide⟩
  have hflat : make? "<" "<>" false = .ok flat := make?_eq_ok_iff.mpr ⟨rfl, rfl, rfl⟩
  have hcounting : make? "<" "<>" true = .ok counting := make?_eq_ok_iff.mpr ⟨rfl, rfl, rfl⟩
  have hscan : flat.scan "x<<<a<>y" =
      ⟨[.literal "x<" ⟨"x<<", ⟨0, 3⟩⟩, .block "a" ⟨"<a<>", ⟨3, 7⟩⟩,
        .literal "y" ⟨"y", ⟨7, 8⟩⟩], none⟩ := by decide +kernel
  have hplain : ∀ x ∈ (flat.scan "x<<<a<>y").segments, flat.Plain x := by
    rw [hscan]
    intro x hx
    obtain rfl | rfl | rfl := by simpa using hx
    · trivial
    · exact ⟨rfl, by simp [isQuote]⟩
    · trivial
  have h := counting_yields_flat hflat hcounting (by simp [isQuote]) hplain
  exact ⟨flat, counting, hflat, hcounting, h.2 _ (by rw [hscan]; rfl)⟩

end Splice.Delimiters
