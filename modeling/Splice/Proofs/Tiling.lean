import Splice.Proofs.Separated

/-!
# How the segments of a scan cover a template

Whatever the markers are, the segments of a scan stand one behind the other from the start of the
template, and each of them was read from its own piece. `Tiles` says so, and up to which place. A
scan that ends has covered the template. A scan that fails does so at a single marker, and
`FailsAt` lists the three ways in which that happens: a block is never closed, which is noticed at
the place that the segments have come to; a closing marker stands in literal text; or, without
nesting, an opening marker stands in a block.

Every step is described on its own (`segment_of_step`, `eq_nil_of_step_done`, `failsAt_of_step`),
with the template cut into what was read and what is left. `scan_tiles` puts the steps together.
-/

namespace Splice

/-- Segments that stand one behind the other in a text, from the first place to the second: each
takes up a piece of the text, which is what it was read from, and the next begins where it ends. -/
inductive Tiles (text : List Char) : Nat → List Segment → Nat → Prop where
  | nil (p : Nat) : Tiles text p [] p
  | cons {p m q : Nat} {x : Segment} {xs : List Segment} (span : x.source.span = ⟨p, m⟩)
    (nonempty : p < m) (inside : m ≤ text.length) (raw : x.source.raw.toList = text.extract p m)
    (more : Tiles text m xs q) : Tiles text p (x :: xs) q

namespace Delimiters

/-- What holds of a segment wherever it stands: a literal says something, and a block was written
with an opening marker at the front and a closing marker at the end. -/
def WellFormed (d : Delimiters) : Segment → Prop
  | .literal t _ => t ≠ ""
  | .block _ s => ∃ inner, s.raw.toList = d.opening ++ inner ++ d.closing

/-- A marker stands at a place of a text, and is not doubled there. -/
def SingleAt (marker text : List Char) (q : Nat) : Prop :=
  marker <+: text.drop q ∧ ¬ marker ++ marker <+: text.drop q

/-- How a scan whose segments have come to the place `p` of a text can fail. -/
inductive FailsAt (d : Delimiters) (text : List Char) (p : Nat) : ScanError → Prop where
  /-- A block that begins at `p` is never closed. -/
  | unclosed {code : List Char} (single : SingleAt d.opening text p)
    (here : text.drop p = d.opening ++ code) (never : d.body code = .unclosed) :
    FailsAt d text p (.unmatched p (String.ofList d.opening))
  /-- A closing marker, one that could not open a block as well, stands in literal text. -/
  | stray {q : Nat} (behind : p ≤ q) (single : SingleAt d.closing text q)
    (closes : d.closing ≠ d.opening) : FailsAt d text p (.unmatched q (String.ofList d.closing))
  /-- Without nesting, an opening marker stands in the block that begins at `p`. -/
  | nesting {q : Nat} (flat : d.nested = false) (behind : p < q)
    (single : SingleAt d.opening text q) :
    FailsAt d text p (.nesting q (String.ofList d.opening))

/-- Delimiters are what a caller gets for their markers. -/
theorem make?_self (d : Delimiters) :
    make? (String.ofList d.opening) (String.ofList d.closing) d.nested = .ok d := by
  rcases d with ⟨opening, closing, nested, ho, hc, hd⟩
  simp only [make?, String.toList_ofList]
  rw [dif_neg ho, dif_neg hc, dif_pos hd]

/-- The delimiters that a caller gets are those with the markers given. -/
theorem make?_eq_ok_iff {opening closing : String} {nested : Bool} {d : Delimiters} :
    make? opening closing nested = .ok d ↔
      d.opening = opening.toList ∧ d.closing = closing.toList ∧ d.nested = nested := by
  constructor
  · intro h
    unfold make? at h
    split at h
    · cases h
    split at h
    · cases h
    split at h
    · cases h
      exact ⟨rfl, rfl, rfl⟩
    · cases h
  · rintro ⟨ho, hc, rfl⟩
    have hself := d.make?_self
    rwa [ho, hc, String.ofList_toList, String.ofList_toList] at hself

/-! ## Single markers -/

/-- A marker at a place, with no second one behind it. -/
theorem singleAt_of_drop {m text r : List Char} {q : Nat} (h : text.drop q = m ++ r)
    (hr : after? m r = none) : SingleAt m text q := by
  refine ⟨⟨r, h.symm⟩, ?_⟩
  rintro ⟨r', hr'⟩
  rw [h, List.append_assoc, List.append_cancel_left_eq] at hr'
  rw [← hr', after?_append] at hr
  cases hr

/-- The place in a text at which a part of it begins. -/
theorem drop_of_append {text u r : List Char} {p : Nat} (h : text.drop p = u ++ r) :
    text.drop (p + u.length) = r := by
  rw [← List.drop_drop, h, List.drop_left]

/-! ## Steps -/

/-- A segment was read from the beginning of what was left. -/
theorem segment_of_step {d : Delimiters} {p : Nat} {s rest : List Char} {x : Segment}
    (h : d.step p s = .segment x rest) :
    ∃ raw, raw ≠ [] ∧ s = raw ++ rest ∧ x.source = .at p raw ∧ d.WellFormed x := by
  rcases segment_cases h with ⟨-, htext, rfl, rfl⟩ | ⟨code, k, raw, rfl, -, hb, rfl⟩
  · refine ⟨(d.literalRun s).raw, ?_, (literalRun_append d s).symm, rfl, ?_⟩
    · intro hraw
      have hlength := length_text_le d s
      rw [hraw, List.length_nil, Nat.le_zero, List.length_eq_zero_iff] at hlength
      exact htext hlength
    · simpa [WellFormed] using htext
  · obtain ⟨inner, rfl⟩ := closing_suffix_of_body hb
    refine ⟨d.opening ++ (inner ++ d.closing), by simp [d.opening_ne], ?_, rfl, inner, ?_⟩
    · rw [List.append_assoc, body_append hb]
    · simp [Extent.at]

/-- A step that fails was stopped by a single marker. -/
theorem failsAt_of_step {d : Delimiters} {p : Nat} {text s : List Char} {e : ScanError}
    (htext : text.drop p = s) (h : d.step p s = .failed e) : d.FailsAt text p e := by
  have happ := literalRun_append d s
  have hrest := literalRun_rest d s
  rcases d.step_cases p s with ⟨hend, hs⟩ | ⟨code, hend, hnil, hs⟩ | ⟨-, -, hs⟩ | ⟨-, -, hs⟩
  · -- a closing marker behind the run of literal text
    rw [hend] at hrest
    obtain ⟨hopening, r, hr, hdouble⟩ := hrest
    obtain rfl := Step.failed.inj (hs.symm.trans h)
    rw [← happ, hr] at htext
    refine .stray (Nat.le_add_right _ _) (singleAt_of_drop (drop_of_append htext) hdouble) ?_
    rintro hmarkers
    rw [hr, hmarkers, after?_append] at hopening
    cases hopening
  · -- a block, which was read from its opening marker on
    rw [hend] at hrest
    rw [← happ, raw_of_text_eq_nil hnil, hrest.1, List.nil_append] at htext
    rw [hs, blockStep] at h
    split at h
    · cases h
    · rename_i hb
      obtain rfl := Step.failed.inj h
      exact .unclosed (singleAt_of_drop htext hrest.2) htext hb
    · rename_i k hb
      obtain ⟨hflat, u, r, rfl, rfl, hdouble⟩ := body_opened hb
      obtain rfl := Step.failed.inj h
      refine .nesting hflat ?_ (singleAt_of_drop (drop_of_append (drop_of_append htext)) hdouble)
      have := List.length_pos_iff.mpr d.opening_ne
      omega
  · exact absurd (hs.symm.trans h) (by simp)
  · exact absurd (hs.symm.trans h) (by simp)

end Delimiters

/-! ## Whole scans -/

namespace Tiles

/-- A segment that was read from the beginning of what was left takes up its piece of the text. -/
theorem cons_at {text raw rest : List Char} {p q : Nat} {x : Segment} {xs : List Segment}
    (htext : text.drop p = raw ++ rest) (hp : p ≤ text.length) (hraw : raw ≠ [])
    (hx : x.source = .at p raw) (more : Tiles text (p + raw.length) xs q) :
    Tiles text p (x :: xs) q := by
  have hlength := congrArg List.length htext
  have hpos := List.length_pos_iff.mpr hraw
  rw [List.length_drop, List.length_append] at hlength
  refine .cons (by rw [hx]; rfl) (by omega) (by omega) ?_ more
  rw [hx, Extent.at, String.toList_ofList, List.extract, htext, Nat.add_sub_cancel_left,
    List.take_left]

/-- The pieces of the segments make up what they cover. -/
theorem flatten_raws {text : List Char} {p q : Nat} {xs : List Segment} (h : Tiles text p xs q) :
    p ≤ q ∧ (xs.map fun x => x.source.raw.toList).flatten = text.extract p q := by
  induction h with
  | nil p => exact ⟨Nat.le_refl p, by simp [List.extract]⟩
  | @cons p m q x xs _ hpm _ hraw _ ih =>
    obtain ⟨hmq, hpieces⟩ := ih
    refine ⟨by omega, ?_⟩
    have hsplit : q - p = (m - p) + (q - m) := by omega
    rw [List.map_cons, List.flatten_cons, hpieces, hraw, List.extract, List.extract, List.extract,
      hsplit, List.take_add, List.drop_drop]
    congr 3
    omega

/-- Segments that cover a whole text were read from all of it. -/
theorem join_raws {template : String} {xs : List Segment}
    (h : Tiles template.toList 0 xs template.length) :
    String.join (xs.map fun x => x.source.raw) = template := by
  have hpieces := h.flatten_raws.2
  have hall : template.toList.extract 0 template.length = template.toList := by
    rw [List.extract, List.drop_zero, Nat.sub_zero, ← String.length_toList, List.take_length]
  rw [← String.toList_inj, String.toList_join, List.flatMap_def, List.map_map]
  exact hpieces.trans hall

end Tiles

namespace Delimiters

/-- The segments of a scan cover what they were read from, and the scan ends where the template does
or fails where they stop. -/
theorem tiles_scanFrom {d : Delimiters} {text s : List Char} {p : Nat} (htext : text.drop p = s)
    (hp : p ≤ text.length) :
    ∃ q, Tiles text p (d.scanFrom p s).1 q ∧ (∀ x ∈ (d.scanFrom p s).1, d.WellFormed x) ∧
      match (d.scanFrom p s).2 with
      | none => q = text.length
      | some e => d.FailsAt text q e := by
  fun_induction scanFrom d p s with
  | case1 p s h =>
    have hend : text.length ≤ p := by
      rw [← List.drop_eq_nil_iff, htext, eq_nil_of_step_done h]
    exact ⟨p, .nil p, by simp, Nat.le_antisymm hp hend⟩
  | case2 p s e h => exact ⟨p, .nil p, by simp, failsAt_of_step htext h⟩
  | case3 p s x rest h more error hmore ih =>
    obtain ⟨raw, hraw, rfl, hx, hform⟩ := segment_of_step h
    have hstop : x.source.span.stop.toNat = p + raw.length := by
      rw [hx, Extent.at]
      simp only
      omega
    have hlength := congrArg List.length htext
    rw [List.length_drop, List.length_append] at hlength
    rw [hmore, hstop] at ih
    have hpos := List.length_pos_iff.mpr hraw
    obtain ⟨q, htiles, hmem, hend⟩ := ih (drop_of_append htext) (by omega)
    exact ⟨q, .cons_at htext hp hraw hx htiles, List.forall_mem_cons.mpr ⟨hform, hmem⟩, hend⟩

/-- With any markers that a caller can have, the segments of a scan stand one behind the other from
the start of the template, none of them empty, each read from its own piece: blocks between an
opening and a closing marker, literals with some text and never two in a row. If the scan ends, they
make up the template; if it fails, the place that they have come to says where it can have failed,
at a marker that is not doubled. -/
theorem scan_tiles (d : Delimiters) (template : String) :
    make? (String.ofList d.opening) (String.ofList d.closing) d.nested = .ok d ∧
    ∃ p, Tiles template.toList 0 (d.scan template).segments p ∧
      (∀ x ∈ (d.scan template).segments, d.WellFormed x) ∧
      Margin.Separated (d.scan template).segments ∧
      match (d.scan template).error with
      | none =>
        p = template.length ∧
          String.join ((d.scan template).segments.map fun x => x.source.raw) = template
      | some e => d.FailsAt template.toList p e := by
  obtain ⟨p, htiles, hform, hend⟩ :=
    d.tiles_scanFrom (s := template.toList) List.drop_zero (Nat.zero_le _)
  refine ⟨d.make?_self, p, htiles, hform, Margin.separated_scan d template, ?_⟩
  change match (d.scanFrom 0 template.toList).2 with
    | none => _
    | some e => _
  cases herror : (d.scanFrom 0 template.toList).2 with
  | none =>
    rw [herror] at hend
    obtain rfl : p = template.length := hend
    exact ⟨rfl, htiles.join_raws⟩
  | some e =>
    rw [herror] at hend
    exact hend

end Delimiters

end Splice
