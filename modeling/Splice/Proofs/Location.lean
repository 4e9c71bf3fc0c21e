import Splice.Proofs.Blocks
import Splice.Proofs.Tiling
import Splice.Proofs.Trimming

/-!
# Where a failure is located

A failure that comes up in the transform leaves a render with a place in the template, the place at
which its block was written. Three parts have to agree on it. The scan gives each block the piece of
the template that it was read from, markers and escapes included (`Delimiters.encloses_of_block`).
Trimming rewrites literals and leaves some out, so the places of segments in their list change, but
the blocks keep their order and what they were read from (`Settings.blocks_pieces`). And a renderer
that has come to the block at index `k` among the blocks fails with the tags of that block
(`Renderer.gather_of_asked`).

So the place is one in the template as it was given, before any trimming, and the same with and
without (`Settings.failures_located`).
-/

open Splice.Action

namespace Splice

open Segment World

/-! ## Blocks of the scan and blocks that are rendered -/

/-- Blocks stay when literals get other texts. -/
theorem Margin.Retexted.blocks_eq {segs out : List Segment} (h : Retexted segs out) :
    blocks out = blocks segs := by
  induction h with
  | nil => rfl
  | block code source h ih => rw [blocks_block, blocks_block, ih]
  | literal text text' source hne h ih => rw [blocks_literal, blocks_literal, ih]
  | dropped text source h ih => rw [blocks_literal, ih]

namespace Settings

/-- The settings with trimming on or off. -/
def trimming (trim : Bool) (s : Settings) : Settings :=
  { s with trim }

/-- With trimming on or off, the blocks of a template are those of its scan. -/
theorem blocks_pieces {s : Settings} {template : String} {segs : List Segment}
    (h : s.pieces template = .ok segs) :
    blocks segs = blocks (s.delimiters.scan template).segments := by
  unfold pieces Scan.result at h
  cases herror : (s.delimiters.scan template).error with
  | some e =>
    rw [herror] at h
    cases h
  | none =>
    rw [herror] at h
    cases h
    cases s.trim with
    | false => rfl
    | true => exact (Margin.retexted_rebuild _ _ 0 _).blocks_eq

/-- Whether a template scans has nothing to do with trimming. -/
theorem exists_pieces_trimming {s : Settings} {template : String} {segs : List Segment}
    (h : s.pieces template = .ok segs) (trim : Bool) :
    ∃ segs', (s.trimming trim).pieces template = .ok segs' := by
  change ∃ segs', (s.delimiters.scan template).result.map _ = .ok segs'
  cases hresult : (s.delimiters.scan template).result with
  | ok found => exact ⟨_, rfl⟩
  | error e =>
    rw [pieces, hresult] at h
    cases h

theorem pieces_trimming_of_error {s : Settings} {template : String} {e : ScanError}
    (h : s.pieces template = .error e) (trim : Bool) :
    (s.trimming trim).pieces template = .error e := by
  change (s.delimiters.scan template).result.map _ = .error e
  cases hresult : (s.delimiters.scan template).result with
  | ok found =>
    rw [pieces, hresult] at h
    cases h
  | error e' =>
    rw [pieces, hresult] at h
    cases h
    rfl

end Settings

/-! ## Blocks in the template -/

/-- The characters of a template from a place up to another. -/
def slice (template : String) (start stop : Nat) : String :=
  String.ofList (template.toList.extract start stop)

/-- A block was written at this place of the template: its extent is a piece of the template that
begins with the opening marker and ends with the closing one. -/
def Delimiters.Encloses (d : Delimiters) (template : String) (source : Extent) : Prop :=
  ∃ start stop : Nat, start < stop ∧ stop ≤ template.length ∧
    source = ⟨slice template start stop, ⟨start, stop⟩⟩ ∧
      ∃ inner, (slice template start stop).toList = d.opening ++ inner ++ d.closing

/-- Segments that stand one behind the other in a text have each its own piece of it. -/
theorem Tiles.exists_of_mem {text : List Char} {p q : Nat} {xs : List Segment} {x : Segment}
    (h : Tiles text p xs q) (hx : x ∈ xs) :
    ∃ start stop : Nat, x.source.span = ⟨start, stop⟩ ∧ start < stop ∧ stop ≤ text.length ∧
      x.source.raw.toList = text.extract start stop := by
  induction h with
  | nil p => cases hx
  | @cons p m q y ys span nonempty inside raw _ ih =>
    rcases List.mem_cons.mp hx with rfl | hx
    · exact ⟨p, m, span, nonempty, inside, raw⟩
    · exact ih hx

/-- The blocks of a scan were written where their extents say. -/
theorem Delimiters.encloses_of_block {d : Delimiters} {template code : String} {source : Extent}
    {k : Nat} (h : (blocks (d.scan template).segments)[k]? = some (code, source)) :
    d.Encloses template source := by
  obtain ⟨front, behind, hsegs, -⟩ := exists_of_getElem?_blocks h
  have hmem : .block code source ∈ (d.scan template).segments := by
    rw [hsegs]
    exact List.mem_append_right front List.mem_cons_self
  obtain ⟨q, htiles, hform, -⟩ :=
    d.tiles_scanFrom (s := template.toList) List.drop_zero (Nat.zero_le _)
  obtain ⟨start, stop, hspan, hlt, hle, hraw⟩ := htiles.exists_of_mem hmem
  obtain ⟨inner, hinner⟩ := hform _ hmem
  have hslice : source.raw = slice template start stop := by
    rw [slice, ← String.toList_inj, String.toList_ofList]
    exact hraw
  refine ⟨start, stop, hlt, hle, ?_, inner, ?_⟩
  · rw [← hslice]
    exact congrArg (Extent.mk source.raw) hspan
  · rw [← hslice]
    exact hinner

/-! ## Renders that have come to a block -/

namespace Renderer

variable (r : Renderer)

/-- What the transform is asked for at index `k` is the code of the block at this index, after the
blocks before it have been rendered. -/
theorem exists_of_getElem?_asks {bs : List (String × Extent)} {w v : World} {k : Nat}
    {code : String} (h : (r.asks bs w)[k]? = some (code, v)) :
    ∃ front source behind, bs = front ++ (code, source) :: behind ∧ front.length = k ∧
      ∃ columns, outcome (r.gather front) w = (.ok columns, v) := by
  obtain ⟨hk, -⟩ := List.getElem?_eq_some_iff.mp h
  have hlt : k < bs.length := Nat.lt_of_lt_of_le hk (r.length_asks_le bs w)
  have hbs : bs = bs.take k ++ bs[k] :: bs.drop (k + 1) := by
    rw [← List.drop_eq_getElem_cons hlt, List.take_append_drop]
  have hlength : (bs.take k).length = k := List.length_take_of_le (Nat.le_of_lt hlt)
  generalize bs.take k = front, bs[k] = b, bs.drop (k + 1) = behind at hbs hlength
  obtain ⟨c, source⟩ := b
  subst hbs hlength
  obtain ⟨rfl, hcolumns⟩ := r.getElem?_asks_iff.mp h
  exact ⟨front, source, behind, rfl, rfl, hcolumns⟩

/-- If the transform fails for what it is asked for at index `k`, the blocks cannot be gathered, and
the failure is tagged with the block at this index. -/
theorem gather_of_asked {bs : List (String × Extent)} {w v w' : World} {k : Nat} {code : String}
    {f : Failure} (h : (r.asks bs w)[k]? = some (code, v))
    (hfails : outcome (r.transform code) v = (.error f, w')) :
    ∃ source, bs[k]? = some (code, source) ∧
      outcome (r.gather bs) w = (.error (f.tag code source.raw source.span), w') := by
  obtain ⟨front, source, behind, rfl, rfl, columns, hcolumns⟩ := r.exists_of_getElem?_asks h
  have htokens : outcome (r.tokens code source) v =
      (.error (f.tag code source.raw source.span), w') :=
    r.outcome_tokens_eq_error_iff.mpr ⟨.transform, f, .transform hfails, rfl⟩
  refine ⟨source, ?_, ?_⟩
  · rw [List.getElem?_append_right (Nat.le_refl _), Nat.sub_self, List.getElem?_cons_zero]
  · rw [gather_append, outcome_bind, hcolumns]
    simp only
    rw [outcome_map_eq_error_iff, outcome_gather_cons_of_error r htokens]

/-- A failure that comes up in the transform comes up for something that it is asked for. -/
theorem exists_asks_of_raises {segs : List Segment} {w w' : World} {code : String}
    {source : Extent} {f : Failure} (h : r.Raises segs w code source .transform f w') :
    ∃ (k : Nat) (v : World), (r.asks (blocks segs) w)[k]? = some (code, v) ∧
      (blocks segs)[k]? = some (code, source) ∧
        outcome (r.transform code) v = (.error f, w') := by
  -- literals count for nothing, and each block that is rendered puts the failing one an index on
  generalize hstage : Stage.transform = stage at h
  induction h with
  | here h =>
    subst hstage
    cases h with
    | transform hfails => exact ⟨0, _, rfl, rfl, hfails⟩
  | literal h ih => exact ih hstage
  | block hc h ih =>
    obtain ⟨k, v, hasked, hblock, hfails⟩ := ih hstage
    refine ⟨k + 1, v, ?_, hblock, hfails⟩
    rw [blocks_block, asks_cons_of_ok r (r.outcome_tokens_eq_ok_iff.mpr hc)]
    exact hasked

end Renderer

/-! ## Templates -/

/-- A way to render. -/
inductive Manner where
  | text
  | lines
  deriving DecidableEq, Repr

/-- How a render of this manner is announced in the log. -/
def Manner.announcement : Manner → String
  | text => " segments"
  | lines => " segments as lines"

namespace Settings

variable (s : Settings) (t : Transform) (manner : Manner) (template : String) (w : World)

/-- What the transform is asked for while a template is rendered; nothing, if it does not scan. -/
def asked : List (String × World) :=
  match s.pieces template with
  | .ok segs =>
    (s.renderer t).asks (blocks segs)
      (Renderer.started segs manner.announcement (s.scanned segs w))
  | .error _ => []

/-- Rendering a template fails in this way and leaves this world. -/
def Leaves (f : Failure) (w' : World) : Prop :=
  match manner with
  | .text => outcome (s.render t template) w = (.error f, w')
  | .lines => outcome (s.renderLines t template) w = (.error f, w')

variable {s t manner template w}

theorem asked_of_pieces {segs : List Segment} (h : s.pieces template = .ok segs) :
    s.asked t manner template w =
      (s.renderer t).asks (blocks segs)
        (Renderer.started segs manner.announcement (s.scanned segs w)) := by
  rw [asked, h]

/-- If anything is asked for, the template scans. -/
theorem exists_pieces_of_asked {k : Nat} {x : String × World}
    (h : (s.asked t manner template w)[k]? = some x) :
    ∃ segs, s.pieces template = .ok segs := by
  unfold asked at h
  cases hpieces : s.pieces template with
  | ok segs => exact ⟨segs, rfl⟩
  | error e =>
    rw [hpieces] at h
    cases h

/-- A render fails where the blocks of the template cannot be gathered. -/
theorem leaves_of_gather {segs : List Segment} {f : Failure} {w' : World}
    (h : s.pieces template = .ok segs)
    (hgather : outcome ((s.renderer t).gather (blocks segs))
      (Renderer.started segs manner.announcement (s.scanned segs w)) = (.error f, w')) :
    s.Leaves t manner template w f w' := by
  cases manner with
  | text =>
    change outcome (s.render t template) w = _
    rw [s.outcome_render_of_ok h]
    exact Renderer.outcome_render_of_gather_error _ hgather
  | lines =>
    change outcome (s.renderLines t template) w = _
    rw [s.outcome_renderLines_of_ok h]
    exact Renderer.outcome_renderLines_of_gather_error _ hgather

/-- The transform is asked for the codes of the blocks of the scan, in their order. -/
theorem codes_asked_isPrefix :
    (s.asked t manner template w).map (·.1) <+:
      (blocks (s.delimiters.scan template).segments).map (·.1) := by
  unfold asked
  cases hpieces : s.pieces template with
  | ok segs =>
    rw [← blocks_pieces hpieces]
    exact Renderer.codes_asks_isPrefix ..
  | error e => exact List.nil_prefix

/-- The first code that is asked for is that of the first block. -/
theorem head?_codes_asked {segs : List Segment} (h : s.pieces template = .ok segs) :
    ((s.asked t manner template w).map (·.1)).head? =
      ((blocks (s.delimiters.scan template).segments).map (·.1)).head? := by
  rw [asked_of_pieces h, ← blocks_pieces h]
  cases blocks segs with
  | nil => rfl
  | cons b bs => rfl

/-- With and without trimming, the same code is asked for first. -/
theorem head?_codes_asked_trimming (trim : Bool) :
    (((s.trimming trim).asked t manner template w).map (·.1)).head? =
      ((s.asked t manner template w).map (·.1)).head? := by
  cases hpieces : s.pieces template with
  | ok segs =>
    obtain ⟨segs', hpieces'⟩ := exists_pieces_trimming hpieces trim
    rw [head?_codes_asked hpieces, head?_codes_asked hpieces']
    rfl
  | error e => rw [asked, asked, hpieces, pieces_trimming_of_error hpieces trim]

/-- With and without trimming, a transform that does not read the log is asked alike. -/
theorem askedAlike_trimming (ht : t.IgnoresLog) (trim : Bool) :
    AskedAlike SameButLog (s.asked t manner template w)
      ((s.trimming trim).asked t manner template w) := by
  cases hpieces : s.pieces template with
  | error e =>
    rw [asked, asked, hpieces, pieces_trimming_of_error hpieces trim]
    exact List.Forall₂.nil
  | ok segs =>
    obtain ⟨segs', hpieces'⟩ := exists_pieces_trimming hpieces trim
    have hblocks : blocks segs' = blocks segs := by
      rw [blocks_pieces hpieces, blocks_pieces hpieces']
      rfl
    rw [asked_of_pieces hpieces, asked_of_pieces hpieces', hblocks]
    have hworlds : SameButLog (Renderer.started segs manner.announcement (s.scanned segs w))
        (Renderer.started segs' manner.announcement ((s.trimming trim).scanned segs' w)) :=
      ⟨rfl, rfl, rfl⟩
    exact Renderer.askedAlike_of_ignoresLog (r := s.renderer t) ht hworlds (blocks segs)

/-- The transform fails with `f₀` for the block at index `k`, and the render fails with `f`, which
has the tags of a block: the one at this index in the scan, with its place in the template. With
trimming on or off, a transform that does not read the log fails in the same way for the same block,
and the same failure leaves the render. -/
structure LocatesAt (s : Settings) (t : Transform) (manner : Manner) (template : String) (w : World)
    (k : Nat) (code : String) (f₀ : Failure) (w' : World) (source : Extent) (f : Failure) :
    Prop where
  block : (blocks (s.delimiters.scan template).segments)[k]? = some (code, source)
  place : s.delimiters.Encloses template source
  tagged : f₀.Tagged code source f
  leaves : s.Leaves t manner template w f w'
  trimming : t.IgnoresLog → ∀ trim, ∃ v₁ w₁,
    ((s.trimming trim).asked t manner template w)[k]? = some (code, v₁) ∧
      outcome (t code) v₁ = (.error f₀, w₁) ∧
        (s.trimming trim).Leaves t manner template w f w₁ ∧ SameButLog w' w₁

/-- A render in which the transform fails at index `k` leaves with the tags of the block there. -/
theorem leaves_of_asked {k : Nat} {code : String} {v w' : World} {f₀ : Failure}
    (hasked : (s.asked t manner template w)[k]? = some (code, v))
    (hfails : outcome (t code) v = (.error f₀, w')) :
    ∃ source, (blocks (s.delimiters.scan template).segments)[k]? = some (code, source) ∧
      s.Leaves t manner template w (f₀.tag code source.raw source.span) w' := by
  obtain ⟨segs, hpieces⟩ := exists_pieces_of_asked hasked
  rw [asked_of_pieces hpieces] at hasked
  obtain ⟨source, hblock, hgather⟩ := (s.renderer t).gather_of_asked hasked hfails
  rw [blocks_pieces hpieces] at hblock
  exact ⟨source, hblock, leaves_of_gather hpieces hgather⟩

/-- With trimming on or off, the failure at index `k` is the same. -/
theorem leaves_of_asked_trimming (ht : t.IgnoresLog) (trim : Bool) {k : Nat} {code : String}
    {source : Extent} {v w' : World} {f₀ : Failure}
    (hblock : (blocks (s.delimiters.scan template).segments)[k]? = some (code, source))
    (hasked : (s.asked t manner template w)[k]? = some (code, v))
    (hfails : outcome (t code) v = (.error f₀, w')) :
    ∃ v₁ w₁, ((s.trimming trim).asked t manner template w)[k]? = some (code, v₁) ∧
      outcome (t code) v₁ = (.error f₀, w₁) ∧
        (s.trimming trim).Leaves t manner template w (f₀.tag code source.raw source.span) w₁ ∧
          SameButLog w' w₁ := by
  obtain ⟨v₁, hasked₁, hv⟩ := (askedAlike_trimming ht trim).exists_of_getElem? hasked
  have htogether := ht hv code
  rw [hfails] at htogether
  obtain ⟨w₁, hfails₁, hw⟩ := htogether.exists_error
  obtain ⟨source₁, hblock₁, hleaves₁⟩ := leaves_of_asked hasked₁ hfails₁
  obtain ⟨-, rfl⟩ := Prod.mk.inj (Option.some.inj (hblock.symm.trans hblock₁))
  exact ⟨v₁, w₁, hasked₁, hfails₁, hleaves₁, hw⟩

/-- Whatever the markers are, with nesting and without, a failure of the transform is located in the
template as it was given: if the transform fails for the block at index `k`, the render, to one text
or to lines, leaves with the span and the code of that block or, if the failure does not concern
templates, with a note about it. The piece of the template at this span is what the block was
written as, from its opening marker to its closing one. Every failure of the transform comes up at
such an index. Trimming changes neither the place nor the order in which the blocks are reached. -/
theorem failures_located (s : Settings) (t : Transform) (manner : Manner) (template : String)
    (w : World) :
    (∀ k code v f₀ w', (s.asked t manner template w)[k]? = some (code, v) →
      outcome (t code) v = (.error f₀, w') →
        ∃ source f, s.LocatesAt t manner template w k code f₀ w' source f) ∧
    (∀ segs code source f₀ w', s.pieces template = .ok segs →
      (s.renderer t).Raises segs
        (Renderer.started segs manner.announcement (s.scanned segs w)) code source .transform f₀
          w' →
        ∃ (k : Nat) (v : World), (s.asked t manner template w)[k]? = some (code, v) ∧
          (blocks (s.delimiters.scan template).segments)[k]? = some (code, source) ∧
            outcome (t code) v = (.error f₀, w')) ∧
    ∀ trim,
      ((s.trimming trim).asked t manner template w).map (·.1) <+:
          (blocks (s.delimiters.scan template).segments).map (·.1) ∧
        (((s.trimming trim).asked t manner template w).map (·.1)).head? =
          ((s.asked t manner template w).map (·.1)).head? ∧
        (t.IgnoresLog → AskedAlike SameButLog (s.asked t manner template w)
          ((s.trimming trim).asked t manner template w)) := by
  refine ⟨?_, ?_, fun trim => ⟨codes_asked_isPrefix, head?_codes_asked_trimming trim, fun ht =>
    askedAlike_trimming ht trim⟩⟩
  · intro k code v f₀ w' hasked hfails
    obtain ⟨source, hblock, hleaves⟩ := leaves_of_asked hasked hfails
    exact ⟨source, f₀.tag code source.raw source.span, hblock,
      Delimiters.encloses_of_block hblock, f₀.tagged_tag code source, hleaves,
      fun ht trim => leaves_of_asked_trimming ht trim hblock hasked hfails⟩
  · intro segs code source f₀ w' hpieces hraises
    rw [asked_of_pieces hpieces, ← blocks_pieces hpieces]
    exact (s.renderer t).exists_asks_of_raises hraises

/-- In an indented template with long markers, the second block is refused, once with a failure that
concerns templates and once with another. -/
theorem failures_located_indented :
    let s : Settings :=
      ⟨⟨['<', '<'], ['>', '>'], false, by simp, by simp, by simp⟩, false, "", standardMissing,
        .cycle⟩
    let template := "  a <<x>>\n  <<y>> b"
    let refusing (kind : PlainKind) : Transform := fun code =>
      if code = "y" then throw (.of (.raised kind none)) else pure (.new (.text code))
    let w : World := .new (.chain [] []) .empty
    (∃ f w', (s.trimming true).Leaves (refusing ⟨.templateError, rfl⟩) .text template w f w' ∧
      f.span = some ⟨12, 17⟩ ∧ f.code = some "y") ∧
      ∃ f w', (s.trimming true).Leaves (refusing ⟨.valueError, rfl⟩) .lines template w f w' ∧
        f.notes = ["while rendering '<<y>>' at 12:17"] := by
  intro s template refusing w
  have hscan : s.delimiters.scan template =
      ⟨[.literal "  a " ⟨"  a ", ⟨0, 4⟩⟩, .block "x" ⟨"<<x>>", ⟨4, 9⟩⟩,
        .literal "\n  " ⟨"\n  ", ⟨9, 12⟩⟩, .block "y" ⟨"<<y>>", ⟨12, 17⟩⟩,
        .literal " b" ⟨" b", ⟨17, 19⟩⟩], none⟩ := by
    decide +kernel
  have hpieces := s.pieces_of_scan rfl hscan
  have hignores (kind : PlainKind) : (refusing kind).IgnoresLog := by
    intro w₁ w₂ hw code
    change Together _ _ (outcome (if code = "y" then _ else _) w₁)
      (outcome (if code = "y" then _ else _) w₂)
    split
    · exact .error hw
    · exact .ok hw rfl
  -- the block with the code `y` is at index 1 among the blocks
  have hlocated (kind : PlainKind) (manner : Manner) :
      ∃ source f w₁, (s.trimming true).Leaves (refusing kind) manner template w f w₁ ∧
        source = ⟨"<<y>>", ⟨12, 17⟩⟩ ∧ (Failure.of (.raised kind none)).Tagged "y" source f := by
    obtain ⟨source, f, h⟩ := (failures_located s (refusing kind) manner template w).1 1 "y" _ _ _
      (by rw [asked_of_pieces hpieces]; rfl) rfl
    obtain ⟨v₁, w₁, -, -, hleaves, -⟩ := h.trimming (hignores kind) true
    have hblock := h.block
    rw [hscan] at hblock
    cases hblock
    exact ⟨_, f, w₁, hleaves, rfl, h.tagged⟩
  constructor
  · obtain ⟨_, f, w₁, hleaves, rfl, -, htags⟩ := hlocated ⟨.templateError, rfl⟩ .text
    exact ⟨f, w₁, hleaves, htags.1, htags.2.1⟩
  · obtain ⟨_, f, w₁, hleaves, rfl, -, htags⟩ := hlocated ⟨.valueError, rfl⟩ .lines
    exact ⟨f, w₁, hleaves, htags.2.2⟩

end Settings

end Splice
