import Mathlib.Data.List.Forall2
import Splice.Proofs.Discretion

/-!
# What is asked for

While segments are rendered, all that happens in the world happens at the blocks. Their tokens are
gathered in order (`Renderer.gather`), and only then it matters where literals stand between them:
the columns of the segments are the gathered ones with those of the literals filled in
(`columns_eq`).

`Renderer.asks` follows the gathering. It lists what the transform is asked for, which is the code
of every block up to the first that fails, and the world that each finds, which is the one that the
blocks before it have left. A transform that keeps a record of what it is asked for records this
list (`calls_recording`).
-/

open Splice.Action

namespace Splice

/-! ## Blocks among segments -/

namespace Segment

/-- The code of a block, and what it was read from. -/
def block? : Segment → Option (String × Extent)
  | literal .. => none
  | block code source => some (code, source)

/-- The blocks among some segments, in their order. -/
def blocks (segs : List Segment) : List (String × Extent) :=
  segs.filterMap block?

@[simp] theorem blocks_nil : blocks [] = [] := rfl

@[simp] theorem blocks_literal (t : String) (source : Extent) (segs : List Segment) :
    blocks (.literal t source :: segs) = blocks segs := rfl

@[simp] theorem blocks_block (code : String) (source : Extent) (segs : List Segment) :
    blocks (.block code source :: segs) = (code, source) :: blocks segs := rfl

@[simp] theorem blocks_append (segs rest : List Segment) :
    blocks (segs ++ rest) = blocks segs ++ blocks rest :=
  List.filterMap_append

/-- Every block has its place among the segments, behind the blocks before it. -/
theorem exists_of_getElem?_blocks {segs : List Segment} {k : Nat} {code : String}
    {source : Extent} (h : (blocks segs)[k]? = some (code, source)) :
    ∃ front behind, segs = front ++ .block code source :: behind ∧ (blocks front).length = k := by
  induction segs generalizing k with
  | nil => cases h
  | cons seg segs ih =>
    cases seg with
    | literal t e =>
      obtain ⟨front, behind, rfl, hk⟩ := ih h
      exact ⟨.literal t e :: front, behind, rfl, hk⟩
    | block c e =>
      cases k with
      | zero =>
        cases h
        exact ⟨[], segs, rfl, rfl⟩
      | succ k =>
        obtain ⟨front, behind, rfl, hk⟩ := ih h
        exact ⟨.block c e :: front, behind, rfl, congrArg (· + 1) hk⟩

end Segment

open Segment World

namespace Renderer

variable (r : Renderer)

/-! ## Gathering -/

/-- The tokens of some blocks, one block after the other. -/
def gather (bs : List (String × Extent)) : Action (List (List String)) :=
  bs.mapM fun b => r.tokens b.1 b.2

/-- The columns of segments whose blocks have these tokens. -/
def filledIn : List Segment → List (List String) → List (List String)
  | [], _ => []
  | .literal t _ :: segs, columns => [t] :: filledIn segs columns
  | .block .. :: _, [] => []
  | .block .. :: segs, column :: columns => column :: filledIn segs columns

theorem gather_cons (code : String) (source : Extent) (bs : List (String × Extent)) :
    r.gather ((code, source) :: bs) =
      (r.tokens code source >>= fun column => (column :: ·) <$> r.gather bs) := by
  rw [gather, List.mapM_cons, gather]
  simp only [map_eq_pure_bind]

theorem gather_append (bs bs' : List (String × Extent)) :
    r.gather (bs ++ bs') =
      (r.gather bs >>= fun columns => (columns ++ ·) <$> r.gather bs') := by
  rw [gather, List.mapM_append]
  simp only [map_eq_pure_bind]
  rfl

/-- The columns of segments are gathered from the blocks and filled in. -/
theorem columns_eq (segs : List Segment) :
    r.columns segs = filledIn segs <$> r.gather (blocks segs) := by
  induction segs with
  | nil => simp [columns, gather, filledIn]
  | cons seg segs ih =>
    cases seg with
    | literal t source => simp [columns, ih, filledIn]
    | block code source => simp [columns, ih, gather_cons, filledIn]

theorem outcome_gather_cons_of_ok {code : String} {source : Extent} {column : List String}
    {w w' : World} (h : outcome (r.tokens code source) w = (.ok column, w'))
    (bs : List (String × Extent)) :
    outcome (r.gather ((code, source) :: bs)) w =
      outcome ((column :: ·) <$> r.gather bs) w' := by
  rw [gather_cons, outcome_bind, h]

theorem outcome_gather_cons_of_error {code : String} {source : Extent} {f : Failure}
    {w w' : World} (h : outcome (r.tokens code source) w = (.error f, w'))
    (bs : List (String × Extent)) :
    outcome (r.gather ((code, source) :: bs)) w = (.error f, w') := by
  rw [gather_cons, outcome_bind, h]

/-- Gathering goes through one segment after the other, and fails where that does. -/
theorem outcome_columns_eq_error_iff_gather {segs : List Segment} {w w' : World} {f : Failure} :
    outcome (r.columns segs) w = (.error f, w') ↔
      outcome (r.gather (blocks segs)) w = (.error f, w') := by
  rw [columns_eq, outcome_map_eq_error_iff]

/-! ## Texts joined -/

/-- The texts of the segments, joined to one. -/
def joined (segs : List Segment) : Action String :=
  String.join <$> r.texts segs

theorem joined_literal (t : String) (source : Extent) (segs : List Segment) :
    r.joined (.literal t source :: segs) = (t ++ ·) <$> r.joined segs := by
  simp [joined, texts]

theorem joined_block (code : String) (source : Extent) (segs : List Segment) :
    r.joined (.block code source :: segs) =
      (r.tokens code source >>= fun column =>
        (r.separator.intercalate column ++ ·) <$> r.joined segs) := by
  simp [joined, texts]

theorem joined_append (segs rest : List Segment) :
    r.joined (segs ++ rest) =
      (r.joined segs >>= fun text => (text ++ ·) <$> r.joined rest) := by
  induction segs with
  | nil => simp [joined, texts]
  | cons seg segs ih =>
    cases seg with
    | literal t source => simp [joined_literal, ih, String.append_assoc]
    | block code source => simp [joined_block, ih, String.append_assoc]

/-- Rendering is joining the texts, announced in the log. -/
theorem outcome_render_eq_joined (segs : List Segment) (w : World) :
    outcome (r.render segs) w = outcome (r.joined segs) (started segs " segments" w) := by
  rw [render, outcome_bind, outcome_note]
  rfl

/-- Renderers with transforms that make objects alike join the segments to the same text. -/
theorem together_joined {L : Likeness} {t₁ t₂ : Transform} (h : L.Transforms t₁ t₂) (s : Settings)
    (segs : List Segment) {w₁ w₂ : World} (hw : L.worlds w₁ w₂) :
    Alongside L.worlds L.failures.rel Same (outcome ((s.renderer t₁).joined segs) w₁)
      (outcome ((s.renderer t₂).joined segs) w₂) :=
  (Likeness.together_texts h s segs hw).map fun _ htexts => congrArg String.join htexts

/-- The text of segments is gathered from the blocks, filled in and joined. -/
theorem joined_eq (segs : List Segment) :
    r.joined segs =
      (fun columns => String.join ((filledIn segs columns).map r.separator.intercalate)) <$>
        r.gather (blocks segs) := by
  rw [joined, texts_eq, columns_eq, Functor.map_map, Functor.map_map]

theorem outcome_joined_eq_error_iff {segs : List Segment} {w w' : World} {f : Failure} :
    outcome (r.joined segs) w = (.error f, w') ↔
      outcome (r.gather (blocks segs)) w = (.error f, w') := by
  rw [joined_eq, outcome_map_eq_error_iff]

/-! ## Renders -/

/-- Rendering to one text is joining the columns, announced in the log. -/
theorem outcome_render_eq_columns (segs : List Segment) (w : World) :
    outcome (r.render segs) w =
      match outcome (r.columns segs) (started segs " segments" w) with
      | (.ok columns, w') => (.ok (String.join (columns.map r.separator.intercalate)), w')
      | (.error f, w') => (.error f, w') := by
  rw [outcome_render_eq_joined, joined, texts_eq, Functor.map_map, map_eq_pure_bind, outcome_bind]
  rcases outcome (r.columns segs) (started segs " segments" w) with ⟨f | columns, w'⟩ <;> rfl

/-- A render to one text gathers the tokens of the blocks, fills in and joins. -/
theorem outcome_render_of_gather {segs : List Segment} {columns : List (List String)} {w w' : World}
    (h : outcome (r.gather (blocks segs)) (started segs " segments" w) = (.ok columns, w')) :
    outcome (r.render segs) w =
      (.ok (String.join ((filledIn segs columns).map r.separator.intercalate)), w') := by
  rw [outcome_render_eq_joined, joined_eq]
  exact outcome_map_eq_ok_iff.mpr ⟨columns, h, rfl⟩

theorem outcome_render_of_gather_error {segs : List Segment} {f : Failure} {w w' : World}
    (h : outcome (r.gather (blocks segs)) (started segs " segments" w) = (.error f, w')) :
    outcome (r.render segs) w = (.error f, w') := by
  rw [outcome_render_eq_joined, outcome_joined_eq_error_iff, h]

/-- What comes of combining columns. -/
def combined (columns : List (List String)) : Except Failure (List String) :=
  (Recycling.lines r.policy columns).mapError Failure.ofRefusal

/-- Rendering to lines is combining the columns, announced in the log. -/
theorem outcome_renderLines_eq_columns (segs : List Segment) (w : World) :
    outcome (r.renderLines segs) w =
      match outcome (r.columns segs) (started segs " segments as lines" w) with
      | (.ok columns, w') => (r.combined columns, w')
      | (.error f, w') => (.error f, w') := by
  rw [renderLines, outcome_bind, outcome_note]
  change outcome (r.columns segs >>= _) (started segs " segments as lines" w) = _
  rw [outcome_bind]
  rcases outcome (r.columns segs) (started segs " segments as lines" w) with ⟨f | columns, w'⟩
  · rfl
  · simp only
    unfold combined
    cases Recycling.lines r.policy columns with
    | ok lines => rfl
    | error refusal => rfl

/-- A render to lines gathers the tokens of the blocks, fills in and combines the columns. -/
theorem outcome_renderLines_of_gather {segs : List Segment} {columns : List (List String)}
    {w w' : World}
    (h : outcome (r.gather (blocks segs)) (started segs " segments as lines" w) =
      (.ok columns, w')) :
    outcome (r.renderLines segs) w = (r.combined (filledIn segs columns), w') := by
  have hcolumns : outcome (r.columns segs) (started segs " segments as lines" w) =
      (.ok (filledIn segs columns), w') := by
    rw [columns_eq]
    exact outcome_map_eq_ok_iff.mpr ⟨columns, h, rfl⟩
  rw [outcome_renderLines_eq_columns, hcolumns]

theorem outcome_renderLines_of_gather_error {segs : List Segment} {f : Failure} {w w' : World}
    (h : outcome (r.gather (blocks segs)) (started segs " segments as lines" w) =
      (.error f, w')) :
    outcome (r.renderLines segs) w = (.error f, w') := by
  have hcolumns : outcome (r.columns segs) (started segs " segments as lines" w) =
      (.error f, w') := by
    rw [columns_eq, outcome_map_eq_error_iff, h]
  rw [outcome_renderLines_eq_columns, hcolumns]

/-- A render to one text leaves the world that gathering the blocks leaves. -/
theorem after_render (segs : List Segment) (w : World) :
    (outcome (r.render segs) w).2 =
      (outcome (r.gather (blocks segs)) (started segs " segments" w)).2 := by
  rcases h : outcome (r.gather (blocks segs)) (started segs " segments" w) with ⟨f | columns, w'⟩
  · rw [outcome_render_of_gather_error r h]
  · rw [outcome_render_of_gather r h]

/-- So does a render to lines, even if the columns do not combine. -/
theorem after_renderLines (segs : List Segment) (w : World) :
    (outcome (r.renderLines segs) w).2 =
      (outcome (r.gather (blocks segs)) (started segs " segments as lines" w)).2 := by
  rcases h : outcome (r.gather (blocks segs)) (started segs " segments as lines" w) with
    ⟨f | columns, w'⟩
  · rw [outcome_renderLines_of_gather_error r h]
  · rw [outcome_renderLines_of_gather r h]

/-! ## Asking -/

/-- What the transform is asked for while blocks are gathered: the codes up to the first that fails,
each with the world that it finds. -/
def asks : List (String × Extent) → World → List (String × World)
  | [], _ => []
  | (code, source) :: bs, w =>
    (code, w) ::
      match outcome (r.tokens code source) w with
      | (.ok _, w') => asks bs w'
      | (.error _, _) => []

theorem asks_cons_of_ok {code : String} {source : Extent} {column : List String} {w w' : World}
    (h : outcome (r.tokens code source) w = (.ok column, w')) (bs : List (String × Extent)) :
    r.asks ((code, source) :: bs) w = (code, w) :: r.asks bs w' := by
  rw [asks, h]

theorem asks_cons_of_error {code : String} {source : Extent} {f : Failure} {w w' : World}
    (h : outcome (r.tokens code source) w = (.error f, w')) (bs : List (String × Extent)) :
    r.asks ((code, source) :: bs) w = [(code, w)] := by
  rw [asks, h]

/-- Behind blocks that are rendered, the transform is asked on in the world that they leave. -/
theorem asks_append_of_ok {bs : List (String × Extent)} {columns : List (List String)}
    {w w' : World} (h : outcome (r.gather bs) w = (.ok columns, w'))
    (bs' : List (String × Extent)) :
    r.asks (bs ++ bs') w = r.asks bs w ++ r.asks bs' w' := by
  induction bs generalizing w columns with
  | nil =>
    cases h
    rfl
  | cons b bs ih =>
    obtain ⟨code, source⟩ := b
    rcases htokens : outcome (r.tokens code source) w with ⟨f | column, w₁⟩
    · rw [outcome_gather_cons_of_error r htokens] at h
      cases h
    · rw [outcome_gather_cons_of_ok r htokens] at h
      obtain ⟨rest, hrest, -⟩ := outcome_map_eq_ok_iff.mp h
      rw [List.cons_append, asks_cons_of_ok r htokens, asks_cons_of_ok r htokens, ih hrest,
        List.cons_append]

/-- Behind a block that fails, the transform is asked for nothing. -/
theorem asks_append_of_error {bs : List (String × Extent)} {f : Failure} {w w' : World}
    (h : outcome (r.gather bs) w = (.error f, w')) (bs' : List (String × Extent)) :
    r.asks (bs ++ bs') w = r.asks bs w := by
  induction bs generalizing w with
  | nil => cases h
  | cons b bs ih =>
    obtain ⟨code, source⟩ := b
    rcases htokens : outcome (r.tokens code source) w with ⟨f' | column, w₁⟩
    · rw [List.cons_append, asks_cons_of_error r htokens, asks_cons_of_error r htokens]
    · rw [outcome_gather_cons_of_ok r htokens, outcome_map_eq_error_iff] at h
      rw [List.cons_append, asks_cons_of_ok r htokens, asks_cons_of_ok r htokens, ih h]

/-- The transform is asked for the codes in their order, without leaving one out. -/
theorem codes_asks_isPrefix (bs : List (String × Extent)) (w : World) :
    (r.asks bs w).map (·.1) <+: bs.map (·.1) := by
  induction bs generalizing w with
  | nil => exact List.nil_prefix
  | cons b bs ih =>
    obtain ⟨code, source⟩ := b
    rcases htokens : outcome (r.tokens code source) w with ⟨f | column, w₁⟩
    · rw [asks_cons_of_error r htokens]
      exact (List.prefix_cons_inj code).mpr List.nil_prefix
    · rw [asks_cons_of_ok r htokens]
      exact (List.prefix_cons_inj code).mpr (ih w₁)

/-- Of blocks that are all rendered, the transform is asked for every code. -/
theorem codes_asks_of_ok {bs : List (String × Extent)} {columns : List (List String)}
    {w w' : World} (h : outcome (r.gather bs) w = (.ok columns, w')) :
    (r.asks bs w).map (·.1) = bs.map (·.1) := by
  induction bs generalizing w columns with
  | nil => rfl
  | cons b bs ih =>
    obtain ⟨code, source⟩ := b
    rcases htokens : outcome (r.tokens code source) w with ⟨f | column, w₁⟩
    · rw [outcome_gather_cons_of_error r htokens] at h
      cases h
    · rw [outcome_gather_cons_of_ok r htokens] at h
      obtain ⟨rest, hrest, -⟩ := outcome_map_eq_ok_iff.mp h
      rw [asks_cons_of_ok r htokens, List.map_cons, List.map_cons, ih hrest]

theorem length_asks_of_ok {bs : List (String × Extent)} {columns : List (List String)}
    {w w' : World} (h : outcome (r.gather bs) w = (.ok columns, w')) :
    (r.asks bs w).length = bs.length := by
  have hcodes := congrArg List.length (r.codes_asks_of_ok h)
  rwa [List.length_map, List.length_map] at hcodes

theorem length_asks_le (bs : List (String × Extent)) (w : World) :
    (r.asks bs w).length ≤ bs.length := by
  have hprefix := (r.codes_asks_isPrefix bs w).length_le
  rwa [List.length_map, List.length_map] at hprefix

/-- The transform is asked for the code of a block if and only if the blocks before it are rendered,
and in the world that they leave. -/
theorem getElem?_asks_iff {bs bs' : List (String × Extent)} {code : String} {source : Extent}
    {w v : World} {c : String} :
    (r.asks (bs ++ (code, source) :: bs') w)[bs.length]? = some (c, v) ↔
      c = code ∧ ∃ columns, outcome (r.gather bs) w = (.ok columns, v) := by
  rcases hgather : outcome (r.gather bs) w with ⟨f | columns, w'⟩
  · have hnone : (r.asks bs w)[bs.length]? = none :=
      List.getElem?_eq_none (r.length_asks_le bs w)
    rw [asks_append_of_error r hgather, hnone]
    constructor
    · intro h
      cases h
    · rintro ⟨-, columns, h⟩
      cases h
  · have hlength := r.length_asks_of_ok hgather
    rw [asks_append_of_ok r hgather, List.getElem?_append_right (Nat.le_of_eq hlength), hlength,
      Nat.sub_self, asks, List.getElem?_cons_zero]
    constructor
    · intro h
      cases h
      exact ⟨rfl, columns, rfl⟩
    · rintro ⟨rfl, columns', h⟩
      cases h
      rfl

/-- Where gathering fails, it is at the block that the transform was asked for last. -/
theorem gather_eq_error_iff {bs : List (String × Extent)} {f : Failure} {w w' : World} :
    outcome (r.gather bs) w = (.error f, w') ↔
      ∃ front code source behind v, bs = front ++ (code, source) :: behind ∧
        r.asks bs w = r.asks front w ++ [(code, v)] ∧
          (∃ columns, outcome (r.gather front) w = (.ok columns, v)) ∧
            outcome (r.tokens code source) v = (.error f, w') := by
  constructor
  · intro h
    induction bs generalizing w with
    | nil => cases h
    | cons b bs ih =>
      obtain ⟨code, source⟩ := b
      -- the first block is the one that fails, or it is rendered and one behind it fails
      rcases htokens : outcome (r.tokens code source) w with ⟨f' | column, w₁⟩
      · have hfails := (outcome_gather_cons_of_error r htokens bs).symm.trans h
        cases hfails
        exact ⟨[], code, source, bs, w, rfl, asks_cons_of_error r htokens bs, ⟨[], rfl⟩, htokens⟩
      · rw [outcome_gather_cons_of_ok r htokens, outcome_map_eq_error_iff] at h
        obtain ⟨front, c, e, behind, v, rfl, hasks, ⟨columns, hcolumns⟩, hfails⟩ := ih h
        refine ⟨(code, source) :: front, c, e, behind, v, rfl, ?_, ⟨column :: columns, ?_⟩, hfails⟩
        · rw [asks_cons_of_ok r htokens, hasks, asks_cons_of_ok r htokens, List.cons_append]
        · rw [outcome_gather_cons_of_ok r htokens]
          exact outcome_map_eq_ok_iff.mpr ⟨columns, hcolumns, rfl⟩
  · rintro ⟨front, code, source, behind, v, rfl, -, ⟨columns, hcolumns⟩, hfails⟩
    rw [gather_append, outcome_bind, hcolumns]
    simp only
    rw [outcome_map_eq_error_iff, outcome_gather_cons_of_error r hfails]

/-- What the transform is asked for when segments are rendered to one text. -/
def asked (segs : List Segment) (w : World) : List (String × World) :=
  r.asks (blocks segs) (started segs " segments" w)

end Renderer

/-! ## Asking alike -/

/-- Two transforms are asked for the same codes in the same order, in worlds that are alike. -/
def AskedAlike (S : World → World → Prop) : List (String × World) → List (String × World) → Prop :=
  List.Forall₂ fun x y => x.1 = y.1 ∧ S x.2 y.2

/-- What is asked for at some index is asked for there on both sides. -/
theorem AskedAlike.exists_of_getElem? {S : World → World → Prop} {xs ys : List (String × World)}
    (h : AskedAlike S xs ys) {k : Nat} {code : String} {v : World}
    (hk : xs[k]? = some (code, v)) : ∃ v', ys[k]? = some (code, v') ∧ S v v' := by
  induction h generalizing k with
  | nil => cases hk
  | @cons x y xs ys hxy _ ih =>
    cases k with
    | zero =>
      cases hk
      obtain ⟨c, v'⟩ := y
      obtain ⟨rfl, hv⟩ := hxy
      exact ⟨v', rfl, hv⟩
    | succ k => exact ih hk

namespace Likeness

variable {L : Likeness} {t₁ t₂ : Transform} {w₁ w₂ : World}

theorem together_gather (h : L.Transforms t₁ t₂) (s : Settings) (bs : List (String × Extent))
    (hw : L.worlds w₁ w₂) :
    Alongside L.worlds L.failures.rel Same (outcome ((s.renderer t₁).gather bs) w₁)
      (outcome ((s.renderer t₂).gather bs) w₂) := by
  induction bs generalizing w₁ w₂ with
  | nil => exact .ok hw rfl
  | cons b bs ih =>
    obtain ⟨code, source⟩ := b
    rw [Renderer.gather_cons, Renderer.gather_cons]
    refine (together_tokens h s hw code source).bind fun {column column' _ _} hw hcolumn => ?_
    obtain rfl : column = column' := hcolumn
    exact (ih hw).map fun _ hcolumns => congrArg (column :: ·) hcolumns

/-- In worlds that are alike, transforms that make objects alike are asked alike. -/
theorem askedAlike_asks (h : L.Transforms t₁ t₂) (s : Settings) (bs : List (String × Extent))
    (hw : L.worlds w₁ w₂) :
    AskedAlike L.worlds ((s.renderer t₁).asks bs w₁) ((s.renderer t₂).asks bs w₂) := by
  induction bs generalizing w₁ w₂ with
  | nil => exact List.Forall₂.nil
  | cons b bs ih =>
    obtain ⟨code, source⟩ := b
    have htokens := together_tokens h s hw code source
    rcases h₁ : outcome ((s.renderer t₁).tokens code source) w₁ with ⟨f₁ | column₁, v₁⟩ <;>
      rcases h₂ : outcome ((s.renderer t₂).tokens code source) w₂ with ⟨f₂ | column₂, v₂⟩ <;>
        rw [h₁, h₂] at htokens
    · rw [Renderer.asks_cons_of_error _ h₁, Renderer.asks_cons_of_error _ h₂]
      exact List.Forall₂.cons ⟨rfl, hw⟩ .nil
    · cases htokens
    · cases htokens
    · cases htokens with
      | ok hv _ =>
        rw [Renderer.asks_cons_of_ok _ h₁, Renderer.asks_cons_of_ok _ h₂]
        exact List.Forall₂.cons ⟨rfl, hw⟩ (ih hv)

end Likeness

/-! ### Worlds with different logs -/

namespace World

variable {w₁ w₂ w₃ : World}

theorem SameButLog.symm (h : SameButLog w₁ w₂) : SameButLog w₂ w₁ :=
  ⟨h.env.symm, h.store.symm, Eq.symm h.calls⟩

theorem SameButLog.trans (h : SameButLog w₁ w₂) (h' : SameButLog w₂ w₃) : SameButLog w₁ w₃ :=
  ⟨h.env.trans h'.env, h.store.trans h'.store, Eq.trans h.calls h'.calls⟩

/-- Entries in the log are not seen. -/
theorem sameButLog_noting (w : World) (topic : Topic) (text : String) :
    SameButLog w (w.noting topic text) :=
  ⟨rfl, rfl, rfl⟩

end World

namespace Renderer

/-- Settings that give a renderer back its transform. -/
def settings (r : Renderer) : Settings :=
  ⟨.braces, false, r.separator, r.missing, r.policy⟩

/-- Announcing segments in the log is not seen. -/
theorem sameButLog_started (segs : List Segment) (manner : String) (w : World) :
    SameButLog w (started segs manner w) :=
  sameButLog_noting ..

variable {r : Renderer} (hr : r.transform.IgnoresLog) {w₁ w₂ : World} (hw : SameButLog w₁ w₂)
include hr hw

theorem together_gather_of_ignoresLog (bs : List (String × Extent)) :
    Together SameButLog Same (outcome (r.gather bs) w₁) (outcome (r.gather bs) w₂) :=
  Likeness.together_gather (L := .unlogged) hr r.settings bs hw

theorem together_joined_of_ignoresLog (segs : List Segment) :
    Together SameButLog Same (outcome (r.joined segs) w₁) (outcome (r.joined segs) w₂) :=
  together_joined (L := .unlogged) hr r.settings segs hw

theorem askedAlike_of_ignoresLog (bs : List (String × Extent)) :
    AskedAlike SameButLog (r.asks bs w₁) (r.asks bs w₂) :=
  Likeness.askedAlike_asks (L := .unlogged) hr r.settings bs hw

end Renderer

/-! ## Recording what is asked for -/

/-- A transform that records every code that it is asked for. -/
def Transform.recording (t : Transform) : Transform := fun code => do
  recordCall code
  t code

/-- A transform that leaves the record of codes as it is. -/
def Transform.LeavesRecord (t : Transform) : Prop :=
  ∀ code w, (outcome (t code) w).2.calls = w.calls

namespace Renderer

/-- The renderer with its transform recording. -/
def recording (r : Renderer) : Renderer :=
  { r with transform := r.transform.recording }

/-- Turning objects into tokens records nothing, so a block records its code. -/
theorem calls_tokens_recording {r : Renderer} (h : r.transform.LeavesRecord) (code : String)
    (source : Extent) (w : World) :
    (outcome (r.recording.tokens code source) w).2.calls = w.calls ++ [code] := by
  have htransform : (outcome (r.recording.transform code) w).2.calls = w.calls ++ [code] :=
    h code (w.asking code)
  rw [tokens, outcome_bind, tagged, outcome_tryCatch]
  rcases hdone : outcome (r.recording.transform code) w with ⟨f | o, w'⟩
  · rw [hdone] at htransform
    exact htransform
  · rw [hdone] at htransform
    simp only
    rw [outcome_compute]
    exact htransform

/-- What is recorded while blocks are gathered is what the transform is asked for. -/
theorem calls_gather_recording {r : Renderer} (h : r.transform.LeavesRecord)
    (bs : List (String × Extent)) (w : World) :
    (outcome (r.recording.gather bs) w).2.calls =
      w.calls ++ (r.recording.asks bs w).map (·.1) := by
  induction bs generalizing w with
  | nil => exact (List.append_nil _).symm
  | cons b bs ih =>
    obtain ⟨code, source⟩ := b
    have hcode := calls_tokens_recording h code source w
    rcases htokens : outcome (r.recording.tokens code source) w with ⟨f | column, w'⟩
    · rw [outcome_gather_cons_of_error _ htokens, asks_cons_of_error _ htokens]
      rw [htokens] at hcode
      exact hcode
    · rw [htokens] at hcode
      have hrest := ih w'
      rw [outcome_gather_cons_of_ok _ htokens, asks_cons_of_ok _ htokens, map_eq_pure_bind,
        outcome_bind]
      rcases hgather : outcome (r.recording.gather bs) w' with ⟨f | columns, w''⟩
      · rw [hgather, hcode] at hrest
        simpa using hrest
      · rw [hgather, hcode] at hrest
        simpa [outcome_pure] using hrest

end Renderer

end Splice
