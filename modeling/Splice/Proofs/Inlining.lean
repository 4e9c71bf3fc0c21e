import Splice.Proofs.Blocks

/-!
# Templates in place of their names

A template whose blocks name other templates is rendered by rendering those where they are named.
The same can be had without any nesting: put the segments of each named template in the place of the
block that names it (`Settings.inlined`), and render the segments that there are then.

The two ways go through the same segments in the same order, and what a named template comes to is
one text, which is one token of the block that names it whatever the outer settings are. So they
make the same text and do the same to the world, except for the log, and for the record, where the
nested way also has the names that it was asked for (`render_nested_eq_inlined`). If they fail, it
is for the same reason at the same place, and the nested way adds the tags of the outer block.
-/

open Splice.Action

namespace Splice

namespace Renderer

/-- A failure is tagged with the block, and nothing else is changed. -/
theorem outcome_tagged {α : Type} (code : String) (source : Extent) (act : Action α) (w : World) :
    outcome (tagged code source act) w =
      match outcome act w with
      | (.ok a, w') => (.ok a, w')
      | (.error f, w') => (.error (f.tag code source.raw source.span), w') := by
  rw [tagged, outcome_tryCatch]
  rcases outcome act w with ⟨f | a, w'⟩ <;> rfl

end Renderer

/-! ## Named templates -/

/-- The code of a block. -/
def Segment.code? : Segment → Option String
  | literal .. => none
  | block code _ => some code

namespace Settings

variable (s : Settings)

/-- The segments of the template that a name stands for, if it is one and scans. -/
def named (env : Environment) (code : String) : Option (List Segment) := do
  let o ← env.get? code
  let template ← (Hook.templateOf o.value).toOption
  (s.pieces template).toOption

/-- A segment with the segments of the template that it names in its place. -/
def inlined (env : Environment) : Segment → List Segment
  | .literal t source => [.literal t source]
  | .block code _ => (s.named env code).getD []

theorem named_eq_some_iff {s : Settings} {env : Environment} {code : String}
    {parts : List Segment} :
    s.named env code = some parts ↔
      ∃ o template, env.get? code = some o ∧ Hook.templateOf o.value = .ok template ∧
        s.pieces template = .ok parts := by
  have htoOption {ε α : Type} (r : Except ε α) (a : α) : r.toOption = some a ↔ r = .ok a := by
    cases r <;> simp [Except.toOption]
  simp [named, Option.bind_eq_some_iff, htoOption]

theorem inlined_block {s : Settings} {env : Environment} {code : String} {parts : List Segment}
    (h : s.named env code = some parts) (source : Extent) :
    s.inlined env (.block code source) = parts := by
  rw [inlined, h, Option.getD_some]

end Settings

/-- The tokens of a block that names a template are the one text that the template's segments are
joined to. -/
theorem outcome_tokens_nested (so si : Settings) (inner : Hook) {code : String} (source : Extent)
    {parts : List Segment} {w : World} (h : si.named w.env code = some parts) :
    outcome ((so.renderer (Hook.nested si inner).run).tokens code source) w =
      outcome ((fun text => [text]) <$>
          Renderer.tagged code source ((si.renderer inner.run).joined parts))
        (Renderer.started parts " segments" (si.scanned parts (w.asking code))) := by
  obtain ⟨o, template, hname, htemplate, hpieces⟩ := Settings.named_eq_some_iff.mp h
  have hrun : outcome ((so.renderer (Hook.nested si inner).run).transform code) w =
      outcome ((fun text => Object.new (.text text)) <$> (si.renderer inner.run).joined parts)
        (Renderer.started parts " segments" (si.scanned parts (w.asking code))) := by
    rw [show (so.renderer (Hook.nested si inner).run).transform code =
      (Hook.nested si inner).run code from rfl, Hook.outcome_run_nested hname htemplate,
      map_eq_pure_bind, map_eq_pure_bind, outcome_bind, outcome_bind,
      si.outcome_render_of_ok hpieces, Renderer.outcome_render_eq_joined]
  rw [Renderer.tokens, map_eq_pure_bind, outcome_bind, outcome_bind, Renderer.outcome_tagged,
    Renderer.outcome_tagged, hrun, map_eq_pure_bind, outcome_bind]
  generalize outcome ((si.renderer inner.run).joined parts) _ = x
  rcases x with ⟨f | text, w'⟩
  · rfl
  · rfl

/-! ## The two ways compared -/

/-- What comes of rendering segments whose blocks name templates, and of rendering the segments of
the templates in their place, each in a world of its own. The text is the same, or the kind of the
failure, which has got the tags of one more block in the first case, and what is left of the
environment and the streams is the same. Both have asked for the same codes in the same order,
except that the first has also asked for the names of the templates, each before the codes in it. -/
structure InPlace (segs : List Segment) (before₁ before₂ : List String)
    (x y : Except Failure String × World) : Prop where
  result : x.1.mapError Failure.kind = y.1.mapError Failure.kind
  tagged : ∀ f, y.1 = .error f → ∃ code source, .block code source ∈ segs ∧
    x.1 = .error (f.tag code source.raw source.span)
  env : x.2.env = y.2.env
  store : x.2.store = y.2.store
  calls : ∃ asked : List (String × List String),
    asked.map (·.1) <+: segs.filterMap Segment.code? ∧
      x.2.calls = before₁ ++ asked.flatMap (fun (name, codes) => name :: codes) ∧
      y.2.calls = before₂ ++ asked.flatMap (·.2)

namespace InPlace

variable {segs : List Segment} {before₁ before₂ : List String} {v₁ v₂ : World}

/-- The same is done to both texts. -/
theorem map {act₁ act₂ : Action String}
    (h : InPlace segs before₁ before₂ (outcome act₁ v₁) (outcome act₂ v₂)) (g : String → String) :
    InPlace segs before₁ before₂ (outcome (g <$> act₁) v₁) (outcome (g <$> act₂) v₂) := by
  rw [map_eq_pure_bind, map_eq_pure_bind, outcome_bind, outcome_bind]
  generalize outcome act₁ v₁ = x, outcome act₂ v₂ = y at h
  obtain ⟨hresult, htagged, henv, hstore, hcalls⟩ := h
  rcases x with ⟨f₁ | text₁, v₁⟩ <;> rcases y with ⟨f₂ | text₂, v₂⟩
  · exact ⟨hresult, fun f hf => by simpa using htagged f (by simpa using hf), henv, hstore, hcalls⟩
  · cases hresult
  · cases hresult
  · exact ⟨by cases hresult; rfl, nofun, henv, hstore, hcalls⟩

theorem nil (henv : v₁.env = v₂.env) (hstore : v₁.store = v₂.store) :
    InPlace [] v₁.calls v₂.calls (.ok "", v₁) (.ok "", v₂) where
  result := rfl
  tagged := nofun
  env := henv
  store := hstore
  calls := ⟨[], by simp⟩

variable {x y : Except Failure String × World}

theorem literal (t : String) (source : Extent) (h : InPlace segs before₁ before₂ x y) :
    InPlace (.literal t source :: segs) before₁ before₂ x y where
  result := h.result
  tagged f hf := by
    obtain ⟨code, e, hmem, hx⟩ := h.tagged f hf
    exact ⟨code, e, List.mem_cons_of_mem _ hmem, hx⟩
  env := h.env
  store := h.store
  calls := h.calls

/-- A block has asked for its name, and for the codes in the template. -/
theorem block {name : String} {codes : List String} (source : Extent)
    (hv₁ : v₁.calls = before₁ ++ name :: codes) (hv₂ : v₂.calls = before₂ ++ codes)
    (h : InPlace segs v₁.calls v₂.calls x y) :
    InPlace (.block name source :: segs) before₁ before₂ x y where
  result := h.result
  tagged f hf := by
    obtain ⟨code, e, hmem, hx⟩ := h.tagged f hf
    exact ⟨code, e, List.mem_cons_of_mem _ hmem, hx⟩
  env := h.env
  store := h.store
  calls := by
    obtain ⟨asked, hprefix, hx, hy⟩ := h.calls
    refine ⟨(name, codes) :: asked, ?_, ?_, ?_⟩
    · simpa [Segment.code?] using hprefix
    · simp [hx, hv₁]
    · simp [hy, hv₂]

/-- A block has asked for its name and for the codes in the template until one failed. -/
theorem failed {name : String} {codes : List String} (source : Extent) (f : Failure)
    (hv₁ : v₁.calls = before₁ ++ name :: codes) (hv₂ : v₂.calls = before₂ ++ codes)
    (henv : v₁.env = v₂.env) (hstore : v₁.store = v₂.store) :
    InPlace (.block name source :: segs) before₁ before₂
      (.error (f.tag name source.raw source.span), v₁) (.error f, v₂) where
  result := congrArg Except.error (Failure.kind_tag ..)
  tagged f' hf := by
    cases hf
    exact ⟨name, source, List.mem_cons_self, rfl⟩
  env := henv
  store := hstore
  calls := ⟨[(name, codes)], by simp [Segment.code?], by simpa using hv₁, by simpa using hv₂⟩

end InPlace

/-- Since there were these two records, a name and then some codes have been added to the first, and
the same codes to the second. -/
def AskedFor (name : String) (before₁ before₂ : List String) (cs₁ cs₂ : List String) : Prop :=
  ∃ codes, cs₁ = before₁ ++ name :: codes ∧ cs₂ = before₂ ++ codes

theorem steady_askedFor (name : String) (before₁ before₂ : List String) :
    Steady (AskedFor name before₁ before₂) := by
  rintro _ _ ⟨codes, rfl, rfl⟩ code
  exact ⟨codes ++ [code], by simp, by simp⟩

/-- The two ways go along together, from worlds with the same environment and the same streams. -/
theorem inPlace_joined (so si : Settings) {inner : Hook} (hinner : inner.Discreet)
    {env : Environment} {segs : List Segment} (w₁ w₂ : World) (henv : w₁.env = w₂.env)
    (hstore : w₁.store = w₂.store)
    (hnamed : ∀ code source, .block code source ∈ segs → (si.named env code).isSome)
    (hkept : ∀ code w', (so.renderer (Hook.nested si inner).run).Reaches segs w₁ code w' →
      w'.env.get? code = env.get? code) :
    InPlace segs w₁.calls w₂.calls
      (outcome ((so.renderer (Hook.nested si inner).run).joined segs) w₁)
      (outcome ((si.renderer inner.run).joined (segs.flatMap (si.inlined env))) w₂) := by
  induction segs generalizing w₁ w₂ with
  | nil => exact .nil henv hstore
  | cons seg segs ih =>
    have hnamed' := fun code source h => hnamed code source (List.mem_cons_of_mem seg h)
    cases seg with
    | literal t source =>
      rw [List.flatMap_cons, Settings.inlined, List.singleton_append, Renderer.joined_literal,
        Renderer.joined_literal]
      exact .literal t source
        ((ih w₁ w₂ henv hstore hnamed' fun code w' h => hkept code w' (.literal h)).map (t ++ ·))
    | block code source =>
      obtain ⟨parts, hparts⟩ := Option.isSome_iff_exists.mp
        (hnamed code source List.mem_cons_self)
      have hnow : si.named w₁.env code = some parts := by
        rw [Settings.named, hkept code w₁ .here, ← Settings.named, hparts]
      -- the template is rendered alike in both, though only the first has asked for its name
      have hstart : World.AlikeBut (AskedFor code w₁.calls w₂.calls)
          (Renderer.started parts " segments" (si.scanned parts (w₁.asking code))) w₂ :=
        ⟨henv, hstore, [], rfl, (List.append_nil _).symm⟩
      have hinside := Renderer.together_joined
        (Hook.transforms_but hinner (steady_askedFor code w₁.calls w₂.calls)) si parts hstart
      have htokens := outcome_tokens_nested so si inner source hnow
      rw [map_eq_pure_bind, outcome_bind, Renderer.outcome_tagged] at htokens
      rw [List.flatMap_cons, Settings.inlined_block hparts, Renderer.joined_block,
        Renderer.joined_append, outcome_bind, outcome_bind]
      generalize outcome ((si.renderer inner.run).joined parts) _ = x at hinside htokens
      generalize outcome ((si.renderer inner.run).joined parts) w₂ = y at hinside ⊢
      cases hinside with
      | @ok text _ v₁ v₂ hv htext =>
        obtain rfl := htext
        obtain ⟨henv', hstore', codes, hv₁, hv₂⟩ := hv
        have hyields := (so.renderer _).outcome_tokens_eq_ok_iff.mp htokens
        rw [htokens]
        simp only
        exact .block source hv₁ hv₂ ((ih v₁ v₂ henv' hstore' hnamed' fun code w' h =>
          hkept code w' (.block hyields h)).map (text ++ ·))
      | @error f _ v₁ v₂ hv hf =>
        obtain rfl := hf
        obtain ⟨henv', hstore', codes, hv₁, hv₂⟩ := hv
        rw [htokens]
        exact .failed source f hv₁ hv₂ henv' hstore'

/-! ## What the hook inside is asked for -/

/-- A hook that records every code that it is given. -/
def Hook.watched (hook : Hook) : Hook :=
  .plain (.custom "watched" fun code => do
    recordCall code
    hook.run code)

theorem Hook.discreet_watched {hook : Hook} (h : hook.Discreet) : hook.watched.Discreet :=
  fun code => discreet_bind (discreet_recordCall code) fun _ _ hC _ _ hw =>
    transforms_but h hC hw code

/-- Whether a hook is watched or not makes no difference except for the record. -/
theorem Hook.transforms_watched {hook : Hook} (h : hook.Discreet) :
    (Likeness.but (fun _ _ => True) fun _ _ _ _ => trivial).Transforms hook.run
      hook.watched.run := by
  intro w₁ w₂ hw code
  have hasked : World.AlikeBut (fun _ _ => True) w₁ (w₂.asking code) :=
    ⟨hw.env, hw.store, trivial⟩
  exact transforms_but h (fun _ _ _ _ => trivial) hasked code

namespace Splicer

/-- A template whose blocks name templates that scan is rendered like the segments of these
templates in the place of the blocks, provided that every name still stands for the same where it is
reached. This goes for all settings of the outer and the inner render and for every hook inside, and
also if that hook is watched, so it is given the same codes in the same order. -/
theorem render_nested_eq_inlined (so si : Settings) {inner : Hook} (hinner : inner.Discreet)
    {template : String} {segs : List Segment} (hsegs : so.pieces template = .ok segs) (w : World)
    (hnamed : ∀ code source, .block code source ∈ segs → (si.named w.env code).isSome)
    (hkept : ∀ code w', (so.renderer (Hook.nested si inner).run).Reaches segs
      (Renderer.started segs " segments" (so.scanned segs w)) code w' →
        w'.env.get? code = w.env.get? code) :
    InPlace segs w.calls w.calls
        (outcome ((Splicer.mk so (.nested si inner)).render template) w)
        (outcome ((si.renderer inner.run).render (segs.flatMap (si.inlined w.env))) w) ∧
      InPlace segs w.calls w.calls
        (outcome ((Splicer.mk so (.nested si inner.watched)).render template) w)
        (outcome ((si.renderer inner.watched.run).render (segs.flatMap (si.inlined w.env))) w) := by
  constructor
  · rw [Splicer.render, so.outcome_render_of_ok hsegs, Renderer.outcome_render_eq_joined,
      Renderer.outcome_render_eq_joined]
    exact inPlace_joined so si hinner (Renderer.started segs " segments" (so.scanned segs w))
      (Renderer.started _ " segments" w) rfl rfl hnamed hkept
  · rw [Splicer.render, so.outcome_render_of_ok hsegs, Renderer.outcome_render_eq_joined,
      Renderer.outcome_render_eq_joined]
    refine inPlace_joined so si (Hook.discreet_watched hinner)
      (Renderer.started segs " segments" (so.scanned segs w)) (Renderer.started _ " segments" w)
      rfl rfl hnamed fun code w' h => ?_
    -- the names are reached in the same environments if the hook is not watched
    obtain ⟨w'', hreaches, hw⟩ := Likeness.reaches
      (Hook.transforms_run_nested si (Hook.transforms_watched hinner)) so ⟨rfl, rfl, trivial⟩ h
    rw [← hw.env, hkept code w'' hreaches]

/-- A template assigns a name that another one uses, and both have markers and a separator of their
own. -/
theorem render_names_assigning :
    let angles : Delimiters := ⟨['<'], ['>'], false, by simp, by simp, by simp⟩
    let so : Settings := ⟨.braces, false, "", standardMissing, .cycle⟩
    let si : Settings := ⟨angles, false, "+", "none", .strict⟩
    let items : Compute Object := Compute.list [.new (.text "s"), .new .null]
    let inner : Hook := .plain (.scripted ⟨[("x", .assign "y" items)], .lookupCode⟩)
    let w : World := .new (.scope [[("a", .new (.text "<x>")), ("b", .new (.text "-<y>"))]]) .empty
    let result := outcome ((Splicer.mk so (.nested si inner)).render "\x7ba\x7d, \x7bb\x7d") w
    result.1.toOption = some "s+none, -s+none" ∧ (result.2.env.get? "y").isSome := by
  intro angles so si items inner w result
  let segs : List Segment := [.block "a" ⟨"\x7ba\x7d", ⟨0, 3⟩⟩, .literal ", " ⟨", ", ⟨3, 5⟩⟩,
    .block "b" ⟨"\x7bb\x7d", ⟨5, 8⟩⟩]
  let w₀ := Renderer.started segs " segments" (so.scanned segs w)
  have hsegs : so.pieces "\x7ba\x7d, \x7bb\x7d" = .ok segs :=
    so.pieces_of_scan rfl (by decide +kernel)
  have ha : si.named w.env "a" = some [.block "x" ⟨"<x>", ⟨0, 3⟩⟩] :=
    Settings.named_eq_some_iff.mpr ⟨_, _, rfl, rfl, si.pieces_of_scan rfl (by decide +kernel)⟩
  have hb : si.named w.env "b" =
      some [.literal "-" ⟨"-", ⟨0, 1⟩⟩, .block "y" ⟨"<y>", ⟨1, 4⟩⟩] :=
    Settings.named_eq_some_iff.mpr ⟨_, _, rfl, rfl, si.pieces_of_scan rfl (by decide +kernel)⟩
  have hflat : segs.flatMap (si.inlined w.env) = [.block "x" ⟨"<x>", ⟨0, 3⟩⟩,
      .literal ", " ⟨", ", ⟨3, 5⟩⟩, .literal "-" ⟨"-", ⟨0, 1⟩⟩, .block "y" ⟨"<y>", ⟨1, 4⟩⟩] := by
    rw [List.flatMap_cons, Settings.inlined_block ha, List.flatMap_cons, List.flatMap_cons,
      Settings.inlined_block hb]
    rfl
  have hnamed : ∀ code source, .block code source ∈ segs → (si.named w.env code).isSome := by
    intro code source hmem
    obtain ⟨rfl, -⟩ | ⟨rfl, -⟩ : code = "a" ∧ _ ∨ code = "b" ∧ _ := by simpa [segs] using hmem
    · exact Option.isSome_of_eq_some ha
    · exact Option.isSome_of_eq_some hb
  have hkept : ∀ code w', (so.renderer (Hook.nested si inner).run).Reaches segs w₀ code w' →
      w'.env.get? code = w.env.get? code := by
    intro code w' hreaches
    dsimp only [segs] at hreaches
    rcases hreaches with _ | _ | ⟨hc, _ | hreaches | _⟩
    · rfl
    · rcases hreaches with _ | _ | ⟨_, ⟨⟩⟩
      -- the first template has assigned another name when the second one is reached
      have htokens : outcome ((so.renderer (Hook.nested si inner).run).tokens "a" default) w₀ = _ :=
        (so.renderer _).outcome_tokens_eq_ok_iff.mpr hc
      rw [outcome_tokens_nested so si inner default (show si.named w₀.env "a" = _ from ha)]
        at htokens
      obtain rfl : _ = w' := congrArg Prod.snd htokens
      rfl
  have hrender := (render_nested_eq_inlined so si (show inner.Discreet from trivial) hsegs w hnamed
    hkept).1
  rw [hflat] at hrender
  have htoOption (r : Except Failure String) :
      r.toOption = (r.mapError Failure.kind).toOption := by cases r <;> rfl
  constructor
  · rw [htoOption, hrender.result]
    decide +kernel
  · rw [hrender.env]
    decide +kernel

end Splicer

end Splice
