import Mathlib
import Splice.Hook
import Splice.Proofs.Displaying
import Splice.Proofs.Location
import Splice.Proofs.Packing

/-!
# Where undefined values surface

A filter expression that comes to something undefined fails, with a failure of its code. Only the
value itself is looked at, not what is inside it: a list with an undefined item passes. It is no
longer a matter of the expression when the item is turned into text, and what comes up then leaves
the render as it is.
-/

open Splice.Action Splice.Compute

namespace Splice

/-- Names stand for whole things, and nothing undefined is to be found in the store. -/
structure World.Whole (w : World) : Prop where
  env : ∀ n o, w.env.get? n = some o → o.value.Whole
  store : w.store.Solid

/-- A world in which nothing has happened yet is whole if its names stand for whole things. -/
theorem World.whole_new {vars : Bindings} (h : ∀ e ∈ vars, e.2.value.Whole) :
    (World.new (.chain vars []) .empty).Whole where
  env n o ho := by
    have hlookup : vars.lookup n = some o := by
      simpa [World.new, Environment.get?, Option.or] using ho
    obtain ⟨before, after, hvars, -⟩ := List.lookup_eq_some_iff.mp hlookup
    exact h (n, o) (by simp [hvars])
  store := ⟨by simp [World.new, Store.empty], by simp [World.new, Store.empty],
    by simp [World.new, Store.empty]⟩

namespace Filter

/-! ## Evaluation -/

/-- Evaluating some code makes something undefined a part of something else. -/
def Packs (code : String) (w : World) : Prop :=
  ∃ e, Expr.ofCode (Text.strip code.toList) = .ok e ∧
    e.Packs (found? e.names w.env.get?) w.store

variable {code : String} {w w' : World} {o : Object} {f : Failure}

theorem outcome_evaluate (code : String) (w : World) :
    outcome (evaluate code) w =
      (((run code w.env.get?).run.run w.store).1.mapError (.ofCode code),
        { w with store := ((run code w.env.get?).run.run w.store).2 }) := by
  rw [evaluate, outcome_bind, outcome_get]
  simp only
  rw [outcome_tryCatch, outcome_compute]
  rcases (run code w.env.get?).run.run w.store with ⟨reason | o, s⟩ <;> rfl

theorem outcome_evaluate_eq_ok_iff :
    outcome (evaluate code) w = (.ok o, w') ↔
      ∃ s, (run code w.env.get?).run.run w.store = (.ok o, s) ∧ w' = { w with store := s } := by
  rw [outcome_evaluate]
  rcases (run code w.env.get?).run.run w.store with ⟨reason | o', s⟩
  · exact ⟨nofun, nofun⟩
  · exact ⟨fun h => by cases h; exact ⟨s, rfl, rfl⟩, fun ⟨_, h, hw⟩ => by cases h; rw [hw]; rfl⟩

theorem outcome_evaluate_eq_error_iff :
    outcome (evaluate code) w = (.error f, w') ↔
      ∃ reason s, (run code w.env.get?).run.run w.store = (.error reason, s) ∧
        f = .ofCode code reason ∧ w' = { w with store := s } := by
  rw [outcome_evaluate]
  rcases (run code w.env.get?).run.run w.store with ⟨reason | o', s⟩
  · exact ⟨fun h => by cases h; exact ⟨reason, s, rfl, rfl, rfl⟩,
      fun ⟨_, _, h, hf, hw⟩ => by cases h; rw [hf, hw]; rfl⟩
  · exact ⟨nofun, nofun⟩

/-- Evaluation fails with a failure of its code, if the reason can be written. -/
theorem evaluate_failure (h : outcome (evaluate code) w = (.error f, w')) :
    (∃ reason, f = .evaluation code reason) ∨ f = .ofFault .tooManyDigits := by
  obtain ⟨reason, s, -, rfl, -⟩ := outcome_evaluate_eq_error_iff.mp h
  rw [Failure.ofCode]
  split
  · exact .inl ⟨reason, rfl⟩
  · exact .inr rfl

/-- The code of an expression runs as the expression does, and fails if that comes to something
undefined. -/
theorem run_eq {e : Expr} (he : Expr.ofCode (Text.strip code.toList) = .ok e)
    {known : String → Option Object} (hown : known ownName = none) :
    run code known = (do
      let result ← e.eval (found? e.names known)
      match result.value.useless? with
      | some why => Compute.fail (.undefined why)
      | none => return result) := by
  rw [run, he]
  simp only [hown]
  rfl

/-- Evaluation does not come to anything undefined that is good for nothing at all. -/
theorem evaluate_defined (h : outcome (evaluate code) w = (.ok o, w')) :
    o.value.useless? = none := by
  obtain ⟨s, h, -⟩ := outcome_evaluate_eq_ok_iff.mp h
  rw [run] at h
  split at h
  · cases h
  · split at h
    · cases h
    · obtain ⟨result, s₁, -, h⟩ := Compute.run_bind_eq_ok_iff.mp h
      split at h
      · cases h
      · cases h
        assumption

theorem knowsWhole_found {known : String → Option Object} (h : Expr.KnowsWhole known)
    (names : List String) : Expr.KnowsWhole (found? names known) := by
  intro n o ho
  rw [found?, Option.or_eq_some_iff] at ho
  rcases ho with ho | ⟨-, ho⟩
  · exact h _ o ho
  · obtain ⟨v, hv, rfl⟩ := Option.map_eq_some_iff.mp ho
    unfold global? at hv
    split at hv
    case h_8 => cases hv
    all_goals
      cases hv
      exact Value.whole_of_parts_eq_nil rfl

theorem givesIn_run (hw : w.Whole) (h : ¬ Packs code w) :
    (run code w.env.get?).GivesIn w.store (·.value.Solid) := by
  rw [run]
  split
  · exact gives_throw _ hw.store
  · rename_i e he
    split
    · exact gives_fail _ hw.store
    · have heval := Expr.whole_eval (knowsWhole_found hw.env e.names) hw.store
        fun hpacks => h ⟨e, he, hpacks⟩
      refine heval.bind fun result s _ hs hresult => ?_
      split
      · exact gives_fail _ hs
      · rename_i hdefined
        exact givesIn_pure hs (hresult.solid hdefined)

/-- Where nothing undefined is packed, evaluation leaves the world whole. -/
theorem whole_evaluate (hw : w.Whole) (h : ¬ Packs code w) :
    (outcome (evaluate code) w).2.Whole := by
  rw [outcome_evaluate]
  exact ⟨hw.env, (givesIn_run hw h).solid⟩

/-- Where nothing undefined is packed, evaluation gives nothing with a hole. -/
theorem solid_evaluate (hw : w.Whole) (h : ¬ Packs code w)
    (ho : outcome (evaluate code) w = (.ok o, w')) : o.value.Solid := by
  obtain ⟨s, hrun, -⟩ := outcome_evaluate_eq_ok_iff.mp ho
  exact (givesIn_run hw h).holds o s hrun

/-- If evaluation gives something with a hole, it has packed something undefined. -/
theorem packs_of_hasHole (hw : w.Whole) (ho : outcome (evaluate code) w = (.ok o, w'))
    (hhole : o.value.HasHole) : Packs code w :=
  Classical.byContradiction fun hnot => (solid_evaluate hw hnot ho).whole hhole

/-! ## Lists and tuples that an expression writes -/

/-- The expression writes a list or a tuple with these items. -/
def Writes (e : Expr) (items : List Expr) : Prop :=
  e = .list items ∨ e = .tuple items

/-- Where the items of a list or a tuple come to something, so does the list or the tuple. It takes
them in without looking at them, so it has a hole if one of them has one or is undefined. -/
theorem evaluate_writes {e : Expr} {items : List Expr} (hwrites : Writes e items)
    (he : Expr.ofCode (Text.strip code.toList) = .ok e) (hown : w.env.get? ownName = none)
    {os : List Object} {s : Store}
    (hitems : (Expr.evalAll (found? e.names w.env.get?) items).run.run w.store = (.ok os, s)) :
    ∃ o w', outcome (evaluate code) w = (.ok o, w') ∧
      (o.value.HasHole ↔ ∃ p ∈ os, ¬ p.value.Solid) := by
  have heval : ∃ o s', (e.eval (found? e.names w.env.get?)).run.run w.store = (.ok o, s') ∧
      ∃ os', os'.map (·.value) = os.map (·.value) ∧
        (o.value = .list os' ∨ o.value = .tuple os') := by
    generalize found? e.names w.env.get? = known at hitems ⊢
    rcases hwrites with rfl | rfl
    · rw [Expr.eval, run_bind, hitems]
      exact ⟨_, _, rfl, _, map_value_numberFrom .., .inl rfl⟩
    · rw [Expr.eval, run_bind, hitems]
      exact ⟨_, _, rfl, _, map_value_numberFrom .., .inr rfl⟩
  obtain ⟨o, s', heval, os', hos', ho⟩ := heval
  have hdefined : o.value.useless? = none := by
    rcases ho with ho | ho <;> rw [ho] <;> rfl
  have hparts : o.value.parts = os' := by
    rcases ho with ho | ho <;> rw [ho] <;> rfl
  refine ⟨o, { w with store := s' }, outcome_evaluate_eq_ok_iff.mpr ⟨s', ?_, rfl⟩, ?_⟩
  · rw [run_eq he hown, run_bind, heval]
    simp only [hdefined]
    rfl
  · have hwhole : o.value.Whole ↔ ∀ p ∈ os, p.value.Solid := by
      rw [Value.whole_iff, hparts]
      exact ⟨solid_of_map_value_eq hos'.symm, solid_of_map_value_eq hos'⟩
    have hhole : o.value.HasHole ↔ ¬ ∀ p ∈ os, p.value.Solid := by
      rw [← hwhole, Value.Whole, Classical.not_not]
    simp only [hhole, Classical.not_forall, exists_prop]

end Filter

/-! ## Rendering -/

namespace Renderer

variable {r : Renderer} {bs : List (String × Extent)} {code : String} {w w' v : World} {f : Failure}

/-- Turning a solid value into tokens leaves the world whole. -/
theorem whole_compute_tokens {o : Value} (ho : o.Solid) (hw : w.Whole) (na : String) :
    (outcome (compute (o.tokens na)) w).2.Whole :=
  ⟨hw.env, (o.gives_tokens ho na hw.store).solid⟩

/-- As long as nothing undefined is packed, every block finds a whole world. -/
theorem whole_of_mem_asks (ht : r.transform = Filter.evaluate) (hw : w.Whole)
    (hpacks : ∀ code v, (code, v) ∈ r.asks bs w → ¬ Filter.Packs code v)
    (h : (code, v) ∈ r.asks bs w) : v.Whole := by
  induction bs generalizing w with
  | nil => cases h
  | cons b bs ih =>
    obtain ⟨c, source⟩ := b
    rcases htokens : outcome (r.tokens c source) w with ⟨f | column, w₁⟩
    · rw [r.asks_cons_of_error htokens] at h
      obtain ⟨rfl, rfl⟩ := Prod.mk.inj (List.mem_singleton.mp h)
      exact hw
    · rw [r.asks_cons_of_ok htokens] at h hpacks
      have hnot : ¬ Filter.Packs c w := hpacks c w List.mem_cons_self
      rcases List.mem_cons.mp h with h | h
      · obtain ⟨rfl, rfl⟩ := Prod.mk.inj h
        exact hw
      · -- what the first block displays is solid, so it leaves a whole world to the others
        obtain ⟨o, w₂, ho, hcolumn⟩ := r.outcome_tokens_eq_ok_iff.mp htokens
        rw [ht] at ho
        have hwhole := Filter.whole_evaluate hw hnot
        rw [ho] at hwhole
        have hwhole := whole_compute_tokens (Filter.solid_evaluate hw hnot ho) hwhole r.missing
        rw [hcolumn] at hwhole
        exact ih hwhole (fun c v hc => hpacks c v (List.mem_cons_of_mem _ hc)) h

/-- A block that is reached and fails is what gathering fails with. -/
theorem gather_of_mem_asks (h : (code, v) ∈ r.asks bs w)
    (hfails : ∀ source, outcome (r.tokens code source) v = (.error f, w')) :
    outcome (r.gather bs) w = (.error f, w') := by
  obtain ⟨k, hk⟩ := List.mem_iff_getElem?.mp h
  obtain ⟨front, source, behind, rfl, -, columns, hcolumns⟩ := r.exists_of_getElem?_asks hk
  rw [gather_append, outcome_bind, hcolumns]
  simp only
  rw [outcome_map_eq_error_iff, outcome_gather_cons_of_error r (hfails source)]

/-- Blocks that cannot be gathered because of an undefined value fail where the value of one of them
is turned into tokens. -/
theorem fails_of_gather (ht : r.transform = Filter.evaluate) {why : Missing}
    (hf : f.cause = .fault (.undefined why)) (h : outcome (r.gather bs) w = (.error f, w')) :
    ∃ code v, (code, v) ∈ r.asks bs w ∧ r.Fails code v .tokens f w' := by
  obtain ⟨front, code, source, behind, v, rfl, hasks, -, htokens⟩ := r.gather_eq_error_iff.mp h
  refine ⟨code, v, by rw [hasks]; simp, ?_⟩
  obtain ⟨stage, f₀, hfails, rfl⟩ := r.outcome_tokens_eq_error_iff.mp htokens
  cases hfails with
  | tokens ho htokens => exact .tokens ho htokens
  | transform hfails =>
    rw [Stage.leaving, Failure.cause_tag] at hf
    rw [ht] at hfails
    rcases Filter.evaluate_failure hfails with ⟨reason, rfl⟩ | rfl <;> cases hf

/-- If an undefined value keeps blocks from being gathered, one of them packs something undefined,
or the failure is one that a solid value has of its own. -/
theorem packs_of_gather (ht : r.transform = Filter.evaluate) (hw : w.Whole) {why : Missing}
    (hf : f.cause = .fault (.undefined why)) (h : outcome (r.gather bs) w = (.error f, w')) :
    ∃ code v, (code, v) ∈ r.asks bs w ∧ (Filter.Packs code v ∨
      ∃ o v', outcome (Filter.evaluate code) v = (.ok o, v') ∧ o.value.Solid ∧
        o.value.FailsItself f) := by
  obtain ⟨code, v, hasked, hfails⟩ := fails_of_gather ht hf h
  -- a block may be given to display what another one has packed
  by_cases hpacks : ∃ c u, (c, u) ∈ r.asks bs w ∧ Filter.Packs c u
  · obtain ⟨c, u, hcu, hp⟩ := hpacks
    exact ⟨c, u, hcu, .inl hp⟩
  · have hnot (c : String) (u : World) (hcu : (c, u) ∈ r.asks bs w) : ¬ Filter.Packs c u :=
      fun hp => hpacks ⟨c, u, hcu, hp⟩
    have hv : v.Whole := whole_of_mem_asks ht hw hnot hasked
    cases hfails with
    | @tokens o _ v' _ ho htokens =>
      rw [ht] at ho
      have hsolid : o.value.Solid := Filter.solid_evaluate hv (hnot code v hasked) ho
      have hwhole : v'.Whole := by
        have h := Filter.whole_evaluate hv (hnot code v hasked)
        rwa [ho] at h
      have hrun : ((o.value.tokens r.missing).run.run v'.store).1 = .error f :=
        congrArg Prod.fst htokens
      rcases o.value.blames_tokens hsolid r.missing v'.store f _ hwhole.store (Prod.ext hrun rfl)
        with hitself | rfl
      · exact ⟨code, v, hasked, .inr ⟨o, v', ho, hsolid, hitself⟩⟩
      · cases hf

/-- A list or a tuple with an undefined item, if its turn comes, keeps blocks from being gathered,
and the failure is not tagged. -/
theorem gather_of_useless (ht : r.transform = Filter.evaluate) {o x : Object}
    {before after : List Object} {why : Missing} (h : (code, v) ∈ r.asks bs w)
    (ho : outcome (Filter.evaluate code) v = (.ok o, w'))
    (hvalue : o.value = .list (before ++ x :: after) ∨ o.value = .tuple (before ++ x :: after))
    (hbefore : ∀ y ∈ before, ∃ t, y.value.token r.missing = .ok t)
    (hx : x.value.useless? = some why) :
    outcome (r.gather bs) w = (.error (.ofFault (.undefined why)), w') := by
  have htokens : outcome (compute (o.value.tokens r.missing)) w' =
      (.error (.ofFault (.undefined why)), w') := by
    rw [outcome_compute, Value.run_tokens_of_useless hvalue hbefore hx]
  refine gather_of_mem_asks h fun source => ?_
  rw [← ht] at ho
  exact r.outcome_tokens_eq_error_iff.mpr ⟨.tokens, _, .tokens ho htokens, rfl⟩

end Renderer

namespace Settings

variable {s : Settings} {t : Transform} {manner : Manner} {template : String} {w w' : World}
  {f : Failure}

/-- A render that fails with a fault does so where the blocks of the template are gathered. -/
theorem gather_of_leaves {fault : Fault} (hf : f.cause = .fault fault)
    (h : s.Leaves t manner template w f w') :
    ∃ segs, s.pieces template = .ok segs ∧
      outcome ((s.renderer t).gather (Segment.blocks segs))
        (Renderer.started segs manner.announcement (s.scanned segs w)) = (.error f, w') := by
  cases hpieces : s.pieces template with
  | error e =>
    have hscan : f = .ofScan e := by
      cases manner with
      | text =>
        rw [Leaves, s.outcome_render_of_error hpieces] at h
        cases h
        rfl
      | lines =>
        rw [Leaves, s.outcome_renderLines_of_error hpieces] at h
        cases h
        rfl
    subst hscan
    cases e <;> cases hf
  | ok segs =>
    refine ⟨segs, rfl, ?_⟩
    cases manner with
    | text =>
      rw [Leaves, s.outcome_render_of_ok hpieces, Renderer.outcome_render_eq_joined,
        Renderer.outcome_joined_eq_error_iff] at h
      exact h
    | lines =>
      rw [Leaves, s.outcome_renderLines_of_ok hpieces,
        Renderer.outcome_renderLines_eq_columns] at h
      split at h
      · -- columns that do not combine are no fault
        rename_i columns _ _
        unfold Renderer.combined at h
        cases hlines : Recycling.lines (s.renderer t).policy columns with
        | ok lines =>
          rw [hlines] at h
          cases h
        | error refusal =>
          rw [hlines] at h
          cases h
          cases refusal <;> cases hf
      · rename_i hcolumns
        cases h
        exact Renderer.outcome_columns_eq_error_iff_gather _ |>.mp hcolumns

/-- The code of a block that a template begins with is asked for. -/
theorem mem_asked_of_pieces {code : String} {source : Extent} {segs : List Segment}
    (h : s.pieces template = .ok (.block code source :: segs)) (w : World) :
    (code, Renderer.started (.block code source :: segs) manner.announcement
      (s.scanned (.block code source :: segs) w)) ∈ s.asked t manner template w := by
  rw [asked_of_pieces h, Segment.blocks_block, Renderer.asks]
  exact List.mem_cons_self

/-- If a render of a whole world fails because of an undefined value, some code that it asks for
packs something undefined, or the failure is one that a solid value has of its own. -/
theorem packs_of_leaves {why : Missing} (hw : w.Whole) (hf : f.cause = .fault (.undefined why))
    (h : s.Leaves Filter.evaluate manner template w f w') :
    ∃ code v, (code, v) ∈ s.asked Filter.evaluate manner template w ∧
      (Filter.Packs code v ∨ ∃ o v', outcome (Filter.evaluate code) v = (.ok o, v') ∧
        o.value.Solid ∧ o.value.FailsItself f) := by
  obtain ⟨segs, hpieces, hgather⟩ := gather_of_leaves hf h
  rw [asked_of_pieces hpieces]
  exact Renderer.packs_of_gather rfl ⟨hw.env, hw.store⟩ hf hgather

/-- A list or a tuple with an undefined item, if its turn comes, makes a render fail, and the
failure is not tagged. -/
theorem leaves_of_useless {code : String} {v v' : World} {o x : Object}
    {before after : List Object} {why : Missing}
    (h : (code, v) ∈ s.asked Filter.evaluate manner template w)
    (ho : outcome (Filter.evaluate code) v = (.ok o, v'))
    (hvalue : o.value = .list (before ++ x :: after) ∨ o.value = .tuple (before ++ x :: after))
    (hbefore : ∀ y ∈ before, ∃ t, y.value.token s.missing = .ok t)
    (hx : x.value.useless? = some why) :
    s.Leaves Filter.evaluate manner template w (.ofFault (.undefined why)) v' := by
  obtain ⟨k, hk⟩ := List.mem_iff_getElem?.mp h
  obtain ⟨segs, hpieces⟩ := exists_pieces_of_asked hk
  rw [asked_of_pieces hpieces] at h
  exact leaves_of_gather hpieces (Renderer.gather_of_useless rfl h ho hvalue hbefore hx)

end Settings

namespace Filter

/-- What comes of undefined values. Evaluation fails with a failure of its code. It never comes to a
value that is undefined and good for nothing at all; the value of a condition without another side,
which is undefined and counts as something empty, is no failure. In a whole world only packed values
are holes in what it comes to. A list or a tuple that is written has a hole where an item is
undefined or has one. If such an item gets to be displayed, the render fails and the failure has no
tags; in a whole world, a render fails like this only where some code packs something, or because of
an object that fails by itself. -/
theorem undefined_surfaces_unless_packed (w : World) :
    (∀ code f w', outcome (evaluate code) w = (.error f, w') →
      (∃ reason, f = .evaluation code reason) ∨ f = .ofFault .tooManyDigits) ∧
    (∀ code o w', outcome (evaluate code) w = (.ok o, w') →
      o.value.useless? = none ∧ (w.Whole → o.value.HasHole → Packs code w)) ∧
    (∀ code e items os s, Expr.ofCode (Text.strip code.toList) = .ok e → Writes e items →
      w.env.get? ownName = none →
      (Expr.evalAll (found? e.names w.env.get?) items).run.run w.store = (.ok os, s) →
        ∃ o w', outcome (evaluate code) w = (.ok o, w') ∧
          (o.value.HasHole ↔ ∃ p ∈ os, ¬ p.value.Solid)) ∧
    (∀ (s : Settings) manner template f w' why, w.Whole → f.cause = .fault (.undefined why) →
      s.Leaves evaluate manner template w f w' →
        ∃ code v, (code, v) ∈ s.asked evaluate manner template w ∧
          (Packs code v ∨ ∃ o v', outcome (evaluate code) v = (.ok o, v') ∧ o.value.Solid ∧
            o.value.FailsItself f)) ∧
    (∀ (s : Settings) manner template code v o v' before x after why,
      (code, v) ∈ s.asked evaluate manner template w → outcome (evaluate code) v = (.ok o, v') →
      o.value = .list (before ++ x :: after) ∨ o.value = .tuple (before ++ x :: after) →
      (∀ y ∈ before, ∃ t, y.value.token s.missing = .ok t) → x.value.useless? = some why →
        s.Leaves evaluate manner template w (.ofFault (.undefined why)) v') :=
  ⟨fun _ _ _ => evaluate_failure,
    fun _ _ _ h => ⟨evaluate_defined h, fun hw => packs_of_hasHole hw h⟩,
    fun _ _ _ _ _ he hwrites hown => evaluate_writes hwrites he hown,
    fun _ _ _ _ _ _ hw => Settings.packs_of_leaves hw,
    fun _ _ _ _ _ _ _ _ _ _ _ => Settings.leaves_of_useless⟩

private theorem ofCode_item_missing : Expr.ofCode (Text.strip "[x, missing]".toList) =
    .ok (.list [.name "x", .name "missing"]) := by
  cbv

private theorem ofCode_missing : Expr.ofCode (Text.strip "[missing]".toList) =
    .ok (.list [.name "missing"]) := by
  cbv

/-- Behind an item that has a token, an undefined one passes evaluation and makes rendering fail. -/
theorem undefined_surfaces_unless_packed_behind_item :
    let s : Settings := ⟨.braces, false, "", standardMissing, .cycle⟩
    let w : World := .new (.chain [("x", .new (.text "a"))] []) .empty
    w.Whole ∧
      (∃ o w', outcome (evaluate "[x, missing]") w = (.ok o, w') ∧ o.value.HasHole ∧
        Packs "[x, missing]" w) ∧
      ∀ manner, ∃ w', s.Leaves evaluate manner "\x7b[x, missing]\x7d" w
        (.ofFault (.undefined (.name "missing"))) w' := by
  intro s w
  have hw : w.Whole := World.whole_new fun e he => by
    obtain rfl := List.mem_singleton.mp he
    exact Value.whole_of_parts_eq_nil rfl
  obtain ⟨-, hvalue, -, -, hrender⟩ := undefined_surfaces_unless_packed w
  have hpieces : s.pieces "\x7b[x, missing]\x7d" =
      .ok [.block "[x, missing]" ⟨"\x7b[x, missing]\x7d", ⟨0, 14⟩⟩] :=
    s.pieces_of_scan rfl (by decide +kernel)
  have ho (notices : List Notice) : outcome (evaluate "[x, missing]") { w with notices } =
      (.ok (.new (.list [⟨.text "a", .made 0⟩, ⟨.undefined (.name "missing"), .made 1⟩])),
        { w with store := { w.store with objects := 2 }, notices }) := by
    rw [outcome_evaluate, run_eq ofCode_item_missing rfl]
    rfl
  have hhole : (Value.list
      [⟨.text "a", .made 0⟩, ⟨.undefined (.name "missing"), .made 1⟩]).HasHole :=
    ⟨_, .part (List.mem_cons_of_mem _ List.mem_cons_self), rfl⟩
  refine ⟨hw, ⟨_, _, ho [], hhole, (hvalue _ _ _ (ho [])).2 hw hhole⟩, fun manner => ?_⟩
  have hbefore : ∀ y ∈ [(⟨.text "a", .made 0⟩ : Object)], ∃ t, y.value.token s.missing = .ok t :=
    fun y hy => by obtain rfl := List.mem_singleton.mp hy; exact ⟨"a", rfl⟩
  exact ⟨_, hrender s manner _ _ _ _ _ _ _ _ _ (Settings.mem_asked_of_pieces hpieces w) (ho _)
    (.inl rfl) hbefore rfl⟩

/-- An undefined item of a list is neither a failure of the code nor missing from what it evaluates
to, and rendering the list fails with it, without a span or a code. -/
theorem not_every_undefined_surfaces :
    ¬ (∀ code (w : World), w.Whole → ∀ o w', outcome (evaluate code) w = (.ok o, w') →
        o.value.Solid) ∧
      ¬ ∀ (s : Settings) manner template (w : World), w.Whole → ∀ f w',
        s.Leaves evaluate manner template w f w' → f.kind ≠ .undefinedError := by
  have hw : (World.new (.chain [] []) .empty).Whole := World.whole_new (List.forall_mem_nil _)
  have ho (notices : List Notice) :
      outcome (evaluate "[missing]") ⟨.chain [] [], .empty, [], notices⟩ =
        (.ok (.new (.list [⟨.undefined (.name "missing"), .made 0⟩])),
          ⟨.chain [] [], { Store.empty with objects := 1 }, [], notices⟩) := by
    rw [outcome_evaluate, run_eq ofCode_missing rfl]
    rfl
  constructor
  · intro hall
    have hsolid := Value.solid_list.mp (hall _ _ hw _ _ (ho [])) _ List.mem_cons_self
    cases hsolid.defined
  · intro hall
    let s : Settings := ⟨.braces, false, "", standardMissing, .cycle⟩
    have hpieces : s.pieces "\x7b[missing]\x7d" =
        .ok [.block "[missing]" ⟨"\x7b[missing]\x7d", ⟨0, 11⟩⟩] :=
      s.pieces_of_scan rfl (by decide +kernel)
    have hbefore : ∀ y ∈ ([] : List Object), ∃ t, y.value.token s.missing = .ok t :=
      List.forall_mem_nil _
    have hleaves : s.Leaves evaluate .text "\x7b[missing]\x7d" (.new (.chain [] []) .empty) _ _ :=
      Settings.leaves_of_useless (Settings.mem_asked_of_pieces hpieces _) (ho _) (.inl rfl)
        hbefore rfl
    exact hall s .text _ _ hw _ _ hleaves rfl

end Filter

end Splice
