import Splice.Proofs.Orderliness
import Splice.Proofs.Renumbering.Hooks

/-!
# Calls do not get in each other's way

A caller renders templates again and again with the same mappings. Whatever code assigns goes into a
layer that belongs to the call: after the call the environment is what it was, and even at the end
of the rendering, before that layer is gone, the bindings, the data and the environment behind it
are as they were given. It makes no difference whether the rendering came to an end or failed.

What calls do leave behind is items taken out of streams, and numbers given to objects. Where no
stream is among what the caller passes, neither makes a difference to a call with a hook that only
goes by code and environment (`Hook.Determined`). After any other calls, it comes to what it comes
to by itself: its result is the same text or the same lines, and a failure is the same but for the
numbers of the objects that have been made on the way to it (`SameButNumbers`). All that this takes
of the other calls is that they do not take numbers back.
-/

open Splice.Action

namespace Splice

/-! ## Calls -/

/-- What a call renders its template to, and whether it has data besides the bindings. -/
inductive Call.Form where
  | text
  | lines
  | data (data : Bindings)

/-- A call with bindings in front of the caller's environment. -/
structure Call where
  options : Options
  form : Call.Form
  bindings : Bindings
  template : String

namespace Call

variable (r : Registry) (c : Call)

/-- What happens in a call. It results in a text or in lines. -/
def act : Action (String ⊕ List String) := do
  let s ← c.options.splicer r
  match c.form with
  | .text => .inl <$> s.splice c.bindings c.template
  | .lines => .inr <$> s.spliceLines c.bindings c.template
  | .data data => .inl <$> s.spliceData c.bindings data c.template

/-- The layers that a call puts in front of the environment. -/
def maps : List Bindings :=
  match c.form with
  | .text | .lines => [c.bindings]
  | .data data => [c.bindings, data]

/-- What happens behind these layers. -/
def rendering (s : Splicer) : Action (String ⊕ List String) :=
  match c.form with
  | .text | .data _ => .inl <$> s.render c.template
  | .lines => .inr <$> s.renderLines c.template

/-- The code of a call goes through this hook. -/
def Uses (hook : Hook) : Prop :=
  ∃ s w w', outcome (c.options.splicer r) w = (.ok s, w') ∧ s.hook = hook

end Call

/-- The world after some calls, one after the other. -/
def World.afterCalls (r : Registry) (calls : List Call) (w : World) : World :=
  calls.foldl (fun w c => (outcome (c.act r) w).2) w

namespace Action

variable {α β : Type}

/-- What is done to a result can be done behind the layers. -/
theorem outcome_map_within (g : α → β) (maps : List Bindings) (act : Action α) (w : World) :
    outcome (g <$> within maps act) w = outcome (within maps (g <$> act)) w := by
  rw [map_eq_pure_bind, outcome_bind, outcome_within, outcome_within, map_eq_pure_bind,
    outcome_bind]
  rcases outcome act (w.inEnv (w.env.enter maps)) with ⟨f | a, w'⟩ <;> rfl

/-- An action that comes to the same in every world, and writes to the log at most. -/
def Settled (act : Action α) : Prop :=
  (∃ a, ∀ w, ∃ notices, outcome act w = (.ok a, { w with notices })) ∨
    ∃ f, ∀ w, outcome act w = (.error f, w)

theorem settled_pure (a : α) : (pure a : Action α).Settled :=
  .inl ⟨a, fun w => ⟨w.notices, rfl⟩⟩

theorem Settled.map {act : Action α} (h : act.Settled) (g : α → β) : (g <$> act).Settled := by
  obtain ⟨a, h⟩ | ⟨f, h⟩ := h
  · refine .inl ⟨g a, fun w => ?_⟩
    obtain ⟨notices, hw⟩ := h w
    exact ⟨notices, by rw [map_eq_pure_bind, outcome_bind, hw]; rfl⟩
  · exact .inr ⟨f, fun w => by rw [map_eq_pure_bind, outcome_bind, h w]⟩

end Action

theorem Registry.settled_find (r : Registry) (name : String) : (r.find name).Settled := by
  rw [find]
  cases r.get? name with
  | none => exact .inr ⟨_, fun _ => rfl⟩
  | some e => exact .inl ⟨e, fun _ => ⟨_, rfl⟩⟩

/-- Whether there is a splicer for some options, and which, does not depend on the world. -/
theorem Options.settled_splicer (r : Registry) (o : Options) : (o.splicer r).Settled := by
  rw [splicer]
  cases o.hook with
  | some hook => exact settled_pure _
  | none =>
    have hcreate : (r.create o.evaluator).Settled := by
      cases o.evaluator with
      | standard => exact r.settled_find _
      | named name => exact r.settled_find name
      | given e => exact settled_pure e
      | unusable shown => exact .inr ⟨_, fun _ => rfl⟩
    have hplain := hcreate.map fun e =>
      Splicer.mk ⟨o.delimiters, o.trim, o.separator, o.missing, o.policy⟩ (.plain e)
    rwa [map_eq_pure_bind] at hplain

/-- Making a splicer leaves the environment as it is. -/
theorem Options.env_splicer {r : Registry} {o : Options} {w w' : World}
    {result : Except Failure Splicer} (h : outcome (o.splicer r) w = (result, w')) :
    w'.env = w.env := by
  obtain ⟨s, hs⟩ | ⟨f, hf⟩ := o.settled_splicer r
  · obtain ⟨notices, hw⟩ := hs w
    obtain ⟨-, rfl⟩ := Prod.mk.inj (hw.symm.trans h)
    rfl
  · obtain ⟨-, rfl⟩ := Prod.mk.inj ((hf w).symm.trans h)
    rfl

theorem Registry.eq_of_get?_languages {formula filter name : String} {e : Evaluator}
    (h : (languages formula filter).get? name = some e) : e = .formula [] ∨ e = .filter := by
  obtain ⟨before, after, hentries, -⟩ := List.lookup_eq_some_iff.mp h
  have hmem : (name, e) ∈ (languages formula filter).entries := by
    rw [hentries]
    simp
  obtain ⟨-, rfl⟩ | ⟨-, rfl⟩ : _ ∧ e = .formula [] ∨ _ ∧ e = .filter := by
    simpa [languages] using hmem
  · exact .inl rfl
  · exact .inr rfl

/-- An evaluator that is found is in the registry. -/
theorem Registry.get?_of_find {r : Registry} {name : String} {e : Evaluator} {w w' : World}
    (h : outcome (r.find name) w = (.ok e, w')) : r.get? name = some e := by
  rw [find] at h
  cases hfound : r.get? name with
  | none =>
    rw [hfound] at h
    cases h
  | some e' =>
    rw [hfound] at h
    cases h
    rfl

namespace Call

variable {r : Registry} {c : Call}

/-- A call uses the hook or the evaluator that it was given, or an evaluator from the registry. -/
theorem Uses.of_sources {hook : Hook} (h : c.Uses r hook) {P : Hook → Prop}
    (hr : ∀ name e, r.get? name = some e → P (.plain e))
    (hhook : ∀ hook, c.options.hook = some hook → P hook)
    (hgiven : ∀ e, c.options.evaluator = .given e → P (.plain e)) : P hook := by
  obtain ⟨s, w, w', hs, rfl⟩ := h
  rw [Options.splicer] at hs
  cases hhooked : c.options.hook with
  | some hook =>
    rw [hhooked] at hs
    cases hs
    exact hhook hook hhooked
  | none =>
    rw [hhooked] at hs
    obtain ⟨e, w₁, he, hs⟩ := outcome_bind_eq_ok_iff.mp hs
    cases hs
    cases hchoice : c.options.evaluator with
    | standard =>
      rw [hchoice] at he
      exact hr _ e (Registry.get?_of_find he)
    | named name =>
      rw [hchoice] at he
      exact hr name e (Registry.get?_of_find he)
    | given e' =>
      rw [hchoice] at he
      cases he
      exact hgiven e hchoice
    | unusable shown =>
      rw [hchoice] at he
      cases he

/-- A call that has its evaluator found among those of the library meets every demand on hooks. -/
theorem Uses.of_languages {formula filter : String} {hook : Hook}
    (h : c.Uses (.languages formula filter) hook) (hhook : c.options.hook = none)
    (hfound : ∀ e, c.options.evaluator ≠ .given e) :
    hook.Nominal ∧ hook.evaluator.Orderly ∧ ∀ n, hook.Determined n := by
  refine h.of_sources (P := fun hook => hook.Nominal ∧ hook.evaluator.Orderly ∧
    ∀ n, hook.Determined n) (fun name e he => ?_) (by simp [hhook]) fun e he => absurd he (hfound e)
  obtain rfl | rfl := Registry.eq_of_get?_languages he
  · exact ⟨trivial, trivial, fun _ => rfl⟩
  · exact ⟨trivial, trivial, fun _ => trivial⟩

/-- A call makes a splicer, and renders behind its layers. -/
theorem outcome_act (r : Registry) (c : Call) (w : World) :
    outcome (c.act r) w =
      outcome (c.options.splicer r >>= fun s => within c.maps (c.rendering s)) w := by
  rw [act, outcome_bind, outcome_bind]
  rcases outcome (c.options.splicer r) w with ⟨f | s, w'⟩
  · rfl
  · obtain ⟨options, form, bindings, template⟩ := c
    cases form with
    | text | lines | data => exact outcome_map_within ..

/-! ## What a call leaves behind -/

theorem assembled_rendering (c : Call) {s : Splicer} {E : Action Object → Prop}
    (h : ∀ code, E (s.hook.evaluator.evaluate code)) : (c.rendering s).Assembled E := by
  obtain ⟨options, form, bindings, template⟩ := c
  have hmap {α β : Type} {act : Action α} (h : act.Assembled E) (g : α → β) :
      (g <$> act).Assembled E := by
    rw [map_eq_pure_bind]
    exact .bind h fun _ => .pure _
  cases form with
  | text | data => exact hmap (Splicer.assembled_render h template) _
  | lines => exact hmap (Splicer.assembled_renderLines h template) _

theorem nominal_rendering (c : Call) {s : Splicer} (hs : s.hook.Nominal) :
    (c.rendering s).Nominal :=
  (c.assembled_rendering (Evaluator.nominal_evaluate hs.evaluator)).nominal

/-- A call keeps to itself: at the end of its rendering, all that is different in the environment is
the layer that belongs to the call, and when that is gone, nothing is. -/
def Contained (r : Registry) (c : Call) (w : World) : Prop :=
  ∀ s w₁, outcome (c.options.splicer r) w = (.ok s, w₁) →
    ∃ result w₂ assigned,
      outcome (c.rendering s) (w₁.inEnv (w.env.enter c.maps)) = (result, w₂) ∧
        w₂.env = .within assigned c.maps w.env ∧ outcome (c.act r) w = (result, w₂.inEnv w.env)

theorem contained (hc : ∀ hook, c.Uses r hook → hook.Nominal) (w : World) : c.Contained r w := by
  intro s w₁ hs
  have hnominal := c.nominal_rendering (hc _ ⟨s, w, w₁, hs, rfl⟩)
  have hw₁ : w₁.env = w.env := c.options.env_splicer hs
  obtain ⟨assigned, hassigned⟩ := hnominal.confined (w₁.inEnv (w.env.enter c.maps))
  rcases hrender : outcome (c.rendering s) (w₁.inEnv (w.env.enter c.maps)) with ⟨result, w₂⟩
  rw [hrender] at hassigned
  refine ⟨result, w₂, assigned, rfl, hassigned, ?_⟩
  rw [outcome_act, outcome_bind, hs]
  simp only
  rw [hnominal.outcome_within, hw₁, hrender]

/-- A call leaves the environment as it was. -/
theorem env_act (hc : ∀ hook, c.Uses r hook → hook.Nominal) (w : World) :
    (outcome (c.act r) w).2.env = w.env := by
  rcases hs : outcome (c.options.splicer r) w with ⟨f | s, w₁⟩
  · rw [outcome_act, outcome_bind, hs]
    exact c.options.env_splicer hs
  · obtain ⟨result, w₂, assigned, -, -, hact⟩ := contained hc w s w₁ hs
    rw [hact]
    rfl

theorem env_afterCalls {calls : List Call}
    (hcalls : ∀ c ∈ calls, ∀ hook, c.Uses r hook → hook.Nominal) (w : World) :
    (w.afterCalls r calls).env = w.env := by
  induction calls generalizing w with
  | nil => rfl
  | cons c calls ih =>
    rw [World.afterCalls, List.foldl_cons, ← World.afterCalls,
      ih (fun c hc => hcalls c (List.mem_cons_of_mem _ hc)),
      env_act (hcalls c List.mem_cons_self)]

/-- A call takes no number back if evaluation does not. -/
theorem orderly_act (hc : ∀ hook, c.Uses r hook → hook.evaluator.Orderly) :
    (c.act r).Orderly := by
  intro w
  rw [outcome_act, outcome_bind]
  obtain ⟨s, hs⟩ | ⟨f, hf⟩ := c.options.settled_splicer r
  · obtain ⟨notices, hw⟩ := hs w
    have hrendering := (c.assembled_rendering (hc _ ⟨s, w, _, hw, rfl⟩).evaluate).orderly
    rw [hw]
    exact orderly_within hrendering c.maps { w with notices }
  · simp [hf w]

theorem objects_le_afterCalls {calls : List Call}
    (hcalls : ∀ c ∈ calls, ∀ hook, c.Uses r hook → hook.evaluator.Orderly) (w : World) :
    w.store.objects ≤ (w.afterCalls r calls).store.objects := by
  induction calls generalizing w with
  | nil => exact Nat.le_refl _
  | cons c calls ih =>
    have hfirst := orderly_act (hcalls c List.mem_cons_self) w
    have hrest := ih (fun c hc => hcalls c (List.mem_cons_of_mem _ hc)) (outcome (c.act r) w).2
    exact Nat.le_trans hfirst hrest

/-! ## What a call comes to -/

theorem alongside_rendering {L : Likeness} (c : Call) {s : Splicer} (hs : s.hook.Respects L)
    {w₁ w₂ : World} (hw : L.worlds w₁ w₂) :
    Alongside L.worlds L.failures.rel Same (outcome (c.rendering s) w₁)
      (outcome (c.rendering s) w₂) := by
  obtain ⟨options, form, bindings, template⟩ := c
  have hrun : L.Transforms s.hook.run s.hook.run := s.hook.transforms_run hs
  cases form with
  | text | data =>
    exact (Likeness.together_render hrun s.settings template hw).map fun _ h => congrArg Sum.inl h
  | lines =>
    exact (Likeness.together_renderLines hrun s.settings template hw).map fun _ h =>
      congrArg Sum.inr h

/-- Rendering comes to the same in two worlds with one environment, since it comes to that where
nothing has happened yet. -/
theorem same_rendering (c : Call) {s : Splicer} {n : Nat} (hs : s.hook.Determined n)
    {w₁ w₂ : World} (hw₁ : n ≤ w₁.store.objects) (hw₂ : n ≤ w₂.store.objects)
    (henv : w₁.env = w₂.env) (hgrounded : w₂.env.isGrounded n) :
    SameButNumbers n (outcome (c.rendering s) w₁).1 (outcome (c.rendering s) w₂).1 := by
  have hfixes₁ := Renumbering.fixes_into hw₁
  have hfixes₂ := Renumbering.fixes_into hw₂
  have hbare₁ := World.renumbered_bare hw₁ (henv ▸ hgrounded)
  have hbare₂ := World.renumbered_bare hw₂ hgrounded
  rw [henv] at hbare₁
  -- the third run is the one in a world with this environment in which nothing has happened
  exact .of_alongside hfixes₁ hfixes₂ (c.alongside_rendering (hs.respects hfixes₁) hbare₁)
    (c.alongside_rendering (hs.respects hfixes₂) hbare₂)

/-- In two worlds with the same environment, a call comes to the same. -/
theorem same_act {n : Nat} {w₁ w₂ : World} (hw₁ : n ≤ w₁.store.objects)
    (hw₂ : n ≤ w₂.store.objects) (henv : w₁.env = w₂.env)
    (hgrounded : (w₂.env.enter c.maps).isGrounded n)
    (hc : ∀ hook, c.Uses r hook → hook.Determined n) :
    SameButNumbers n (outcome (c.act r) w₁).1 (outcome (c.act r) w₂).1 := by
  rw [outcome_act, outcome_act, outcome_bind, outcome_bind]
  obtain ⟨s, hs⟩ | ⟨f, hf⟩ := c.options.settled_splicer r
  · obtain ⟨notices₁, hs₁⟩ := hs w₁
    obtain ⟨notices₂, hs₂⟩ := hs w₂
    have hhook : s.hook.Determined n := hc _ ⟨s, w₂, _, hs₂, rfl⟩
    rw [hs₁, hs₂]
    simp only
    rw [outcome_within, outcome_within]
    exact c.same_rendering hhook hw₁ hw₂ (congrArg (Environment.enter c.maps) henv) hgrounded
  · rw [hf, hf]
    exact .refl (.error f)

/-- Calls are isolated from each other. However many calls there are, and whether they succeed or
fail, the environment is afterwards what it was before. In every further call, at the end of the
rendering, names have been assigned in a layer of the call only, and the bindings, the data and the
environment are in place behind it. If no stream is among what the caller passes, the hook of the
call goes by code and environment only, and the earlier calls have not taken numbers back, the call
has the result that it has as the only call, or the same failure but for the numbers of objects that
were made on the way to it. -/
theorem isolated (r : Registry) (calls : List Call) (w : World)
    (hcalls : ∀ c ∈ calls, ∀ hook, c.Uses r hook → hook.Nominal) :
    (w.afterCalls r calls).env = w.env ∧
      ∀ c : Call, (∀ hook, c.Uses r hook → hook.Nominal) →
        c.Contained r (w.afterCalls r calls) ∧
          ((∀ c ∈ calls, ∀ hook, c.Uses r hook → hook.evaluator.Orderly) →
            (w.env.enter c.maps).isGrounded w.store.objects →
            (∀ hook, c.Uses r hook → hook.Determined w.store.objects) →
              SameButNumbers w.store.objects (outcome (c.act r) (w.afterCalls r calls)).1
                (outcome (c.act r) w).1) := by
  have henv := env_afterCalls hcalls w
  refine ⟨henv, fun c hc => ⟨contained hc _, fun horderly hgrounded hdetermined => ?_⟩⟩
  exact same_act (objects_le_afterCalls horderly w) (Nat.le_refl _) henv hgrounded hdetermined

/-- A call that assigns a name and then fails, and one that hides the name behind its data, make no
difference to a scripted call that reads the name, assigns it and reads it again, nor to a call that
fails with an object that has got another number, since an object was made before it. -/
theorem lines_after_failure :
    let r := Registry.languages "formula" "filter"
    let options (d : Delimiters) (e : EvaluatorChoice) : Options :=
      ⟨d, none, e, "", standardMissing, false, .cycle⟩
    let script : Script := ⟨[("x := 2", .assign "x" (pure (.new (.int 2))))], .lookupCode⟩
    let failing : Call :=
      ⟨options .braces .standard, .text, [("y", .new (.int 1))], "\x7bx := y\x7d\x7b[x][1]\x7d"⟩
    let covering : Call :=
      ⟨options .braces .standard, .data [("x", .new (.text "c"))], [], "\x7bx := x + x\x7d"⟩
    let reading : Call :=
      ⟨options .braces (.given (.scripted script)), .lines, [],
        "\x7bx\x7d \x7bx := 2\x7d \x7bx\x7d"⟩
    let searching : Call :=
      ⟨options ⟨['<'], ['>'], false, by simp, by simp, by simp⟩ .standard, .text, [],
        "<\x7b\x7d[(x := (len,))]>"⟩
    let items : Value := .list [.new (.text "a"), .new (.text "b")]
    let w : World := .new (.scope [[("x", .new items)]]) .empty
    (outcome (failing.act r) w).1.toOption = none ∧
      (w.afterCalls r [failing, covering]).env = w.env ∧
      (outcome (reading.act r) (w.afterCalls r [failing, covering])).1.toOption =
        some (.inr ["a 2 2", "b 2 2"]) ∧
      SameButNumbers 0 (outcome (searching.act r) (w.afterCalls r [failing, covering])).1
        (outcome (searching.act r) w).1 := by
  intro r options script failing covering reading searching items w
  have hlibrary {c : Call} {d : Delimiters} (hc : c.options = options d .standard) (hook : Hook)
      (h : c.Uses r hook) : hook.Nominal ∧ hook.evaluator.Orderly ∧ ∀ n, hook.Determined n :=
    h.of_languages (by rw [hc]) (by simp [hc, options])
  have hcalls (c : Call) (hc : c ∈ [failing, covering]) :
      c.options = options .braces .standard := by
    obtain rfl | rfl : c = failing ∨ c = covering := by simpa using hc
    · rfl
    · rfl
  have hscript : script.All (Answer.Determined 0) := by
    refine ⟨fun e he => ?_, trivial⟩
    obtain rfl : e = ("x := 2", .assign "x" (pure (.new (.int 2)))) := by simpa [script] using he
    exact fun ρ _ => Compute.mirrors_pure rfl
  have hreading (hook : Hook) (h : reading.Uses r hook) : hook.Nominal ∧ hook.Determined 0 := by
    refine h.of_sources (P := fun hook => hook.Nominal ∧ hook.Determined 0) (fun name e he => ?_)
      (by simp [reading, options]) fun e he => ?_
    · obtain rfl | rfl := Registry.eq_of_get?_languages he
      · exact ⟨trivial, rfl⟩
      · exact ⟨trivial, trivial⟩
    · cases he
      exact ⟨trivial, hscript⟩
  have h := isolated r [failing, covering] w fun c hc hook huses =>
    (hlibrary (hcalls c hc) hook huses).1
  have horderly (c : Call) (hc : c ∈ [failing, covering]) (hook : Hook) (huses : c.Uses r hook) :
      hook.evaluator.Orderly :=
    (hlibrary (hcalls c hc) hook huses).2.1
  have hread := (h.2 reading fun hook huses => (hreading hook huses).1).2 horderly (by decide)
    fun hook huses => (hreading hook huses).2
  have hsearched := (h.2 searching fun hook huses => (hlibrary rfl hook huses).1).2 horderly
    (by decide) fun hook huses => (hlibrary rfl hook huses).2.2 0
  refine ⟨by decide +kernel, h.1, ?_, hsearched⟩
  rw [hread.toOption_eq]
  decide +kernel

end Call

end Splice
