import Splice.Proofs.Agreement
import Splice.Proofs.Succession

/-!
# Joining inside a block

A collapsing hook joins the tokens of a block to one text if the code of the block has a mark, with
a separator and a marker for missing values of its own. A renderer that takes the same separator and
the same marker joins the tokens of every block in the same way, so it does not matter which of the
two does it (`collapsing_joins`). They are only in step (`InStep`): what fails in the one fails in
the other for the same cause, but turning a value into tokens is part of what the hook does, so that
its failures are tagged, and the code in a tag has the mark.

The mark is a star at the end of the code. Of all stars in the code it is the last that is taken
out, whatever stands before it (`remove?_append_star`).
-/

open Splice.Action

namespace Splice

/-! ## The mark -/

namespace Pattern

/-- A star at the end. -/
def finalStar : Pattern :=
  [.one (.either (.char '*') .empty), .finish]

theorem ofText_finalStar : ofText "[*]$" = .ok finalStar := by
  decide +kernel

/-- The mark stands where a star is and nothing behind it but a line break. -/
theorem rest?_finalStar (atStart : Bool) (c : Char) (cs : List Char) :
    rest? atStart finalStar (c :: cs) =
      if c = '*' ∧ (cs = [] ∨ cs = ['\n']) then some cs else none := by
  simp only [finalStar, rest?, Class.contains, atEnd]
  by_cases hc : c = '*'
  · subst hc
    by_cases hcs : cs = [] ∨ cs = ['\n'] <;> simp [hcs]
  · have hstar : ¬ '*' = c := fun h => hc h.symm
    simp [hc, hstar]

/-- The last star is the mark, and not one of those before it. -/
theorem searchFrom_append_star (atStart : Bool) (cs : List Char) :
    searchFrom finalStar atStart (cs ++ ['*']) = some (cs, []) := by
  induction cs generalizing atStart with
  | nil => rw [List.nil_append, searchFrom, rest?_finalStar, if_pos ⟨rfl, .inl rfl⟩]
  | cons c cs ih =>
    -- even if a star stands here, there is more behind it than a line break
    have hbehind : ¬ (c = '*' ∧ (cs ++ ['*'] = [] ∨ cs ++ ['*'] = ['\n'])) := by
      cases cs <;> simp
    rw [List.cons_append, searchFrom, rest?_finalStar, if_neg hbehind]
    simp [ih]

/-- Taking the mark out of a code with a star behind it leaves that code. -/
theorem remove?_append_star (code : String) : finalStar.remove? (code ++ "*") = some code := by
  have hstar : (code ++ "*").toList = code.toList ++ ['*'] := String.toList_append
  rw [remove?, hstar, searchFrom_append_star]
  simp

theorem searchFrom_finalStar_eq_none_iff (atStart : Bool) (cs : List Char) :
    searchFrom finalStar atStart cs = none ↔
      ∀ front, cs ≠ front ++ ['*'] ∧ cs ≠ front ++ ['*', '\n'] := by
  induction cs generalizing atStart with
  | nil => simp [searchFrom, finalStar, rest?]
  | cons c cs ih =>
    rw [searchFrom, rest?_finalStar]
    by_cases hhere : c = '*' ∧ (cs = [] ∨ cs = ['\n'])
    · rw [if_pos hhere]
      obtain ⟨rfl, rfl | rfl⟩ := hhere
      · exact ⟨fun e => absurd e (Option.some_ne_none _), fun h => absurd rfl (h []).1⟩
      · exact ⟨fun e => absurd e (Option.some_ne_none _), fun h => absurd rfl (h []).2⟩
    · rw [if_neg hhere, Option.map_eq_none_iff, ih]
      constructor
      · intro h front
        cases front with
        | nil =>
          constructor
          · rintro ⟨rfl, rfl⟩
            exact hhere ⟨rfl, .inl rfl⟩
          · rintro ⟨rfl, rfl⟩
            exact hhere ⟨rfl, .inr rfl⟩
        | cons d front => exact ⟨fun e => (h front).1 (List.cons.inj e).2,
            fun e => (h front).2 (List.cons.inj e).2⟩
      · exact fun h front => ⟨fun e => (h (c :: front)).1 (congrArg (c :: ·) e),
          fun e => (h (c :: front)).2 (congrArg (c :: ·) e)⟩

/-- A code has the mark if it ends in a star, be it in front of a line break. -/
theorem remove?_finalStar_eq_none_iff {code : String} :
    finalStar.remove? code = none ↔ ∀ front, code ≠ front ++ "*" ∧ code ≠ front ++ "*\n" := by
  rw [remove?, Option.map_eq_none_iff, searchFrom_finalStar_eq_none_iff]
  constructor
  · exact fun h front => ⟨fun e => (h front.toList).1 (e ▸ String.toList_append),
      fun e => (h front.toList).2 (e ▸ String.toList_append)⟩
  · refine fun h front => ⟨fun e => (h (String.ofList front)).1 ?_,
      fun e => (h (String.ofList front)).2 ?_⟩
    · rw [← String.toList_inj, String.toList_append, String.toList_ofList, e]
      rfl
    · rw [← String.toList_inj, String.toList_append, String.toList_ofList, e]
      rfl

theorem remove?_finalStar_of_not_mem {code : String} (h : '*' ∉ code.toList) :
    finalStar.remove? code = none := by
  refine remove?_finalStar_eq_none_iff.mpr fun front => ⟨fun e => h ?_, fun e => h ?_⟩
  · simp [e]
  · simp [e]

end Pattern

/-! ## Runs in step -/

namespace Action

variable {α β γ δ : Type} {Q : α → β → Prop} {R : γ → δ → Prop}

/-- Two runs are in step if they come to results that go together or fail for the same cause. Either
way they leave the same world. -/
inductive InStep (Q : α → β → Prop) :
    Except Failure α × World → Except Failure β × World → Prop
  | ok {a : α} {b : β} {w : World} (h : Q a b) : InStep Q (.ok a, w) (.ok b, w)
  | error {f g : Failure} {w : World} (h : f.cause = g.cause) : InStep Q (.error f, w) (.error g, w)

theorem InStep.after {x : Except Failure α × World} {y : Except Failure β × World}
    (h : InStep Q x y) : x.2 = y.2 := by
  cases h <;> rfl

theorem InStep.toOption_eq {x y : Except Failure α × World} (h : InStep (· = ·) x y) :
    x.1.toOption = y.1.toOption := by
  cases h with
  | ok h => exact congrArg some h
  | error => rfl

/-- If one of two runs in step has a result, so has the other. -/
theorem InStep.exists_ok {a : α} {w : World} {y : Except Failure β × World}
    (h : InStep Q (.ok a, w) y) : ∃ b, y = (.ok b, w) ∧ Q a b := by
  cases h with
  | ok h => exact ⟨_, rfl, h⟩

theorem InStep.bind {act₁ : Action α} {act₂ : Action β} {next₁ : α → Action γ}
    {next₂ : β → Action δ} {w : World} (h : InStep Q (outcome act₁ w) (outcome act₂ w))
    (hnext : ∀ {a b w}, Q a b → InStep R (outcome (next₁ a) w) (outcome (next₂ b) w)) :
    InStep R (outcome (act₁ >>= next₁) w) (outcome (act₂ >>= next₂) w) := by
  rw [outcome_bind, outcome_bind]
  generalize outcome act₁ w = x, outcome act₂ w = y at h
  cases h with
  | ok h => exact hnext h
  | error h => exact .error h

theorem InStep.map {act₁ : Action α} {act₂ : Action β} {g₁ : α → γ} {g₂ : β → δ} {w : World}
    (h : InStep Q (outcome act₁ w) (outcome act₂ w)) (hg : ∀ {a b}, Q a b → R (g₁ a) (g₂ b)) :
    InStep R (outcome (g₁ <$> act₁) w) (outcome (g₂ <$> act₂) w) := by
  rw [map_eq_pure_bind, map_eq_pure_bind]
  exact h.bind fun h => .ok (hg h)

end Action

/-! ## Joining in the hook -/

namespace Hook

/-- Without a separator of their own, the last two tokens are joined as all others are. -/
theorem collapse_eq_intercalate {separator last : String} (h : last = "" ∨ last = separator)
    (tokens : List String) : collapse separator last tokens = separator.intercalate tokens := by
  rcases tokens.eq_nil_or_concat with rfl | ⟨front, final, rfl⟩
  · simp [collapse]
  · by_cases hfront : front = []
    · simp [collapse, hfront]
    · have hjoined : separator.intercalate (front ++ [final]) =
          separator.intercalate front ++ separator ++ final := by
        rw [String.intercalate_append_of_ne_nil hfront (List.cons_ne_nil _ _),
          String.intercalate_singleton]
      rw [List.concat_eq_append, collapse, List.getLast?_concat, List.dropLast_concat, hjoined]
      obtain rfl | rfl := h <;> simp

theorem run_collapsing_self (mark : Pattern) (separator missing : String) (e : Evaluator) :
    (collapsing mark separator separator missing e).run =
      (collapsing mark separator "" missing e).run := by
  funext code
  rw [run, run, runCollapsing, runCollapsing]
  simp only [collapse_eq_intercalate (.inr rfl), collapse_eq_intercalate (.inl rfl)]

/-- Code without a mark is evaluated as it is. -/
theorem run_collapsing_of_none {mark : Pattern} {code : String} (h : mark.remove? code = none)
    (separator last missing : String) (e : Evaluator) :
    (collapsing mark separator last missing e).run code = (plain e).run code := by
  rw [run, run, runCollapsing, h]

end Hook

/-! ## Joining in the renderer -/

namespace Segment

/-- Segments with the mark at the end of every code. -/
def starred (segs : List Segment) : List Segment :=
  segs.map fun
    | .literal t source => .literal t source
    | .block code source => .block (code ++ "*") source

theorem length_starred (segs : List Segment) : (starred segs).length = segs.length :=
  List.length_map _

end Segment

namespace Renderer

open Segment World

section

variable (r : Renderer) (e : Evaluator) (separator missing : String)

/-- A renderer that leaves it to its hook to join tokens. -/
def collapsing : Renderer :=
  { r with transform := (Hook.collapsing .finalStar separator "" missing e).run }

/-- A renderer that joins tokens itself. -/
def joining : Renderer :=
  { r with transform := (Hook.plain e).run, separator, missing }

/-- Code with the mark is one token for a renderer if it has these tokens without it for another. -/
theorem inStep_tokens (code : String) (source source' : Extent) (w : World) :
    InStep (fun column tokens => column = [separator.intercalate tokens])
      (outcome ((r.collapsing e separator missing).tokens (code ++ "*") source) w)
      (outcome ((r.joining e separator missing).tokens code source') w) := by
  rw [tokens, tokens, outcome_bind, outcome_bind, tagged, tagged, outcome_tryCatch,
    outcome_tryCatch]
  simp only [collapsing, joining, Hook.run, Hook.runCollapsing, Pattern.remove?_append_star,
    outcome_bind]
  rcases outcome (e.evaluate code) w with ⟨f | o, w₁⟩
  · exact .error (by simp)
  · -- the tokens are made inside of the tagged part on one side, and behind it on the other
    simp only
    rcases outcome (compute (o.value.tokens missing)) w₁ with ⟨f | tokens, w₂⟩
    · exact .error (by simp)
    · exact .ok (congrArg ([·]) (Hook.collapse_eq_intercalate (.inl rfl) tokens))

theorem inStep_columns (segs : List Segment) (w : World) :
    InStep (fun columns tokens => columns = tokens.map fun ts => [separator.intercalate ts])
      (outcome ((r.collapsing e separator missing).columns (starred segs)) w)
      (outcome ((r.joining e separator missing).columns segs) w) := by
  induction segs generalizing w with
  | nil => exact .ok rfl
  | cons seg segs ih =>
    cases seg with
    | literal t source =>
      refine (ih w).bind fun h => .ok ?_
      rw [h, List.map_cons, String.intercalate_singleton]
    | block code source =>
      refine (r.inStep_tokens e separator missing code source source w).bind fun hcolumn => ?_
      refine (ih _).bind fun hcolumns => .ok ?_
      rw [hcolumn, hcolumns, List.map_cons]

/-- Whoever joins the tokens, the text is the same. -/
theorem inStep_joined (segs : List Segment) (w : World) :
    InStep (· = ·) (outcome ((r.collapsing e separator missing).joined (starred segs)) w)
      (outcome ((r.joining e separator missing).joined segs) w) := by
  rw [joined, joined, texts_eq, texts_eq, Functor.map_map, Functor.map_map]
  refine (r.inStep_columns e separator missing segs w).map fun {columns tokens} h => ?_
  have hone : r.separator.intercalate ∘ (fun ts => [separator.intercalate ts]) =
      separator.intercalate := by
    funext ts
    exact String.intercalate_singleton
  rw [h, collapsing, joining, List.map_map, hone]

theorem inStep_render (segs : List Segment) (w : World) :
    InStep (· = ·) (outcome ((r.collapsing e separator missing).render (starred segs)) w)
      (outcome ((r.joining e separator missing).render segs) w) := by
  rw [outcome_render_eq_joined, outcome_render_eq_joined, started, length_starred]
  exact r.inStep_joined e separator missing segs _

/-- With a hook that joins tokens, every block yields a single one. -/
theorem exists_singletons_of_columns {segs : List Segment} {columns : List (List String)}
    {w w' : World}
    (h : outcome ((r.collapsing e separator missing).columns (starred segs)) w =
      (.ok columns, w')) :
    ∃ texts : List String, columns = texts.map ([·]) := by
  have hstep := r.inStep_columns e separator missing segs w
  rw [h] at hstep
  obtain ⟨tokens, -, rfl⟩ := hstep.exists_ok
  refine ⟨tokens.map separator.intercalate, ?_⟩
  rw [List.map_map]
  rfl

/-- So there is one line, whatever the policy, and it is the text. -/
theorem outcome_renderLines_starred (hpolicy : ∀ name, r.policy ≠ .unknown name)
    (segs : List Segment) (w : World) :
    outcome ((r.collapsing e separator missing).renderLines (starred segs)) w =
      outcome (([·]) <$> (r.collapsing e separator missing).joined (starred segs))
        (started segs " segments as lines" w) := by
  rw [outcome_renderLines_eq_columns, joined, texts_eq, Functor.map_map, Functor.map_map,
    map_eq_pure_bind, outcome_bind, started, length_starred, started]
  rcases h : outcome ((r.collapsing e separator missing).columns (starred segs)) _ with
    ⟨f | columns, w'⟩
  · rfl
  · obtain ⟨texts, rfl⟩ := r.exists_singletons_of_columns e separator missing h
    have hlines : Recycling.lines (r.collapsing e separator missing).policy (texts.map ([·])) =
        .ok [String.join texts] := Recycling.lines_singletons hpolicy texts
    simp only [combined, hlines, outcome_pure, map_intercalate_singletons]
    rfl

end

/-! ## Codes without the mark -/

section

variable (r : Renderer) {t t' : Transform} {segs : List Segment}
  (h : ∀ code source, (code, source) ∈ blocks segs → t code = t' code)
include h

/-- Columns only depend on what the transform makes of the codes among the segments. -/
theorem columns_congr :
    { r with transform := t }.columns segs = { r with transform := t' }.columns segs := by
  induction segs with
  | nil => rfl
  | cons seg segs ih =>
    cases seg with
    | literal text source => rw [columns, columns, ih h]
    | block code source =>
      have hcode : t code = t' code := h code source List.mem_cons_self
      have hrest := ih fun c s hmem => h c s (List.mem_cons_of_mem _ hmem)
      rw [columns, columns, hrest, tokens, tokens]
      simp only [hcode]

theorem render_congr :
    { r with transform := t }.render segs = { r with transform := t' }.render segs := by
  rw [render, render, texts_eq, texts_eq, r.columns_congr h]

theorem renderLines_congr :
    { r with transform := t }.renderLines segs = { r with transform := t' }.renderLines segs := by
  rw [renderLines, renderLines, r.columns_congr h]

end

/-! ## Both ways to join -/

/-- A renderer with a collapsing hook, of codes that end in the mark, and one that joins the tokens
of the same codes without it. -/
structure JoinsAlike (r : Renderer) (e : Evaluator) (separator missing : String)
    (segs : List Segment) (w : World) : Prop where
  /-- They come to the same text, or both fail, and leave the same world. -/
  text : InStep (· = ·) (outcome ((r.collapsing e separator missing).render (starred segs)) w)
    (outcome ((r.joining e separator missing).render segs) w)
  /-- With a policy that means something there is one line, which is the text that the other makes
  of the segments once lines have been announced in the log. -/
  lines : (∀ name, r.policy ≠ .unknown name) →
    InStep (fun lines text => lines = [text])
      (outcome ((r.collapsing e separator missing).renderLines (starred segs)) w)
      (outcome ((r.joining e separator missing).joined segs)
        (started segs " segments as lines" w))
  /-- If the evaluator does not read the log, the line is the text that the same renderer comes to,
  and it fails to make lines as it fails to make a text. -/
  line : (∀ name, r.policy ≠ .unknown name) → Transform.IgnoresLog e.evaluate →
    (outcome ((r.collapsing e separator missing).renderLines (starred segs)) w).1 =
        (outcome ((r.collapsing e separator missing).render (starred segs)) w).1.map ([·]) ∧
      SameButLog (outcome ((r.collapsing e separator missing).renderLines (starred segs)) w).2
        (outcome ((r.collapsing e separator missing).render (starred segs)) w).2
  /-- The evaluator is asked for the codes without the mark, in their order, and for all of them if
  there is a text. -/
  asked : Transform.LeavesRecord e.evaluate → ∃ codes,
    (outcome ((r.collapsing e.recording separator missing).render (starred segs)) w).2.calls =
        w.calls ++ codes ∧
      codes <+: (blocks segs).map (·.1) ∧
      ∀ text w', outcome ((r.collapsing e.recording separator missing).render (starred segs)) w =
        (.ok text, w') → codes = (blocks segs).map (·.1)

theorem joinsAlike (r : Renderer) (e : Evaluator) (separator missing : String)
    (segs : List Segment) (w : World) : r.JoinsAlike e separator missing segs w where
  text := r.inStep_render e separator missing segs w
  lines hpolicy := by
    rw [r.outcome_renderLines_starred e separator missing hpolicy,
      ← id_map ((r.joining e separator missing).joined segs)]
    exact (r.inStep_joined e separator missing segs _).map fun h => congrArg ([·]) h
  line hpolicy he := by
    have htransform : (r.collapsing e separator missing).transform.IgnoresLog :=
      Hook.transforms_runCollapsing (L := .unlogged) he .finalStar separator "" missing
    -- the two renders have announced something else before they go through the segments
    have htext := together_joined_of_ignoresLog htransform
      ((sameButLog_started segs " segments as lines" w).symm.trans
        (sameButLog_started (starred segs) " segments" w)) (starred segs)
    rw [r.outcome_renderLines_starred e separator missing hpolicy, outcome_render_eq_joined,
      outcome_map]
    exact ⟨congrArg (Except.map ([·])) htext.result_eq, htext.after⟩
  asked he := by
    have hrecording : r.joining e.recording separator missing =
        (r.joining e separator missing).recording := rfl
    have hstep := r.inStep_render e.recording separator missing segs w
    rw [hrecording] at hstep
    refine ⟨((r.joining e separator missing).recording.asked segs w).map (·.1), ?_,
      codes_asks_isPrefix _ _ _, fun text w' h => ?_⟩
    · rw [hstep.after]
      exact calls_render_recording he segs w
    · rw [h] at hstep
      obtain ⟨text, hjoins, -⟩ := hstep.exists_ok
      rw [outcome_render_eq_joined] at hjoins
      obtain ⟨columns, hcolumns⟩ := gather_of_joined hjoins
      exact codes_asks_of_ok _ hcolumns

/-- It does not matter whether a hook joins the tokens of a code that has the mark, or a renderer
joins the tokens of the code without it with the same separator and the same marker for missing
values (`JoinsAlike`), for every evaluator, every renderer around the hook, all segments and all
worlds. To give the hook the separator for the last two tokens as well makes no difference, and for
codes that do not have its mark, a hook that collapses is a plain one. -/
theorem collapsing_joins (r : Renderer) (e : Evaluator) (separator missing : String)
    (segs : List Segment) (w : World) :
    r.JoinsAlike e separator missing segs w ∧
      (∀ mark, (Hook.collapsing mark separator separator missing e).run =
        (Hook.collapsing mark separator "" missing e).run) ∧
      ∀ mark last, (∀ code source, (code, source) ∈ blocks segs → mark.remove? code = none) →
        { r with transform := (Hook.collapsing mark separator last missing e).run }.render segs =
            { r with transform := (Hook.plain e).run }.render segs ∧
          { r with transform := (Hook.collapsing mark separator last missing e).run }.renderLines
              segs =
            { r with transform := (Hook.plain e).run }.renderLines segs := by
  refine ⟨r.joinsAlike e separator missing segs w,
    fun mark => Hook.run_collapsing_self mark separator missing e, fun mark last hmark => ?_⟩
  have hplain : ∀ code source, (code, source) ∈ blocks segs →
      (Hook.collapsing mark separator last missing e).run code = (Hook.plain e).run code :=
    fun code source hmem =>
      Hook.run_collapsing_of_none (hmark code source hmem) separator last missing e
  exact ⟨r.render_congr hplain, r.renderLines_congr hplain⟩

/-- A column of two, one of none and one with nothing in it are one line if the hook joins them. Of
codes without the mark, the same hook makes columns. -/
theorem collapsing_joins_lists :
    let e : Evaluator := .custom "names" Action.lookup
    let r : Renderer := { byName with separator := "+", policy := .strict }
    let hook : Hook := .collapsing .finalStar ", " "" "none" e
    let segs : List Segment := [.block "x" default, .literal "-" default, .block "y" default,
      .literal "-" default, .block "z" default]
    let w : World := named [("x", .new (.list [.new (.text "a"), .new (.text "b*")])),
      ("y", .new (.list [])), ("z", .new .null)]
    (outcome ((r.joining e ", " "none").render segs) w).1.toOption = some "a, b*--none" ∧
      (outcome ((r.collapsing e ", " "none").render (starred segs)) w).1.toOption =
        some "a, b*--none" ∧
      (outcome ((r.collapsing e ", " "none").renderLines (starred segs)) w).1.toOption =
        some ["a, b*--none"] ∧
      (outcome ((r.collapsing e.recording ", " "none").render (starred segs)) w).2.calls =
        ["x", "y", "z"] ∧
      (outcome ({ r with transform := hook.run }.render segs) w).1.toOption = some "a+b*--NA" := by
  intro e r hook segs w
  have he : Transform.IgnoresLog e.evaluate :=
    Transform.ignoresLog_of_discreet fun code => (composed_lookup code).discreet
  obtain ⟨hjoins, -, hplain⟩ := collapsing_joins r e ", " "none" segs w
  have hok {act : Action String} {text : String}
      (h : (outcome act w).1.toOption = some text) : ∃ w', outcome act w = (.ok text, w') := by
    rcases hdone : outcome act w with ⟨f | t, w'⟩
    · rw [hdone] at h
      cases h
    · rw [hdone] at h
      cases h
      exact ⟨w', rfl⟩
  have hjoined : (outcome ((r.joining e ", " "none").render segs) w).1.toOption =
      some "a, b*--none" := by decide +kernel
  have htext := hjoins.text.toOption_eq.trans hjoined
  refine ⟨hjoined, htext, ?_, ?_, ?_⟩
  · obtain ⟨w', hdone⟩ := hok htext
    rw [(hjoins.line nofun he).1, hdone]
    rfl
  · obtain ⟨codes, hcalls, -, hall⟩ := hjoins.asked leavesRecord_byName
    have hrecorded : (outcome ((r.joining e.recording ", " "none").render segs) w).1.toOption =
        some "a, b*--none" := by decide +kernel
    obtain ⟨w', hdone⟩ :=
      hok ((collapsing_joins r e.recording ", " "none" segs w).1.text.toOption_eq.trans hrecorded)
    rw [hcalls, hall _ w' hdone]
    rfl
  · have hmark : ∀ code source, (code, source) ∈ blocks segs →
        Pattern.finalStar.remove? code = none := by
      intro code source hmem
      obtain ⟨rfl, -⟩ | ⟨rfl, -⟩ | ⟨rfl, -⟩ :
          (code = "x" ∧ _) ∨ (code = "y" ∧ _) ∨ code = "z" ∧ _ := by simpa [segs] using hmem
      all_goals exact Pattern.remove?_finalStar_of_not_mem (by decide)
    rw [(hplain .finalStar "" hmark).1]
    decide +kernel

end Renderer

end Splice
