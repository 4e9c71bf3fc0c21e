import Splice.Proofs.Columns
import Splice.Proofs.Isolation
import Splice.Proofs.Tiling

/-!
# Options that were accepted

Options are looked at more than once. Their markers are checked when they are accepted and again by
the delimiters of a scan, their evaluator is looked up again for a splicer, and their policy when
lines are combined. What was accepted, the later looks have nothing to object to. Each option is
made sense of by itself (`Parts`), so it has whatever all values have that its reader lets pass
(`of_field`). Only the markers have to fit together, and for them the rule of the options and the
delimiters ask for the same (`markerRule?_eq_none_iff_exists`, `ofGiven_eq_ok_iff`).

Options can be merged with others any number of times, and evaluators can be added meanwhile. Every
merge reads all options again, so nothing has to be known of the options that it began with but that
they were accepted once (`Obtained`). What a splicer for such options fails with is then a matter of
the template or of its code (`Usable`).
-/

open Splice.Action

namespace Splice

/-! ## Markers -/

/-- Markers break no rule if they make delimiters. -/
theorem Options.markerRule?_eq_none_iff_exists {opening closing : String} {nested : Bool} :
    markerRule? opening closing nested = none ↔
      ∃ d, Delimiters.make? opening closing nested = .ok d := by
  rw [markerRule?_eq_none_iff]
  constructor
  · rintro ⟨ho, hc, hd⟩
    exact ⟨⟨opening.toList, closing.toList, nested, ho, hc, hd⟩,
      Delimiters.make?_eq_ok_iff.mpr ⟨rfl, rfl, rfl⟩⟩
  · rintro ⟨d, h⟩
    obtain ⟨ho, hc, rfl⟩ := Delimiters.make?_eq_ok_iff.mp h
    rw [← ho, ← hc]
    exact ⟨d.opening_ne, d.closing_ne, d.distinct⟩

/-! ## Evaluators -/

/-- Every known name stays known, and the same one is used unless another is asked for. -/
structure Registry.Extends (r r' : Registry) : Prop where
  known : ∀ name, (r.get? name).isSome = true → (r'.get? name).isSome = true
  standard : r'.standardName = r.standardName

/-- What is known is still known when an evaluator is added under a new name. -/
theorem Registry.extends_register {name : String} {e : Evaluator} {r r' : Registry}
    (h : register name e r = .ok r') : r.Extends r' := by
  unfold register at h
  split at h
  · cases h
  cases h
  refine ⟨fun known hknown => ?_, rfl⟩
  obtain ⟨e', hfound⟩ := Option.isSome_iff_exists.mp hknown
  rw [get?] at hfound ⊢
  rw [List.lookup_append, hfound, Option.some_or]
  rfl

/-- The choice is an evaluator, or the name of a known one or of the standard one. -/
def EvaluatorChoice.AcceptedBy (r : Registry) : EvaluatorChoice → Prop
  | .named name => name = r.standardName ∨ (r.get? name).isSome = true
  | .given _ => True
  | .standard | .unusable _ => False

theorem EvaluatorChoice.AcceptedBy.extends {r r' : Registry} {c : EvaluatorChoice}
    (h : c.AcceptedBy r) (hr : r.Extends r') : c.AcceptedBy r' := by
  cases c with
  | named name => exact h.imp (·.trans hr.standard.symm) (hr.known name)
  | given e => trivial
  | standard | unusable _ => exact h

/-- An accepted choice leads to an evaluator, the same in every world. -/
theorem Registry.outcome_create_of_acceptedBy {r : Registry} {c : EvaluatorChoice}
    (hr : (r.get? r.standardName).isSome = true) (h : c.AcceptedBy r) :
    ∃ e, ∀ w, ∃ notices, outcome (r.create c) w = (.ok e, { w with notices }) := by
  cases c with
  | named name =>
    -- the standard name was never looked up when it was accepted
    have hknown : (r.get? name).isSome = true := h.elim (· ▸ hr) id
    obtain ⟨e, hfound⟩ := Option.isSome_iff_exists.mp hknown
    refine ⟨e, fun w => ⟨(w.noting .evaluation ("Creating " ++ name ++ " evaluator")).notices, ?_⟩⟩
    rw [create, find, hfound]
    rfl
  | given e => exact ⟨e, fun w => ⟨w.notices, rfl⟩⟩
  | standard | unusable _ => exact h.elim

/-! ## Policies -/

namespace Recycling

/-- The policy means something. -/
def Policy.Known (policy : Policy) : Prop :=
  policy = .cycle ∨ policy = .strict

/-- Only the strict policy has something to refuse: columns that do not match. -/
theorem refused_of_known {policy : Policy} {columns : List (List String)} {refusal : Refusal}
    (hpolicy : policy.Known) (h : lines policy columns = .error refusal) :
    policy = .strict ∧ Mismatched columns ∧ refusal = .lengths (columns.map List.length) := by
  by_cases hblank : [] ∈ columns
  · rw [lines_of_mem hblank] at h
    cases h
  obtain rfl | rfl := hpolicy
  · rw [lines_cycle hblank] at h
    cases h
  by_cases hm : Mismatched columns
  · rw [lines_strict_of_mismatched hblank hm] at h
    exact ⟨rfl, hm, (Except.error.inj h).symm⟩
  · rw [lines_strict_of_not_mismatched hblank hm, lines_cycle hblank] at h
    cases h

end Recycling

namespace Options

/-! ## Single options -/

theorem apply_eq_ok_iff {α β : Type} {f : Except (List OptionIssue) (α → β)}
    {a : Except (List OptionIssue) α} {b : β} :
    apply f a = .ok b ↔ ∃ g x, f = .ok g ∧ a = .ok x ∧ g x = b := by
  cases f <;> cases a <;> simp [apply]

/-- What is read for an option is as the standard value and all that its reader lets pass. -/
theorem of_field {α : Type} {P : α → Prop} {given : List (String × Given)} {name : String}
    {read : Given → Except Objection α} {standard a : α} (hstandard : P standard)
    (hread : ∀ g a, read g = .ok a → P a) (h : field given name read standard = .ok a) : P a := by
  unfold field at h
  split at h
  · cases h
    exact hstandard
  rename_i g _
  split at h
  · rename_i hg
    cases h
    exact hread g _ hg
  · cases h

theorem acceptedBy_of_asEvaluator {r : Registry} {g : Given} {c : EvaluatorChoice}
    (h : asEvaluator r g = .ok c) : c.AcceptedBy r := by
  have hknown : ∀ name, knownEvaluator r name = .ok c → c.AcceptedBy r := by
    intro name hname
    unfold knownEvaluator at hname
    split at hname
    · rename_i hfound
      cases hname
      exact .inr hfound
    · cases hname
  unfold asEvaluator at h
  split at h
  · exact hknown _ h
  · exact hknown _ h
  · cases h
    trivial
  · cases h

theorem known_of_asPolicy {g : Given} {policy : Recycling.Policy} (h : asPolicy g = .ok policy) :
    policy.Known := by
  unfold asPolicy at h
  split at h
  · rename_i name
    cases hname : Recycling.Policy.ofName name with
    | unknown _ =>
      rw [hname] at h
      cases h
    | cycle =>
      rw [hname] at h
      cases h
      exact .inl rfl
    | strict =>
      rw [hname] at h
      cases h
      exact .inr rfl
  · cases h

/-! ## All options -/

/-- The options one by one, before they are put together. -/
structure Parts where
  opening : String
  closing : String
  hook : Option Hook
  evaluator : EvaluatorChoice
  separator : String
  missing : String
  trim : Bool
  nested : Bool
  policy : Recycling.Policy

namespace Parts

/-- The options with these delimiters. -/
def options (p : Parts) (d : Delimiters) : Options :=
  ⟨d, p.hook, p.evaluator, p.separator, p.missing, p.trim, p.policy⟩

/-- These are read from what a caller gives. -/
structure ReadFrom (p : Parts) (r : Registry) (given : List (String × Given)) : Prop where
  opening : field given "open" asText "\x7b" = .ok p.opening
  closing : field given "close" asText "\x7d" = .ok p.closing
  hook : field given "transformer" asHook none = .ok p.hook
  evaluator : field given "evaluator" (asEvaluator r) (.named r.standardName) = .ok p.evaluator
  separator : field given "separator" asText "" = .ok p.separator
  missing : field given "na" asText standardMissing = .ok p.missing
  trim : field given "trim" asTruth false = .ok p.trim
  nested : field given "nested" asTruth false = .ok p.nested
  policy : field given "recycle" asPolicy .cycle = .ok p.policy

end Parts

/-- Options go together if their markers make delimiters, and have those. -/
theorem assemble_eq_ok_iff {p : Parts} {o : Options} :
    assemble p.opening p.closing p.hook p.evaluator p.separator p.missing p.trim p.nested
        p.policy = .ok o ↔
      ∃ d, Delimiters.make? p.opening p.closing p.nested = .ok d ∧ o = p.options d := by
  unfold assemble
  split
  · rename_i rule hrule
    refine ⟨nofun, fun ⟨d, hd, _⟩ => ?_⟩
    rw [markerRule?_eq_none_iff_exists.mpr ⟨d, hd⟩] at hrule
    cases hrule
  · constructor
    · intro h
      cases h
      exact ⟨_, Delimiters.make?_eq_ok_iff.mpr ⟨rfl, rfl, rfl⟩, rfl⟩
    · rintro ⟨⟨_, _, _, _, _, _⟩, hd, rfl⟩
      obtain ⟨rfl, rfl, rfl⟩ := Delimiters.make?_eq_ok_iff.mp hd
      rfl

variable {r : Registry} {given : List (String × Given)} {o : Options}

/-- Options are accepted if each can be read and their markers make delimiters. -/
theorem ofGiven_eq_ok_iff :
    ofGiven r given = .ok o ↔
      ∃ p : Parts, p.ReadFrom r given ∧
        ∃ d, Delimiters.make? p.opening p.closing p.nested = .ok d ∧ o = p.options d := by
  have hcheck : ofGiven r given = .ok o ↔ check r given = .ok o := by
    rw [ofGiven]
    cases check r given <;> simp [Except.mapError]
  rw [hcheck]
  constructor
  · intro h
    unfold check at h
    simp only at h
    split at h
    · -- options are read from the first to the last, and taken apart from the last
      rename_i assembled h₀
      obtain ⟨_, policy, h₁, hpolicy, rfl⟩ := apply_eq_ok_iff.mp h₀
      obtain ⟨_, nested, h₂, hnested, rfl⟩ := apply_eq_ok_iff.mp h₁
      obtain ⟨_, trim, h₃, htrim, rfl⟩ := apply_eq_ok_iff.mp h₂
      obtain ⟨_, missing, h₄, hmissing, rfl⟩ := apply_eq_ok_iff.mp h₃
      obtain ⟨_, separator, h₅, hseparator, rfl⟩ := apply_eq_ok_iff.mp h₄
      obtain ⟨_, evaluator, h₆, hevaluator, rfl⟩ := apply_eq_ok_iff.mp h₅
      obtain ⟨_, hook, h₇, hhook, rfl⟩ := apply_eq_ok_iff.mp h₆
      obtain ⟨_, closing, h₈, hclosing, rfl⟩ := apply_eq_ok_iff.mp h₇
      obtain ⟨_, opening, h₉, hopening, rfl⟩ := apply_eq_ok_iff.mp h₈
      cases h₉
      let p : Parts :=
        ⟨opening, closing, hook, evaluator, separator, missing, trim, nested, policy⟩
      exact ⟨p, ⟨hopening, hclosing, hhook, hevaluator, hseparator, hmissing, htrim, hnested,
        hpolicy⟩, (assemble_eq_ok_iff (p := p)).mp h⟩
    · cases h
  · rintro ⟨p, hread, h⟩
    simp only [check, hread.opening, hread.closing, hread.hook, hread.evaluator, hread.separator,
      hread.missing, hread.trim, hread.nested, hread.policy, apply]
    exact assemble_eq_ok_iff.mpr h

/-- What a caller gives to choose the markers only. -/
def markers (opening closing : String) (nested : Bool) : List (String × Given) :=
  [("open", .value (.text opening)), ("close", .value (.text closing)),
    ("nested", .value (.bool nested))]

/-- Markers are accepted if they make delimiters, and the options have those. -/
theorem make?_eq_ok_iff_ofGiven {opening closing : String} {nested : Bool} {d : Delimiters} :
    Delimiters.make? opening closing nested = .ok d ↔
      ∃ o, ofGiven r (markers opening closing nested) = .ok o ∧ o.delimiters = d := by
  constructor
  · intro h
    let p : Parts := ⟨opening, closing, none, .named r.standardName, "", standardMissing, false,
      nested, .cycle⟩
    have hread : p.ReadFrom r (markers opening closing nested) :=
      ⟨rfl, rfl, rfl, rfl, rfl, rfl, rfl, rfl, rfl⟩
    exact ⟨p.options d, ofGiven_eq_ok_iff.mpr ⟨p, hread, d, h, rfl⟩, rfl⟩
  · rintro ⟨o, ho, rfl⟩
    obtain ⟨p, hread, d, h, rfl⟩ := ofGiven_eq_ok_iff.mp ho
    -- reading a text or a truth value gives it back
    have hopening : opening = p.opening := Except.ok.inj hread.opening
    have hclosing : closing = p.closing := Except.ok.inj hread.closing
    have hnested : nested = p.nested := Except.ok.inj hread.nested
    rw [hopening, hclosing, hnested]
    exact h

/-! ## Accepted options -/

/-- Options that a caller has: accepted at once, or merged from others, while evaluators have been
added. -/
inductive Obtained : Registry → Options → Prop
  | given {r : Registry} {given : List (String × Given)} {o : Options}
    (h : ofGiven r given = .ok o) : Obtained r o
  | merged {r : Registry} {changes : List (String × Given)} {o o' : Options} (h : Obtained r o)
    (hmerged : o.merged r changes = .ok o') : Obtained r o'
  | extended {r r' : Registry} {o : Options} (h : Obtained r o) (hr : r.Extends r') :
    Obtained r' o

/-- Options in a file are accepted as all others are. -/
theorem obtained_of_load {path : String} {text : Option String} (h : load r path text = .ok o) :
    Obtained r o := by
  unfold load at h
  split at h
  · cases h
  split at h
  · cases h
  unfold ofValue at h
  split at h
  · split at h
    · split at h
      · exact .given h
      · cases h
    · cases h
  · exact .given h

/-- The standard options are those that are accepted when nothing is given. -/
theorem obtained_standard (r : Registry) : Obtained r (standard r) := by
  have h : ofGiven r [] = .ok (standard r) := rfl
  exact .given h

/-- What reading all options again establishes, whatever they were before. -/
structure Checked (r : Registry) (o : Options) : Prop where
  evaluator : o.evaluator.AcceptedBy r
  policy : o.policy.Known

theorem checked_of_ofGiven (h : ofGiven r given = .ok o) : o.Checked r := by
  obtain ⟨p, hread, d, -, rfl⟩ := ofGiven_eq_ok_iff.mp h
  constructor
  case evaluator =>
    have hstandard : (EvaluatorChoice.named r.standardName).AcceptedBy r := .inl rfl
    exact of_field hstandard (fun _ _ => acceptedBy_of_asEvaluator) hread.evaluator
  case policy =>
    have hstandard : Recycling.Policy.cycle.Known := .inl rfl
    exact of_field hstandard (fun _ _ => known_of_asPolicy) hread.policy

theorem Obtained.checked (h : Obtained r o) : o.Checked r := by
  induction h with
  | given h => exact checked_of_ofGiven h
  | merged _ hmerged _ =>
    -- a merge reads everything again, so the induction hypothesis is not needed
    exact checked_of_ofGiven hmerged
  | extended _ hr ih => exact ⟨ih.evaluator.extends hr, ih.policy⟩

end Options

/-! ## What splicers fail with -/

/-- A template can be taken apart, or its scan ends with an error. -/
theorem Settings.pieces_cases (s : Settings) (template : String) :
    (∃ segs, s.pieces template = .ok segs) ∨
      ∃ segs e, s.delimiters.scan template = ⟨segs, some e⟩ ∧ s.pieces template = .error e := by
  rcases hscan : s.delimiters.scan template with ⟨segs, _ | e⟩
  · refine .inl ⟨if s.trim then Margin.trim segs else segs, ?_⟩
    rw [pieces, hscan]
    rfl
  · exact .inr ⟨segs, e, rfl, s.pieces_of_scan_error hscan⟩

namespace Splicer

variable (s : Splicer)

/-- Rendering a template comes to this failure because the template does not scan, before anything
else is done, or because rendering the code of a block fails. -/
inductive FailsAs (manner template : String) (w : World) : Failure → World → Prop
  | scan {segs : List Segment} {e : ScanError}
    (h : s.settings.delimiters.scan template = ⟨segs, some e⟩) :
    FailsAs manner template w (.ofScan e) w
  | block {segs : List Segment} {code : String} {source : Extent} {stage : Renderer.Stage}
    {f : Failure} {w' : World} (h : s.settings.pieces template = .ok segs)
    (hraises : (s.settings.renderer s.hook.run).Raises segs
      (Renderer.started segs manner (s.settings.scanned segs w)) code source stage f w') :
    FailsAs manner template w (stage.leaving code source f) w'

/-- All that a splicer fails with: besides what rendering fails with, the strict policy may refuse
lines. -/
structure FailsFairly : Prop where
  segments : ∀ {template w f w'}, outcome (s.settings.segments template) w = (.error f, w') →
    ∃ segs e, s.settings.delimiters.scan template = ⟨segs, some e⟩ ∧ f = .ofScan e ∧ w' = w
  render : ∀ {template w f w'}, outcome (s.render template) w = (.error f, w') →
    s.FailsAs " segments" template w f w'
  renderLines : ∀ {template w f w'}, outcome (s.renderLines template) w = (.error f, w') →
    s.FailsAs " segments as lines" template w f w' ∨
      s.settings.policy = .strict ∧ ∃ columns : List (List String), Recycling.Mismatched columns ∧
        f = .of (.recycling (columns.map fun c => (c.length : Int)))

variable {s}

/-- With a policy that means something, a splicer fails for a template, its code or its lines. -/
theorem failsFairly (hpolicy : s.settings.policy.Known) : s.FailsFairly where
  segments {template w f w'} h := by
    rcases s.settings.pieces_cases template with ⟨segs, hpieces⟩ | ⟨segs, e, hscan, hpieces⟩
    · rw [s.settings.outcome_segments_of_ok hpieces] at h
      cases h
    · rw [s.settings.outcome_segments_of_error hpieces] at h
      cases h
      exact ⟨segs, e, hscan, rfl, rfl⟩
  render {template w f w'} h := by
    rw [Splicer.render] at h
    rcases s.settings.pieces_cases template with ⟨segs, hpieces⟩ | ⟨segs, e, hscan, hpieces⟩
    · rw [s.settings.outcome_render_of_ok hpieces] at h
      obtain ⟨code, source, stage, f₀, hraises, rfl⟩ :=
        (Renderer.outcome_render_eq_error_iff _).mp h
      exact .block hpieces hraises
    · rw [s.settings.outcome_render_of_error hpieces] at h
      cases h
      exact .scan hscan
  renderLines {template w f w'} h := by
    rw [Splicer.renderLines] at h
    rcases s.settings.pieces_cases template with ⟨segs, hpieces⟩ | ⟨segs, e, hscan, hpieces⟩
    · rw [s.settings.outcome_renderLines_of_ok hpieces] at h
      rcases (Renderer.outcome_renderLines_eq_error_iff _).mp h with
        ⟨code, source, stage, f₀, hraises, rfl⟩ | ⟨columns, refusal, -, hrefused, rfl⟩
      · exact .inl (.block hpieces hraises)
      · -- the block stage is over: all columns are there, and do not combine
        obtain ⟨hstrict, hm, rfl⟩ := Recycling.refused_of_known hpolicy hrefused
        refine .inr ⟨hstrict, columns, hm, ?_⟩
        rw [Failure.ofRefusal, List.map_map]
        rfl
    · rw [s.settings.outcome_renderLines_of_error hpieces] at h
      cases h
      exact .inl (.scan hscan)

end Splicer

namespace Options

variable {r : Registry} {o : Options}

/-- Nothing that options are needed for objects to them: their markers make the delimiters of a
scan, their policy means something, their evaluator is found, and there is a splicer for them, which
fails for a template, its code or its lines only. Making it only writes to the log. -/
structure Usable (r : Registry) (o : Options) : Prop where
  markers : o.delimiters.opening ≠ [] ∧ o.delimiters.closing ≠ [] ∧
    (o.delimiters.nested = true → o.delimiters.opening ≠ o.delimiters.closing)
  delimiters : Delimiters.make? (String.ofList o.delimiters.opening)
    (String.ofList o.delimiters.closing) o.delimiters.nested = .ok o.delimiters
  policy : o.policy = .cycle ∨ o.policy = .strict
  evaluator : ∃ e, ∀ w, ∃ notices, outcome (r.create o.evaluator) w = (.ok e, { w with notices })
  splicer : ∃ s : Splicer,
    (∀ w, ∃ notices, outcome (o.splicer r) w = (.ok s, { w with notices })) ∧
      s.settings = ⟨o.delimiters, o.trim, o.separator, o.missing, o.policy⟩ ∧ s.FailsFairly

/-- There is a splicer for options if there is an evaluator. -/
theorem exists_splicer {e : Evaluator}
    (h : ∀ w, ∃ notices, outcome (r.create o.evaluator) w = (.ok e, { w with notices })) :
    ∃ s : Splicer, (∀ w, ∃ notices, outcome (o.splicer r) w = (.ok s, { w with notices })) ∧
      s.settings = ⟨o.delimiters, o.trim, o.separator, o.missing, o.policy⟩ := by
  cases hhook : o.hook with
  | some hook =>
    refine ⟨⟨_, hook⟩, fun w => ⟨w.notices, ?_⟩, rfl⟩
    rw [splicer, hhook]
    rfl
  | none =>
    refine ⟨⟨_, .plain e⟩, fun w => ?_, rfl⟩
    obtain ⟨notices, hw⟩ := h w
    refine ⟨notices, ?_⟩
    rw [splicer, hhook]
    simp only
    rw [outcome_bind, hw]
    rfl

/-- Checked options can be used wherever the evaluator that is used unless another is asked for is
known. -/
theorem Checked.usable (hr : (r.get? r.standardName).isSome = true) (h : o.Checked r) :
    o.Usable r := by
  obtain ⟨e, he⟩ := Registry.outcome_create_of_acceptedBy hr h.evaluator
  obtain ⟨s, hs, hsettings⟩ := exists_splicer he
  have hpolicy : s.settings.policy.Known := by
    rw [hsettings]
    exact h.policy
  constructor
  case markers => exact ⟨o.delimiters.opening_ne, o.delimiters.closing_ne, o.delimiters.distinct⟩
  case delimiters => exact o.delimiters.make?_self
  case policy => exact h.policy
  case evaluator => exact ⟨e, he⟩
  case splicer => exact ⟨s, hs, hsettings, Splicer.failsFairly hpolicy⟩

/-- The rule for markers refuses those that make no delimiters, and only those. Options that a
caller has, from a file, the standard ones or others, after any number of merges, can be used
wherever the evaluator that is used unless another is asked for is known. -/
theorem obtained_usable (r : Registry) :
    (∀ opening closing nested,
      (markerRule? opening closing nested = none ↔
        ∃ d, Delimiters.make? opening closing nested = .ok d) ∧
      ∀ d, Delimiters.make? opening closing nested = .ok d ↔
        ∃ o, ofGiven r (markers opening closing nested) = .ok o ∧ o.delimiters = d) ∧
    Obtained r (standard r) ∧ (∀ path text o, load r path text = .ok o → Obtained r o) ∧
    ((r.get? r.standardName).isSome = true → ∀ o, Obtained r o → o.Usable r) := by
  refine ⟨fun opening closing nested => ?_, obtained_standard r, fun path text o => ?_,
    fun hr o h => ?_⟩
  · exact ⟨markerRule?_eq_none_iff_exists, fun d => make?_eq_ok_iff_ofGiven⟩
  · exact obtained_of_load
  · exact h.checked.usable hr

/-- Nested markers are accepted, then an evaluator is added, and then the options are merged with
its name and the strict policy. -/
theorem obtained_usable_merged :
    let echo : Evaluator := .custom "echo" fun code => return .new (.text code)
    let r := Registry.languages "formula" "filter"
    let r' : Registry := ⟨r.entries ++ [("echo", echo)], r.standardName⟩
    let d : Delimiters := ⟨['<', '<'], ['>', '>'], true, by decide, by decide, by decide⟩
    let o : Options := ⟨d, none, .named "formula", "", standardMissing, false, .cycle⟩
    let o' : Options := ⟨d, none, .named "echo", "", standardMissing, false, .strict⟩
    let changes : List (String × Given) :=
      [("evaluator", .value (.text "echo")), ("recycle", .value (.text "strict"))]
    ofGiven r (markers "<<" ">>" true) = .ok o ∧ r.register "echo" echo = .ok r' ∧
      o.merged r' changes = .ok o' ∧ o'.Usable r' := by
  intro echo r r' d o o' changes
  have hgiven : ofGiven r (markers "<<" ">>" true) = .ok o := rfl
  have hregister : r.register "echo" echo = .ok r' := rfl
  let p : Parts := ⟨"<<", ">>", none, .named "echo", "", standardMissing, false, true, .strict⟩
  have hread : p.ReadFrom r' (changes ++ o.given) :=
    ⟨rfl, rfl, rfl, rfl, rfl, rfl, rfl, rfl, rfl⟩
  have hmake : Delimiters.make? "<<" ">>" true = .ok d :=
    Delimiters.make?_eq_ok_iff.mpr ⟨rfl, rfl, rfl⟩
  have hmerged : o.merged r' changes = .ok o' :=
    ofGiven_eq_ok_iff.mpr ⟨p, hread, d, hmake, rfl⟩
  have hobtained : Obtained r' o' :=
    .merged (.extended (.given hgiven) (Registry.extends_register hregister)) hmerged
  exact ⟨hgiven, hregister, hmerged, (obtained_usable r').2.2.2 rfl o' hobtained⟩

end Options

end Splice
