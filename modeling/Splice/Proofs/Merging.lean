import Splice.Proofs.Acceptance

/-!
# Merging again and again

Merging changes into options reads everything again: the changes as they were given, and what the
options are already, as a caller would give it. So an option that was changed by one merge and left
alone by the next is read twice, first as it was given and then as it was read. Reading it the
second time gives back what the first one has made of it (`readFrom_given`), and whether the markers
fit together is looked at with all options in place. So two merges come to the same as one with the
changes of both, be it options or objections (`mergedBy_mergedBy`).

Options at hand are merged into in any order, and some of the attempts fail. All that an attempt
does is that there is something more at hand (`Attempt`), and whatever is at hand in the end is one
merge away from the options that were there first (`exists_changes`).
-/

namespace Splice

namespace Options

variable {r : Registry} {o o' : Options} {a b both given given' : List (String × Given)}

/-! ## Reading again -/

/-- Options taken apart. -/
def parts (o : Options) : Parts :=
  ⟨String.ofList o.delimiters.opening, String.ofList o.delimiters.closing, o.hook, o.evaluator,
    o.separator, o.missing, o.trim, o.delimiters.nested, o.policy⟩

/-- Options are accepted if what they consist of is read from what is given. -/
theorem ofGiven_eq_ok_iff_readFrom : ofGiven r given = .ok o ↔ o.parts.ReadFrom r given := by
  rw [ofGiven_eq_ok_iff]
  constructor
  · rintro ⟨⟨_, _, _, _, _, _, _, _, _⟩, hread, d, hd, rfl⟩
    obtain ⟨hopening, hclosing, rfl⟩ := Delimiters.make?_eq_ok_iff.mp hd
    rw [parts]
    simp only [Parts.options, hopening, hclosing, String.ofList_toList]
    exact hread
  · exact fun hread => ⟨o.parts, hread, o.delimiters, o.delimiters.make?_self, rfl⟩

/-- An evaluator that was accepted is accepted again. -/
theorem asEvaluator_self {g : Given} {c : EvaluatorChoice} (h : asEvaluator r g = .ok c) :
    asEvaluator r (.evaluator c) = .ok c := by
  have hknown (name : String) (h : knownEvaluator r name = .ok c) :
      asEvaluator r (.evaluator c) = .ok c := by
    have hname := h
    unfold knownEvaluator at hname
    split at hname
    · cases hname
      exact h
    · cases hname
  unfold asEvaluator at h
  split at h
  · exact hknown _ h
  · exact hknown _ h
  · cases h
    rfl
  · cases h

theorem asPolicy_name {policy : Recycling.Policy} (h : policy.Known) :
    asPolicy (.value (.text policy.name)) = .ok policy := by
  obtain rfl | rfl := h <;> rfl

/-- An option that is given is what its reader makes of it. -/
theorem field_eq_ok_iff {α : Type} {name : String} {read : Given → Except Objection α}
    {standard x : α} {g : Given} (hg : given.lookup name = some g) :
    field given name read standard = .ok x ↔ read g = .ok x := by
  rw [field, hg]
  simp only
  cases read g <;> simp

/-- Options given as they are, are read as they are, if their evaluator and their policy can be. -/
theorem readFrom_given (hevaluator : asEvaluator r (.evaluator o.evaluator) = .ok o.evaluator)
    (hpolicy : o.policy.Known) : o.parts.ReadFrom r o.given where
  opening := rfl
  closing := rfl
  hook := by
    refine (field_eq_ok_iff rfl).mpr ?_
    rw [parts]
    cases o.hook <;> rfl
  evaluator := (field_eq_ok_iff rfl).mpr hevaluator
  separator := rfl
  missing := rfl
  trim := rfl
  nested := rfl
  policy := (field_eq_ok_iff rfl).mpr (asPolicy_name hpolicy)

/-- Options that came of a merge are read as they are when they are given again. -/
theorem readFrom_given_of_merged (h : o.merged r a = .ok o') : o'.parts.ReadFrom r o'.given := by
  have hread : o'.parts.ReadFrom r (a ++ o.given) := ofGiven_eq_ok_iff_readFrom.mp h
  refine readFrom_given ?_ (checked_of_ofGiven h).policy
  -- a merge always gives an evaluator, so what was read has been accepted
  obtain ⟨g, hg⟩ : ∃ g, (a ++ o.given).lookup "evaluator" = some g := by
    rw [List.lookup_append]
    cases a.lookup "evaluator" with
    | some g => exact ⟨g, rfl⟩
    | none => exact ⟨_, rfl⟩
  exact asEvaluator_self ((field_eq_ok_iff hg).mp hread.evaluator)

/-! ## Two merges -/

/-- An option comes to the same whether the first changes have been read before or are given
together with the others, if they were read without objection. -/
theorem field_overlaid {α : Type} {name : String} {read : Given → Except Objection α}
    {standard x : α} (hboth : both.lookup name = (b.lookup name).or (a.lookup name))
    (hread : field (a ++ given) name read standard = .ok x)
    (hagain : field given' name read standard = .ok x) :
    field (b ++ given') name read standard = field (both ++ given) name read standard := by
  rw [field, List.lookup_append] at hread
  rw [field, List.lookup_append, field, List.lookup_append, hboth]
  cases b.lookup name with
  | some g => rfl
  | none =>
    rw [Option.none_or, Option.none_or, hread]
    exact hagain

/-- Changes to options that have been merged are changes to the options before, together with what
was merged, which the new changes may cover. -/
theorem merged_merged (h : o.merged r a = .ok o')
    (hboth : ∀ name, both.lookup name = (b.lookup name).or (a.lookup name)) :
    o'.merged r b = o.merged r both := by
  have hread : o'.parts.ReadFrom r (a ++ o.given) := ofGiven_eq_ok_iff_readFrom.mp h
  have hagain := readFrom_given_of_merged h
  rw [merged, merged, ofGiven, ofGiven, check, check,
    field_overlaid (hboth _) hread.opening hagain.opening,
    field_overlaid (hboth _) hread.closing hagain.closing,
    field_overlaid (hboth _) hread.hook hagain.hook,
    field_overlaid (hboth _) hread.evaluator hagain.evaluator,
    field_overlaid (hboth _) hread.separator hagain.separator,
    field_overlaid (hboth _) hread.missing hagain.missing,
    field_overlaid (hboth _) hread.trim hagain.trim,
    field_overlaid (hboth _) hread.nested hagain.nested,
    field_overlaid (hboth _) hread.policy hagain.policy]

/-- Accepted options are what comes of merging nothing into them, where the evaluator that is used
unless another is asked for is known. -/
theorem Obtained.merged_nil (hr : (r.get? r.standardName).isSome = true) (h : Obtained r o) :
    o.merged r [] = .ok o := by
  obtain ⟨haccepted, hpolicy⟩ := h.checked
  refine ofGiven_eq_ok_iff_readFrom.mpr (readFrom_given ?_ hpolicy)
  cases hchoice : o.evaluator with
  | named name =>
    rw [hchoice] at haccepted
    have hknown : (r.get? name).isSome = true := haccepted.elim (· ▸ hr) id
    rw [asEvaluator, knownEvaluator, if_pos hknown]
  | given e => rfl
  | standard | unusable _ =>
    rw [hchoice] at haccepted
    exact haccepted.elim

/-! ## Merging by name -/

/-- Merging by name is refused if a change has the name of the argument that the options are
themselves, whatever else there is. -/
theorem mergedBy_eq (function own : String) (r : Registry) (changes : List (String × Given))
    (o : Options) :
    o.mergedBy function [own] r changes =
      if (changes.lookup own).isSome = true then .error (.ofMisuse (.argumentTwice function own))
      else o.merged r changes := by
  rw [mergedBy]
  split
  · rename_i n g h
    have hfound : changes.find? (fun p => [own].contains p.1) = some (n, g) := h
    have hname : n = own := by simpa using List.find?_some hfound
    have hgiven : (changes.lookup own).isSome = true :=
      List.lookup_isSome_iff.mpr ⟨(n, g), List.mem_of_find?_eq_some hfound, by simp [hname]⟩
    rw [if_pos hgiven, hname]
  · rename_i h
    have hfound : changes.find? (fun p => [own].contains p.1) = none := h
    have hnone : ¬ (changes.lookup own).isSome = true := by
      rw [List.lookup_isSome_iff]
      rintro ⟨p, hp, hname⟩
      have hother := List.find?_eq_none.mp hfound p hp
      simp [← beq_iff_eq.mp hname] at hother
    rw [if_neg hnone]

/-- A merge by name that is not refused is a merge. -/
theorem mergedBy_eq_ok_iff {function own : String} :
    o.mergedBy function [own] r a = .ok o' ↔ a.lookup own = none ∧ o.merged r a = .ok o' := by
  rw [mergedBy_eq]
  cases a.lookup own <;> simp

/-- Two merges by name come to the same as one. -/
theorem mergedBy_mergedBy {function own : String} (h : o.mergedBy function [own] r a = .ok o')
    (hboth : ∀ name, both.lookup name = (b.lookup name).or (a.lookup name)) :
    o'.mergedBy function [own] r b = o.mergedBy function [own] r both := by
  obtain ⟨hown, hmerged⟩ := mergedBy_eq_ok_iff.mp h
  rw [mergedBy_eq, mergedBy_eq, hboth own, hown, Option.or_none, merged_merged hmerged hboth]

/-! ## Options at hand -/

/-- An attempt to merge changes into some of the options at hand. -/
structure Attempt where
  place : Nat
  changes : List (String × Given)

/-- What is at hand after an attempt: what was there before, and what has come of the attempt if it
has not failed. -/
def Attempt.onto (function own : String) (r : Registry) (atHand : List Options) (x : Attempt) :
    List Options :=
  match (atHand[x.place]?).map (mergedBy function [own] r x.changes) with
  | some (.ok o) => atHand ++ [o]
  | _ => atHand

/-- What is at hand after some attempts, one after the other. -/
def attempted (function own : String) (r : Registry) (atHand : List Options)
    (attempts : List Attempt) : List Options :=
  attempts.foldl (Attempt.onto function own r) atHand

/-- The second options are one merge away from the first: all that is merged into them could be
merged into the first, together with certain changes. -/
def Away (function own : String) (r : Registry) (o o' : Options) : Prop :=
  ∃ changes, ∀ later,
    o'.mergedBy function [own] r later = o.mergedBy function [own] r (later ++ changes)

section

variable {function own : String} {atHand : List Options}

/-- An attempt leaves the options at hand as they are, and adds some that came of a merge at
most. -/
theorem Attempt.onto_cases (function own : String) (r : Registry) (atHand : List Options)
    (x : Attempt) :
    x.onto function own r atHand = atHand ∨
      ∃ o o', o ∈ atHand ∧ o.mergedBy function [own] r x.changes = .ok o' ∧
        x.onto function own r atHand = atHand ++ [o'] := by
  rw [onto]
  split
  · rename_i o' h
    obtain ⟨o, ho, hmerged⟩ := Option.map_eq_some_iff.mp h
    exact .inr ⟨o, o', List.mem_of_getElem? ho, hmerged, rfl⟩
  · exact .inl rfl

theorem isPrefix_attempted (attempts : List Attempt) :
    atHand <+: attempted function own r atHand attempts := by
  induction attempts generalizing atHand with
  | nil => exact List.prefix_rfl
  | cons x attempts ih =>
    refine List.IsPrefix.trans ?_ ih
    obtain h | ⟨_, _, _, _, h⟩ := x.onto_cases function own r atHand
    · exact h.symm ▸ List.prefix_rfl
    · rw [h]
      exact List.prefix_append _ _

/-- What came of a merge into options that are one merge away is one merge away. -/
theorem Away.merged {o₁ : Options} (h : Away function own r o o₁)
    (hmerged : o₁.mergedBy function [own] r a = .ok o') : Away function own r o o' := by
  obtain ⟨changes, hchanges⟩ := h
  refine ⟨a ++ changes, fun later => ?_⟩
  rw [mergedBy_mergedBy hmerged fun name => List.lookup_append, hchanges, List.append_assoc]

theorem away_of_mem_attempted {attempts : List Attempt}
    (hatHand : ∀ o' ∈ atHand, Away function own r o o') :
    ∀ o' ∈ attempted function own r atHand attempts, Away function own r o o' := by
  induction attempts generalizing atHand with
  | nil => exact hatHand
  | cons x attempts ih =>
    refine ih fun o' ho' => ?_
    obtain h | ⟨o₁, o₂, ho₁, hmerged, h⟩ := x.onto_cases function own r atHand
    · exact hatHand o' (h ▸ ho')
    · rw [h, List.mem_append, List.mem_singleton] at ho'
      obtain ho' | rfl := ho'
      · exact hatHand o' ho'
      · exact (hatHand o₁ ho₁).merged hmerged

end

/-- Merging composes. If changes can be merged into options, merging further changes into what comes
of it is merging both at once, where the further ones count for options that both name: the same
options come of it, or the same objections. Merging nothing into options that were accepted gives
them back. However often it is attempted to merge something into the options at hand, whether the
attempts fail or not, those that were at hand stay as they are, and all that come of it are one
merge away from the first. -/
theorem merges_compose (function own : String) (r : Registry) (o : Options) :
    (∀ a o', o.mergedBy function [own] r a = .ok o' → ∀ b both,
      (∀ name, both.lookup name = (b.lookup name).or (a.lookup name)) →
        o'.mergedBy function [own] r b = o.mergedBy function [own] r both) ∧
    ((r.get? r.standardName).isSome = true → Obtained r o →
      o.mergedBy function [own] r [] = .ok o) ∧
    ∀ attempts, [o] <+: attempted function own r [o] attempts ∧
      ∀ o' ∈ attempted function own r [o] attempts, Away function own r o o' := by
  refine ⟨fun a o' h b both hboth => mergedBy_mergedBy h hboth, fun hr h => ?_, fun attempts => ?_⟩
  · exact mergedBy_eq_ok_iff.mpr ⟨rfl, h.merged_nil hr⟩
  · have hself : Away function own r o o := ⟨[], fun later => by rw [List.append_nil]⟩
    refine ⟨isPrefix_attempted attempts, away_of_mem_attempted fun o' ho' => ?_⟩
    rw [List.mem_singleton.mp ho']
    exact hself

/-- Nested scanning is asked for, then markers that do not allow it. The second merge is refused as
the merge of both is. -/
theorem merges_compose_unfit :
    let r := Registry.languages "formula" "filter"
    let merge := mergedBy "merged" ["self"] r
    let a : List (String × Given) :=
      [("nested", .value (.text "yes")), ("open", .value (.text "<"))]
    let b : List (String × Given) := [("close", .value (.text "<"))]
    let o := standard r
    let d : Delimiters := ⟨['<'], ['\x7d'], true, by decide, by decide, by decide⟩
    let o' : Options := { o with delimiters := d }
    ofGiven r [] = .ok o ∧ merge a o = .ok o' ∧ merge b o' = merge (b ++ a) o ∧
      merge b o' = .error (.of (.invalidOptions
        [⟨none, .rule "nested scanning needs distinct open and close markers"⟩])) ∧
      merge [] o = .ok o ∧ attempted "merged" "self" r [o] [⟨0, a⟩, ⟨1, b⟩] = [o, o'] ∧
      Away "merged" "self" r o o' := by
  intro r merge a b o d o'
  have hgiven : ofGiven r [] = .ok o := rfl
  have ha : o.mergedBy "merged" ["self"] r a = .ok o' :=
    ofGiven_eq_ok_iff_readFrom.mpr ⟨rfl, rfl, rfl, rfl, rfl, rfl, rfl, by decide +kernel, rfl⟩
  have hb : o'.mergedBy "merged" ["self"] r b = .error (.of (.invalidOptions
    [⟨none, .rule "nested scanning needs distinct open and close markers"⟩])) := rfl
  obtain ⟨hcompose, hnil, hattempts⟩ := merges_compose "merged" "self" r o
  have hall : attempted "merged" "self" r [o] [⟨0, a⟩, ⟨1, b⟩] = [o, o'] := by
    simp [attempted, Attempt.onto, ha, hb]
  refine ⟨hgiven, ha, hcompose a o' ha b (b ++ a) fun _ => List.lookup_append, hb,
    hnil rfl (.given hgiven), hall, ?_⟩
  refine (hattempts [⟨0, a⟩, ⟨1, b⟩]).2 o' ?_
  rw [hall]
  exact List.mem_cons_of_mem _ List.mem_cons_self

end Options

end Splice
