import Splice.Proofs.Filtering

/-!
# Packing undefined values

A filter expression has a few ways to put an undefined value where nobody sees it: it may be an item
of a list or a tuple that the expression writes, a key or a value of a dictionary, or an option for
`dict`. `Expr.Packs` follows an evaluation and says whether it gets to such a place.

There is no other way. Where nothing undefined is packed, an expression gives something whole, by
induction on the expression (`Expr.whole_eval`).
-/

namespace Splice

namespace Compute

variable {α β : Type} {c : Compute α} {store : Store} {P : α → Prop} {R : β → Prop}

theorem givesIn_pure {a : α} (hstore : store.Solid) (h : P a) :
    (pure a : Compute α).GivesIn store P :=
  gives_pure h hstore

/-- A computation comes to something of which `next` holds, together with the store that it leaves.
-/
def Leads (c : Compute α) (store : Store) (next : α → Store → Prop) : Prop :=
  ∃ a store', c.run.run store = (.ok a, store') ∧ next a store'

/-- What a computation does not lead to may be left out of account in what comes after it. -/
theorem GivesIn.bind_of_not_leads {next : α → Store → Prop} {rest : α → Compute β}
    (h : c.GivesIn store P) (hnot : ¬ c.Leads store next)
    (hrest : ∀ a store', store'.Solid → P a → ¬ next a store' → (rest a).GivesIn store' R) :
    (c >>= rest).GivesIn store R :=
  h.bind fun a store' hrun hstore' ha =>
    hrest a store' hstore' ha fun hnext => hnot ⟨a, store', hrun, hnext⟩

end Compute

open Splice.Compute

namespace Filter

/-- Some object is undefined and good for nothing. -/
def SomeUndefined (os : List Object) : Prop :=
  ∃ o ∈ os, o.value.useless?.isSome = true

theorem solid_of_not_someUndefined {os : List Object} (hos : ∀ o ∈ os, o.value.Whole)
    (h : ¬ SomeUndefined os) : ∀ o ∈ os, o.value.Solid := by
  intro o ho
  refine (hos o ho).solid ?_
  cases huseless : o.value.useless? with
  | none => rfl
  | some why => exact absurd ⟨o, ho, by rw [huseless]; rfl⟩ h

theorem entriesSolid_of_not_someUndefined {es : List (Object × Object)}
    (hes : ∀ e ∈ es, e.1.value.Whole ∧ e.2.value.Whole)
    (h : ¬ SomeUndefined (es.map (·.1) ++ es.map (·.2))) : Value.EntriesSolid es := by
  have hsolid := solid_of_not_someUndefined (List.forall_mem_append.mpr
    ⟨List.forall_mem_map.mpr fun e he => (hes e he).1,
      List.forall_mem_map.mpr fun e he => (hes e he).2⟩) h
  rw [List.forall_mem_append, List.forall_mem_map, List.forall_mem_map] at hsolid
  exact fun e he => ⟨hsolid.1 e he, hsolid.2 e he⟩

namespace Expr

variable (known : String → Option Object)

mutual

/-- Evaluating an expression makes something undefined a part of a list, a tuple or a dictionary. -/
def Packs : Expr → Store → Prop
  | constant _, _ | name _, _ => False
  | list items, s | tuple items, s =>
    PacksAll items s ∨ (evalAll known items).Leads s fun os _ => SomeUndefined os
  | dict entries, s =>
    PacksEntries entries s ∨
      (evalEntries known entries).Leads s fun es _ => SomeUndefined (es.map (·.1) ++ es.map (·.2))
  | choose c yes no, s =>
    Packs c s ∨ (eval known c).Leads s fun o s =>
      (ofFault o.value.truth).Leads s fun b s => if b then Packs yes s else Packs no s
  | provided c yes _, s =>
    Packs c s ∨ (eval known c).Leads s fun o s =>
      (ofFault o.value.truth).Leads s fun b s => b = true ∧ Packs yes s
  | both l r, s =>
    Packs l s ∨ (eval known l).Leads s fun o s =>
      (ofFault o.value.truth).Leads s fun b s => b = true ∧ Packs r s
  | either l r, s =>
    Packs l s ∨ (eval known l).Leads s fun o s =>
      (ofFault o.value.truth).Leads s fun b s => b = false ∧ Packs r s
  | compare first rest, s =>
    Packs first s ∨ (eval known first).Leads s fun o s => PacksChain o rest s
  | binary _ l r, s | subscript l r, s =>
    Packs l s ∨ (eval known l).Leads s fun _ s => Packs r s
  | negation e, s | negative e, s | member e _, s => Packs e s
  | joined parts, s => PacksAll parts s
  | call f args options, s =>
    Packs f s ∨ (eval known f).Leads s fun callee s =>
      PacksAll args s ∨ (evalAll known args).Leads s fun _ s =>
        PacksOptions options s ∨ (evalOptions known options).Leads s fun given _ =>
          callee.value = .type "dict" ∧ SomeUndefined (given.map (·.2))
  | filtered e _ args options, s | tested e _ args options, s =>
    Packs e s ∨ (eval known e).Leads s fun _ s =>
      PacksAll args s ∨ (evalAll known args).Leads s fun _ s => PacksOptions options s

def PacksAll : List Expr → Store → Prop
  | [], _ => False
  | e :: es, s => Packs e s ∨ (eval known e).Leads s fun _ s => PacksAll es s

def PacksEntries : List (Expr × Expr) → Store → Prop
  | [], _ => False
  | (k, v) :: es, s =>
    Packs k s ∨ (eval known k).Leads s fun _ s =>
      Packs v s ∨ (eval known v).Leads s fun _ s => PacksEntries es s

def PacksOptions : List (String × Expr) → Store → Prop
  | [], _ => False
  | (_, e) :: es, s => Packs e s ∨ (eval known e).Leads s fun _ s => PacksOptions es s

/-- The same for a chain of comparisons, which ends at the first that does not hold. -/
def PacksChain : Object → List (Formula.Comparison × Expr) → Store → Prop
  | _, [], _ => False
  | left, (c, e) :: rest, s =>
    Packs e s ∨ (eval known e).Leads s fun right s =>
      (Formula.compareBy Stream.draw c left right).Leads s fun met s =>
        met = true ∧ PacksChain right rest s

end

/-! ## Nothing else makes holes -/

variable {known}

/-- The names stand for whole things. -/
def KnowsWhole (known : String → Option Object) : Prop :=
  ∀ n o, known n = some o → o.value.Whole

mutual

/-- An expression gives something whole of whole things if it packs nothing undefined on the way. -/
theorem whole_eval (hknown : KnowsWhole known) :
    ∀ {e : Expr} {s : Store}, s.Solid → ¬ Packs known e s →
    (eval known e).GivesIn s (·.value.Whole)
  | constant l, s, hs, _ => by
    rw [eval]
    exact givesIn_pure hs (Formula.solid_literal l).whole
  | name n, s, hs, _ => by
    rw [eval]
    refine givesIn_pure hs ?_
    cases hn : known n with
    | none => exact Value.whole_undefined _
    | some o => exact hknown n o hn
  | list items, s, hs, hp => by
    rw [Packs, not_or] at hp
    rw [eval]
    exact (whole_evalAll hknown hs hp.1).bind_of_not_leads hp.2 fun os s hs hos hdefined =>
      (gives_list (solid_of_not_someUndefined hos hdefined) hs).mono fun _ h => h.whole
  | tuple items, s, hs, hp => by
    rw [Packs, not_or] at hp
    rw [eval]
    exact (whole_evalAll hknown hs hp.1).bind_of_not_leads hp.2 fun os s hs hos hdefined =>
      (gives_tuple (solid_of_not_someUndefined hos hdefined) hs).mono fun _ h => h.whole
  | dict entries, s, hs, hp => by
    rw [Packs, not_or] at hp
    rw [eval]
    exact (whole_evalEntries hknown hs hp.1).bind_of_not_leads hp.2 fun es s hs hes hdefined =>
      (gives_dict (entriesSolid_of_not_someUndefined hes hdefined) hs).mono fun _ h => h.whole
  | choose c yes no, s, hs, hp => by
    rw [Packs, not_or] at hp
    rw [eval]
    refine (whole_eval hknown hs hp.1).bind_of_not_leads hp.2 fun o s hs _ hp =>
      (gives_any_ofFault _ hs).bind_of_not_leads hp fun b s hs _ hp => ?_
    split
    · rename_i hb
      rw [if_pos hb] at hp
      exact whole_eval hknown hs hp
    · rename_i hb
      rw [if_neg hb] at hp
      exact whole_eval hknown hs hp
  | provided c yes line, s, hs, hp => by
    rw [Packs, not_or] at hp
    rw [eval]
    refine (whole_eval hknown hs hp.1).bind_of_not_leads hp.2 fun o s hs _ hp =>
      (gives_any_ofFault _ hs).bind_of_not_leads hp fun b s hs _ hp => ?_
    split
    · rename_i hb
      exact whole_eval hknown hs fun h => hp ⟨hb, h⟩
    · exact givesIn_pure hs (Value.whole_undefined _)
  | both l r, s, hs, hp => by
    rw [Packs, not_or] at hp
    rw [eval]
    refine (whole_eval hknown hs hp.1).bind_of_not_leads hp.2 fun o s hs ho hp =>
      (gives_any_ofFault _ hs).bind_of_not_leads hp fun b s hs _ hp => ?_
    split
    · rename_i hb
      exact whole_eval hknown hs fun h => hp ⟨hb, h⟩
    · exact givesIn_pure hs ho
  | either l r, s, hs, hp => by
    rw [Packs, not_or] at hp
    rw [eval]
    refine (whole_eval hknown hs hp.1).bind_of_not_leads hp.2 fun o s hs ho hp =>
      (gives_any_ofFault _ hs).bind_of_not_leads hp fun b s hs _ hp => ?_
    split
    · exact givesIn_pure hs ho
    · rename_i hb
      exact whole_eval hknown hs fun h => hp ⟨by simpa using hb, h⟩
  | negation e, s, hs, hp => by
    rw [Packs] at hp
    rw [eval]
    exact (whole_eval hknown hs hp).bind fun o s _ hs _ =>
      (gives_any_ofFault _ hs).bind fun b s _ hs _ =>
        givesIn_pure hs (Value.whole_of_parts_eq_nil rfl)
  | compare first rest, s, hs, hp => by
    rw [Packs, not_or] at hp
    rw [eval]
    exact (whole_eval hknown hs hp.1).bind_of_not_leads hp.2 fun o s hs ho hp =>
      whole_evalChain hknown ho hs hp
  | binary op l r, s, hs, hp => by
    rw [Packs, not_or] at hp
    rw [eval]
    exact (whole_eval hknown hs hp.1).bind_of_not_leads hp.2 fun a s hs ha hp =>
      (whole_eval hknown hs hp).bind fun b s _ hs hb =>
        (gives_operate Stream.draws op ha hb hs).mono fun _ h => h.whole
  | negative e, s, hs, hp => by
    rw [Packs] at hp
    rw [eval]
    exact (whole_eval hknown hs hp).bind fun o s _ hs _ =>
      (gives_ofFault (Object.solid_neg o) hs).mono fun _ h => h.whole
  | joined parts, s, hs, hp => by
    rw [Packs] at hp
    rw [eval]
    exact (whole_evalAll hknown hs hp).bind fun os s _ hs _ =>
      (gives_texts os hs).bind fun texts s _ hs _ =>
        givesIn_pure hs (Value.whole_of_parts_eq_nil rfl)
  | subscript e index, s, hs, hp => by
    rw [Packs, not_or] at hp
    rw [eval]
    exact (whole_eval hknown hs hp.1).bind_of_not_leads hp.2 fun o s hs ho hp =>
      (whole_eval hknown hs hp).bind fun i s _ hs _ => gives_itemOf ho i hs
  | member e n, s, hs, hp => by
    rw [Packs] at hp
    rw [eval]
    exact (whole_eval hknown hs hp).bind fun o s _ hs ho => gives_memberOf ho n hs
  | call f args options, s, hs, hp => by
    rw [Packs, not_or] at hp
    rw [eval]
    refine (whole_eval hknown hs hp.1).bind_of_not_leads hp.2 fun callee s hs hcallee hp => ?_
    rw [not_or] at hp
    refine (whole_evalAll hknown hs hp.1).bind_of_not_leads hp.2
      fun values s hs hvalues hp => ?_
    rw [not_or] at hp
    -- `dict` is the one thing to be called that takes its options in
    refine (whole_evalOptions hknown hs hp.1).bind_of_not_leads hp.2
      fun given s hs hgiven hp => gives_call hcallee hvalues (fun hdict => ?_) hs
    have hdefined : ¬ SomeUndefined (given.map (·.2)) := fun h => hp ⟨hdict, h⟩
    have hsolid := solid_of_not_someUndefined (List.forall_mem_map.mpr hgiven) hdefined
    exact fun e he => hsolid e.2 (List.mem_map_of_mem he)
  | filtered e f args options, s, hs, hp => by
    rw [Packs, not_or] at hp
    rw [eval]
    refine (whole_eval hknown hs hp.1).bind_of_not_leads hp.2 fun o s hs ho hp => ?_
    rw [not_or] at hp
    exact (whole_evalAll hknown hs hp.1).bind_of_not_leads hp.2 fun values s hs hvalues hp =>
      (whole_evalOptions hknown hs hp).bind fun given s _ hs hgiven =>
        gives_applyFilter f ho hvalues hgiven hs
  | tested e t args options, s, hs, hp => by
    rw [Packs, not_or] at hp
    rw [eval]
    refine (whole_eval hknown hs hp.1).bind_of_not_leads hp.2 fun o s hs ho hp => ?_
    rw [not_or] at hp
    exact (whole_evalAll hknown hs hp.1).bind_of_not_leads hp.2 fun values s hs hvalues hp =>
      (whole_evalOptions hknown hs hp).bind fun given s _ hs hgiven =>
        (gives_applyTest t o.value hvalues hgiven hs).bind fun b s _ hs _ =>
          givesIn_pure hs (Value.whole_of_parts_eq_nil rfl)

theorem whole_evalAll (hknown : KnowsWhole known) :
    ∀ {es : List Expr} {s : Store}, s.Solid →
    ¬ PacksAll known es s → (evalAll known es).GivesIn s fun os => ∀ o ∈ os, o.value.Whole
  | [], s, hs, _ => by
    rw [evalAll]
    exact givesIn_pure hs nofun
  | e :: es, s, hs, hp => by
    rw [PacksAll, not_or] at hp
    rw [evalAll]
    exact (whole_eval hknown hs hp.1).bind_of_not_leads hp.2 fun o s hs ho hp =>
      (whole_evalAll hknown hs hp).bind fun os s _ hs hos =>
        givesIn_pure hs (List.forall_mem_cons.mpr ⟨ho, hos⟩)

theorem whole_evalEntries (hknown : KnowsWhole known) :
    ∀ {es : List (Expr × Expr)} {s : Store}, s.Solid →
    ¬ PacksEntries known es s →
    (evalEntries known es).GivesIn s fun es => ∀ e ∈ es, e.1.value.Whole ∧ e.2.value.Whole
  | [], s, hs, _ => by
    rw [evalEntries]
    exact givesIn_pure hs nofun
  | (k, v) :: es, s, hs, hp => by
    rw [PacksEntries, not_or] at hp
    rw [evalEntries]
    refine (whole_eval hknown hs hp.1).bind_of_not_leads hp.2 fun key s hs hkey hp => ?_
    rw [not_or] at hp
    exact (whole_eval hknown hs hp.1).bind_of_not_leads hp.2 fun value s hs hvalue hp =>
      (whole_evalEntries hknown hs hp).bind fun es s _ hs hes =>
        givesIn_pure hs (List.forall_mem_cons.mpr ⟨⟨hkey, hvalue⟩, hes⟩)

theorem whole_evalOptions (hknown : KnowsWhole known) :
    ∀ {es : List (String × Expr)} {s : Store}, s.Solid → ¬ PacksOptions known es s →
    (evalOptions known es).GivesIn s fun es => ∀ e ∈ es, e.2.value.Whole
  | [], s, hs, _ => by
    rw [evalOptions]
    exact givesIn_pure hs nofun
  | (n, e) :: es, s, hs, hp => by
    rw [PacksOptions, not_or] at hp
    rw [evalOptions]
    exact (whole_eval hknown hs hp.1).bind_of_not_leads hp.2 fun o s hs ho hp =>
      (whole_evalOptions hknown hs hp).bind fun os s _ hs hos =>
        givesIn_pure hs (List.forall_mem_cons.mpr ⟨ho, hos⟩)

theorem whole_evalChain (hknown : KnowsWhole known) :
    ∀ {left : Object} {rest : List (Formula.Comparison × Expr)}
    {s : Store}, left.value.Whole → s.Solid → ¬ PacksChain known left rest s →
    (evalChain known left rest).GivesIn s (·.value.Whole)
  | left, [], s, hleft, hs, _ => by
    rw [evalChain]
    exact givesIn_pure hs hleft
  | left, (c, e) :: rest, s, _, hs, hp => by
    rw [PacksChain, not_or] at hp
    rw [evalChain]
    refine (whole_eval hknown hs hp.1).bind_of_not_leads hp.2 fun right s hs hright hp =>
      (Formula.gives_compareBy Stream.draws c left right hs).bind_of_not_leads hp
        fun met s hs _ hp => ?_
    cases met with
    | true =>
      rw [if_pos rfl]
      split
      · exact givesIn_pure hs (Value.whole_of_parts_eq_nil rfl)
      · exact whole_evalChain hknown hright hs fun h => hp ⟨rfl, h⟩
    | false => exact givesIn_pure hs (Value.whole_of_parts_eq_nil rfl)

end

end Expr

end Filter

end Splice
