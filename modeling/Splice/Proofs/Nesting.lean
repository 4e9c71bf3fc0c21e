import Splice.Proofs.Written

/-!
# Blocks that nest

With nesting, a block is read by counting markers, and what stands in quotes does not count. The
code that can be read like this is given by a grammar, `Balanced`, in which a block holds plain
characters, quoted texts and further blocks. The scan carries a depth and a quote instead; `Pending`
says what such a state still has to read: the rest of a balanced code for each block that is open.

`nestedBody_balanced` reads balanced code whatever stands behind it, and `nestedBody_spec` finds the
grammar in whatever was read. Together they give `scan_iff_nested`.
-/

namespace Splice.Delimiters

open Passage

/-! ## The grammar -/

/-- What can stand between two quotes `q`: no such quote and no backslash, except for a backslash
together with the character behind it. -/
inductive Enclosed (q : Char) : List Char → Prop where
  | nil : Enclosed q []
  | plain {x : Char} {t : List Char} : x ≠ q → x ≠ '\\' → Enclosed q t → Enclosed q (x :: t)
  | escaped (x : Char) {t : List Char} : Enclosed q t → Enclosed q ('\\' :: x :: t)

/-- Code in which blocks are closed and quoted texts are ended. -/
inductive Balanced (o c : Char) : List Char → Prop where
  | nil : Balanced o c []
  | plain {x : Char} {s : List Char} :
    isQuote x = false → x ≠ o → x ≠ c → Balanced o c s → Balanced o c (x :: s)
  | quoted {q : Char} {t s : List Char} :
    isQuote q = true → Enclosed q t → Balanced o c s → Balanced o c (q :: (t ++ q :: s))
  | block {b s : List Char} : Balanced o c b → Balanced o c s → Balanced o c (o :: (b ++ c :: s))

/-- What is left of a code at a depth: balanced code for each block that is open. -/
def Pending (o c : Char) : Nat → List Char → Prop
  | 0, s => Balanced o c s
  | k + 1, s => ∃ b r, s = b ++ c :: r ∧ Balanced o c b ∧ Pending o c k r

/-- What is left of a code at a depth, inside the given quote or outside quotes. -/
def Remaining (o c : Char) (depth : Nat) : Option Char → List Char → Prop
  | none, s => Pending o c depth s
  | some q, s => ∃ t r, s = t ++ q :: r ∧ Enclosed q t ∧ Pending o c depth r

/-- Whatever can be put in front of balanced code can be put in front of what is left. -/
theorem Pending.append {o c : Char} {a : List Char}
    (ha : ∀ s, Balanced o c s → Balanced o c (a ++ s)) {depth : Nat} {s : List Char}
    (hs : Pending o c depth s) : Pending o c depth (a ++ s) := by
  cases depth with
  | zero => exact ha s hs
  | succ k =>
    obtain ⟨b, r, rfl, hb, hr⟩ := hs
    exact ⟨a ++ b, r, by simp, ha b hb, hr⟩

/-- A block that is open becomes a part of the code around it. -/
theorem Pending.opening {o c : Char} {depth : Nat} {s : List Char}
    (hs : Pending o c (depth + 1) s) : Pending o c depth (o :: s) := by
  obtain ⟨b, r, rfl, hb, hr⟩ := hs
  have hblock : ∀ s, Balanced o c s → Balanced o c ((o :: (b ++ [c])) ++ s) := by
    intro s hs
    simpa using Balanced.block hb hs
  simpa using hr.append hblock

theorem ne_backslash_of_isQuote {q : Char} (hq : isQuote q = true) : q ≠ '\\' := by
  rintro rfl
  exact absurd hq (by decide)

section

variable {o c : Char} (h : o ≠ c)

include h

/-! ## Reading balanced code -/

/-- A quoted text is read up to its end. -/
theorem nestedBody_enclosed {q : Char} (hq : isQuote q = true) {t : List Char}
    (ht : Enclosed q t) (depth : Nat) (r : List Char) :
    (pair o c true h).nestedBody depth (some q) (t ++ q :: r) =
      ((pair o c true h).nestedBody depth none r).cons (t ++ [q]) (t ++ [q]) := by
  induction ht with
  | nil =>
    rw [List.nil_append, nestedBody_quoted _ _ _ (ne_backslash_of_isQuote hq), if_pos rfl]
    rfl
  | plain hxq hxb _ ih =>
    rw [List.cons_append, nestedBody_quoted _ _ _ hxb, if_neg hxq, ih, Body.cons_cons]
    rfl
  | escaped x _ ih =>
    rw [List.cons_append, List.cons_append, nestedBody_backslash, ih, Body.cons_cons]
    rfl

variable (ho : isQuote o = false) (hc : isQuote c = false)

include ho hc

/-- Balanced code is read as it stands at any depth, whatever stands behind it. -/
theorem nestedBody_balanced {b : List Char} (hb : Balanced o c b) (depth : Nat) (r : List Char) :
    (pair o c true h).nestedBody depth none (b ++ r) =
      ((pair o c true h).nestedBody depth none r).cons b b := by
  induction hb generalizing depth r with
  | nil => rw [List.nil_append, Body.cons_nil]
  | @plain x s hx hxo hxc _ ih =>
    rw [List.cons_append, nestedBody_cons _ _ hx, closing_pair, opening_pair,
      after?_singleton_of_ne hxc, after?_singleton_of_ne hxo]
    simp only [ih, Body.cons_cons, List.singleton_append]
  | @quoted q t s hq ht _ ih =>
    rw [List.cons_append, List.append_assoc, List.cons_append, nestedBody_quote _ _ hq,
      nestedBody_enclosed h hq ht, ih, Body.cons_cons, Body.cons_cons]
    simp
  | @block b s _ _ ihb ihs =>
    rw [List.cons_append, List.append_assoc, List.cons_append, nestedBody_cons _ _ ho,
      closing_pair, opening_pair, after?_singleton_of_ne h, after?_singleton_self]
    simp only [ihb]
    rw [nestedBody_cons _ _ hc, closing_pair, after?_singleton_self]
    simp only [ihs, Body.cons_cons]
    simp

/-- Balanced code before a closing marker is the code of the block. -/
theorem nestedBody_balanced_closing {b : List Char} (hb : Balanced o c b) (rest : List Char) :
    (pair o c true h).nestedBody 0 none (b ++ c :: rest) = .closed b (b ++ [c]) rest := by
  rw [nestedBody_balanced h ho hc hb, nestedBody_cons _ _ hc, closing_pair, after?_singleton_self]
  simp [Body.cons]

/-- The code of a block ends at one place only. -/
theorem balanced_closing_unique {b b' r r' : List Char} (hb : Balanced o c b)
    (hb' : Balanced o c b') (e : b ++ c :: r = b' ++ c :: r') : b = b' ∧ r = r' := by
  have hread := nestedBody_balanced_closing h ho hc hb r
  rw [e, nestedBody_balanced_closing h ho hc hb'] at hread
  simp only [Body.closed.injEq] at hread
  exact ⟨hread.1.symm, hread.2.2.symm⟩

omit ho hc

/-! ## What was read -/

/-- A block that is closed from some depth and quote had the code that was left to read there. -/
theorem nestedBody_spec {depth : Nat} {q : Option Char} {s k raw rest : List Char}
    (hs : (pair o c true h).nestedBody depth q s = .closed k raw rest)
    (hq : ∀ x ∈ q, isQuote x = true) :
    raw = k ++ [c] ∧ Remaining o c depth q k := by
  fun_induction nestedBody (pair o c true h) depth q s generalizing k raw rest with
  | case1 => simp at hs
  | case2 => simp at hs
  | case3 depth q x t ih =>
    -- a backslash inside quotes, with the character behind it
    obtain ⟨k', raw', hb, rfl, rfl⟩ := Body.cons_eq_closed.mp hs
    obtain ⟨rfl, t', r, rfl, ht, hr⟩ := ih hb hq
    exact ⟨by simp, '\\' :: x :: t', r, by simp, .escaped x ht, hr⟩
  | case4 depth q x s hx ih =>
    -- inside quotes: the quote that ends them, or any other character
    obtain ⟨k', raw', hb, rfl, rfl⟩ := Body.cons_eq_closed.mp hs
    by_cases hxq : x = q
    · subst hxq
      rw [if_pos rfl] at hb
      rw [dif_pos rfl] at ih
      obtain ⟨rfl, hr⟩ := ih hb (by simp)
      exact ⟨by simp, [], k', by simp, .nil, hr⟩
    · rw [if_neg hxq] at hb
      rw [dif_neg hxq] at ih
      obtain ⟨rfl, t', r, rfl, ht, hr⟩ := ih hb hq
      exact ⟨by simp, x :: t', r, by simp, .plain hxq hx ht, hr⟩
  | case5 depth x s hx ih =>
    -- a quote begins: the quoted text and the code behind it come from the induction hypothesis
    obtain ⟨k', raw', hb, rfl, rfl⟩ := Body.cons_eq_closed.mp hs
    obtain ⟨rfl, t', r, rfl, ht, hr⟩ := ih hb (by simpa using hx)
    have hquoted : ∀ s, Balanced o c s → Balanced o c ((x :: (t' ++ [x])) ++ s) := by
      intro s hs
      simpa using Balanced.quoted hx ht hs
    exact ⟨by simp, by simpa [Remaining] using hr.append hquoted⟩
  | case6 x s hx r hr =>
    simp only [Body.closed.injEq] at hs
    obtain ⟨rfl, rfl, -⟩ := hs
    exact ⟨rfl, .nil⟩
  | case7 x s hx r hr depth ih =>
    -- a block inside is closed: nothing more is pending for it
    obtain ⟨k', raw', hb, rfl, rfl⟩ := Body.cons_eq_closed.mp hs
    obtain ⟨rfl, hk⟩ := ih hb (by simp)
    exact ⟨by simp, [], k', rfl, .nil, hk⟩
  | case8 depth x s hx _ r hr ih =>
    -- a block inside begins
    obtain ⟨k', raw', hb, rfl, rfl⟩ := Body.cons_eq_closed.mp hs
    obtain ⟨rfl, hk⟩ := ih hb (by simp)
    exact ⟨by simp, Pending.opening hk⟩
  | case9 depth x s hx hxc hxo ih =>
    -- any other character
    obtain ⟨k', raw', hb, rfl, rfl⟩ := Body.cons_eq_closed.mp hs
    obtain ⟨rfl, hk⟩ := ih hb (by simp)
    rw [opening_pair, after?_singleton_eq_none] at hxo
    rw [closing_pair, after?_singleton_eq_none] at hxc
    have hplain : ∀ s, Balanced o c s → Balanced o c ([x] ++ s) := fun s hs =>
      .plain (by simpa using hx) (by simpa using hxo) (by simpa using hxc) hs
    exact ⟨by simp, hk.append hplain⟩

/-! ## Blocks and whole templates -/

include ho hc

/-- Reading blocks with nesting. -/
theorem nestedGrammar : BlockGrammar true h id
    (fun k => Balanced o c k ∧ k.head? ≠ some o) (fun _ => True) where
  closed_iff := by
    intro s k raw rest hs
    have hbody : (pair o c true h).body s = (pair o c true h).nestedBody 0 none s := rfl
    rw [hbody]
    constructor
    · intro hb
      have happ := nestedBody_append hb
      obtain ⟨rfl, hk⟩ := nestedBody_spec h hb (by simp)
      rw [List.append_assoc, List.singleton_append] at happ
      refine ⟨⟨hk, ?_⟩, trivial, rfl, happ.symm⟩
      rintro hhead
      obtain ⟨k, rfl⟩ := List.head?_eq_some_iff.mp hhead
      simp [← happ] at hs
    · rintro ⟨⟨hk, -⟩, -, rfl, rfl⟩
      exact nestedBody_balanced_closing h ho hc hk rest
  head?_ne := by
    rintro k rest ⟨-, hk⟩
    cases k with
    | nil => simpa using h.symm
    | cons x k => simpa using hk
  after_nil := trivial
  after_opening := fun _ => trivial
  after_doubled := fun _ _ => Iff.rfl

/-- A block at `position`, of which `s` stands behind the opening marker, is closed if and only if
`s` begins with balanced code and a closing marker. -/
theorem blockStep_eq_segment_iff {position : Nat} {s rest : List Char} {seg : Segment} :
    (pair o c true h).blockStep position s = .segment seg rest ↔
      ∃ b, Balanced o c b ∧ s = b ++ c :: rest ∧
        seg = .block (String.ofList b)
          ⟨String.ofList (o :: (b ++ [c])), ⟨position, position + b.length + 2⟩⟩ := by
  have hplace : ∀ b : List Char, Extent.at position (o :: (b ++ [c])) =
      ⟨String.ofList (o :: (b ++ [c])), ⟨position, position + b.length + 2⟩⟩ := by
    intro b
    simp [Extent.at]
    omega
  constructor
  · intro hs
    obtain ⟨k, raw, hb, rfl⟩ := closed_of_blockStep h hs
    have hread : (pair o c true h).nestedBody 0 none s = .closed k raw rest := hb
    have happ := nestedBody_append hread
    obtain ⟨rfl, hk⟩ := nestedBody_spec h hread (by simp)
    exact ⟨k, hk, by simpa using happ.symm, by rw [hplace]⟩
  · rintro ⟨b, hb, rfl, rfl⟩
    have hread : (pair o c true h).body (b ++ c :: rest) = .closed b (b ++ [c]) rest :=
      nestedBody_balanced_closing h ho hc hb rest
    rw [← hplace]
    exact blockStep_closed h hread position

/-- A block that is not closed fails, at its opening marker. -/
theorem blockStep_eq_failed {position : Nat} {s : List Char}
    (hs : ¬ ∃ b rest, Balanced o c b ∧ s = b ++ c :: rest) :
    (pair o c true h).blockStep position s =
      .failed (.unmatched position (String.singleton o)) := by
  cases hb : (pair o c true h).body s with
  | closed k raw rest =>
    have hsegment := blockStep_closed h hb position
    obtain ⟨b, hbal, e, -⟩ := (blockStep_eq_segment_iff h ho hc).mp hsegment
    exact absurd ⟨b, rest, hbal, e⟩ hs
  | unclosed =>
    rw [blockStep, hb, String.singleton_eq_ofList]
    rfl
  | opened k => exact absurd hb (nestedBody_ne_opened _ 0 none s k)

end

/-- Passages that can be told from how they are written with blocks that nest: no literal is empty,
every code is balanced and does not begin with the opening marker, and no literal follows a
literal. -/
def Nestable (o c : Char) : List Passage → Prop :=
  Canonical (fun k => Balanced o c k ∧ k.head? ≠ some o) (fun _ => True)

/-- Passages one after another with the markers doubled in literal text and code as it stands. -/
def enclosed (o c : Char) (ps : List Passage) : String :=
  String.ofList (writtenAll o c id ps)

/-- Two different characters that are no quotes are accepted as markers of blocks that nest. A block
at `position`, of which `s` stands behind the opening marker, is closed if and only if `s` begins
with balanced code and a closing marker; that code is unique, and the block is otherwise unmatched.
Hence a template scans if and only if it is written from passages with balanced codes, and it comes
back as these passages, which are unique. -/
theorem scan_iff_nested {o c : Char} (h : o ≠ c) (ho : isQuote o = false) (hc : isQuote c = false) :
    make? (String.singleton o) (String.singleton c) true = .ok (pair o c true h) ∧
      (∀ position s seg rest,
        (pair o c true h).blockStep position s = .segment seg rest ↔
          ∃ b, Balanced o c b ∧ s = b ++ c :: rest ∧
            seg = .block (String.ofList b)
              ⟨String.ofList (o :: (b ++ [c])), ⟨position, position + b.length + 2⟩⟩) ∧
      (∀ b b' r r', Balanced o c b → Balanced o c b' → b ++ c :: r = b' ++ c :: r' →
        b = b' ∧ r = r') ∧
      (∀ position s, (¬ ∃ b rest, Balanced o c b ∧ s = b ++ c :: rest) →
        (pair o c true h).blockStep position s =
          .failed (.unmatched position (String.singleton o))) ∧
      (∀ ps, Nestable o c ps →
        (pair o c true h).scan (enclosed o c ps) = ⟨placed o c id 0 ps, none⟩) ∧
      (∀ template segs, ((pair o c true h).scan template).result = .ok segs →
        Nestable o c (segs.map Segment.passage) ∧
          enclosed o c (segs.map Segment.passage) = template) ∧
      ∀ template, (∃ segs, ((pair o c true h).scan template).result = .ok segs) ↔
        ∃! ps, Nestable o c ps ∧ enclosed o c ps = template :=
  ⟨make?_pair true h, fun _ _ _ _ => blockStep_eq_segment_iff h ho hc,
    fun _ _ _ _ hb hb' e => balanced_closing_unique h ho hc hb hb' e,
    fun _ _ hs => blockStep_eq_failed h ho hc hs, (nestedGrammar h ho hc).scan_iff_written⟩

/-- A quoted text hides a closing marker and an escaped quote, and a literal behind a block may
begin with a closing marker. -/
theorem scan_quoted_marker :
    '<' ≠ '>' ∧ isQuote '<' = false ∧ isQuote '>' = false ∧
      Nestable '<' '>' [.literal ['x', '<'], .block "a<'\\'>'>b".toList, .literal ['>']] ∧
      (pair '<' '>' true (by decide)).scan "x<<<a<'\\'>'>b>>>" =
        ⟨[.literal "x<" ⟨"x<<", ⟨0, 3⟩⟩, .block "a<'\\'>'>b" ⟨"<a<'\\'>'>b>", ⟨3, 14⟩⟩,
          .literal ">" ⟨">>", ⟨14, 16⟩⟩], none⟩ := by
  have hcode : Balanced '<' '>' ['a', '<', '\'', '\\', '\'', '>', '\'', '>', 'b'] := by
    refine .plain rfl (by decide) (by decide) (.block (b := ['\'', '\\', '\'', '>', '\'']) ?_ ?_)
    · exact .quoted (t := ['\\', '\'', '>']) rfl
        (.escaped _ (.plain (by decide) (by decide) .nil)) .nil
    · exact .plain rfl (by decide) (by decide) .nil
  have hps : Nestable '<' '>' [.literal ['x', '<'], .block "a<'\\'>'>b".toList, .literal ['>']] :=
    ⟨by simp, by simpa using hcode, by simp [Follows]⟩
  exact ⟨by decide, rfl, rfl, hps, (scan_iff_nested (by decide) rfl rfl).2.2.2.2.1 _ hps⟩

end Splice.Delimiters
