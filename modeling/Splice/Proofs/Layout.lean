import Splice.Proofs.Lines

/-!
# The layout of a template

Seen as a whole, a template is a sequence of characters with blocks in between, and it has lines
that may go through several literals and blocks. `trimmed` says on these lines what trimming is to
do: take the edges off the first and the last line, and the margin off the others. It does not know
of literals; the program, on the other hand, never sees a line that a block interrupts.

This module relates the two views of the edges. On the sequence, the edges are a matter of dropping
at both ends (`trimFront`, `trimBack`), which is what happens to the lines (`openLines_lines`,
`closeLines_lines`) and also what happens to the first and the last literal.
-/

namespace Splice.Margin

open Text

/-- What a template is made of when it is laid out: characters of literal text, and blocks. -/
inductive Item where
  | char (c : Char)
  | block (code : String) (source : Extent)
  deriving DecidableEq, Repr

namespace Item

/-- Only characters indent a line. -/
def isIndent : Item → Bool
  | char c => Text.isIndent c
  | block .. => false

/-- What ends a line. -/
def newline : Item :=
  char '\n'

theorem char_injective : Function.Injective char := fun _ _ h => Item.char.inj h

@[simp] theorem isIndent_newline : newline.isIndent = false := rfl

@[simp] theorem isIndent_block (code : String) (source : Extent) :
    (block code source).isIndent = false := rfl

@[simp] theorem block_ne_newline (code : String) (source : Extent) :
    block code source ≠ newline := by
  simp [newline]

end Item

/-- A line of a layout. -/
abbrev Line := List Item

/-- The characters of a text as items. -/
def chars (text : List Char) : List Item :=
  text.map .char

/-- Segments laid out one after another. -/
def layout : List Segment → List Item
  | [] => []
  | .literal t _ :: rest => chars t.toList ++ layout rest
  | .block c s :: rest => .block c s :: layout rest

/-- The lines of a layout; there is always at least one. -/
def lines (items : List Item) : List Line :=
  items.splitOn .newline

/-- The layout with these lines. -/
def unlines (ls : List Line) : List Item :=
  [Item.newline].intercalate ls

/-! ## What trimming does to lines -/

/-- Takes the indentation of the first line away, and the line if it is then empty and another one
follows. The second component says that the line went. -/
def openLines : List Line → List Line × Bool
  | [] => ([], false)
  | l :: ls =>
    if l.dropWhile Item.isIndent = [] ∧ ls ≠ [] then (ls, true)
    else (l.dropWhile Item.isIndent :: ls, false)

/-- Takes the indentation behind the last line away, and the line if it is then empty and another
one precedes it. -/
def closeLines (ls : List Line) : List Line :=
  match ls.getLast? with
  | none => []
  | some l =>
    if l.rdropWhile Item.isIndent = [] ∧ 1 < ls.length then ls.dropLast
    else ls.dropLast ++ [l.rdropWhile Item.isIndent]

/-- How far a line is indented. -/
def indentation (l : Line) : Nat :=
  (l.takeWhile Item.isIndent).length

/-- The least indentation of the lines that hold anything besides indentation. -/
def marginOf (ls : List Line) : Option Nat :=
  ((ls.filter fun l => !l.all Item.isIndent).map indentation).min?

/-- Takes at most `margin` characters of indentation off a line. -/
def outdent (margin : Nat) (l : Line) : Line :=
  l.drop (min margin (indentation l))

/-- Takes their margin off some lines. -/
def outdentAll (ls : List Line) : List Line :=
  match marginOf ls with
  | none => ls
  | some margin => ls.map (outdent margin)

/-- A layout without the layout around it: the edges of the first and the last line are taken off,
and then the margin of all lines, or of all but the first if that one was kept. -/
def trimmed (items : List Item) : List Item :=
  let (ls, opened) := openLines (lines items)
  let ls := closeLines ls
  unlines (if opened then outdentAll ls else ls.take 1 ++ outdentAll (ls.drop 1))

/-! ## The edges of a layout -/

/-- Takes the indentation in front of a layout away, and a line break that follows. -/
def trimFront (items : List Item) : List Item × Bool :=
  match items.dropWhile Item.isIndent with
  | .char '\n' :: rest => (rest, true)
  | rest => (rest, false)

/-- Takes the indentation behind a layout away, and a line break that precedes. -/
def trimBack (items : List Item) : List Item :=
  let kept := items.rdropWhile Item.isIndent
  if kept.getLast? = some .newline then kept.dropLast else kept

theorem lines_ne_nil (items : List Item) : lines items ≠ [] :=
  List.splitOn_ne_nil _ items

theorem lines_newline (items : List Item) : lines (.newline :: items) = [] :: lines items := by
  rw [lines, List.splitOn_cons_eq_if_modifyHead, if_pos (by simp)]
  rfl

theorem lines_cons {x : Item} (hx : x ≠ .newline) (items : List Item) :
    lines (x :: items) = (lines items).modifyHead (x :: ·) := by
  rw [lines, List.splitOn_cons_eq_if_modifyHead, if_neg (by simpa using hx)]
  rfl

theorem unlines_lines (items : List Item) : unlines (lines items) = items :=
  List.intercalate_splitOn _

theorem openLines_lines (items : List Item) :
    openLines (lines items) = (lines (trimFront items).1, (trimFront items).2) := by
  induction items with
  | nil => rfl
  | cons x items ih =>
    by_cases hn : x = .newline
    · subst hn
      rw [lines_newline, openLines, if_pos ⟨rfl, lines_ne_nil items⟩]
      rfl
    · obtain ⟨l, ls, hl⟩ := List.exists_cons_of_ne_nil (lines_ne_nil items)
      rw [lines_cons hn, hl, List.modifyHead_cons]
      by_cases hi : x.isIndent = true
      · have hfront : trimFront (x :: items) = trimFront items := by
          rw [trimFront, List.dropWhile_cons_of_pos hi]
          rfl
        rw [hfront, ← ih, hl, openLines, openLines, List.dropWhile_cons_of_pos hi]
      · have hfront : trimFront (x :: items) = (x :: items, false) := by
          rw [trimFront, List.dropWhile_cons_of_neg hi]
          split
          · rename_i rest e
            exact absurd (List.cons.inj e).1 hn
          · rfl
        rw [hfront, openLines, List.dropWhile_cons_of_neg hi, if_neg (by simp), lines_cons hn, hl,
          List.modifyHead_cons]

/-- The last line of a layout with one more item behind it. -/
theorem lines_append_singleton {x : Item} (hx : x ≠ .newline) (items : List Item) :
    ∃ ls l, lines items = ls ++ [l] ∧ lines (items ++ [x]) = ls ++ [l ++ [x]] := by
  obtain ⟨ls, l, hl⟩ := (List.eq_nil_or_concat' (lines items)).resolve_left (lines_ne_nil items)
  refine ⟨ls, l, hl, ?_⟩
  have hx' : lines [x] = [[x]] := by
    rw [lines_cons hx]
    rfl
  have happ : lines (items ++ [x]) = glue (lines items) (lines [x]) :=
    splitOn_append _ items [x]
  rw [happ, hl, hx']
  clear hl happ
  induction ls with
  | nil => rfl
  | cons l' ls ih => rw [List.cons_append, glue_cons (by simp), ih]; rfl

theorem closeLines_lines (items : List Item) :
    closeLines (lines items) = lines (trimBack items) := by
  induction items using List.reverseRecOn with
  | nil => rfl
  | append_singleton items x ih =>
    by_cases hn : x = .newline
    · subst hn
      have hlines : lines (items ++ [.newline]) = lines items ++ [[]] :=
        List.splitOn_append_cons_self items []
      have hlength := List.length_pos_iff.mpr (lines_ne_nil items)
      have hback : trimBack (items ++ [.newline]) = items := by
        simp [trimBack]
      rw [hlines, hback, closeLines, List.getLast?_concat]
      simp [hlength]
    · obtain ⟨ls, l, hl, hx⟩ := lines_append_singleton hn items
      by_cases hi : x.isIndent = true
      · have hback : trimBack (items ++ [x]) = trimBack items := by
          rw [trimBack, List.rdropWhile_concat_pos _ _ _ hi]
          rfl
        rw [hback, ← ih, hl, hx, closeLines, closeLines]
        simp [List.rdropWhile_concat_pos _ _ _ hi]
      · have hback : trimBack (items ++ [x]) = items ++ [x] := by
          simp [trimBack, List.rdropWhile_concat_neg _ _ _ hi, hn]
        rw [hback, hx, closeLines]
        simp [List.rdropWhile_concat_neg _ _ _ hi]

/-! ## The edges of literals -/

/-- The end of a template, or a place where a block begins: literal text does not go on here. -/
def Blocked (items : List Item) : Prop :=
  items = [] ∨ ∃ code source rest, items = .block code source :: rest

theorem blocked_nil : Blocked [] := .inl rfl

theorem blocked_block (code : String) (source : Extent) (rest : List Item) :
    Blocked (.block code source :: rest) :=
  .inr ⟨code, source, rest, rfl⟩

/-- Literal text in front of such a place is as long as it is. -/
theorem chars_append_inj {t t' : List Char} {xs ys : List Item} (hx : Blocked xs) (hy : Blocked ys)
    (h : chars t ++ xs = chars t' ++ ys) : t = t' ∧ xs = ys := by
  induction t generalizing t' with
  | nil =>
    cases t' with
    | nil => exact ⟨rfl, h⟩
    | cons c t' => rcases hx with rfl | ⟨code, source, rest, rfl⟩ <;> simp [chars] at h
  | cons c t ih =>
    cases t' with
    | nil => rcases hy with rfl | ⟨code, source, rest, rfl⟩ <;> simp [chars] at h
    | cons c' t' =>
      obtain ⟨hc, h⟩ := List.cons.inj h
      obtain ⟨rfl, rfl⟩ := ih h
      rw [Item.char.inj hc]
      exact ⟨rfl, rfl⟩

theorem dropWhile_chars (t : List Char) :
    (chars t).dropWhile Item.isIndent = chars (t.dropWhile isIndent) := by
  rw [chars, List.dropWhile_map]
  rfl

theorem rdropWhile_chars (t : List Char) :
    (chars t).rdropWhile Item.isIndent = chars (dropEndWhile isIndent t) := by
  rw [chars, List.rdropWhile, ← List.map_reverse, List.dropWhile_map, ← List.map_reverse]
  rfl

theorem dropWhile_chars_append (t : List Char) {items : List Item} (h : Blocked items) :
    (chars t ++ items).dropWhile Item.isIndent = chars (t.dropWhile isIndent) ++ items := by
  have hitems : items.dropWhile Item.isIndent = items := by
    rcases h with rfl | ⟨code, source, rest, rfl⟩ <;> rfl
  rw [List.dropWhile_append, dropWhile_chars, hitems]
  cases t.dropWhile isIndent <;> rfl

/-- The front of a layout that begins with a literal is the front of the literal. -/
theorem trimFront_chars_append (t : List Char) {items : List Item} (h : Blocked items) :
    trimFront (chars t ++ items) = (chars (trimStart t).1 ++ items, (trimStart t).2) := by
  rw [trimFront, trimStart, dropWhile_chars_append t h]
  cases t.dropWhile isIndent with
  | nil => rcases h with rfl | ⟨code, source, rest, rfl⟩ <;> rfl
  | cons x rest =>
    by_cases hx : x = '\n'
    · subst hx
      rfl
    · split
      · rename_i e
        exact absurd (Item.char.inj (List.cons.inj e).1) hx
      · split
        · rename_i e
          exact absurd (List.cons.inj e).1 hx
        · rfl

/-- The back of a layout that ends with a literal is the back of the literal. -/
theorem trimBack_chars (t : List Char) : trimBack (chars t) = chars (trimEnd t) := by
  have hlast : ∀ kept : List Char,
      (chars kept).getLast? = some .newline ↔ kept.getLast? = some '\n' := by
    intro kept
    rw [chars, List.getLast?_map]
    cases kept.getLast? <;> simp [Item.newline]
  simp only [trimBack, trimEnd, rdropWhile_chars, hlast]
  split
  · rw [chars, chars, List.map_dropLast]
  · rfl

/-- What stands in front of a block is not at the back of the layout. -/
theorem trimBack_append_block (items : List Item) (code : String) (source : Extent)
    (rest : List Item) :
    trimBack (items ++ .block code source :: rest) =
      items ++ .block code source :: trimBack rest := by
  have hdrop : (items ++ .block code source :: rest).rdropWhile Item.isIndent =
      items ++ .block code source :: rest.rdropWhile Item.isIndent := by
    induction rest using List.reverseRecOn with
    | nil => rw [List.rdropWhile_concat_neg _ _ _ (by simp)]; rfl
    | append_singleton rest x ih =>
      rw [← List.cons_append, ← List.append_assoc, List.rdropWhile_concat, List.rdropWhile_concat,
        ih]
      split <;> simp
  rw [trimBack, trimBack, hdrop]
  cases hkept : rest.rdropWhile Item.isIndent with
  | nil => simp
  | cons x kept =>
    rw [List.getLast?_append_cons, List.getLast?_cons_cons]
    split
    · rw [List.dropLast_append_of_ne_nil (by simp), List.dropLast_cons_of_ne_nil (by simp)]
    · rfl

end Splice.Margin
