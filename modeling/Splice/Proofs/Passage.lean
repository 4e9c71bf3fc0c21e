import Mathlib.Data.List.Chain
import Splice.Segment

/-!
# Passages

A passage is a segment without its place: literal text, or the code of a block. With markers of one
character each, a template can be written from passages, literal text with every marker doubled and
code between two markers. How the code itself is spelled is left open (`spell`), because blocks that
nest spell it as it stands and blocks that do not double the markers in it.

Not every list of passages can be told from how it is written. `Canonical` are those that can, given
which codes can be read (`Code`) and how a literal behind a block may begin (`After`).
-/

namespace Splice

/-- What a segment says, without the place that it was read from. -/
inductive Passage where
  | literal (text : List Char)
  | block (code : List Char)
  deriving DecidableEq, Repr

/-- A segment without its place. -/
def Segment.passage : Segment → Passage
  | .literal t _ => .literal t.toList
  | .block c _ => .block c.toList

namespace Passage

/-- The segment that says this, read from `raw` at `start`. -/
def readFrom (start : Nat) (raw : List Char) : Passage → Segment
  | literal t => .literal (String.ofList t) (.at start raw)
  | block c => .block (String.ofList c) (.at start raw)

@[simp] theorem passage_readFrom (start : Nat) (raw : List Char) (x : Passage) :
    (x.readFrom start raw).passage = x := by
  cases x <;> simp [readFrom, Segment.passage]

@[simp] theorem stop_readFrom (start : Nat) (raw : List Char) (x : Passage) :
    (x.readFrom start raw).source.span.stop.toNat = start + raw.length := by
  cases x <;> simp [readFrom, Segment.source, Extent.at] <;> omega

/-- A text with both markers doubled wherever they occur. -/
def doubled (o c : Char) (text : List Char) : List Char :=
  text.flatMap fun x => if x = o ∨ x = c then [x, x] else [x]

/-- How a passage is written, given how the code of blocks is spelled. -/
def written (o c : Char) (spell : List Char → List Char) : Passage → List Char
  | literal t => doubled o c t
  | block k => o :: (spell k ++ [c])

/-- How passages are written one after another. -/
def writtenAll (o c : Char) (spell : List Char → List Char) (ps : List Passage) : List Char :=
  ps.flatMap (written o c spell)

/-- The segments that passages written one after another make, the first of them at `start`. -/
def placed (o c : Char) (spell : List Char → List Char) : Nat → List Passage → List Segment
  | _, [] => []
  | start, x :: xs =>
    x.readFrom start (x.written o c spell) ::
      placed o c spell (start + (x.written o c spell).length) xs

/-- What may follow what: no literal follows a literal, and only some follow a block. -/
def Follows (After : List Char → Prop) : Passage → Passage → Prop
  | literal _, literal _ => False
  | block _, literal t => After t
  | _, block _ => True

/-- Passages that can be told apart once they are written: no literal is empty, every code can be
read, and no literal follows another one or, behind a block, begins in a way that it may not. -/
structure Canonical (Code After : List Char → Prop) (ps : List Passage) : Prop where
  literals : ∀ t, literal t ∈ ps → t ≠ []
  codes : ∀ k, block k ∈ ps → Code k
  neighbours : ps.IsChain (Follows After)

variable {o c : Char} {spell : List Char → List Char} {Code After : List Char → Prop}

@[simp] theorem doubled_nil : doubled o c [] = [] := rfl

theorem doubled_cons_marker {x : Char} (h : x = o ∨ x = c) (t : List Char) :
    doubled o c (x :: t) = x :: x :: doubled o c t := by
  simp [doubled, h]

theorem doubled_cons_plain {x : Char} (ho : x ≠ o) (hc : x ≠ c) (t : List Char) :
    doubled o c (x :: t) = x :: doubled o c t := by
  simp [doubled, ho, hc]

/-- Doubling keeps the first character. -/
theorem head?_doubled (t : List Char) : (doubled o c t).head? = t.head? := by
  cases t with
  | nil => rfl
  | cons x t =>
    by_cases h : x = o ∨ x = c
    · rw [doubled_cons_marker h]; rfl
    · rw [not_or] at h
      rw [doubled_cons_plain h.1 h.2]; rfl

@[simp] theorem writtenAll_nil : writtenAll o c spell [] = [] := rfl

@[simp] theorem writtenAll_cons (x : Passage) (xs : List Passage) :
    writtenAll o c spell (x :: xs) = x.written o c spell ++ writtenAll o c spell xs := rfl

@[simp] theorem map_passage_placed (start : Nat) (ps : List Passage) :
    (placed o c spell start ps).map Segment.passage = ps := by
  induction ps generalizing start with
  | nil => rfl
  | cons x xs ih => rw [placed, List.map_cons, passage_readFrom, ih]

namespace Canonical

theorem nil : Canonical Code After [] := ⟨by simp, by simp, .nil⟩

/-- Passages with one more in front. -/
theorem cons_iff {x : Passage} {xs : List Passage} :
    Canonical Code After (x :: xs) ↔
      (∀ t, x = literal t → t ≠ []) ∧ (∀ k, x = block k → Code k) ∧
        (∀ y ∈ xs.head?, Follows After x y) ∧ Canonical Code After xs := by
  constructor
  · rintro ⟨hl, hc, hn⟩
    rw [List.isChain_cons] at hn
    exact ⟨fun t h => hl t (by simp [h]), fun k h => hc k (by simp [h]), hn.1,
      fun t h => hl t (List.mem_cons_of_mem _ h), fun k h => hc k (List.mem_cons_of_mem _ h), hn.2⟩
  · rintro ⟨hl, hc, hf, h⟩
    refine ⟨fun t ht => ?_, fun k hk => ?_, List.isChain_cons.mpr ⟨hf, h.neighbours⟩⟩
    · rcases List.mem_cons.mp ht with e | ht
      · exact hl t e.symm
      · exact h.literals t ht
    · rcases List.mem_cons.mp hk with e | hk
      · exact hc k e.symm
      · exact h.codes k hk

end Canonical

end Passage

end Splice
