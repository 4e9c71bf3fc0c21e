import Splice.Failure

/-!
# Delimiters

The two markers that enclose a block, and how blocks nest. Markers may be of any length, and may be
equal or overlap as long as blocks do not nest; nesting needs to tell them apart. These conditions
are part of the type, so a scan never meets an empty marker.

`after?` asks whether a text starts with a marker and what follows it. Every question that a scan
asks about a marker goes through it.
-/

namespace Splice

/-- The markers of blocks. With `nested`, markers inside a block are counted; without it they have
to be escaped by doubling. -/
structure Delimiters where
  opening : List Char
  closing : List Char
  nested : Bool
  opening_ne : opening ≠ []
  closing_ne : closing ≠ []
  distinct : nested = true → opening ≠ closing

namespace Delimiters

/-- Checks the markers given by a caller. -/
def make? (opening closing : String) (nested : Bool) : Except Misuse Delimiters :=
  if ho : opening.toList = [] then .error .emptyMarker
  else if hc : closing.toList = [] then .error .emptyMarker
  else if hd : nested = true → opening.toList ≠ closing.toList then
    .ok ⟨opening.toList, closing.toList, nested, ho, hc, hd⟩
  else .error .equalMarkers

/-- A brace to open and a brace to close, without nesting. -/
def braces : Delimiters :=
  ⟨['\x7b'], ['\x7d'], false, by simp, by simp, by simp⟩

/-- The characters that enclose texts in code; nesting does not look inside them. -/
def isQuote (c : Char) : Bool :=
  c == '\'' || c == '"' || c == '`'

end Delimiters

/-- What follows a marker at the start of a text. -/
def after? : (marker text : List Char) → Option (List Char)
  | [], s => some s
  | _ :: _, [] => none
  | m :: ms, c :: cs => if m = c then after? ms cs else none

theorem after?_eq_some_iff {m s r : List Char} : after? m s = some r ↔ s = m ++ r := by
  induction m generalizing s with
  | nil => simp [after?]
  | cons a m ih =>
    cases s with
    | nil => simp [after?]
    | cons c s =>
      by_cases h : a = c
      · subst h; simp [after?, ih]
      · have h' : ¬ c = a := fun e => h e.symm
        simp [after?, h, h']

@[simp] theorem after?_append (m r : List Char) : after? m (m ++ r) = some r :=
  after?_eq_some_iff.mpr rfl

/-- What follows a marker is shorter by the length of the marker. -/
theorem length_of_after? {m s r : List Char} (h : after? m s = some r) :
    s.length = m.length + r.length := by
  rw [after?_eq_some_iff.mp h, List.length_append]

/-- What follows a marker that is not empty is shorter. -/
theorem length_lt_of_after? {m s r : List Char} (hm : m ≠ []) (h : after? m s = some r) :
    r.length < s.length := by
  have := length_of_after? h
  have := List.length_pos_iff.mpr hm
  omega

end Splice
