import Splice.Text.Composition
import Splice.Text.Decomposition

/-!
# The normal form of names

The same name can be written in several ways: with letters of a special width or font, with an
accent as a character of its own, with accents in another order. The normal form takes everything
apart (`decomposed`), sorts the accents behind each letter by their classes (`sortAccents`) and puts
letters and accents together again (`compose`). Syllables of Hangul are put together by counting
instead of tables.
-/

namespace Splice.Text

/-! ## Hangul syllables -/

def firstSyllable : Nat := 0xac00

/-- How many syllables there are. -/
def syllableCount : Nat := 11172

/-- How many syllables begin with the same consonant. -/
def syllablesPerLead : Nat := 588

/-- How many syllables begin with the same consonant and vowel: one without a final consonant and
one for each final consonant. -/
def syllablesPerVowel : Nat := 28

def firstLead : Nat := 0x1100

def leadCount : Nat := 19

def firstVowel : Nat := 0x1161

def vowelCount : Nat := 21

/-- One less than the first final consonant. -/
def beforeFinals : Nat := 0x11a7

/-- The letters of a syllable. -/
def syllableLetters? (n : Nat) : Option (List Nat) :=
  if firstSyllable ≤ n && n < firstSyllable + syllableCount then
    let i := n - firstSyllable
    let final := i % syllablesPerVowel
    let start := [firstLead + i / syllablesPerLead,
      firstVowel + i % syllablesPerLead / syllablesPerVowel]
    some (if final = 0 then start else start ++ [beforeFinals + final])
  else none

/-- The syllable of a consonant and a vowel, or of a syllable and a final consonant. -/
def syllable? (a b : Nat) : Option Nat :=
  if firstLead ≤ a && a < firstLead + leadCount &&
      firstVowel ≤ b && b < firstVowel + vowelCount then
    some (firstSyllable + (a - firstLead) * syllablesPerLead + (b - firstVowel) * syllablesPerVowel)
  else if firstSyllable ≤ a && a < firstSyllable + syllableCount &&
      (a - firstSyllable) % syllablesPerVowel = 0 && beforeFinals < b &&
      b < beforeFinals + syllablesPerVowel then
    some (a + (b - beforeFinals))
  else none

/-! ## Taking apart -/

/-- What a table of ideographs that starts at `first` says. -/
def ideographIn? (first : Nat) (table : Array Nat) (n : Nat) : Option Nat :=
  if n < first then none else table[n - first]?.filter (· != 0)

/-- What a character stands for that is not made of a letter and an accent. -/
def variant? (n : Nat) : Option (List Nat) :=
  match variantRuns.find? fun (first, _, count) => first ≤ n && n < first + count with
  | some (first, target, _) => some [target + (n - first)]
  | none =>
    match expansions.find? (·.1 == n) with
    | some (_, parts) => some parts
    | none =>
      ((ideographIn? 0xf900 ideographs n).or
        (ideographIn? 0x2f800 supplementaryIdeographs n)).map ([·])

/-- The letter and the accents of a character. No letter has more than `most` accents. -/
def accented : (most : Nat) → Nat → List Nat
  | 0, n => [n]
  | most + 1, n =>
    match composites.find? (·.1 == n) with
    | some (_, letter, accent) => accented most letter ++ [accent]
    | none => [n]

/-- The characters that a character is made of. -/
def decomposed (n : Nat) : List Nat :=
  if n < 128 then [n]
  else
    match syllableLetters? n with
    | some letters => letters
    | none => (variant? n).getD (accented 4 n)

/-! ## Accents -/

/-- The class of an accent; zero for everything else. -/
def accentClass (n : Nat) : Nat :=
  if n < 0x300 then 0
  else
    match accentClasses.find? fun (first, last, _) => first ≤ n && n ≤ last with
    | some (_, _, k) => k
    | none => 0

/-- Puts a character in front of others that are sorted, behind accents of a lower class. -/
def insertAccent (n : Nat) : List Nat → List Nat
  | [] => [n]
  | m :: rest =>
    if accentClass m != 0 && accentClass m < accentClass n then m :: insertAccent n rest
    else n :: m :: rest

/-- Sorts the accents behind each letter by their classes; those of one class keep their order. -/
def sortAccents (s : List Nat) : List Nat :=
  s.foldr insertAccent []

/-! ## Putting together -/

/-- The character that is made of two. -/
def composite? (a b : Nat) : Option Nat :=
  (syllable? a b).or
    ((composites.find? fun (_, letter, accent) => letter == a && accent == b).map (·.1))

/-- Puts a letter together with what follows it. `passed` are the accents that were left behind it,
the last one first; only an accent of a higher class than those gets past them. -/
def composeFrom (letter : Nat) (passed : List Nat) : List Nat → List Nat
  | [] => letter :: passed.reverse
  | n :: rest =>
    let blocked := passed.head?.any fun m => accentClass n ≤ accentClass m
    match if blocked then none else composite? letter n with
    | some whole => composeFrom whole passed rest
    | none =>
      if accentClass n = 0 then letter :: passed.reverse ++ composeFrom n [] rest
      else composeFrom letter (n :: passed) rest

/-- Puts letters and accents together. -/
def compose : List Nat → List Nat
  | [] => []
  | n :: rest => composeFrom n [] rest

/-- The normal form of a text made of characters of names. -/
def normal (s : String) : String :=
  if s.toList.all fun c => c.toNat < 128 then s
  else
    String.ofList ((compose (sortAccents (s.toList.flatMap fun c => decomposed c.toNat))).map
      Char.ofNat)

end Splice.Text
