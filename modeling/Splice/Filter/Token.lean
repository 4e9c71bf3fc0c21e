import Splice.Reason
import Splice.Text.Blank
import Splice.Text.Digit
import Splice.Text.Escape
import Splice.Text.Letter
import Splice.Text.Quoted

/-!
# Tokens of filter expressions

Names, whole numbers, texts and marks, each with the number of its line. Blanks separate tokens, a
text may span lines, and two closing braces outside brackets would end the block that the expression
stands in, so they make no token.

Names are made of letters and digits of any script; unlike in formulas, marks do not belong to them.
-/

namespace Splice.Filter

/-- A piece of code. -/
inductive Token where
  | name (n : String)
  | whole (n : Nat)
  /-- A number with this many digits, which is too long. -/
  | endless (digits : Nat)
  | text (s : List Char)
  | mark (m : String)
  /-- An opening bracket in too many others, or a sign in too long a row. -/
  | tooManyBrackets
  | tooManySigns
  | unreadable
  deriving DecidableEq, Repr, Inhabited

/-- Tokens with the lines they stand on. -/
abbrev Tokens := List (Token × Nat)

namespace Token

/-! ## Names -/

/-- Characters that may start a name elsewhere, but are no letters. -/
def nonLetters : List Nat :=
  [0x1885, 0x1886, 0x2118, 0x212e]

/-- Letters and digits that may stand in a name, but not at its start, other than decimal digits. -/
def innerLetters : List Nat :=
  [0xe33, 0xeb3, 0x1369, 0x136a, 0x136b, 0x136c, 0x136d, 0x136e, 0x136f, 0x1370, 0x1371, 0x19da,
    0xff9e, 0xff9f]

/-- Whether a name may start with this character. -/
def startsName (c : Char) : Bool :=
  Text.isNameStart c && !nonLetters.contains c.toNat

/-- Whether this character may stand in a name. -/
def isInName (c : Char) : Bool :=
  startsName c || Text.isDecimal c || innerLetters.contains c.toNat

/-! ## Numbers -/

/-- Takes digits, between which single underscores may stand, from the front. -/
def digits (accepts : Char → Bool) : List Char → List Char × List Char
  | '_' :: d :: rest =>
    if accepts d then
      let (ds, r) := digits accepts rest
      (d :: ds, r)
    else ([], '_' :: d :: rest)
  | d :: rest =>
    if accepts d then
      let (ds, r) := digits accepts rest
      (d :: ds, r)
    else ([], d :: rest)
  | [] => ([], [])

/-- Reads a whole number that starts with a digit; after a zero only zeros belong to it. -/
def number (c : Char) (rest : List Char) : Token × List Char :=
  if c == '0' then (.whole 0, (digits (· == '0') rest).2)
  else
    let (ds, r) := digits Text.isDecimal rest
    let count := ds.length + 1
    if maxDigits < count then (.endless count, r)
    else
      (.whole ((c :: ds).foldl (fun n d => 10 * n + (Text.digitValue? d).getD 0) 0), r)

/-- Whether a number goes on with a fraction, which the language does not have. -/
def startsFraction : List Char → Bool
  | '.' :: d :: _ => Text.isDecimal d
  | _ => false

/-! ## Texts -/

/-- Reads what follows a backslash inside a text. A character outside ASCII is no escape; it is
written by its number. -/
def escaped : List Char → Option (List Char × List Char)
  | c :: rest =>
    if c.toNat < 128 then Text.escaped (c :: rest)
    else some ('\\' :: (Text.numbered c).drop 1, rest)
  | [] => none

/-- Reads a text up to the quote that encloses it. -/
def quotedText (quote : Char) : (fuel : Nat) → List Char → Option (List Char × List Char)
  | 0, _ => none
  | _, [] => none
  | fuel + 1, c :: rest =>
    if c == quote then some ([], rest)
    else if c == '\\' then do
      let (front, r) ← escaped rest
      let (more, r) ← quotedText quote fuel r
      return (front ++ more, r)
    else (quotedText quote fuel rest).map fun (more, r) => (c :: more, r)

/-! ## All tokens -/

/-- The marks of the grammar, longer ones first, with those that no expression accepts. -/
def marks : List String :=
  ["//", "**", "==", "!=", ">=", "<=", "+", "-", "/", "*", "%", "~", "[", "]", "(", ")", "\x7b",
    "\x7d", ">", "<", "=", ".", ":", "|", ",", ";"]

/-- How many brackets may be open. -/
def maxOpen : Nat :=
  74

/-- The token at the front of a text without blanks in front, of which `depth` brackets are open;
the rest of the text, and how many brackets are open then. -/
def front (depth : Nat) (c : Char) (rest : List Char) : Option (Token × List Char × Nat) :=
  if depth == 0 && c == '\x7d' && rest.head? == some '\x7d' then none
  else if c.isDigit then
    let (token, r) := number c rest
    if startsFraction r then none else some (token, r, depth)
  else if startsName c then
    some (.name (String.ofList (c :: rest.takeWhile isInName)), rest.dropWhile isInName, depth)
  else if c == '\'' || c == '"' then
    (quotedText c (rest.length + 1) rest).map fun (t, r) => (.text t, r, depth)
  else
    match marks.find? fun m => m.toList.isPrefixOf (c :: rest) with
    | none => none
    | some m =>
      let r := (c :: rest).drop m.length
      if m == "(" || m == "[" || m == "\x7b" then
        some (if depth < maxOpen then .mark m else .tooManyBrackets, r, depth + 1)
      else if m == ")" || m == "]" || m == "\x7d" then
        if depth == 0 then none else some (.mark m, r, depth - 1)
      else some (.mark m, r, depth)

/-- How many line breaks there are in a token that starts a text, given what is left of the text.
Only texts may span lines. -/
def breaks (token : Token) (s rest : List Char) : Nat :=
  match token with
  | .text _ => (s.take (s.length - rest.length)).count '\n'
  | _ => 0

/-- The tokens of a text that starts on a line, and of which `depth` brackets are open. -/
def tokensFrom : (fuel line depth : Nat) → List Char → Tokens
  | 0, line, _, _ => [(.unreadable, line)]
  | _, _, _, [] => []
  | fuel + 1, line, depth, c :: rest =>
    if c == '\n' then tokensFrom fuel (line + 1) depth rest
    else if Text.isBlank c then tokensFrom fuel line depth rest
    else
      match front depth c rest with
      | none => [(.unreadable, line)]
      | some (token, r, depth) =>
        (token, line) :: tokensFrom fuel (line + breaks token (c :: rest) r) depth r

/-- How many equal signs may follow one another. -/
def maxSigns : Nat :=
  970

/-- Whether a token changes the sign or the truth of what follows it. -/
def isSign (t : Token) : Bool :=
  t == .mark "-" || t == .name "not"

/-- Refuses signs in too long a row, of which `row` have been seen. -/
def limitSigns : (row : Nat) → Tokens → Tokens
  | _, [] => []
  | row, (t, line) :: ts =>
    if t.isSign then
      (if row < maxSigns then t else .tooManySigns, line) :: limitSigns (row + 1) ts
    else (t, line) :: limitSigns 0 ts

/-- The tokens of some code. -/
def ofCode (code : List Char) : Tokens :=
  limitSigns 0 (tokensFrom (code.length + 1) 1 0 (Text.unifyBreaks code))

end Token

end Splice.Filter
