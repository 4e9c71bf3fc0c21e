import Splice.Reason
import Splice.Text.Blank
import Splice.Text.Escape
import Splice.Text.Letter
import Splice.Text.Normal

/-!
# Tokens of formulas

Code splits into names, words with a meaning of their own, whole numbers, texts and marks. Blanks
and comments separate tokens and mean nothing; a line break means nothing inside brackets, and a
backslash in front of a line break takes it away. Outside brackets a line break ends the formula,
and how the next line starts is a token as well, because an indented line is refused in a way of its
own.

Names that are written differently but have the same normal form are the same; the words with a
meaning of their own are written in one way only.

Characters that make no token become a token that no grammar accepts, so that a fault further to the
left is found first. So do numbers that are too long and brackets that are nested too deep.
-/

namespace Splice.Formula

/-- A piece of code. -/
inductive Token where
  | name (n : String)
  /-- A word with a meaning of its own. -/
  | word (w : String)
  | whole (n : Nat)
  | text (s : List Char)
  | mark (m : String)
  /-- A line break outside brackets. -/
  | newline
  /-- An indented line outside brackets. -/
  | indent
  | unreadable
  deriving DecidableEq, Repr, Inhabited

namespace Token

/-- The words that are not names. -/
def reserved : List String :=
  ["False", "None", "True", "and", "as", "assert", "async", "await", "break", "class", "continue",
    "def", "del", "elif", "else", "except", "finally", "for", "from", "global", "if", "import",
    "in", "is", "lambda", "nonlocal", "not", "or", "pass", "raise", "return", "try", "while",
    "with", "yield"]

/-! ## Numbers -/

/-- Reads digits, between which single underscores may stand. The result are the digits and what
follows, or nothing if an underscore stands elsewhere. -/
def digits : List Char → Option (List Char × List Char)
  | '_' :: d :: rest =>
    if d.isDigit then (digits rest).map fun (ds, r) => (d :: ds, r) else none
  | ['_'] => none
  | d :: rest =>
    if d.isDigit then (digits rest).map fun (ds, r) => (d :: ds, r) else some ([], d :: rest)
  | [] => some ([], [])

/-- The words that may follow a number without a blank, without their first letter. -/
def afterNumber : Char → List String
  | 'a' => ["nd"]
  | 'e' => ["lse"]
  | 'f' => ["or"]
  | 'i' => ["f", "n", "s"]
  | 'o' => ["r"]
  | 'n' => ["ot"]
  | _ => []

/-- Whether the letter that follows a zero announces digits of another base, of which there are
none. -/
def announcesBase : List Char → Bool
  | 'o' :: _ => true
  | _ => false

/-- Whether a number may end here. -/
def numberEnds : List Char → Bool
  | [] => true
  | c :: rest =>
    (afterNumber c).any (fun w => w.toList.isPrefixOf rest) ||
      !(c.isAlphanum || c == '_' || 128 ≤ c.toNat || c == '.')

/-- Reads a whole number. No zeros may lead, unless there is nothing else. -/
def number (s : List Char) : Option (Nat × List Char) := do
  let (ds, rest) ← digits s
  guard (numberEnds rest && !(ds == ['0'] && announcesBase rest))
  guard (if ds.head? == some '0' then ds.all (· == '0') else ds.length ≤ maxDigits)
  return (ds.foldl (fun n d => 10 * n + (d.toNat - 48)) 0, rest)

/-! ## Texts -/

/-- Reads a text up to the quote that encloses it. -/
def quotedText (quote : Char) : (fuel : Nat) → List Char → Option (List Char × List Char)
  | 0, _ => none
  | _, [] => none
  | fuel + 1, c :: rest =>
    if c == quote then some ([], rest)
    else if c == '\n' then none
    else if c == '\\' then do
      let (front, r) ← Text.escaped rest
      let (more, r) ← quotedText quote fuel r
      return (front ++ more, r)
    else (quotedText quote fuel rest).map fun (more, r) => (c :: more, r)

/-! ## All tokens -/

/-- The marks of the grammar, longer ones first, and marks that no grammar accepts where a shorter
one would match. -/
def marks : List String :=
  ["**=", "//=", ">>=", "<<=", "...", ":=", "==", "!=", "<=", ">=", "//", "**", "->", "+=", "-=",
    "*=", "%=", "<<", ">>", "(", ")", "[", "]", "\x7b", "\x7d", ",", ":", ".", "<", ">", "+", "-",
    "*", "%"]

/-- The first mark of some list that a text starts with. -/
def markAt (s : List Char) : Option String :=
  marks.find? fun m => m.toList.isPrefixOf s

/-- The tokens from a line that starts outside brackets: whether it is indented decides how the code
is refused. Blank lines and comments do not count. -/
def lineStart (indented : Bool) : List Char → List Token
  | [] => [.unreadable]
  | c :: rest =>
    if c == '\n' then lineStart false rest
    else if c == ' ' || c == '\t' then lineStart true rest
    else if c == Char.ofNat 12 then lineStart false rest
    else if c == '#' then lineStart indented (rest.dropWhile (· != '\n'))
    else if indented then [.indent] else [.unreadable]
termination_by s => s.length
decreasing_by
  all_goals
    have := (List.dropWhile_sublist (· != '\n') (l := rest)).length_le
    simp only [List.length_cons]
    omega

/-- No more brackets than this may be open. -/
def maxOpen : Nat :=
  200

/-- The tokens of a text, of which `depth` brackets are open. -/
def tokensFrom : (fuel depth : Nat) → List Char → List Token
  | 0, _, _ => [.unreadable]
  | _, _, [] => []
  | fuel + 1, depth, c :: rest =>
    if c == ' ' || c == '\t' || c == Char.ofNat 12 then tokensFrom fuel depth rest
    else if c == '#' then tokensFrom fuel depth (rest.dropWhile (· != '\n'))
    else if c == '\\' then
      match rest with
      | '\n' :: r => tokensFrom fuel depth r
      | _ => [.unreadable]
    else if c == '\n' then
      if depth == 0 then .newline :: lineStart false rest else tokensFrom fuel depth rest
    else if Text.isNameStart c then
      let n := String.ofList (c :: rest.takeWhile Text.isNameChar)
      let token := if reserved.contains n then .word n else .name (Text.normal n)
      token :: tokensFrom fuel depth (rest.dropWhile Text.isNameChar)
    else if c.isDigit then
      match number (c :: rest) with
      | some (n, r) => .whole n :: tokensFrom fuel depth r
      | none => [.unreadable]
    else if c == '\'' || c == '"' then
      match quotedText c (rest.length + 1) rest with
      | some (t, r) => .text t :: tokensFrom fuel depth r
      | none => [.unreadable]
    else
      match markAt (c :: rest) with
      | none => [.unreadable]
      | some m =>
        let r := (c :: rest).drop m.length
        if m == "(" || m == "[" || m == "\x7b" then
          if maxOpen ≤ depth then [.unreadable] else .mark m :: tokensFrom fuel (depth + 1) r
        else if m == ")" || m == "]" || m == "\x7d" then
          if depth == 0 then [.unreadable] else .mark m :: tokensFrom fuel (depth - 1) r
        else .mark m :: tokensFrom fuel depth r

/-- The tokens of some code, which is read as if parentheses stood around it. -/
def ofCode (code : String) : List Token :=
  let text := Text.unifyBreaks ('(' :: code.toList ++ ['\n', ')'])
  tokensFrom (text.length + 1) 0 text

end Token

end Splice.Formula
