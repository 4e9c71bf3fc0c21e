/-!
# Blank characters

White space comes in two sizes here. Indentation is made of spaces and tabs alone, because only they
are moved when a template is trimmed. Everything else that asks for white space (stripping code,
finding that code is blank, the class `\s` of a pattern) means every blank character of Unicode,
together with the four information separators.
-/

namespace Splice.Text

/-- Spaces and tabs, the characters that indent a line. -/
def isIndent (c : Char) : Bool :=
  c == ' ' || c == '\t'

/-- Every blank character: the ASCII controls from tab to carriage return, the information
separators, next line, and the separators of Unicode. -/
def isBlank (c : Char) : Bool :=
  let n := c.toNat
  (9 ≤ n && n ≤ 13) || (28 ≤ n && n ≤ 32) || n == 0x85 || n == 0xa0 || n == 0x1680 ||
    (0x2000 ≤ n && n ≤ 0x200a) || n == 0x2028 || n == 0x2029 || n == 0x202f || n == 0x205f ||
    n == 0x3000

/-- The blank characters of ASCII, which are the blanks of bytes: space, and the controls from tab
to carriage return. -/
def isPlainBlank (c : Char) : Bool :=
  c == ' ' || (9 ≤ c.toNat && c.toNat ≤ 13)

/-- Drops from the end what `p` accepts. -/
def dropEndWhile {α : Type} (p : α → Bool) (s : List α) : List α :=
  (s.reverse.dropWhile p).reverse

/-- Drops at both ends what `p` accepts. -/
def dropAround {α : Type} (p : α → Bool) (s : List α) : List α :=
  dropEndWhile p (s.dropWhile p)

/-- Drops the blank characters at both ends. -/
def strip (s : List Char) : List Char :=
  dropAround isBlank s

/-- Code is blank when nothing is left of it after stripping. -/
def allBlank (s : List Char) : Bool :=
  s.all isBlank

/-- Line breaks of every platform as line feeds. -/
def unifyBreaks : List Char → List Char
  | '\r' :: '\n' :: rest => '\n' :: unifyBreaks rest
  | '\r' :: rest => '\n' :: unifyBreaks rest
  | c :: rest => c :: unifyBreaks rest
  | [] => []

end Splice.Text
