import Splice.Text.Printable

/-!
# Quoted text

The quoted form of a text is how error messages show code and markers, and how a value shows the
texts inside it. Single quotes enclose it, unless the text holds single quotes and no double ones.
The quote in use and the backslash are escaped by a backslash, line feed, carriage return and tab
have letters of their own, and every other unprintable character is written by its number.

Bytes are quoted in the same way, with a `b` in front, and everything outside visible ASCII by
number. In a buffer of bytes a single quote takes a backslash whichever quote encloses it.
-/

namespace Splice.Text

/-- The hexadecimal digit of a number below sixteen. -/
def hexDigit (n : Nat) : Char :=
  if n < 10 then Char.ofNat (48 + n) else Char.ofNat (87 + n)

/-- The last `width` hexadecimal digits of a number, most significant first. -/
def hexDigits : (width n : Nat) → List Char
  | 0, _ => []
  | w + 1, n => hexDigits w (n / 16) ++ [hexDigit (n % 16)]

/-- The quote that encloses a text with these characters. -/
def quoteFor (s : List Char) : Char :=
  if s.contains '\'' && !s.contains '"' then '"' else '\''

/-- An unprintable character by number, in the shortest of the three widths that holds it. -/
def numbered (c : Char) : List Char :=
  let n := c.toNat
  if n < 0x100 then '\\' :: 'x' :: hexDigits 2 n
  else if n < 0x10000 then '\\' :: 'u' :: hexDigits 4 n
  else '\\' :: 'U' :: hexDigits 8 n

/-- One character inside the given quotes. -/
def quotedChar (quote c : Char) : List Char :=
  if c == quote || c == '\\' then ['\\', c]
  else if c == '\n' then ['\\', 'n']
  else if c == '\r' then ['\\', 'r']
  else if c == '\t' then ['\\', 't']
  else if isPrintable c then [c]
  else numbered c

/-- The quoted form of a list of characters. -/
def quotedChars (s : List Char) : List Char :=
  let quote := quoteFor s
  quote :: s.flatMap (quotedChar quote) ++ [quote]

/-- The quoted form of a text. -/
def quoted (s : String) : String :=
  String.ofList (quotedChars s.toList)

/-- A text in which every character outside ASCII is written by its number. -/
def plain (s : List Char) : List Char :=
  s.flatMap fun c => if c.toNat < 128 then [c] else numbered c

/-- One byte, where the given quote takes a backslash. -/
def quotedByte (quote : Char) (b : UInt8) : List Char :=
  let c := Char.ofNat b.toNat
  if c == quote || c == '\\' then ['\\', c]
  else if c == '\n' then ['\\', 'n']
  else if c == '\r' then ['\\', 'r']
  else if c == '\t' then ['\\', 't']
  else if 0x20 ≤ b.toNat && b.toNat ≤ 0x7e then [c]
  else '\\' :: 'x' :: hexDigits 2 b.toNat

/-- The quote that encloses these bytes. -/
def quoteForBytes (bytes : List UInt8) : Char :=
  quoteFor (bytes.map fun b => Char.ofNat b.toNat)

/-- The quoted form of a list of bytes. -/
def quotedBytes (bytes : List UInt8) : String :=
  let quote := quoteForBytes bytes
  String.ofList ('b' :: quote :: bytes.flatMap (quotedByte quote) ++ [quote])

/-- The quoted form of the content of a buffer. -/
def quotedBuffer (bytes : List UInt8) : String :=
  let quote := quoteForBytes bytes
  String.ofList ('b' :: quote :: bytes.flatMap (quotedByte '\'') ++ [quote])

end Splice.Text
