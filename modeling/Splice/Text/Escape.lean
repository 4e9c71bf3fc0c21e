/-!
# Escapes in quoted texts

Inside quotes a backslash and what follows it stand for a character that would be hard to write: a
line break, a tab, a quote, or any character by its number.
-/

namespace Splice.Text

/-- The value of a hexadecimal digit. -/
def hexValue (c : Char) : Option Nat :=
  if c.isDigit then some (c.toNat - 48)
  else if 'a' ≤ c && c ≤ 'f' then some (c.toNat - 87)
  else if 'A' ≤ c && c ≤ 'F' then some (c.toNat - 55)
  else none

/-- The character with the hexadecimal number that the first `width` characters write. -/
def hexChar (width : Nat) (s : List Char) : Option (Char × List Char) := do
  let shown := s.take width
  guard (shown.length == width)
  let n ← shown.foldlM (fun n c => (hexValue c).map (16 * n + ·)) 0
  guard n.isValidChar
  return (Char.ofNat n, s.drop width)

/-- Whether a character is an octal digit. -/
def isOctal (c : Char) : Bool :=
  '0' ≤ c && c ≤ '7'

/-- Reads what follows a backslash inside a text: the characters that it stands for, and the rest.
An unknown escape stands for itself. -/
def escaped : List Char → Option (List Char × List Char)
  | [] => none
  | c :: rest =>
    match c with
    | '\n' => some ([], rest)
    | '\\' | '\'' | '"' => some ([c], rest)
    | 'a' => some ([Char.ofNat 7], rest)
    | 'b' => some ([Char.ofNat 8], rest)
    | 'f' => some ([Char.ofNat 12], rest)
    | 'n' => some (['\n'], rest)
    | 'r' => some (['\r'], rest)
    | 't' => some (['\t'], rest)
    | 'v' => some ([Char.ofNat 11], rest)
    | 'x' => (hexChar 2 rest).map fun (x, r) => ([x], r)
    | 'u' => (hexChar 4 rest).map fun (x, r) => ([x], r)
    | 'U' => (hexChar 8 rest).map fun (x, r) => ([x], r)
    | 'N' => none
    | _ =>
      if isOctal c then
        let more := (rest.take 2).takeWhile isOctal
        let n := (c :: more).foldl (fun n d => 8 * n + (d.toNat - 48)) 0
        some ([Char.ofNat n], rest.drop more.length)
      else some (['\\', c], rest)

end Splice.Text
