import Splice.Text.Escape

/-!
# Encodings

Bytes can be read as text in several encodings: UTF-8, ASCII, Latin-1, in which every byte is the
character with its number, and UTF-16 and UTF-32, whose units of two and four bytes have the high
byte first or last. A mark in front of the bytes may say which, and is no part of the text then.

In all but Latin-1 some bytes mean nothing; whoever reads them says what becomes of those.
-/

namespace Splice.Text

/-- An encoding; `big` says that the high byte of a unit comes first. -/
inductive Encoding where
  | utf8
  | ascii
  | latin
  | utf16 (big : Bool)
  | utf32 (big : Bool)
  deriving DecidableEq, Repr, Inhabited

/-- Bytes that mean nothing: how many there are, and why. -/
structure Undecodable where
  count : Nat
  reason : String
  deriving DecidableEq, Repr, Inhabited

namespace Encoding

/-- The name of an encoding in reports. -/
def name : Encoding → String
  | utf8 => "utf-8"
  | ascii => "ascii"
  | latin => "latin-1"
  | utf16 big => if big then "utf-16-be" else "utf-16-le"
  | utf32 big => if big then "utf-32-be" else "utf-32-le"

/-! ## Names -/

/-- Bytes with the encoding to read them in. -/
structure Coded where
  encoding : Encoding
  bytes : List UInt8
  /-- How many of the bytes only mark the encoding. -/
  marks : Nat := 0

/-- The words in a name: letters, digits and points, without letter case. -/
def words (s : String) : List String :=
  let isWord (c : Char) : Bool := c.isAlphanum || c == '.'
  let cs := s.toList.map Char.toLower
  (String.ofList (cs.map fun c => if isWord c then c else ' ')).splitOn " " |>.filter (· != "")

/-- Names that stand for their encodings directly; all others have to be looked up. -/
def directNames : List String :=
  ["utf_8", "utf8", "utf_16", "utf16", "utf_32", "utf32", "ascii", "us_ascii", "latin1", "latin_1",
    "iso_8859_1", "iso8859_1"]

/-- Whether a name has to be looked up. -/
def isLookedUp (s : String) : Bool :=
  !directNames.contains ("_".intercalate (words s))

/-- Bytes with units of two or four bytes, whose order a mark may say. -/
def marked (encoding : Bool → Encoding) (little : List UInt8) (bs : List UInt8) : Coded :=
  if bs.take little.length == little then ⟨encoding false, bs, little.length⟩
  else if bs.take little.length == little.reverse then ⟨encoding true, bs, little.length⟩
  else ⟨encoding false, bs, 0⟩

/-- Bytes with the encoding of this name. -/
def ofName? (s : String) (bs : List UInt8) : Option Coded :=
  let n := "_".intercalate (words s)
  let among (names : String) : Bool := (names.splitOn " ").contains n
  if among "utf_8 utf8 u8 utf utf8_ucs2 utf8_ucs4 cp65001" then some ⟨utf8, bs, 0⟩
  else if n == "utf_8_sig" then
    some ⟨utf8, if bs.take 3 == [0xef, 0xbb, 0xbf] then bs.drop 3 else bs, 0⟩
  else if among "ascii us_ascii us 646 iso646_us iso_ir_6 ansi_x3.4_1968 cp367 ibm367" then
    some ⟨ascii, bs, 0⟩
  else if among ("latin_1 latin1 latin l1 iso_8859_1 iso8859_1 iso8859 8859 cp819 ibm819 " ++
      "iso_ir_100 csisolatin1 iso_8859_1_1987") then some ⟨latin, bs, 0⟩
  else if among "utf_16 utf16 u16" then some (marked utf16 [0xff, 0xfe] bs)
  else if among "utf_16_le utf_16le unicodelittleunmarked" then some ⟨utf16 false, bs, 0⟩
  else if among "utf_16_be utf_16be unicodebigunmarked" then some ⟨utf16 true, bs, 0⟩
  else if among "utf_32 utf32 u32" then some (marked utf32 [0xff, 0xfe, 0, 0] bs)
  else if among "utf_32_le utf_32le" then some ⟨utf32 false, bs, 0⟩
  else if among "utf_32_be utf_32be" then some ⟨utf32 true, bs, 0⟩
  else none

/-! ## Characters -/

/-- How many bytes follow the first one of a character in UTF-8, and between which bounds the next
one is. -/
def follow? (first : Nat) : Option (Nat × Nat × Nat) :=
  if first < 0xc2 then none
  else if first < 0xe0 then some (1, 0x80, 0xbf)
  else if first == 0xe0 then some (2, 0xa0, 0xbf)
  else if first == 0xed then some (2, 0x80, 0x9f)
  else if first < 0xf0 then some (2, 0x80, 0xbf)
  else if first == 0xf0 then some (3, 0x90, 0xbf)
  else if first == 0xf4 then some (3, 0x80, 0x8f)
  else if first < 0xf4 then some (3, 0x80, 0xbf)
  else none

/-- Reads the bytes that follow the first `read` ones of a character, of which `missing` are left;
the next one is within bounds. -/
def following (value read : Nat) : (missing low high : Nat) → List UInt8 →
    Except Undecodable (Nat × List UInt8)
  | 0, _, _, bs => .ok (value, bs)
  | _ + 1, _, _, [] => .error ⟨read, "unexpected end of data"⟩
  | missing + 1, low, high, b :: bs =>
    if low ≤ b.toNat && b.toNat ≤ high then
      following (64 * value + (b.toNat - 0x80)) (read + 1) missing 0x80 0xbf bs
    else .error ⟨read, "invalid continuation byte"⟩

/-- The number that a unit of some bytes writes. -/
def unit (big : Bool) (bs : List UInt8) : Nat :=
  (if big then bs else bs.reverse).foldl (fun n b => 256 * n + b.toNat) 0

/-- Reads a character of UTF-16: a unit, or two that stand for one character. -/
def pairUnit (big : Bool) (bs : List UInt8) : Except Undecodable (Nat × List UInt8) :=
  let n := unit big (bs.take 2)
  let rest := bs.drop 2
  let m := unit big (rest.take 2)
  if (bs.take 2).length < 2 then .error ⟨1, "truncated data"⟩
  else if n < 0xd800 || 0xe000 ≤ n then .ok (n, rest)
  else if 0xdc00 ≤ n then .error ⟨2, "illegal encoding"⟩
  else if (rest.take 2).length < 2 then .error ⟨bs.length, "unexpected end of data"⟩
  else if 0xdc00 ≤ m && m < 0xe000 then
    .ok (0x10000 + (n - 0xd800) * 0x400 + (m - 0xdc00), rest.drop 2)
  else .error ⟨2, "illegal UTF-16 surrogate"⟩

/-- Reads a character of UTF-32. -/
def wideUnit (big : Bool) (bs : List UInt8) : Except Undecodable (Nat × List UInt8) :=
  let n := unit big (bs.take 4)
  if (bs.take 4).length < 4 then .error ⟨bs.length, "truncated data"⟩
  else if 0xd800 ≤ n && n < 0xe000 then
    .error ⟨4, "code point in surrogate code point range(0xd800, 0xe000)"⟩
  else if 0x110000 ≤ n then .error ⟨4, "code point not in range(0x110000)"⟩
  else .ok (n, bs.drop 4)

/-- Reads the character that starts with a byte. -/
def character (e : Encoding) (b : UInt8) (bs : List UInt8) :
    Except Undecodable (Nat × List UInt8) :=
  let n := b.toNat
  match e with
  | latin => .ok (n, bs)
  | ascii => if n < 128 then .ok (n, bs) else .error ⟨1, "ordinal not in range(128)"⟩
  | utf8 =>
    if n < 128 then .ok (n, bs)
    else
      match follow? n with
      | none => .error ⟨1, "invalid start byte"⟩
      | some (missing, low, high) =>
        following (n % Nat.pow 2 (6 - missing)) 1 missing low high bs
  | utf16 big => pairUnit big (b :: bs)
  | utf32 big => wideUnit big (b :: bs)

/-- Reads bytes. `repair` says what stands for bytes that mean nothing, given the number of bytes in
front of them. -/
def decode {ε : Type} (e : Encoding) (repair : Nat → List UInt8 → String → Except ε (List Char)) :
    (fuel position : Nat) → List UInt8 → Except ε (List Char)
  | 0, _, _ => .ok []
  | _, _, [] => .ok []
  | fuel + 1, position, b :: bs => do
    match character e b bs with
    | .ok (n, rest) =>
      let more ← decode e repair fuel (position + 1 + (bs.length - rest.length)) rest
      return Char.ofNat n :: more
    | .error bad =>
      let here ← repair position ((b :: bs).take bad.count) bad.reason
      let more ← decode e repair fuel (position + bad.count) ((b :: bs).drop bad.count)
      return here ++ more

/-- Whether bytes are all readable. -/
def accepts (e : Encoding) (bs : List UInt8) : Bool :=
  (e.decode (fun _ _ _ => .error ()) bs.length 0 bs).isOk

end Encoding

end Splice.Text
