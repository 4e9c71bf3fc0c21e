import Splice.Text.Escape

/-!
# Tokens of YAML documents

A document splits into scalars and into the marks that give it structure. Marks that the text only
implies by indentation, the starts and ends of block collections, are tokens as well.

Whether a scalar is a key shows only at the colon behind it. Until then it is remembered as a
possible key, one for every level of brackets, and the colon puts the marks of a key in front of it.
A possible key has to be on one line with its colon; where nothing but a key may stand, a missing
colon is an error.

An error ends the tokens. It also takes back what comes after the first possible key, because a
reader cannot know what to make of that before the key is decided.
-/

namespace Splice.Yaml

/-- A token. -/
inductive Token where
  | documentStart
  | documentEnd
  | blockSequence
  | blockMapping
  | blockEnd
  | blockEntry
  | key
  | value
  | flowSequence
  | flowSequenceEnd
  | flowMapping
  | flowMappingEnd
  | flowEntry
  | scalar (text : String) (plain : Bool)
  /-- No token can be read here. -/
  | unreadable
  deriving DecidableEq, Repr, Inhabited

namespace Token

/-! ## Characters and places -/

/-- Line breaks. -/
def isBreak (c : Char) : Bool :=
  c == '\n' || c == '\r' || c == Char.ofNat 0x85 || c == Char.ofNat 0x2028 || c == Char.ofNat 0x2029

/-- The end of the text, as a character that no text holds. -/
def ending : Char :=
  Char.ofNat 0

/-- Blanks, line breaks, and the end of the text. -/
def isSpace (c : Char) : Bool :=
  c == ending || c == ' ' || c == '\t' || isBreak c

/-- Whether a character may stand in a document. -/
def isAllowed (c : Char) : Bool :=
  let n := c.toNat
  n == 9 || n == 10 || n == 13 || (0x20 ≤ n && n ≤ 0x7e) || n == 0x85 || (0xa0 ≤ n && n ≤ 0xfffd) ||
    0x10000 ≤ n

/-- The character at an offset. -/
def peek (s : List Char) (k : Nat) : Char :=
  s.getD k ending

/-- A place in a text: what is left of it, and where that stands. -/
structure Place where
  rest : List Char
  index : Nat
  line : Nat
  column : Nat
  /-- More than the number of characters in the whole text. -/
  bound : Nat
  deriving Inhabited

namespace Place

/-- The place behind the next character. -/
def step (p : Place) : Place :=
  match p.rest with
  | [] => p
  | c :: cs =>
    let q := { p with rest := cs, index := p.index + 1 }
    if isBreak c && !(c == '\r' && cs.head? == some '\n') then
      { q with line := p.line + 1, column := 0 }
    else if c == Char.ofNat 0xfeff then q
    else { q with column := p.column + 1 }

/-- The place behind the next `k` characters. -/
def forward (p : Place) : Nat → Place
  | 0 => p
  | k + 1 => p.step.forward k

/-- The place behind the characters at the front that `accepts` takes. -/
def skip (p : Place) (accepts : Char → Bool) : Place :=
  p.forward (p.rest.takeWhile accepts).length

/-- Takes a line break, which reads as a line feed unless it is a separator of lines. -/
def takeBreak (p : Place) : List Char × Place :=
  match p.rest with
  | '\r' :: '\n' :: _ => (['\n'], p.forward 2)
  | c :: _ =>
    if isBreak c then
      let read := if c == Char.ofNat 0x2028 || c == Char.ofNat 0x2029 then c else '\n'
      ([read], p.forward 1)
    else ([], p)
  | [] => ([], p)

/-- Whether a mark between documents stands here. -/
def atDocumentMark (p : Place) : Bool :=
  (p.rest.take 3 == ['-', '-', '-'] || p.rest.take 3 == ['.', '.', '.']) && isSpace (peek p.rest 3)

end Place

/-! ## Scalars -/

/-- A piece of a scalar, which may end with line breaks, and the place behind it. -/
structure Piece where
  text : List Char
  place : Place
  /-- Whether the piece crosses a line break. -/
  broken : Bool
  deriving Inhabited

/-- How line breaks read inside a scalar: the first alone is a blank, and otherwise it is dropped
unless it is a separator of lines. -/
def folded (first : List Char) (more : List Char) : List Char :=
  if first != ['\n'] then first ++ more else if more.isEmpty then [' '] else more

/-- The characters of a plain scalar up to the next blank or mark. -/
def plainRun (flow : Bool) : List Char → List Char
  | [] => []
  | c :: cs =>
    let next := peek cs 0
    let among (marks : String) (x : Char) : Bool := marks.toList.contains x
    if isSpace c then []
    else if c == ':' && (isSpace next || (flow && among ",[]\x7b\x7d" next)) then []
    else if flow && among ",?[]\x7b\x7d" c then []
    else c :: plainRun flow cs

/-- Line breaks and blanks between two lines of a plain scalar, and the place behind them. A mark
between documents ends the scalar, whatever stands in front of it. -/
def plainBreaks : (fuel : Nat) → List Char → Place → Option (List Char) × Place
  | 0, done, p => (some done, p)
  | fuel + 1, done, p =>
    if p.column == 0 && p.atDocumentMark then (none, p)
    else
      match p.rest with
      | ' ' :: _ => plainBreaks fuel done (p.skip (· == ' '))
      | c :: _ =>
        if isBreak c then
          let (read, p) := p.takeBreak
          plainBreaks fuel (done ++ read) p
        else (some done, p)
      | [] => (some done, p)

/-- What separates two runs of a plain scalar; no characters mean that it ends here. -/
def plainSpaces (p : Place) : Piece :=
  let blanks := p.rest.takeWhile (· == ' ')
  let q := p.forward blanks.length
  if isBreak (peek q.rest 0) then
    let (first, r) := q.takeBreak
    match plainBreaks r.bound [] r with
    | (none, r) => ⟨[], r, true⟩
    | (some more, r) => ⟨folded first more, r, true⟩
  else ⟨blanks, q, false⟩

/-- Reads a plain scalar. Lines that continue it are indented at least as far as `indent`. -/
def plain (flow : Bool) (indent : Int) : (fuel : Nat) → Place → Piece
  | 0, p => ⟨[], p, false⟩
  | fuel + 1, p =>
    if peek p.rest 0 == '#' then ⟨[], p, false⟩
    else
      match plainRun flow p.rest with
      | [] => ⟨[], p, false⟩
      | run =>
        let spaces := plainSpaces (p.forward run.length)
        let q := spaces.place
        if spaces.text.isEmpty || peek q.rest 0 == '#' || (!flow && (q.column : Int) < indent) then
          ⟨run, q, spaces.broken⟩
        else
          match plain flow indent fuel q with
          | ⟨[], q, _⟩ => ⟨run, q, spaces.broken⟩
          | more => ⟨run ++ spaces.text ++ more.text, more.place, more.broken⟩

/-- The character that a letter after a backslash stands for. -/
def escapeFor (c : Char) : Option Nat :=
  match c with
  | '0' => some 0
  | 'a' => some 7
  | 'b' => some 8
  | 't' | '\t' => some 9
  | 'n' => some 10
  | 'v' => some 11
  | 'f' => some 12
  | 'r' => some 13
  | 'e' => some 0x1b
  | ' ' => some 0x20
  | '"' => some 0x22
  | '\\' => some 0x5c
  | '/' => some 0x2f
  | 'N' => some 0x85
  | '_' => some 0xa0
  | 'L' => some 0x2028
  | 'P' => some 0x2029
  | _ => none

/-- Line breaks inside a quoted scalar, with the blanks around them. -/
def quotedBreaks : (fuel : Nat) → Place → Option (List Char × Place)
  | 0, _ => none
  | fuel + 1, p =>
    if p.atDocumentMark then none
    else
      let q := p.skip fun c => c == ' ' || c == '\t'
      if isBreak (peek q.rest 0) then do
        let (first, q) := q.takeBreak
        let (more, q) ← quotedBreaks fuel q
        return (first ++ more, q)
      else some ([], q)

/-- Reads an escape after its backslash. -/
def quotedEscape (p : Place) : Option (List Char × Place) :=
  match p.rest with
  | [] => none
  | c :: rest =>
    match escapeFor c with
    | some n => some ([Char.ofNat n], p.forward 1)
    | none =>
      let width := if c == 'x' then 2 else if c == 'u' then 4 else if c == 'U' then 8 else 0
      if width != 0 then
        (Text.hexChar width rest).map fun (x, _) => ([x], p.forward (1 + width))
      else if isBreak c then quotedBreaks p.bound p.takeBreak.2
      else none

/-- Reads a quoted scalar after its opening quote. -/
def quoted (double : Bool) : (fuel : Nat) → Place → Option (List Char × Place)
  | 0, _ => none
  | fuel + 1, p =>
    let quote := if double then '"' else '\''
    match p.rest with
    | [] => none
    | c :: rest =>
      if c == quote then
        if !double && rest.head? == some '\'' then
          (quoted double fuel (p.forward 2)).map fun (more, q) => ('\'' :: more, q)
        else some ([], p.forward 1)
      else if double && c == '\\' then do
        let (front, q) ← quotedEscape (p.forward 1)
        let (more, q) ← quoted double fuel q
        return (front ++ more, q)
      else if c == ' ' || c == '\t' || isBreak c then
        let blanks := p.rest.takeWhile fun c => c == ' ' || c == '\t'
        let q := p.forward blanks.length
        if q.rest.isEmpty then none
        else if isBreak (peek q.rest 0) then do
          let (first, q) := q.takeBreak
          let (more, q) ← quotedBreaks q.bound q
          let (after, q) ← quoted double fuel q
          return (folded first more ++ after, q)
        else (quoted double fuel q).map fun (more, q) => (blanks ++ more, q)
      else (quoted double fuel (p.forward 1)).map fun (more, q) => (c :: more, q)

/-! ## Keys and indentation -/

/-- A scalar or a collection that may turn out to be a key. -/
structure PossibleKey where
  /-- How many tokens stand in front of it. -/
  number : Nat
  /-- Whether nothing but a key may stand here. -/
  required : Bool
  index : Nat
  line : Nat
  column : Nat
  deriving Inhabited

/-- How far a text has been read into tokens. -/
structure State where
  place : Place
  /-- The tokens so far, the latest one first, and how many they are. -/
  tokens : List Token
  count : Nat
  /-- How many brackets are open. -/
  flow : Nat
  indent : Int
  outerIndents : List Int
  /-- Whether a key may start here. -/
  keyAllowed : Bool
  /-- The possible keys by the number of brackets around them. -/
  keys : List (Nat × PossibleKey)
  deriving Inhabited

/-- A step either goes on or stops at an error. -/
abbrev Step := Except State State

namespace State

def start (text : List Char) : State :=
  ⟨⟨text, 0, 0, 0, text.length + 1⟩, [], 0, 0, -1, [], true, []⟩

def push (s : State) (t : Token) : State :=
  { s with tokens := t :: s.tokens, count := s.count + 1 }

/-- Puts tokens in front of those behind the first `number`. -/
def insert (s : State) (number : Nat) (ts : List Token) : State :=
  let behind := s.count - number
  { s with
    tokens := s.tokens.take behind ++ ts.reverse ++ s.tokens.drop behind
    count := s.count + ts.length }

def forward (s : State) (k : Nat) : State :=
  { s with place := s.place.forward k }

/-- Forgets the possible key of the current level, which must not be a required one. -/
def dropKey (s : State) : Step :=
  match s.keys.lookup s.flow with
  | none => .ok s
  | some k => if k.required then .error s else .ok { s with keys := s.keys.filter (·.1 != s.flow) }

/-- Remembers that a key may start here. -/
def saveKey (s : State) : Step := do
  if s.keyAllowed then
    let s' ← s.dropKey
    let p := s.place
    let k : PossibleKey :=
      ⟨s.count, s.flow == 0 && s.indent == (p.column : Int), p.index, p.line, p.column⟩
    return { s' with keys := (s.flow, k) :: s'.keys }
  else return s

/-- Forgets the possible keys that are too far back. -/
def dropStale (s : State) : Step :=
  let stale (k : PossibleKey) : Bool := k.line != s.place.line || k.index + 1024 < s.place.index
  if s.keys.any fun (_, k) => stale k && k.required then .error s
  else .ok { s with keys := s.keys.filter fun (_, k) => !stale k }

/-- Closes the block collections that are indented further than this. -/
def unwind (column : Int) (s : State) : State :=
  if s.flow != 0 then s
  else
    let closed := (s.indent :: s.outerIndents).takeWhile (column < ·)
    let left := (s.indent :: s.outerIndents).drop closed.length
    { s.insert s.count (closed.map fun _ => .blockEnd) with
      indent := left.headD (-1)
      outerIndents := left.tailD [] }

/-- Opens a block collection at a column, unless there is one at this column already. -/
def indentTo (column : Nat) (s : State) : State × Bool :=
  if s.indent < (column : Int) then
    ({ s with indent := column, outerIndents := s.indent :: s.outerIndents }, true)
  else (s, false)

/-- Goes on to the next token, past blanks, comments and line breaks. -/
def skipBlanks : (fuel : Nat) → State → State
  | 0, s => s
  | fuel + 1, s =>
    let p := s.place.skip (· == ' ')
    let p := if peek p.rest 0 == '#' then p.skip fun c => !isBreak c else p
    if isBreak (peek p.rest 0) then
      skipBlanks fuel { s with
        place := p.takeBreak.2, keyAllowed := if s.flow == 0 then true else s.keyAllowed }
    else { s with place := p }

/-! ## Fetching tokens -/

/-- The marks that a bracket makes. -/
def open_ (t : Token) (s : State) : Step := do
  let s ← s.saveKey
  return ({ s with flow := s.flow + 1, keyAllowed := true }.forward 1).push t

def close (t : Token) (s : State) : Step := do
  let s ← s.dropKey
  return ({ s with flow := s.flow - 1, keyAllowed := false }.forward 1).push t

def separate (s : State) : Step := do
  let s ← { s with keyAllowed := true }.dropKey
  return (s.forward 1).push .flowEntry

/-- A mark between documents. -/
def betweenDocuments (t : Token) (s : State) : Step := do
  let s ← (s.unwind (-1)).dropKey
  return ({ s with keyAllowed := false }.forward 3).push t

/-- Opens a block collection here if the indentation asks for one. -/
def openBlock (t : Token) (s : State) : State :=
  let (s, opened) := s.indentTo s.place.column
  if opened then s.push t else s

/-- A dash in front of an element. -/
def element (s : State) : Step := do
  let s ← if s.flow == 0 then
      if s.keyAllowed then pure (s.openBlock .blockSequence) else throw s
    else pure s
  let s ← { s with keyAllowed := true }.dropKey
  return (s.forward 1).push .blockEntry

/-- A question mark in front of a key. -/
def explicitKey (s : State) : Step := do
  let s ← if s.flow == 0 then
      if s.keyAllowed then pure (s.openBlock .blockMapping) else throw s
    else pure s
  let s ← { s with keyAllowed := s.flow == 0 }.dropKey
  return (s.forward 1).push .key

/-- A colon behind a key. -/
def colon (s : State) : Step := do
  match s.keys.lookup s.flow with
  | some k =>
    let s := { s with keys := s.keys.filter (·.1 != s.flow) }
    let (s, opened) := if s.flow == 0 then s.indentTo k.column else (s, false)
    let marks := if opened then [Token.blockMapping, .key] else [.key]
    return ({ s.insert k.number marks with keyAllowed := false }.forward 1).push .value
  | none =>
    let s ← if s.flow == 0 then
        if s.keyAllowed then pure (s.openBlock .blockMapping) else throw s
      else pure s
    let s ← { s with keyAllowed := s.flow == 0 }.dropKey
    return (s.forward 1).push .value

/-- A scalar in quotes. -/
def quotedScalar (double : Bool) (s : State) : Step := do
  let s ← s.saveKey
  match quoted double s.place.bound (s.place.forward 1) with
  | some (t, p) =>
    return { s with place := p, keyAllowed := false }.push (.scalar (String.ofList t) false)
  | none => throw s

/-- A scalar without quotes. -/
def plainScalar (s : State) : Step := do
  let s ← s.saveKey
  let piece := plain (s.flow != 0) (s.indent + 1) s.place.bound s.place
  return { s with place := piece.place, keyAllowed := piece.broken }.push
    (.scalar (String.ofList piece.text) true)

/-- Whether a scalar without quotes may start here. -/
def startsPlain (s : State) : Bool :=
  let c := peek s.place.rest 0
  let among (marks : String) : Bool := marks.toList.contains c
  (!isSpace c && !among "-?:,[]\x7b\x7d#&*!|>'\"%@`") ||
    (!isSpace (peek s.place.rest 1) && (c == '-' || (s.flow == 0 && (c == '?' || c == ':'))))

/-- The end of the text. -/
def finish (s : State) : Step :=
  (s.unwind (-1)).dropKey

/-- Fetches the next token. -/
def fetch (s : State) : Step := do
  let s ← (skipBlanks s.place.bound s).dropStale
  let s := s.unwind s.place.column
  let c := peek s.place.rest 0
  let spaced := isSpace (peek s.place.rest 1)
  let mark := s.place.column == 0 && s.place.atDocumentMark
  if c == '%' && s.place.column == 0 then throw s
  else if c == '-' && mark then s.betweenDocuments .documentStart
  else if c == '.' && mark then s.betweenDocuments .documentEnd
  else if c == '[' then s.open_ .flowSequence
  else if c == '\x7b' then s.open_ .flowMapping
  else if c == ']' then s.close .flowSequenceEnd
  else if c == '\x7d' then s.close .flowMappingEnd
  else if c == ',' then s.separate
  else if c == '-' && spaced then s.element
  else if c == '?' && (s.flow != 0 || spaced) then s.explicitKey
  else if c == ':' && (s.flow != 0 || spaced) then s.colon
  else if c == '\'' then s.quotedScalar false
  else if c == '"' then s.quotedScalar true
  else if s.startsPlain then s.plainScalar
  else throw s

/-- The tokens at an error: what stands in front of the first possible key. -/
def atError (s : State) : List Token :=
  let known := s.keys.foldl (fun n (_, k) => min n k.number) s.count
  (s.tokens.drop (s.count - known)).reverse ++ [.unreadable]

/-- One token, and whether the end was reached instead. -/
def next (s : State) : Except State (State × Bool) := do
  let t := skipBlanks s.place.bound s
  if t.place.rest.isEmpty then
    let t ← t.dropStale
    return (← t.finish, true)
  else return (← s.fetch, false)

/-- Fetches tokens up to the end or to an error. -/
def run : (fuel : Nat) → State → List Token
  | 0, s => s.atError
  | fuel + 1, s =>
    match s.next with
    | .error s => s.atError
    | .ok (s, true) => s.tokens.reverse
    | .ok (s, false) => run fuel s

end State

/-- The tokens of a document. -/
def ofText (text : List Char) : List Token :=
  let text := match text with
    | c :: rest => if c == Char.ofNat 0xfeff then rest else text
    | [] => []
  State.run (4 * text.length + 4) (.start text)

end Token

end Splice.Yaml
