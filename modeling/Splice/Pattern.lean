import Splice.Failure
import Splice.Text.Blank

/-!
# Patterns

A pattern says where in some code a mark stands, such as a star at the end. It is a row of items:
the start, the end, or characters of some set, once or repeatedly. The end is also in front of a
final line break. A repeated item takes as many characters as it can and gives back what the rest
needs, and the first place where the pattern matches, from the left, is the one that counts.

Groups and alternatives are not part of patterns; an opening parenthesis is refused.
-/

namespace Splice

namespace Pattern

/-- Sets of characters. -/
inductive Class where
  | char (c : Char)
  | range (first last : Char)
  | blank
  | digit
  | word
  /-- Everything but a line break. -/
  | line
  | either (a b : Class)
  | except (a : Class)
  /-- No character. -/
  | empty
  deriving DecidableEq, Repr, Inhabited

/-- Whether a character belongs to a set. -/
def Class.contains : Class → Char → Bool
  | char a, c => a == c
  | range a b, c => a ≤ c && c ≤ b
  | blank, c => Text.isBlank c
  | digit, c => c.isDigit
  | word, c => c.isAlphanum || c == '_'
  | line, c => c != '\n'
  | either a b, c => a.contains c || b.contains c
  | except a, c => !a.contains c
  | empty, _ => false

/-- One item of a pattern. -/
inductive Item where
  | start
  | finish
  | one (s : Class)
  /-- At most one character. -/
  | optional (s : Class)
  /-- Any number of characters. -/
  | many (s : Class)
  deriving DecidableEq, Repr, Inhabited

end Pattern

/-- A row of items. -/
abbrev Pattern := List Pattern.Item

namespace Pattern

/-! ## Reading -/

/-- The set that a letter after a backslash stands for. -/
def escapedClass (c : Char) : Class :=
  match c with
  | 's' => .blank
  | 'S' => .except .blank
  | 'd' => .digit
  | 'D' => .except .digit
  | 'w' => .word
  | 'W' => .except .word
  | 'n' => .char '\n'
  | 't' => .char '\t'
  | 'r' => .char '\r'
  | _ => .char c

/-- Reads the inside of square brackets up to the one that closes them. -/
def classBody : (fuel : Nat) → (first : Bool) → List Char → Option (Class × List Char)
  | 0, _, _ => none
  | _, _, [] => none
  | fuel + 1, first, c :: rest =>
    if c == ']' && !first then some (.empty, rest)
    else
      match c, rest with
      | '\\', d :: rest =>
        (classBody fuel false rest).map fun (s, r) => (.either (escapedClass d) s, r)
      | a, '-' :: b :: rest =>
        if b == ']' then
          (classBody fuel false ('-' :: b :: rest)).map fun (s, r) => (.either (.char a) s, r)
        else (classBody fuel false rest).map fun (s, r) => (.either (.range a b) s, r)
      | a, rest => (classBody fuel false rest).map fun (s, r) => (.either (.char a) s, r)

/-- The item for a set and what follows it: a sign of repetition belongs to the item. -/
def repeated (s : Class) : List Char → List Item × List Char
  | '*' :: rest => ([.many s], rest)
  | '+' :: rest => ([.one s, .many s], rest)
  | '?' :: rest => ([.optional s], rest)
  | rest => ([.one s], rest)

/-- Reads items; `size` is the length of the whole text, from which positions are told. -/
def itemsFrom (size : Nat) : (fuel : Nat) → List Char → Except Misuse Pattern
  | 0, _ => .ok []
  | _, [] => .ok []
  | fuel + 1, c :: rest =>
    let position := size - (rest.length + 1)
    let continued (s : Class) (rest : List Char) : Except Misuse Pattern :=
      let (items, rest) := repeated s rest
      (itemsFrom size fuel rest).map (items ++ ·)
    match c with
    | '^' => (itemsFrom size fuel rest).map (.start :: ·)
    | '$' => (itemsFrom size fuel rest).map (.finish :: ·)
    | '(' => .error (.openGroup position)
    | '*' | '+' | '?' => .error (.nothingToRepeat position)
    | '.' => continued .line rest
    | '\\' =>
      match rest with
      | [] => continued (.char '\\') []
      | d :: rest => continued (escapedClass d) rest
    | '[' =>
      let (negated, body) := match rest with
        | '^' :: body => (true, body)
        | body => (false, body)
      match classBody (body.length + 1) true body with
      | none => .error (.openClass position)
      | some (s, rest) => continued (if negated then .except s else s) rest
    | _ => continued (.char c) rest

/-- The pattern that a text writes. -/
def ofText (s : String) : Except Misuse Pattern :=
  itemsFrom s.toList.length (s.toList.length + 1) s.toList

/-! ## Matching -/

/-- Whether the end of a text is here. -/
def atEnd (s : List Char) : Bool :=
  s == [] || s == ['\n']

/-- What is left of a text after the items have matched at its start; `atStart` says that the start
of the whole text is here. -/
def rest? (atStart : Bool) : Pattern → List Char → Option (List Char)
  | [], s => some s
  | .start :: items, s => if atStart then rest? atStart items s else none
  | .finish :: items, s => if atEnd s then rest? atStart items s else none
  | .one set :: items, s =>
    match s with
    | c :: cs => if set.contains c then rest? false items cs else none
    | [] => none
  | .optional set :: items, s =>
    match s with
    | c :: cs =>
      if set.contains c then (rest? false items cs).or (rest? atStart items s)
      else rest? atStart items s
    | [] => rest? atStart items []
  | .many set :: items, s =>
    match s with
    | c :: cs =>
      if set.contains c then (rest? false (.many set :: items) cs).or (rest? atStart items s)
      else rest? atStart items s
    | [] => rest? atStart items []
termination_by items s => (items.length, s.length)

/-- The first match: what stands in front of it and what follows it. -/
def searchFrom (p : Pattern) (atStart : Bool) (s : List Char) : Option (List Char × List Char) :=
  match rest? atStart p s with
  | some rest => some ([], rest)
  | none =>
    match s with
    | [] => none
    | c :: cs => (searchFrom p false cs).map fun (front, rest) => (c :: front, rest)

/-- The text without the first match, if there is one. -/
def remove? (p : Pattern) (s : String) : Option String :=
  (searchFrom p true s.toList).map fun (front, rest) => String.ofList (front ++ rest)

end Pattern

end Splice
