import Splice.Value.Basic

/-!
# The text of a value

A value has two texts. Its quoted form is how it shows inside a list, a tuple or a dictionary; its
display form is what a template renders. They differ for texts, for failures, and for the objects
whose display form is their own affair.

Whole numbers with very many digits are not written: a value that holds one has a quoted form here,
but nobody gets to see it (`Value.shown`).

The text of a failure consists of the words for its cause and, if it concerns templates, its span.
Failures that go back to a reader whose wording is not part of this library have a text that is not
reported (`Failure.message`).
-/

namespace Splice

/-- The suffix that a span adds to the text of a failure. -/
def Failure.spanText : Option Span → String
  | none => ""
  | some s => " (at " ++ toString s.start ++ ":" ++ toString s.stop ++ ")"

/-- What a fault was made from, as its quoted form shows it. -/
def Fault.quotedArguments : Fault → String
  | noRoom => ""
  | undecodable e bs first last reason =>
    Text.quoted e ++ ", " ++ Text.quotedBytes bs ++ ", " ++ toString first ++ ", " ++
      toString (last + 1) ++ ", " ++ Text.quoted reason
  | f => Text.quoted f.message

namespace Cause

/-- The words for a marker without a counterpart. -/
def unmatchedWords (position : Int) (marker : String) (wording : Option String) : String :=
  (wording.filter (· ≠ "")).getD
    ("Unmatched delimiter " ++ Text.quoted marker ++ " at position " ++ toString position)

/-- The words for a block inside a block. -/
def nestingWords (position : Int) (marker : String) : String :=
  "Nested " ++ Text.quoted marker ++ " at position " ++ toString position ++ "; escape it as " ++
    Text.quoted (marker ++ marker) ++ " or enable nested scanning"

/-- The words for code that failed for a reason. -/
def evaluationWords (code reason : String) : String :=
  "Failed to evaluate " ++ Text.quoted code ++ ": " ++ reason

/-- The words for a fallback that failed for a reason. -/
def fallbackWords (fallback code reason : String) : String :=
  "Fallback " ++ Text.quoted fallback ++ " failed for " ++ Text.quoted code ++ ": " ++ reason

/-- The words for columns that cannot be combined. -/
def recyclingWords (lengths : List Int) : String :=
  "Cannot recycle vectors of lengths [" ++ ", ".intercalate (lengths.map toString) ++
    "]; only length-1 vectors are recycled in strict mode"

end Cause

namespace Value

/-- A truth value in words. -/
def truthText (b : Bool) : String :=
  if b then "True" else "False"

/-- A range as the call that makes it; a step of one is left out. -/
def rangeText (a b c : Int) : String :=
  if c == 1 then "range(" ++ toString a ++ ", " ++ toString b ++ ")"
  else "range(" ++ toString a ++ ", " ++ toString b ++ ", " ++ toString c ++ ")"

/-- A method of an object. -/
def methodText (o : Object) (m : Method) : String :=
  "<built-in method " ++ m.name ++ " of " ++ o.value.typeName ++ " object>"

/-- A tuple, given the quoted forms of its items; a single one is followed by a comma. -/
def tupleText : List String → String
  | [s] => "(" ++ s ++ ",)"
  | ss => "(" ++ ", ".intercalate ss ++ ")"

/-- A set, given the quoted forms of its elements; the empty one shows as the call that makes it. -/
def setText : List String → String
  | [] => "set()"
  | ss => "\x7b" ++ ", ".intercalate ss ++ "\x7d"

end Value

mutual

/-- The quoted form of a value. -/
def Value.quoted : Value → String
  | .null => "None"
  | .bool b => Value.truthText b
  | .int n => toString n
  | .real x => x.text
  | .text s => Text.quoted s
  | .bytes bs => Text.quotedBytes bs
  | .buffer bs => "bytearray(" ++ Text.quotedBuffer bs ++ ")"
  | .list xs => "[" ++ ", ".intercalate (Value.quotedAll xs) ++ "]"
  | .tuple xs => Value.tupleText (Value.quotedAll xs)
  | .set xs => Value.setText (Value.quotedAll xs)
  | .dict es => "\x7b" ++ ", ".intercalate (Value.quotedEntries es) ++ "\x7d"
  | .view p es =>
    p.typeName ++ "([" ++ ", ".intercalate (Value.quotedParts p es) ++ "])"
  | .range a b c => Value.rangeText a b c
  | .stream k _ => k.shown
  | .object _ => "<Obj object>"
  | .mute _ => "<BadStr object>"
  | .inert _ shown _ => shown
  | .failure ⟨c, _, _, _⟩ => c.kind.name ++ "(" ++ Cause.quotedArguments c ++ ")"
  | .type n => "<class '" ++ n ++ "'>"
  | .builtin f => f.shown
  | .method o m => Value.methodText o m
  | .undefined _ => "Undefined"

/-- The quoted forms of several values. -/
def Value.quotedAll : List Object → List String
  | [] => []
  | ⟨v, _⟩ :: vs => Value.quoted v :: Value.quotedAll vs

/-- The entries of a dictionary, each as key and value. -/
def Value.quotedEntries : List (Object × Object) → List String
  | [] => []
  | (⟨k, _⟩, ⟨v, _⟩) :: es => (Value.quoted k ++ ": " ++ Value.quoted v) :: Value.quotedEntries es

/-- One part of the entries of a dictionary. -/
def Value.quotedParts (p : DictPart) : List (Object × Object) → List String
  | [] => []
  | (⟨k, _⟩, ⟨v, _⟩) :: es =>
    (match p with
      | .items => "(" ++ Value.quoted k ++ ", " ++ Value.quoted v ++ ")"
      | .keys => Value.quoted k
      | .values => Value.quoted v) :: Value.quotedParts p es

/-- What a failure was made from, as its quoted form shows it. -/
def Cause.quotedArguments : Cause → String
  | .fault f => f.quotedArguments
  | .missingKey ⟨k, _⟩ => Value.quoted k
  | .misuse m => Text.quoted m.message
  | .malformed .tooDeep => ""
  | .malformed w => Text.quoted w.text
  | .invalidOptions _ => ""
  | .raised _ m => (m.map Text.quoted).getD ""
  | .unmatched p m wording => Text.quoted (Cause.unmatchedWords p m wording)
  | .nesting p m => Text.quoted (Cause.nestingWords p m)
  | .evaluation code inner => Text.quoted (Cause.evaluationWords code (Failure.text inner))
  | .fallback expr code inner =>
    Text.quoted (Cause.fallbackWords expr code (Failure.text inner))
  | .recycling ls => Text.quoted (Cause.recyclingWords ls)

/-- The words for a cause. -/
def Cause.words : Cause → String
  | .fault f => f.message
  | .missingKey ⟨k, _⟩ => Value.quoted k
  | .misuse m => m.message
  | .malformed w => w.text
  | .invalidOptions _ => ""
  | .raised ⟨.keyError, _⟩ m => (m.map Text.quoted).getD ""
  | .raised _ m => m.getD ""
  | .unmatched p m wording => Cause.unmatchedWords p m wording
  | .nesting p m => Cause.nestingWords p m
  | .evaluation code inner => Cause.evaluationWords code (Failure.text inner)
  | .fallback expr code inner => Cause.fallbackWords expr code (Failure.text inner)
  | .recycling lengths => Cause.recyclingWords lengths

/-- The text of a failure: the words for its cause and, if it concerns templates, its span. -/
def Failure.text : Failure → String
  | ⟨c, span, _, _⟩ =>
    if c.kind.concernsTemplate then Cause.words c ++ Failure.spanText span else Cause.words c

end

/-! ## Wording that is not reported -/

mutual

/-- Whether the words for a cause are reported: they are, unless it goes back to a reader whose
wording is not part of this library. -/
def Cause.isReported : Cause → Bool
  | .malformed w => w.isReported
  | .invalidOptions _ => false
  | .evaluation _ inner | .fallback _ _ inner => Failure.isReported inner
  | _ => true

/-- Whether the text of a failure is reported. -/
def Failure.isReported : Failure → Bool
  | ⟨c, _, _, _⟩ => Cause.isReported c

end

/-- The text of a failure, if it is reported. -/
def Failure.message (f : Failure) : Option String :=
  if f.isReported then some f.text else none

/-! ## Numbers that are not written -/

namespace Value

/-- The least number with more digits than are written. -/
def unwritable : Nat :=
  Nat.pow 10 maxDigits

/-- Whether a whole number is written. -/
def isShort (n : Int) : Bool :=
  n.natAbs < unwritable

end Value

mutual

/-- Whether all whole numbers that the quoted form of a value shows are written. -/
def Value.isWritable : Value → Bool
  | .int n => Value.isShort n
  | .range a b c => Value.isShort a && Value.isShort b && Value.isShort c
  | .list xs | .tuple xs | .set xs => Value.allWritable xs
  | .dict es | .view _ es => Value.entriesWritable es
  | .failure ⟨.missingKey ⟨k, _⟩, _, _, _⟩ => Value.isWritable k
  | _ => true

def Value.allWritable : List Object → Bool
  | [] => true
  | ⟨v, _⟩ :: vs => Value.isWritable v && Value.allWritable vs

def Value.entriesWritable : List (Object × Object) → Bool
  | [] => true
  | (⟨k, _⟩, ⟨v, _⟩) :: es =>
    Value.isWritable k && Value.isWritable v && Value.entriesWritable es

end

namespace Value

/-- The quoted form of a value, if all its numbers are written. -/
def shown (v : Value) : Except Fault String :=
  if v.isWritable then .ok v.quoted else .error .tooManyDigits

/-- The display form of a value. Only an object that refuses to be displayed, an undefined value, or
one with a number that is not written, has none. -/
def display : Value → Except Failure String
  | text s => .ok s
  | object s | inert s _ _ => .ok s
  | mute f => .error f
  | failure f =>
    if (failure f).isWritable then .ok f.text else .error (.ofFault .tooManyDigits)
  | undefined why => if why.isLenient then .ok "" else .error (.ofFault (.undefined why))
  | v => v.shown.mapError .ofFault

/-- One token: missing values show as the marker `na`. -/
def token (na : String) (v : Value) : Except Failure String :=
  if v.isMissing then .ok na else v.display

end Value

end Splice
