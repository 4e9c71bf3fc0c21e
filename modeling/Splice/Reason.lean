import Splice.Fault

/-!
# Reasons for failing

Reasons that hold no values: a template that does not scan, a text that its reader refuses, a
request that makes no sense, options that do not fit. What fails while code runs is a `Fault`; all
of these are causes of a `Failure`.

Some reasons come from a reader whose wording is not part of this library (the grammars of the
expression languages and of the data formats). They have a kind and no text.
-/

namespace Splice

/-- A half-open range of positions, counted in characters. Those that a scan finds are natural
numbers; a caller who makes segments may put any numbers into them. -/
structure Span where
  start : Int
  stop : Int
  deriving DecidableEq, Repr, Inhabited

/-- A scan that stops before the end of the template. -/
inductive ScanError where
  /-- A marker at this position has no counterpart. -/
  | unmatched (position : Nat) (marker : String)
  /-- An opening marker at this position stands inside a block. -/
  | nesting (position : Nat) (marker : String)
  deriving DecidableEq, Repr, Inhabited

namespace ScanError

def position : ScanError → Nat
  | unmatched p _ => p
  | nesting p _ => p

def marker : ScanError → String
  | unmatched _ m => m
  | nesting _ m => m

/-- The same failure of a text that starts `k` characters earlier. -/
def shift (k : Nat) : ScanError → ScanError
  | unmatched p m => unmatched (k + p) m
  | nesting p m => nesting (k + p) m

end ScanError

/-- Whole numbers with more digits than this are neither written nor read. -/
def maxDigits : Nat :=
  4300

/-- What a reader objects to in something that looks like a number or a date. -/
inductive Unreadable where
  /-- A number with this many digits, more than are read. -/
  | digits (count : Nat)
  /-- A number to this base without a digit. -/
  | noDigits (base : Nat)
  | year (n : Nat)
  | month
  | day
  | hour
  | minute
  | second
  /-- An offset of a time zone, as a duration. -/
  | zone (offset : String)
  deriving DecidableEq, Repr, Inhabited

namespace Unreadable

def text : Unreadable → String
  | digits n =>
    "Exceeds the limit (4300 digits) for integer string conversion: value has " ++ toString n ++
      " digits; use sys.set_int_max_str_digits() to increase the limit"
  | noDigits b => "invalid literal for int() with base " ++ toString b ++ ": ''"
  | year n => "year " ++ toString n ++ " is out of range"
  | month => "month must be in 1..12"
  | day => "day is out of range for month"
  | hour => "hour must be in 0..23"
  | minute => "minute must be in 0..59"
  | second => "second must be in 0..59"
  | zone o =>
    "offset must be a timedelta strictly between -timedelta(hours=24) and timedelta(hours=24), " ++
      "not " ++ o ++ "."

end Unreadable

/-- Texts that their reader refuses. What the reader says is not reported, except about null
characters, about single numbers and dates, and about what is nested too deep. -/
inductive Malformed where
  /-- Code outside the grammar of the assignment language. -/
  | formula
  /-- Code of the assignment language with a line that is indented where none may be. -/
  | indentation
  /-- Code of the assignment language with a null character. -/
  | nullCharacter
  /-- Code of the assignment language that is nested too deep to be read. -/
  | tooDeep
  /-- Code of the assignment language that can be read, but is nested too deep for anything else. -/
  | tooNested
  /-- Code outside the grammar of the filter language. -/
  | filterCode
  /-- A filter or a test that does not exist. -/
  | filterName
  /-- Code of the filter language that gives an option twice. -/
  | repeatedOption
  /-- Code of the filter language with more brackets open than can be followed. -/
  | manyBrackets
  /-- Code of the filter language that has parts of parts beyond what can be followed. -/
  | manyLevels
  /-- Code of the filter language that cannot be written with all its brackets. -/
  | wideBrackets
  /-- A fallback text that is not well formed. -/
  | fallbackText
  /-- A well formed fallback text of the wrong shape. -/
  | fallbackShape
  /-- A fallback text with more brackets open than can be followed. -/
  | fallbackDepth
  /-- A character that starts no token. -/
  | yamlToken
  /-- A token that does not fit. -/
  | yamlStructure
  /-- A scalar that no value can be made of. -/
  | yamlValue
  /-- More than one document. -/
  | yamlDocuments
  /-- A character that may not stand in a document. -/
  | yamlCharacter
  /-- A number or a date in an otherwise readable text. -/
  | scalar (why : Unreadable)
  deriving DecidableEq, Repr, Inhabited

namespace Malformed

def kind : Malformed → Kind
  | formula | nullCharacter | repeatedOption | wideBrackets => .syntaxError
  | indentation => .indentationError
  | filterCode => .templateSyntaxError
  | filterName => .templateAssertionError
  | fallbackText => .decodeError
  | fallbackShape => .validationError
  | yamlToken => .scannerError
  | yamlStructure => .parserError
  | yamlValue => .constructorError
  | yamlDocuments => .composerError
  | yamlCharacter => .readerError
  | scalar _ => .valueError
  | tooDeep => .memoryError
  | tooNested | manyBrackets | manyLevels | fallbackDepth => .recursionError

/-- Whether it is reported what the reader says. -/
def isReported : Malformed → Bool
  | nullCharacter | tooDeep | tooNested | manyBrackets | manyLevels | fallbackDepth | scalar _ =>
    true
  | _ => false

/-- What the reader says, as far as this library knows. -/
def text : Malformed → String
  | nullCharacter => "source code string cannot contain null bytes"
  | tooNested => "maximum recursion depth exceeded during compilation"
  | manyBrackets => "maximum recursion depth exceeded"
  | manyLevels => "maximum recursion depth exceeded while calling a Python object"
  | fallbackDepth => "maximum recursion depth exceeded while deserializing an object"
  | scalar why => why.text
  | _ => ""

end Malformed

/-- Requests that this library refuses. -/
inductive Misuse where
  | emptyMarker
  | equalMarkers
  | unknownPolicy (name : String)
  | unknownEvaluator (name : String) (known : List String)
  | evaluatorTaken (name : String)
  /-- Something, quoted, that cannot evaluate code. -/
  | notAnEvaluator (shown : String)
  | unknownFormat (name : String)
  | openGroup (position : Nat)
  | openClass (position : Nat)
  | nothingToRepeat (position : Nat)
  | missingFile (path : String)
  /-- Options given as a value of this type. -/
  | optionsNotMapping (type : String)
  | optionNotNamed
  | unknownArgument (function name : String)
  /-- An argument that is there already. -/
  | argumentTwice (function name : String)
  deriving DecidableEq, Repr, Inhabited

namespace Misuse

def kind : Misuse → Kind
  | emptyMarker | equalMarkers | unknownPolicy _ | unknownEvaluator .. | evaluatorTaken _ |
    unknownFormat _ => .valueError
  | notAnEvaluator _ | optionsNotMapping _ | optionNotNamed | unknownArgument .. |
    argumentTwice .. => .typeError
  | openGroup _ | openClass _ | nothingToRepeat _ => .patternError
  | missingFile _ => .fileNotFoundError

def message : Misuse → String
  | emptyMarker => "Delimiters must be non-empty strings"
  | equalMarkers => "Nested scanning needs distinct open and close markers"
  | unknownPolicy n => "Unknown recycle policy: " ++ n
  | unknownEvaluator n known =>
    "Unknown evaluator: " ++ n ++ " (known: " ++ ", ".intercalate known ++ ")"
  | evaluatorTaken n => "Evaluator already registered: " ++ n
  | notAnEvaluator shown => shown ++ " does not implement evaluate(code, environment)"
  | unknownFormat n => "Unsupported fallback format: " ++ n
  | openGroup p => "missing ), unterminated subpattern at position " ++ toString p
  | openClass p => "unterminated character set at position " ++ toString p
  | nothingToRepeat p => "nothing to repeat at position " ++ toString p
  | missingFile p => "Config file not found: " ++ p
  | optionsNotMapping t => "options must be a mapping, not " ++ t
  | optionNotNamed => "keywords must be strings"
  | unknownArgument f n => f ++ "() got an unexpected keyword argument " ++ Text.quoted n
  | argumentTwice f n => f ++ "() got multiple values for argument " ++ Text.quoted n

end Misuse

/-- What is wrong with the value given for an option. -/
inductive Objection where
  | notText
  /-- Bytes that write no text. -/
  | unreadableText
  | notTruth
  | unreadableTruth
  | notAChoice
  | notCallable
  | frozen
  /-- A rule of the library, in its own words. -/
  | rule (text : String)
  deriving DecidableEq, Repr, Inhabited

/-- An objection to one option, or to the options as a whole. A report of it also shows what was
given for the option. That is left out here: objections are the same if they are to the same option
and for the same reason. -/
structure OptionIssue where
  field : Option String
  objection : Objection
  deriving DecidableEq, Repr, Inhabited

end Splice
