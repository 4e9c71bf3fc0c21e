import Splice.Text.Quoted

/-!
# What goes wrong while code runs

Expression code fails in a small number of ways: an unbound name, an operation on values that do not
support it, an index outside a container. Each way is a `Fault` that keeps what its report needs
(the names of the types involved, the name that was not found), and one function words them all. The
`Kind` of a fault is the name by which reports, and expression code itself, speak of it.
-/

namespace Splice

/-- The families of failures, in the words of the reports. -/
inductive Kind where
  | keyError
  | valueError
  | runtimeError
  | typeError
  | nameError
  | zeroDivisionError
  | indexError
  | lookupError
  | attributeError
  | unicodeDecodeError
  | overflowError
  | memoryError
  | syntaxError
  | indentationError
  | recursionError
  | fileNotFoundError
  | undefinedError
  | securityError
  | patternError
  | templateError
  | transformerError
  | unmatchedDelimiterError
  | nestingError
  | evaluationError
  | recycleError
  | validationError
  | decodeError
  | scannerError
  | parserError
  | constructorError
  | composerError
  | readerError
  | templateSyntaxError
  | templateAssertionError
  | templateRuntimeError
  deriving DecidableEq, Repr, Inhabited

namespace Kind

/-- The name of a family. -/
def name : Kind → String
  | keyError => "KeyError"
  | valueError => "ValueError"
  | runtimeError => "RuntimeError"
  | typeError => "TypeError"
  | nameError => "NameError"
  | zeroDivisionError => "ZeroDivisionError"
  | indexError => "IndexError"
  | lookupError => "LookupError"
  | attributeError => "AttributeError"
  | unicodeDecodeError => "UnicodeDecodeError"
  | overflowError => "OverflowError"
  | memoryError => "MemoryError"
  | syntaxError => "SyntaxError"
  | indentationError => "IndentationError"
  | recursionError => "RecursionError"
  | fileNotFoundError => "FileNotFoundError"
  | undefinedError => "UndefinedError"
  | securityError => "SecurityError"
  | patternError => "error"
  | templateError => "TemplateError"
  | transformerError => "TransformerError"
  | unmatchedDelimiterError => "UnmatchedDelimiterError"
  | nestingError => "NestingError"
  | evaluationError => "EvaluationError"
  | recycleError => "RecycleError"
  | validationError => "ValidationError"
  | decodeError => "DecodeError"
  | scannerError => "ScannerError"
  | parserError => "ParserError"
  | constructorError => "ConstructorError"
  | composerError => "ComposerError"
  | readerError => "ReaderError"
  | templateSyntaxError => "TemplateSyntaxError"
  | templateAssertionError => "TemplateAssertionError"
  | templateRuntimeError => "TemplateRuntimeError"

/-- The families that concern templates; only these carry a span and code. -/
def concernsTemplate : Kind → Bool
  | templateError | transformerError | unmatchedDelimiterError | nestingError | evaluationError
  | recycleError => true
  | _ => false

/-- The families of failures that the filter language has for itself. -/
def concernsFilters : Kind → Bool
  | undefinedError | securityError | templateSyntaxError | templateAssertionError
  | templateRuntimeError => true
  | _ => false

/-- The name of a family with the place where it is defined, unless that is everywhere. -/
def qualifiedName (k : Kind) : String :=
  if k.concernsTemplate then "interpol.exceptions." ++ k.name
  else if k.concernsFilters then "jinja2.exceptions." ++ k.name
  else k.name

/-- The families whose failures are made of other things than a message. -/
def hasData : Kind → Bool
  | unicodeDecodeError | unmatchedDelimiterError | nestingError | evaluationError | recycleError =>
    true
  | _ => false

end Kind

/-- A family whose failures need no more than a message. -/
structure PlainKind where
  kind : Kind
  plain : kind.hasData = false
  deriving DecidableEq, Repr

/-- Why an undefined value is undefined. -/
inductive Missing where
  /-- No name of the environment. -/
  | name (name : String)
  /-- No item or attribute of this name in a value of this type. -/
  | member (holder name : String)
  /-- No element at this index or key, quoted, in a value of this type. -/
  | element (holder index : String)
  /-- No item to return, in the words given. -/
  | hint (text : String)
  /-- An attribute of this name that a value of this type has but does not give away. -/
  | guarded (name type : String)
  /-- A condition, on this line of the code, that fails and says nothing about that case. -/
  | alternative (line : Nat)
  deriving DecidableEq, Repr, Inhabited

namespace Missing

def kind : Missing → Kind
  | guarded .. => .securityError
  | _ => .undefinedError

/-- Whether the undefined value can be used as something empty: it shows as nothing, has no items
and counts as false. -/
def isLenient : Missing → Bool
  | alternative _ => true
  | _ => false

def message : Missing → String
  | name n => Text.quoted n ++ " is undefined"
  | member holder n => Text.quoted holder ++ " has no attribute " ++ Text.quoted n
  | element holder i => holder ++ " has no element " ++ i
  | hint t => t
  | guarded n t =>
    "access to attribute " ++ Text.quoted n ++ " of " ++ Text.quoted t ++ " object is unsafe."
  | alternative l =>
    "the inline if-expression on line " ++ toString l ++
      " evaluated to false and no else section was defined."

end Missing

/-- What is wrong with a pattern of places to fill in, or with what is to fill them. -/
inductive PatternFault where
  /-- More places than values. -/
  | tooFew
  /-- More values than places. -/
  | tooMany (bytes : Bool)
  /-- Places with names, but values without. -/
  | notNamed
  | incomplete
  | incompleteName
  /-- A letter that says nothing about how to fill its place, at this position. -/
  | unknownLetter (letter : Nat) (position : Nat)
  /-- A place with this letter for a number of some sort, and the type of the value. -/
  | notNumber (letter : Char) (type : String)
  | notWhole (letter : Char) (type : String)
  | notReal (bytes : Bool) (type : String)
  | notCharacter
  | noCharacter
  | notByte
  /-- A number that no byte holds. -/
  | noByte
  | notBytes (type : String)
  /-- A width or a precision that is not a number. -/
  | sizeNotWhole
  | widthTooBig
  | precisionTooBig (bytes : Bool)
  deriving DecidableEq, Repr, Inhabited

namespace PatternFault

def kind : PatternFault → Kind
  | incomplete | incompleteName | unknownLetter .. | widthTooBig | precisionTooBig _ => .valueError
  | noCharacter | noByte => .overflowError
  | tooFew | tooMany _ | notNamed | notNumber .. | notWhole .. | notReal .. | notCharacter |
    notByte | notBytes _ | sizeNotWhole => .typeError

/-- A letter as reports on it show it: those outside ASCII by a question mark. -/
def letterText (n : Nat) : Char :=
  if 31 ≤ n && n < 127 then Char.ofNat n else '?'

def message : PatternFault → String
  | tooFew => "not enough arguments for format string"
  | tooMany bytes =>
    "not all arguments converted during " ++ (if bytes then "bytes" else "string") ++ " formatting"
  | notNamed => "format requires a mapping"
  | incomplete => "incomplete format"
  | incompleteName => "incomplete format key"
  | unknownLetter n p =>
    "unsupported format character '" ++ String.singleton (letterText n) ++ "' (0x" ++
      String.ofList (Nat.toDigits 16 n) ++ ") at index " ++ toString p
  | notNumber c t =>
    "%" ++ String.singleton c ++ " format: a real number is required, not " ++ t
  | notWhole c t => "%" ++ String.singleton c ++ " format: an integer is required, not " ++ t
  | notReal true t => "float argument required, not " ++ t
  | notReal false t => "must be real number, not " ++ t
  | notCharacter => "%c requires int or char"
  | noCharacter => "%c arg not in range(0x110000)"
  | notByte => "%c requires an integer in range(256) or a single byte"
  | noByte => "%c arg not in range(256)"
  | notBytes t =>
    "%b requires a bytes-like object, or an object that implements __bytes__, not '" ++ t ++ "'"
  | sizeNotWhole => "* wants int"
  | widthTooBig => "width too big"
  | precisionTooBig bytes => if bytes then "prec too big" else "precision too big"

end PatternFault

/-- The ways in which running code goes wrong. Types are given by their names. -/
inductive Fault where
  | emptyCode
  | unbound (name : String)
  | divisionByZero
  | remainderByZero
  | realDivisionByZero
  | realRemainderByZero
  | indexOutOfRange (container : String)
  | operands (op left right : String)
  | operand (op type : String)
  | concatenation (container other : String)
  | byteConcatenation (container other : String)
  | repetition (other : String)
  /-- More copies of a text or of bytes than could ever be stored. -/
  | tooManyCopies (what : String)
  /-- A number of copies, or an index, that no index can count. -/
  | uncountable
  | indexUncountable
  | noRoom
  | incomparable (op left right : String)
  | notSubscriptable (type : String)
  /-- A type itself, which has no items. -/
  | typeNotSubscriptable (type : String)
  | notCallable (type : String)
  | notIterable (type : String)
  | notReversible (type : String)
  | noMembers (type : String)
  | memberNotText (type : String)
  | notBytes (type : String)
  /-- A number that no byte holds. -/
  | noByte
  | noLength (type : String)
  | notWhole (type : String)
  | indexNotWhole (container type : String)
  | itemNotText (position : Nat) (type : String)
  | itemNotBytes (position : Nat) (type : String)
  | notJoinable
  | unhashable (type : String)
  | noAttribute (type name : String)
  | noMember (type name : String)
  | zeroStep
  /-- A value, quoted, that writes no number. -/
  | notANumber (shown : String)
  | notNumeric (type : String)
  /-- A value, quoted, that writes no whole number to a base. -/
  | notAWhole (base : Nat) (shown : String)
  | noBase
  /-- A part of a dictionary to be made that is no pair: it has no items, or too many or too few. -/
  | noPair (position : Nat)
  | pairLength (position length : Nat)
  | tooLarge
  /-- A number that does not fit into 64 bits, and one that does not fit into 32. -/
  | tooLong
  | tooLongForWord
  /-- A whole number with more digits than are written. -/
  | tooManyDigits
  /-- A real number that has no whole part: not-a-number, or an infinity. -/
  | noWholePart (infinite : Bool)
  | pattern (fault : PatternFault)
  | unknownEncoding (name : String)
  /-- No way, of this name, of handling bytes that mean nothing, and the name of the encoding if
  that had to be looked up. -/
  | unknownHandler (name : String) (encoding : Option String)
  /-- Bytes from a first to a last position that mean nothing in an encoding, for the reason given.
  -/
  | undecodable (encoding : String) (bytes : List UInt8) (first last : Nat) (reason : String)
  | fixedMapping
  | alreadyRunning
  | tooDeep
  | rangeTooLong
  | noFilter (name : String)
  | noTest (name : String)
  /-- A call with arguments that the function does not take, in its own words. -/
  | arguments (complaint : String)
  | undefined (why : Missing)
  deriving DecidableEq, Repr, Inhabited

namespace Fault

def kind : Fault → Kind
  | emptyCode => .syntaxError
  | unbound _ => .nameError
  | divisionByZero | remainderByZero | realDivisionByZero | realRemainderByZero =>
    .zeroDivisionError
  | indexOutOfRange _ | indexUncountable => .indexError
  | noAttribute .. | noMember .. => .attributeError
  | zeroStep | notANumber _ | notAWhole .. | noBase | pairLength .. | noByte | alreadyRunning |
    tooManyDigits => .valueError
  | noWholePart infinite => if infinite then .overflowError else .valueError
  | pattern f => f.kind
  | unknownEncoding _ | unknownHandler .. => .lookupError
  | undecodable .. => .unicodeDecodeError
  | noFilter _ | noTest _ => .templateRuntimeError
  | tooLarge | tooLong | tooLongForWord | uncountable | rangeTooLong | tooManyCopies _ =>
    .overflowError
  | noRoom => .memoryError
  | tooDeep => .recursionError
  | undefined why => why.kind
  | operands .. | operand .. | concatenation .. | byteConcatenation .. | repetition _ |
    incomparable .. | notSubscriptable _ | typeNotSubscriptable _ | notCallable _ | notIterable _ |
    notReversible _ | noMembers _ | memberNotText _ | notBytes _ | noLength _ | notWhole _ |
    indexNotWhole .. | itemNotText .. | itemNotBytes .. | notJoinable | unhashable _ |
    notNumeric _ | noPair _ | fixedMapping | arguments _ => .typeError

def message : Fault → String
  | emptyCode => "empty expression"
  | unbound n => "name " ++ Text.quoted n ++ " is not defined"
  | divisionByZero => "integer division or modulo by zero"
  | remainderByZero => "integer modulo by zero"
  | realDivisionByZero => "float floor division by zero"
  | realRemainderByZero => "float modulo"
  | indexOutOfRange c =>
    if c == "byte" then "index out of range"
    else if c == "range" then "range object index out of range"
    else c ++ " index out of range"
  | operands op l r =>
    "unsupported operand type(s) for " ++ op ++ ": '" ++ l ++ "' and '" ++ r ++ "'"
  | operand op t => "bad operand type for unary " ++ op ++ ": '" ++ t ++ "'"
  | concatenation c o => "can only concatenate " ++ c ++ " (not \"" ++ o ++ "\") to " ++ c
  | byteConcatenation c o => "can't concat " ++ o ++ " to " ++ c
  | uncountable | indexUncountable => "cannot fit 'int' into an index-sized integer"
  | noRoom => ""
  | tooManyCopies w => "repeated " ++ w ++ " too long"
  | repetition o => "can't multiply sequence by non-int of type '" ++ o ++ "'"
  | incomparable op l r =>
    "'" ++ op ++ "' not supported between instances of '" ++ l ++ "' and '" ++ r ++ "'"
  | notSubscriptable t => "'" ++ t ++ "' object is not subscriptable"
  | typeNotSubscriptable t => "type '" ++ t ++ "' is not subscriptable"
  | notCallable t => "'" ++ t ++ "' object is not callable"
  | notIterable t => "'" ++ t ++ "' object is not iterable"
  | notReversible t => "'" ++ t ++ "' object is not reversible"
  | noMembers t => "argument of type '" ++ t ++ "' is not iterable"
  | memberNotText t => "'in <string>' requires string as left operand, not " ++ t
  | notBytes t => "a bytes-like object is required, not '" ++ t ++ "'"
  | noByte => "byte must be in range(0, 256)"
  | noLength t => "object of type '" ++ t ++ "' has no len()"
  | notWhole t => "'" ++ t ++ "' object cannot be interpreted as an integer"
  | indexNotWhole c t =>
    if c == "string" then "string indices must be integers, not '" ++ t ++ "'"
    else c ++ " indices must be integers or slices, not " ++ t
  | itemNotText i t =>
    "sequence item " ++ toString i ++ ": expected str instance, " ++ t ++ " found"
  | itemNotBytes i t =>
    "sequence item " ++ toString i ++ ": expected a bytes-like object, " ++ t ++ " found"
  | notJoinable => "can only join an iterable"
  | unhashable t => "unhashable type: '" ++ t ++ "'"
  | noAttribute t n => "'" ++ t ++ "' object has no attribute " ++ Text.quoted n
  | noMember t n => "type object '" ++ t ++ "' has no attribute " ++ Text.quoted n
  | zeroStep => "range() arg 3 must not be zero"
  | notANumber t => "could not convert string to float: " ++ t
  | notAWhole b t => "invalid literal for int() with base " ++ toString b ++ ": " ++ t
  | noBase => "int() base must be >= 2 and <= 36, or 0"
  | noPair i =>
    "cannot convert dictionary update sequence element #" ++ toString i ++ " to a sequence"
  | pairLength i n =>
    "dictionary update sequence element #" ++ toString i ++ " has length " ++ toString n ++
      "; 2 is required"
  | notNumeric t => "float() argument must be a string or a real number, not '" ++ t ++ "'"
  | tooLong => "Python int too large to convert to C ssize_t"
  | tooLongForWord => "Python int too large to convert to C int"
  | tooLarge => "int too large to convert to float"
  | tooManyDigits =>
    "Exceeds the limit (4300 digits) for integer string conversion; use " ++
      "sys.set_int_max_str_digits() to increase the limit"
  | noWholePart infinite =>
    "cannot convert float " ++ (if infinite then "infinity" else "NaN") ++ " to integer"
  | pattern f => f.message
  | unknownEncoding n => "unknown encoding: " ++ n
  | unknownHandler n none => "unknown error handler name " ++ Text.quoted n
  | unknownHandler n (some e) =>
    "decoding with '" ++ e ++ "' codec failed (LookupError: unknown error handler name " ++
      Text.quoted n ++ ")"
  | undecodable e bs first last reason =>
    let place :=
      if first = last then
        "byte 0x" ++ String.ofList (Text.hexDigits 2 ((bs.getD first 0).toNat)) ++
          " in position " ++ toString first
      else "bytes in position " ++ toString first ++ "-" ++ toString last
    Text.quoted e ++ " codec can't decode " ++ place ++ ": " ++ reason
  | fixedMapping => "'mappingproxy' object does not support item assignment"
  | alreadyRunning => "generator already executing"
  | tooDeep => "maximum recursion depth exceeded"
  | rangeTooLong =>
    "Range too big. The sandbox blocks ranges larger than MAX_RANGE (100000)."
  | noFilter n => "No filter named " ++ Text.quoted n ++ " found."
  | noTest n => "No test named " ++ Text.quoted n ++ " found."
  | arguments complaint => complaint
  | undefined why => why.message

end Fault

end Splice
