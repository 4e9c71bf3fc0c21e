import Splice.Value.Basic

/-!
# Names that always stand for something

A name that nothing gives a value stands for a function or a type that is always there. Formulas can
call the functions that `Builtin` lists and the types that values are made by; of the others only
the name is known here.
-/

namespace Splice.Formula

/-- Names separated by blanks. -/
private def namesIn (s : String) : List String :=
  s.splitOn " "

/-- Functions that are there but do nothing. -/
def idleFunctions : List String :=
  namesIn <| "__build_class__ __import__ abs aiter all anext any ascii bin breakpoint callable " ++
    "chr compile delattr dir divmod eval exec format getattr globals hasattr hash hex id input " ++
    "isinstance issubclass iter locals max min next oct open ord pow print repr round setattr vars"

/-- Types of values. -/
def typeNames : List String :=
  namesIn <| "bool bytearray bytes classmethod complex dict enumerate filter float frozenset " ++
    "int list map memoryview object property range reversed set slice staticmethod str super " ++
    "tuple type zip"

/-- Types of failures. -/
def failureTypeNames : List String :=
  namesIn <| "ArithmeticError AssertionError AttributeError BaseException BaseExceptionGroup " ++
    "BlockingIOError BrokenPipeError BufferError BytesWarning ChildProcessError " ++
    "ConnectionAbortedError ConnectionError ConnectionRefusedError ConnectionResetError " ++
    "DeprecationWarning EOFError EncodingWarning Exception ExceptionGroup FileExistsError " ++
    "FileNotFoundError FloatingPointError FutureWarning GeneratorExit ImportError " ++
    "ImportWarning IndentationError IndexError InterruptedError IsADirectoryError KeyError " ++
    "KeyboardInterrupt LookupError MemoryError ModuleNotFoundError NameError " ++
    "NotADirectoryError NotImplementedError OSError OverflowError PendingDeprecationWarning " ++
    "PermissionError ProcessLookupError RecursionError ReferenceError ResourceWarning " ++
    "RuntimeError RuntimeWarning StopAsyncIteration StopIteration SyntaxError SyntaxWarning " ++
    "SystemError SystemExit TabError TimeoutError TypeError UnboundLocalError " ++
    "UnicodeDecodeError UnicodeEncodeError UnicodeError UnicodeTranslateError UnicodeWarning " ++
    "UserWarning ValueError Warning ZeroDivisionError"

/-- An object that shows as some words. -/
def worded (words type : String) : Value :=
  .inert words words type

/-- How one leaves a dialogue, as the functions that do it show. -/
def farewell (name : String) : Value :=
  worded ("Use " ++ name ++ "() or Ctrl-D (i.e. EOF) to exit") "_sitebuiltins.Quitter"

/-- The value that a name stands for when nothing else gives it one. -/
def builtin? (name : String) : Option Value :=
  match name with
  | "len" => some (.builtin .len)
  | "sum" => some (.builtin .sum)
  | "sorted" => some (.builtin .sorted)
  | "None" => some .null
  | "True" | "__debug__" => some (.bool true)
  | "False" => some (.bool false)
  | "Ellipsis" => some (worded name "ellipsis")
  | "NotImplemented" => some (worded name "NotImplementedType")
  | "EnvironmentError" | "IOError" => some (.type "OSError")
  | "__name__" => some (.text "builtins")
  | "__package__" => some (.text "")
  | "exit" | "quit" => some (farewell name)
  | "help" =>
    some (worded "Type help() for interactive help, or help(object) for help about object."
      "_sitebuiltins._Helper")
  | _ =>
    if typeNames.contains name || failureTypeNames.contains name then some (.type name)
    else if idleFunctions.contains name then
      some (worded ("<built-in function " ++ name ++ ">") "builtin_function_or_method")
    else none

end Splice.Formula
