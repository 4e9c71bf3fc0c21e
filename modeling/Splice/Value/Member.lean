import Splice.Value.Basic

/-!
# Members of values

Values have members besides those that code is expected to use: numbers have parts, ranges have
limits, and every type has methods of its own. Such a method is a value like others, so that code
can ask whether a value has it, but here it does nothing.
-/

namespace Splice.Value

/-- Names separated by blanks. -/
def wordsOf (s : String) : List String :=
  s.splitOn " "

/-! ## Parts -/

/-- A part of a number or of a range, by its name. -/
def numberPart? (v : Value) (name : String) : Option Value :=
  match v, name with
  | real x, "real" => some (real x)
  | real _, "imag" => some (real (.ofInt 0))
  | range a _ _, "start" => some (int a)
  | range _ b _, "stop" => some (int b)
  | range _ _ c, "step" => some (int c)
  | _, "real" | _, "numerator" => v.asInt?.map int
  | _, "imag" => v.asInt?.map fun _ => int 0
  | _, "denominator" => v.asInt?.map fun _ => int 1
  | _, _ => none

/-! ## Methods -/

/-- Methods of texts and of bytes. -/
def characterMethods : List String :=
  wordsOf <| "capitalize center count endswith expandtabs find index isalnum isalpha isascii " ++
    "isdigit islower isspace istitle isupper join ljust lower lstrip maketrans partition " ++
    "removeprefix removesuffix replace rfind rindex rjust rpartition rsplit rstrip split " ++
    "splitlines startswith strip swapcase title translate upper zfill"

/-- Methods of texts alone. -/
def textMethods : List String :=
  wordsOf "casefold encode format format_map isdecimal isidentifier isnumeric isprintable"

/-- Methods of what is a row of items that can change. -/
def rowMethods : List String :=
  wordsOf "append clear copy count extend index insert pop remove reverse"

/-- The methods of a value. -/
def methodNames : Value → List String
  | bool _ | int _ =>
    wordsOf "as_integer_ratio bit_count bit_length conjugate from_bytes to_bytes"
  | real _ => wordsOf "as_integer_ratio conjugate fromhex hex is_integer"
  | text _ => characterMethods ++ textMethods
  | bytes _ => characterMethods ++ wordsOf "decode fromhex hex"
  | buffer _ => characterMethods ++ wordsOf "decode fromhex hex" ++ rowMethods
  | list _ => "sort" :: rowMethods
  | tuple _ | range .. => wordsOf "count index"
  | dict _ => wordsOf "clear copy fromkeys get items keys pop popitem setdefault update values"
  | set _ =>
    wordsOf <| "add clear copy difference difference_update discard intersection " ++
      "intersection_update isdisjoint issubset issuperset pop remove symmetric_difference " ++
      "symmetric_difference_update union update"
  | view .values _ => []
  | view _ _ => ["isdisjoint"]
  | stream .computed _ => wordsOf "close send throw"
  | failure _ => wordsOf "add_note with_traceback"
  | _ => []

/-- A method that does nothing, of a value of this type. -/
def idleMethod (type name : String) : Value :=
  let shown := "<built-in method " ++ name ++ " of " ++ type ++ " object>"
  inert shown shown "builtin_function_or_method"

/-- A member of a value, if it has one of this name, that is a part of it or does nothing. -/
def plainMember? (v : Value) (name : String) : Option Value :=
  match numberPart? v name with
  | some part => some part
  | none =>
    if (methodNames v).contains name then some (idleMethod v.typeName name) else none

end Splice.Value
