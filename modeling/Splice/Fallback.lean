import Splice.Json
import Splice.Yaml.Document

/-!
# Fallbacks

A fallback stands in for code that failed: a value, or code to evaluate instead. It can be written
as a tagged object, `type: Value` with a `value`, or `type: Computation` with an `expr`; the tag may
stand anywhere among the fields, and fields that mean nothing are skipped.

A text can be malformed, or well formed and of the wrong shape. JSON texts are judged as they are
read: the first thing that is wrong decides. A YAML text is read completely before its shape is
looked at. A number or a date in it that is none of either is reported as such.
-/

namespace Splice

/-- What stands in for code that failed. -/
inductive Fallback where
  | value (v : Value)
  | computation (code : String)
  deriving Inhabited

namespace Fallback

/-- The two shapes of a fallback. -/
inductive Shape where
  | value
  | computation
  deriving DecidableEq, Repr, Inhabited

/-- The shape with a tag. -/
def shape? (tag : String) : Option Shape :=
  if tag == "Value" then some .value else if tag == "Computation" then some .computation else none

/-- The field that holds the tag. -/
def tagField : String :=
  "type"

/-! ## JSON -/

/-- Reads a key and the colon behind it. -/
def jsonKey (s : List Char) : Except Malformed (String × List Char) :=
  match Json.skip s with
  | '"' :: rest => do
    let (k, rest) ← Json.wellFormed (Json.text (rest.length + 1) rest)
    match Json.skip rest with
    | ':' :: rest => return (String.ofList k, rest)
    | _ => throw .fallbackText
  | _ => .error .fallbackText

/-- Reads a text; anything else that is well formed has the wrong shape. -/
def jsonText (s : List Char) : Except Malformed (String × List Char) :=
  match Json.skip s with
  | '"' :: rest => do
    let (t, rest) ← Json.wellFormed (Json.text (rest.length + 1) rest)
    return (String.ofList t, rest)
  | '[' :: _ | '\x7b' :: _ => .error .fallbackShape
  | rest => do
    let _ ← Json.value 1 0 rest
    throw .fallbackShape

/-- Reads a tag: a text, and one that has a shape. -/
def jsonTag (s : List Char) : Except Malformed (Shape × List Char) :=
  match Json.skip s with
  | [] => .error .fallbackText
  | '"' :: rest => do
    let (t, rest) ← Json.wellFormed (Json.text (rest.length + 1) rest)
    match shape? (String.ofList t) with
    | some shape => return (shape, rest)
    | none => throw .fallbackShape
  | _ => .error .fallbackShape

/-- Goes behind a field: `again` reads the next one. -/
def jsonNext {α : Type} (s : List Char) (again : List Char → Except Malformed α)
    (ended : List Char → Except Malformed α) : Except Malformed α :=
  match Json.skip s with
  | ',' :: rest => again rest
  | '\x7d' :: rest => ended rest
  | _ => .error .fallbackText

/-- Looks for the tag among the fields. -/
def jsonShape : (fuel : Nat) → List Char → Except Malformed Shape
  | 0, _ => .error .fallbackText
  | fuel + 1, s => do
    let (k, rest) ← jsonKey s
    if k == tagField then return (← jsonTag rest).1
    else
      let (_, rest) ← Json.value (rest.length + 1) 0 rest
      jsonNext rest (jsonShape fuel) fun _ => throw .fallbackShape

/-- Reads the fields of a fallback with this shape; `found` is what has been read of it. -/
def jsonFields (shape : Shape) : (fuel : Nat) → (found : Option Fallback) → List Char →
    Except Malformed (Fallback × List Char)
  | 0, _, _ => .error .fallbackText
  | fuel + 1, found, s => do
    let (k, rest) ← jsonKey s
    let (found, rest) ← (
      if k == tagField then do
        let (again, rest) ← jsonTag rest
        if again = shape then return (found, rest) else throw .fallbackShape
      else if k == "value" && shape = .value then do
        let (v, rest) ← Json.value (rest.length + 1) 0 rest
        return (some (.value v), rest)
      else if k == "expr" && shape = .computation then do
        let (t, rest) ← jsonText rest
        return (some (.computation t), rest)
      else do
        let (_, rest) ← Json.value (rest.length + 1) 0 rest
        return (found, rest) : Except Malformed (Option Fallback × List Char))
    jsonNext rest (jsonFields shape fuel found) fun rest =>
      match found, shape with
      | some f, _ => .ok (f, rest)
      | none, .value => .ok (.value .null, rest)
      | none, .computation => .error .fallbackShape

/-- The fallback that a JSON text writes. -/
def ofJson (text : List Char) : Except Malformed Fallback :=
  match Json.skip text with
  | [] => .error .fallbackText
  | '[' :: _ => .error .fallbackShape
  | '\x7b' :: rest =>
    match Json.skip rest with
    | '\x7d' :: _ => .error .fallbackShape
    | rest => do
      let shape ← jsonShape (rest.length + 1) rest
      let (found, rest) ← jsonFields shape (rest.length + 1) none rest
      if (Json.skip rest).isEmpty then return found else throw .fallbackText
  | rest => do
    let _ ← Json.value 1 0 rest
    throw .fallbackShape

/-! ## YAML -/

/-- The value of a field. -/
def field? (name : String) : List (Object × Object) → Option Value
  | [] => none
  | (k, v) :: es =>
    match k.value with
    | .text n => if n == name then some v.value else field? name es
    | _ => field? name es

/-- The fallback that a value describes. -/
def ofValue (v : Value) : Except Malformed Fallback :=
  match v with
  | .dict es =>
    match field? tagField es with
    | some (.text tag) =>
      match shape? tag, field? "expr" es with
      | some .value, _ =>
        if es.all fun (k, _) => k.value.typeName == "str" then
          .ok (.value ((field? "value" es).getD .null))
        else .error .fallbackShape
      | some .computation, some (.text code) =>
        if es.all fun (k, _) => k.value.typeName == "str" then .ok (.computation code)
        else .error .fallbackShape
      | _, _ => .error .fallbackShape
    | _ => .error .fallbackShape
  | _ => .error .fallbackShape

/-- The fallback that a YAML text writes. -/
def ofYaml (text : String) : Except Malformed Fallback :=
  match Yaml.decode text with
  | .error (.scalar why) => .error (.scalar why)
  | .error _ => .error .fallbackText
  | .ok v => ofValue (v.getD .null)

/-- The fallback that a text in some format writes. -/
def decode (text format : String) : Except Failure Fallback :=
  if format == "yaml" then (ofYaml text).mapError .ofMalformed
  else if format == "json" then (ofJson text.toList).mapError .ofMalformed
  else .error (.ofMisuse (.unknownFormat format))

end Fallback

end Splice
