import Splice.Evaluator
import Splice.Fallback
import Splice.Margin
import Splice.Pattern
import Splice.Render

/-!
# Hooks

A hook stands between the code of a block and its value. The plain hook evaluates the code. A
collapsing hook takes a mark out of the code, and if the mark was there, joins the tokens of the
value to one text. A recovering hook has a fallback for code that fails to evaluate. A nested hook
takes the code for the name of another template and renders that.
-/

namespace Splice

/-- How a template is read and laid out, apart from what its code means. -/
structure Settings where
  delimiters : Delimiters
  trim : Bool
  separator : String
  missing : String
  policy : Recycling.Policy

namespace Settings

/-- The renderer with these settings. -/
def renderer (s : Settings) (transform : Transform) : Renderer :=
  ⟨transform, s.separator, s.missing, s.policy⟩

/-- A truth value as the log shows it. -/
def shown (b : Bool) : String :=
  if b then "True" else "False"

/-- The segments of a template, trimmed if the settings say so. -/
def segments (s : Settings) (template : String) : Action (List Segment) := do
  let scanned ← s.delimiters.segments template
  let segments := if s.trim then Margin.trim scanned else scanned
  Action.note .splicing
    ("Scanned " ++ toString segments.length ++ " segments (trim=" ++ shown s.trim ++ ")")
  return segments

/-- Renders a template to one text. -/
def render (s : Settings) (transform : Transform) (template : String) : Action String := do
  (s.renderer transform).render (← s.segments template)

/-- Renders a template to lines. -/
def renderLines (s : Settings) (transform : Transform) (template : String) :
    Action (List String) := do
  (s.renderer transform).renderLines (← s.segments template)

end Settings

/-- What happens to the code of a block. -/
inductive Hook where
  | plain (e : Evaluator)
  /-- Joins the tokens of code with a mark; `last`, if not empty, goes between the last two. -/
  | collapsing (mark : Pattern) (separator last missing : String) (e : Evaluator)
  | recovering (fallback : Fallback) (e : Evaluator)
  /-- Renders the template that the code names, with a hook for its own blocks. -/
  | nested (s : Settings) (inner : Hook)

instance : Inhabited Hook := ⟨.plain default⟩

namespace Hook

/-- Joins tokens, the last two by `last` unless it is empty. -/
def collapse (separator last : String) (tokens : List String) : String :=
  match tokens.getLast? with
  | some final =>
    if last != "" && 1 < tokens.length then
      separator.intercalate tokens.dropLast ++ last ++ final
    else separator.intercalate tokens
  | none => ""

/-- Evaluates code; if it has the mark, without the mark and joined to one text. -/
def runCollapsing (mark : Pattern) (separator last missing : String) (e : Evaluator)
    (code : String) : Action Object := do
  match mark.remove? code with
  | none => e.evaluate code
  | some bare =>
    let o ← e.evaluate bare
    let tokens ← Action.compute (o.value.tokens missing)
    return .new (.text (collapse separator last tokens))

/-- The bindings that the fallback for some code sees: the code, which is a part of the failure, and
the failure. -/
def fallbackBindings (code : String) (f : Failure) : Action Bindings := do
  let error ← Action.compute (Compute.held (.new (.failure f)))
  return [("code", error.part "code" (.text code)), ("error", error)]

/-- Puts a fallback in the place of code that failed with `f` for the reason given. -/
def recover (fallback : Fallback) (e : Evaluator) (code : String) (f reason : Failure) :
    Action Object := do
  Action.note .hooks
    ("Substituting fallback for " ++ Text.quoted code ++ ": " ++ reason.message.getD "")
  match fallback with
  | .value v => return .new v
  | .computation expr =>
    let bindings ← fallbackBindings code f
    tryCatch (Action.within [bindings] (e.evaluate expr)) fun second =>
      match second.cause with
      | .evaluation _ inner => throw (.of (.fallback expr code inner))
      | _ => throw second

/-- Evaluates code, with a fallback if that fails. -/
def runRecovering (fallback : Fallback) (e : Evaluator) (code : String) : Action Object :=
  tryCatch (e.evaluate code) fun f =>
    match f.cause with
    | .evaluation _ reason => recover fallback e code f reason
    | _ => throw f

/-- The template that a value is. Nothing else is one, except what has no length to scan. -/
def templateOf (v : Value) : Except Fault String :=
  match v with
  | .text s => .ok s
  | _ => do
    if (← v.length) == 0 then return ""
    else
      match v with
      | .bytes _ | .buffer _ =>
        throw (.arguments "startswith first arg must be bytes or a tuple of bytes, not str")
      | _ => throw (.noAttribute v.typeName "startswith")

/-- What a hook makes of the code of a block. -/
def run : Hook → Transform
  | plain e => e.evaluate
  | collapsing mark separator last missing e => runCollapsing mark separator last missing e
  | recovering fallback e => runRecovering fallback e
  | nested s inner => fun code => do
    Action.recordCall code
    match templateOf (← Action.lookup code).value with
    | .ok template => return .new (.text (← s.render inner.run template))
    | .error f => throw (.ofFault f)

end Hook

end Splice
