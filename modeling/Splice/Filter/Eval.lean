import Splice.Filter.Apply
import Splice.Filter.Grammar

/-!
# Evaluating filter expressions

Evaluation only reads names. A name without a value is undefined, which is no failure as long as
nothing is done with it: it may be a member of a list, be tested, or be replaced by a default. A
result that is itself undefined fails.

Names of one expression with the same normal form stand for the same thing: for what the last of
them stands for.
-/

namespace Splice.Filter

/-- The name of the expression itself, to which an environment may not give a value. -/
def ownName : String :=
  "self"

/-- An object that only shows as something. -/
def nameless (shown type : String) : Value :=
  .inert shown shown type

/-- What a name stands for that the environment does not know, if it stands for anything. -/
def global? : String → Option Value
  | "range" => some (.builtin .shortRange)
  | "dict" => some (.type "dict")
  | "lipsum" => some (nameless "<function generate_lorem_ipsum>" "function")
  | "cycler" => some (.type "jinja2.utils.Cycler")
  | "joiner" => some (.type "jinja2.utils.Joiner")
  | "namespace" => some (.type "jinja2.utils.Namespace")
  | "self" => some (nameless "<TemplateReference None>" "jinja2.runtime.TemplateReference")
  | _ => none

/-- What a name stands for in an expression with these names, if it stands for anything. -/
def found? (names : List String) (known : String → Option Object) (n : String) : Option Object :=
  let m := (names.reverse.find? fun m => Text.normal m == Text.normal n).getD n
  (known m).or ((global? m).map .new)

namespace Expr

mutual

/-- The object that an expression evaluates to. -/
def eval (known : String → Option Object) : Expr → Compute Object
  | constant l => return .new l.value
  | name n => return (known n).getD (undefined (.name n))
  | list items => do Compute.list (← evalAll known items)
  | tuple items => do Compute.tuple (← evalAll known items)
  | dict entries => do Compute.dict (← evalEntries known entries)
  | choose c yes no => do
    if ← Compute.ofFault (← eval known c).value.truth then eval known yes else eval known no
  | provided c yes line => do
    if ← Compute.ofFault (← eval known c).value.truth then eval known yes
    else return undefined (.alternative line)
  | both l r => do
    let o ← eval known l
    if ← Compute.ofFault o.value.truth then eval known r else return o
  | either l r => do
    let o ← eval known l
    if ← Compute.ofFault o.value.truth then return o else eval known r
  | negation e => do return .new (.bool !(← Compute.ofFault (← eval known e).value.truth))
  | compare first rest => do evalChain known (← eval known first) rest
  | binary op l r => do
    let a ← eval known l
    Compute.operate Stream.draw op a (← eval known r)
  | negative e => do Compute.ofFault (← eval known e).neg
  | joined parts => do
    let texts ← (← evalAll known parts).mapM fun o => textOf o.value
    return .new (.text (String.join texts))
  | subscript e index => do
    let o ← eval known e
    itemOf o (← eval known index)
  | member e n => do Filter.memberOf (← eval known e) n
  | call f args options => do
    let callee ← eval known f
    let values ← evalAll known args
    Filter.call callee values (← evalOptions known options)
  | filtered e f args options => do
    let o ← eval known e
    let values ← evalAll known args
    applyFilter f o values (← evalOptions known options)
  | tested e t args options => do
    let o ← eval known e
    let values ← evalAll known args
    return .new (.bool (← applyTest t o.value values (← evalOptions known options)))

/-- The objects that several expressions evaluate to. -/
def evalAll (known : String → Option Object) : List Expr → Compute (List Object)
  | [] => return []
  | e :: es => do
    let o ← eval known e
    return o :: (← evalAll known es)

def evalEntries (known : String → Option Object) :
    List (Expr × Expr) → Compute (List (Object × Object))
  | [] => return []
  | (k, v) :: es => do
    let key ← eval known k
    let value ← eval known v
    return (key, value) :: (← evalEntries known es)

def evalOptions (known : String → Option Object) :
    List (String × Expr) → Compute (List (String × Object))
  | [] => return []
  | (n, e) :: es => do
    let o ← eval known e
    return (n, o) :: (← evalOptions known es)

/-- A chain of comparisons, up to the first that does not hold. -/
def evalChain (known : String → Option Object) (left : Object) :
    List (Formula.Comparison × Expr) → Compute Object
  | [] => return left
  | (c, e) :: rest => do
    let right ← eval known e
    let met ← Formula.compareBy Stream.draw c left right
    if met then
      if rest.isEmpty then return .new (.bool true) else evalChain known right rest
    else return .new (.bool false)

end

end Expr

/-- What some code evaluates to; names stand for what `known` says. -/
def run (code : String) (known : String → Option Object) : Compute Object := do
  match Expr.ofCode (Text.strip code.toList) with
  | .error refused => throw (.ofMalformed refused)
  | .ok e =>
    if (known ownName).isSome then
      Formula.refuse ("TemplateExpression.__call__() got multiple values for argument " ++
        Text.quoted ownName)
    else
      let result ← e.eval (found? e.names known)
      match result.value.useless? with
      | some why => Compute.fail (.undefined why)
      | none => return result

end Splice.Filter
