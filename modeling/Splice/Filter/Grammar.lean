import Splice.Filter.Expr
import Splice.Filter.Token
import Splice.Text.Normal

/-!
# The grammar of filter expressions

From the loosest to the tightest: a condition, `or`, `and`, `not`, comparisons, sums, `~`, products,
the unary minus, and what follows an operand. Filters and tests bind like members and indices, but
come after them.

Each level has its reader, which takes the tokens it wants from the front and hands on the rest. The
first argument of a reader bounds how deep it may go; `Expr.ofCode` starts with more than any code
can use up.
-/

namespace Splice.Filter.Expr

/-- Why these tokens are not what they should be. -/
def refuse : Tokens → Malformed
  | (.endless digits, _) :: _ => .scalar (.digits digits)
  | (.tooManyBrackets, _) :: _ => .manyBrackets
  | (.tooManySigns, _) :: _ => .manyLevels
  | _ => .filterCode

/-- Takes the mark `m` from the front. -/
def expectMark (m : String) (ts : Tokens) : Except Malformed Tokens :=
  match ts with
  | (.mark k, _) :: rest => if k = m then .ok rest else .error .filterCode
  | _ => .error (refuse ts)

/-- The line of the first token. -/
def lineOf : Tokens → Nat
  | (_, line) :: _ => line
  | [] => 0

/-- Takes the further parts of a name with dots. -/
def dotted (n : String) : Tokens → String × Tokens
  | (.mark ".", _) :: (.name m, _) :: ts => dotted (n ++ "." ++ m) ts
  | ts => (n, ts)

/-- Whether an argument without parentheses follows the name of a test. -/
def startsArgument : Tokens → Bool
  | (.name n, _) :: _ => n != "else" && n != "or" && n != "and"
  | (.text _, _) :: _ | (.whole _, _) :: _ | (.endless _, _) :: _ | (.mark "[", _) :: _ |
    (.mark "\x7b", _) :: _ => true
  | _ => false

/-- Takes further texts, which continue a first one. -/
def moreText : Tokens → List Char × Tokens
  | (.text s, _) :: ts =>
    let (more, rest) := moreText ts
    (s ++ more, rest)
  | ts => ([], ts)

/-- The comparison at the front of some tokens. -/
def comparison? : Tokens → Option (Formula.Comparison × Tokens)
  | (.mark "==", _) :: ts => some (.equal, ts)
  | (.mark "!=", _) :: ts => some (.unequal, ts)
  | (.mark "<", _) :: ts => some (.ordered .lt, ts)
  | (.mark "<=", _) :: ts => some (.ordered .le, ts)
  | (.mark ">", _) :: ts => some (.ordered .gt, ts)
  | (.mark ">=", _) :: ts => some (.ordered .ge, ts)
  | (.name "in", _) :: ts => some (.member, ts)
  | (.name "not", _) :: (.name "in", _) :: ts => some (.notMember, ts)
  | _ => none

mutual

/-- A condition, or what binds tighter. -/
def condition : Nat → Tokens → Except Malformed (Expr × Tokens)
  | 0, _ => .error .filterCode
  | k + 1, ts => do
    let line := lineOf ts
    let (yes, ts) ← alternatives k ts
    moreConditions k line yes ts

/-- Conditions after an expression that starts on a line. -/
def moreConditions : Nat → Nat → Expr → Tokens → Except Malformed (Expr × Tokens)
  | 0, _, _, _ => .error .filterCode
  | k + 1, line, yes, ts =>
    match ts with
    | (.name "if", _) :: ts => do
      let (c, ts) ← alternatives k ts
      match ts with
      | (.name "else", _) :: ts =>
        let (no, ts) ← condition k ts
        moreConditions k (lineOf ts) (.choose c yes no) ts
      | _ => moreConditions k (lineOf ts) (.provided c yes line) ts
    | _ => return (yes, ts)

def alternatives : Nat → Tokens → Except Malformed (Expr × Tokens)
  | 0, _ => .error .filterCode
  | k + 1, ts => do
    let (l, ts) ← conjunctions k ts
    moreAlternatives k l ts

def moreAlternatives : Nat → Expr → Tokens → Except Malformed (Expr × Tokens)
  | 0, _, _ => .error .filterCode
  | k + 1, l, ts =>
    match ts with
    | (.name "or", _) :: ts => do
      let (r, ts) ← conjunctions k ts
      moreAlternatives k (.either l r) ts
    | _ => return (l, ts)

def conjunctions : Nat → Tokens → Except Malformed (Expr × Tokens)
  | 0, _ => .error .filterCode
  | k + 1, ts => do
    let (l, ts) ← inversion k ts
    moreConjunctions k l ts

def moreConjunctions : Nat → Expr → Tokens → Except Malformed (Expr × Tokens)
  | 0, _, _ => .error .filterCode
  | k + 1, l, ts =>
    match ts with
    | (.name "and", _) :: ts => do
      let (r, ts) ← inversion k ts
      moreConjunctions k (.both l r) ts
    | _ => return (l, ts)

def inversion : Nat → Tokens → Except Malformed (Expr × Tokens)
  | 0, _ => .error .filterCode
  | k + 1, ts =>
    match ts with
    | (.name "not", _) :: ts => do
      let (e, ts) ← inversion k ts
      return (.negation e, ts)
    | _ => do
      let (first, ts) ← sum k ts
      let (rest, ts) ← comparisons k ts
      return (if rest.isEmpty then first else .compare first rest, ts)

def comparisons : Nat → Tokens →
    Except Malformed (List (Formula.Comparison × Expr) × Tokens)
  | 0, _ => .error .filterCode
  | k + 1, ts =>
    match comparison? ts with
    | some (c, ts) => do
      let (e, ts) ← sum k ts
      let (rest, ts) ← comparisons k ts
      return ((c, e) :: rest, ts)
    | none => return ([], ts)

def sum : Nat → Tokens → Except Malformed (Expr × Tokens)
  | 0, _ => .error .filterCode
  | k + 1, ts => do
    let (l, ts) ← joining k ts
    moreSum k l ts

def moreSum : Nat → Expr → Tokens → Except Malformed (Expr × Tokens)
  | 0, _, _ => .error .filterCode
  | k + 1, l, ts =>
    match ts with
    | (.mark "+", _) :: ts => do
      let (r, ts) ← joining k ts
      moreSum k (.binary .add l r) ts
    | (.mark "-", _) :: ts => do
      let (r, ts) ← joining k ts
      moreSum k (.binary .sub l r) ts
    | _ => return (l, ts)

def joining : Nat → Tokens → Except Malformed (Expr × Tokens)
  | 0, _ => .error .filterCode
  | k + 1, ts => do
    let (first, ts) ← product k ts
    let (rest, ts) ← moreJoined k ts
    return (if rest.isEmpty then first else .joined (first :: rest), ts)

def moreJoined : Nat → Tokens → Except Malformed (List Expr × Tokens)
  | 0, _ => .error .filterCode
  | k + 1, ts =>
    match ts with
    | (.mark "~", _) :: ts => do
      let (e, ts) ← product k ts
      let (rest, ts) ← moreJoined k ts
      return (e :: rest, ts)
    | _ => return ([], ts)

def product : Nat → Tokens → Except Malformed (Expr × Tokens)
  | 0, _ => .error .filterCode
  | k + 1, ts => do
    let (l, ts) ← factor k true ts
    moreProduct k l ts

def moreProduct : Nat → Expr → Tokens → Except Malformed (Expr × Tokens)
  | 0, _, _ => .error .filterCode
  | k + 1, l, ts =>
    match ts with
    | (.mark "*", _) :: ts => do
      let (r, ts) ← factor k true ts
      moreProduct k (.binary .mul l r) ts
    | (.mark "//", _) :: ts => do
      let (r, ts) ← factor k true ts
      moreProduct k (.binary .floorDiv l r) ts
    | (.mark "%", _) :: ts => do
      let (r, ts) ← factor k true ts
      moreProduct k (.binary .mod l r) ts
    | _ => return (l, ts)

/-- An operand with its sign and with what follows it; filters follow only the outermost. -/
def factor : Nat → Bool → Tokens → Except Malformed (Expr × Tokens)
  | 0, _, _ => .error .filterCode
  | k + 1, outermost, ts => do
    let (e, ts) ← (match ts with
      | (.mark "-", _) :: ts => do
        let (e, ts) ← factor k false ts
        return (.negative e, ts)
      | _ => operand k ts)
    let (e, ts) ← followed k e ts
    if outermost then filtering k e ts else return (e, ts)

/-- Members, indices and arguments after an operand. -/
def followed : Nat → Expr → Tokens → Except Malformed (Expr × Tokens)
  | 0, _, _ => .error .filterCode
  | k + 1, e, ts =>
    match ts with
    | (.mark ".", _) :: (.name n, _) :: ts => followed k (.member e n) ts
    | (.mark ".", _) :: (.whole n, _) :: ts => followed k (.subscript e (.constant (.int n))) ts
    | (.mark ".", _) :: ts => .error (refuse ts)
    | (.mark "[", _) :: ts => do
      let (indices, ts) ← items k "]" false ts
      match indices with
      | [index] => followed k (.subscript e index) ts
      | _ => followed k (.subscript e (.tuple indices)) ts
    | (.mark "(", _) :: ts => do
      let ((args, options), ts) ← arguments k ts
      followed k (.call e args options) ts
    | _ => return (e, ts)

/-- Filters, tests and arguments after an operand. -/
def filtering : Nat → Expr → Tokens → Except Malformed (Expr × Tokens)
  | 0, _, _ => .error .filterCode
  | k + 1, e, ts =>
    match ts with
    | (.mark "|", _) :: (.name f, _) :: ts => do
      let (f, ts) := dotted f ts
      match ts with
      | (.mark "(", _) :: ts =>
        let ((args, options), ts) ← arguments k ts
        filtering k (.filtered e f args options) ts
      | _ => filtering k (.filtered e f [] []) ts
    | (.mark "|", _) :: ts => .error (refuse ts)
    | (.name "is", _) :: (.name "not", _) :: ts => do
      let (found, ts) ← test k e ts
      filtering k (.negation found) ts
    | (.name "is", _) :: ts => do
      let (found, ts) ← test k e ts
      filtering k found ts
    | (.mark "(", _) :: ts => do
      let ((args, options), ts) ← arguments k ts
      filtering k (.call e args options) ts
    | _ => return (e, ts)

/-- The name of a test of `e`, and its arguments. A single argument needs no parentheses. -/
def test : Nat → Expr → Tokens → Except Malformed (Expr × Tokens)
  | 0, _, _ => .error .filterCode
  | k + 1, e, ts =>
    match ts with
    | (.name t, _) :: ts => do
      let (t, ts) := dotted t ts
      match ts with
      | (.mark "(", _) :: ts =>
        let ((args, options), ts) ← arguments k ts
        return (.tested e t args options, ts)
      | (.name "is", _) :: _ => .error .filterCode
      | _ =>
        if startsArgument ts then
          let (arg, ts) ← operand k ts
          let (arg, ts) ← followed k arg ts
          return (.tested e t [arg] [], ts)
        else return (.tested e t [] [], ts)
    | _ => .error (refuse ts)

/-- The arguments of a call after its opening parenthesis: those without a name come first. -/
def arguments : Nat → Tokens →
    Except Malformed ((List Expr × List (String × Expr)) × Tokens)
  | 0, _ => .error .filterCode
  | k + 1, ts =>
    match ts with
    | (.mark ")", _) :: ts => return (([], []), ts)
    | (.name n, _) :: (.mark "=", _) :: ts => do
      let (e, ts) ← condition k ts
      let ((args, options), ts) ← moreArguments k ts
      if args.isEmpty then return (([], (Text.normal n, e) :: options), ts)
      else .error .filterCode
    | _ => do
      let (e, ts) ← condition k ts
      let ((args, options), ts) ← moreArguments k ts
      return ((e :: args, options), ts)

def moreArguments : Nat → Tokens →
    Except Malformed ((List Expr × List (String × Expr)) × Tokens)
  | 0, _ => .error .filterCode
  | k + 1, ts =>
    match ts with
    | (.mark ",", _) :: ts => arguments k ts
    | _ => do return (([], []), ← expectMark ")" ts)

/-- What stands between commas up to a closing mark; `trailing` allows a comma in front of it. -/
def items : Nat → String → Bool → Tokens → Except Malformed (List Expr × Tokens)
  | 0, _, _, _ => .error .filterCode
  | k + 1, close, trailing, ts =>
    match expectMark close ts with
    | .ok ts => return ([], ts)
    | .error _ => do
      let (e, ts) ← condition k ts
      match ts with
      | (.mark ",", _) :: ts =>
        if !trailing && (expectMark close ts).isOk then .error .filterCode
        else
          let (rest, ts) ← items k close trailing ts
          return (e :: rest, ts)
      | _ =>
        let ts ← expectMark close ts
        return ([e], ts)

/-- A literal, a name, or what brackets enclose. -/
def operand : Nat → Tokens → Except Malformed (Expr × Tokens)
  | 0, _ => .error .filterCode
  | k + 1, ts =>
    match ts with
    | (.name n, _) :: ts =>
      if n == "true" || n == "True" then return (.constant (.bool true), ts)
      else if n == "false" || n == "False" then return (.constant (.bool false), ts)
      else if n == "none" || n == "None" then return (.constant .null, ts)
      else return (.name n, ts)
    | (.whole n, _) :: ts => return (.constant (.int n), ts)
    | (.text s, _) :: ts =>
      let (more, ts) := moreText ts
      return (.constant (.text (String.ofList (s ++ more))), ts)
    | (.mark "(", _) :: (.mark ")", _) :: ts => return (.tuple [], ts)
    | (.mark "(", _) :: ts => do
      let (first, ts) ← condition k ts
      match ts with
      | (.mark ",", _) :: ts =>
        let (rest, ts) ← items k ")" true ts
        return (.tuple (first :: rest), ts)
      | _ =>
        let ts ← expectMark ")" ts
        return (first, ts)
    | (.mark "[", _) :: ts => do
      let (es, ts) ← items k "]" true ts
      return (.list es, ts)
    | (.mark "\x7b", _) :: ts => do
      let (es, ts) ← entries k ts
      return (.dict es, ts)
    | _ => .error (refuse ts)

/-- The entries of a dictionary, and its end. -/
def entries : Nat → Tokens → Except Malformed (List (Expr × Expr) × Tokens)
  | 0, _ => .error .filterCode
  | k + 1, ts =>
    match ts with
    | (.mark "\x7d", _) :: ts => return ([], ts)
    | _ => do
      let (key, ts) ← condition k ts
      let ts ← expectMark ":" ts
      let (value, ts) ← condition k ts
      match ts with
      | (.mark ",", _) :: ts =>
        let (rest, ts) ← entries k ts
        return ((key, value) :: rest, ts)
      | _ =>
        let ts ← expectMark "\x7d" ts
        return ([(key, value)], ts)

end

/-- The expression that some code writes. -/
def ofCode (code : List Char) : Except Malformed Expr := do
  let ts := Token.ofCode code
  let (e, rest) ← condition (32 * (ts.length + 1)) ts
  match rest with
  | [] =>
    if maxLevels < e.levels then .error .manyLevels
    else if maxBrackets < e.brackets then .error .wideBrackets
    else if !e.wellNamed then .error .filterName
    else if e.repeatsOption then .error .repeatedOption
    else return e
  | _ => .error (refuse rest)

end Splice.Filter.Expr
