import Splice.Formula.Expr
import Splice.Formula.Token

/-!
# The grammar of formulas

From the loosest to the tightest, formulas bind as follows: a condition, `or`, `and`, `not`,
comparisons, sums, products, the unary minus, and what follows an operand (a member, an index, the
arguments of a call). An assignment is allowed wherever brackets or commas set it apart.

The readers below follow that order, one for each level, and each takes the tokens it wants from the
front and hands on the rest. Their first argument bounds how deep they may go; `Expr.ofCode` starts
them with more than any code can use up. Their second argument says how deep they are in the code.
Every sign, `not` and `else` takes them deeper by one, brackets by more, and there is a depth that
code may not reach; a formula that has been read may not be nested too deep either (`Expr.depth`).
-/

namespace Splice.Formula

namespace Expr

/-- Why these tokens are not what they should be. -/
def refuse : List Token → Malformed
  | .indent :: _ => .indentation
  | _ => .formula

/-- Takes the mark `m` from the front. -/
def expectMark (m : String) : List Token → Except Malformed (List Token)
  | .mark k :: ts => if k = m then .ok ts else .error .formula
  | ts => .error (refuse ts)

/-- Takes the word `w` from the front. -/
def expectWord (w : String) : List Token → Except Malformed (List Token)
  | .word k :: ts => if k = w then .ok ts else .error .formula
  | ts => .error (refuse ts)

/-! ## Depth -/

/-- Readers do not go as deep as this. -/
def unreachedDepth : Nat :=
  5948

/-- How much deeper the arguments of a call or an index are. -/
def forArguments : Nat :=
  24

/-- How much deeper the inside of parentheses is. -/
def forParenthesis : Nat :=
  28

/-- How much deeper the items of a list, a tuple, a set or a dictionary are. -/
def forBracket : Nat :=
  29

/-- Refuses code that goes too deep. -/
def notTooDeep (d : Nat) : Except Malformed Unit :=
  if unreachedDepth ≤ d then .error .tooDeep else .ok ()

/-! ## Readers -/

/-- Takes further texts, which continue a first one. -/
def moreText : List Token → List Char × List Token
  | .text s :: ts =>
    let (more, rest) := moreText ts
    (s ++ more, rest)
  | ts => ([], ts)

/-- The comparison at the front of some tokens. -/
def comparison? : List Token → Option (Comparison × List Token)
  | .mark "==" :: ts => some (.equal, ts)
  | .mark "!=" :: ts => some (.unequal, ts)
  | .mark "<" :: ts => some (.ordered .lt, ts)
  | .mark "<=" :: ts => some (.ordered .le, ts)
  | .mark ">" :: ts => some (.ordered .gt, ts)
  | .mark ">=" :: ts => some (.ordered .ge, ts)
  | .word "in" :: ts => some (.member, ts)
  | .word "not" :: .word "in" :: ts => some (.notMember, ts)
  | .word "is" :: .word "not" :: ts => some (.notSame, ts)
  | .word "is" :: ts => some (.same, ts)
  | _ => none

mutual

/-- A condition, or what binds tighter. -/
def condition : Nat → Nat → List Token → Except Malformed (Expr × List Token)
  | 0, _, _ => .error .formula
  | k + 1, d, ts => do
    let (yes, ts) ← alternatives k d ts
    match ts with
    | .word "if" :: ts =>
      let (c, ts) ← alternatives k d ts
      let ts ← expectWord "else" ts
      let (no, ts) ← condition k (d + 1) ts
      return (.choose c yes no, ts)
    | _ => return (yes, ts)

/-- An assignment or a condition. -/
def named : Nat → Nat → List Token → Except Malformed (Expr × List Token)
  | 0, _, _ => .error .formula
  | k + 1, d, ts =>
    match ts with
    | .name n :: .mark ":=" :: ts => do
      let (e, ts) ← condition k (d + 1) ts
      return (.assign n e, ts)
    | _ => condition k d ts

def alternatives : Nat → Nat → List Token → Except Malformed (Expr × List Token)
  | 0, _, _ => .error .formula
  | k + 1, d, ts => do
    let (l, ts) ← conjunctions k d ts
    moreAlternatives k d l ts

def moreAlternatives : Nat → Nat → Expr → List Token → Except Malformed (Expr × List Token)
  | 0, _, _, _ => .error .formula
  | k + 1, d, l, ts =>
    match ts with
    | .word "or" :: ts => do
      let (r, ts) ← conjunctions k (d + 2) ts
      moreAlternatives k d (.either l r) ts
    | _ => return (l, ts)

def conjunctions : Nat → Nat → List Token → Except Malformed (Expr × List Token)
  | 0, _, _ => .error .formula
  | k + 1, d, ts => do
    let (l, ts) ← inversion k d ts
    moreConjunctions k d l ts

def moreConjunctions : Nat → Nat → Expr → List Token → Except Malformed (Expr × List Token)
  | 0, _, _, _ => .error .formula
  | k + 1, d, l, ts =>
    match ts with
    | .word "and" :: ts => do
      let (r, ts) ← inversion k (d + 2) ts
      moreConjunctions k d (.both l r) ts
    | _ => return (l, ts)

def inversion : Nat → Nat → List Token → Except Malformed (Expr × List Token)
  | 0, _, _ => .error .formula
  | k + 1, d, ts => do
    notTooDeep d
    match ts with
    | .word "not" :: ts => do
      let (e, ts) ← inversion k (d + 1) ts
      return (.negation e, ts)
    | _ => do
      let (first, ts) ← sum k d ts
      let (rest, ts) ← comparisons k d ts
      return (if rest.isEmpty then first else .compare first rest, ts)

def comparisons : Nat → Nat → List Token → Except Malformed (List (Comparison × Expr) × List Token)
  | 0, _, _ => .error .formula
  | k + 1, d, ts =>
    match comparison? ts with
    | some (c, ts) => do
      let (e, ts) ← sum k (d + 3) ts
      let (rest, ts) ← comparisons k d ts
      return ((c, e) :: rest, ts)
    | none => return ([], ts)

def sum : Nat → Nat → List Token → Except Malformed (Expr × List Token)
  | 0, _, _ => .error .formula
  | k + 1, d, ts => do
    let (l, ts) ← product k d ts
    moreSum k d l ts

def moreSum : Nat → Nat → Expr → List Token → Except Malformed (Expr × List Token)
  | 0, _, _, _ => .error .formula
  | k + 1, d, l, ts =>
    match ts with
    | .mark "+" :: ts => do
      let (r, ts) ← product k d ts
      moreSum k d (.binary .add l r) ts
    | .mark "-" :: ts => do
      let (r, ts) ← product k d ts
      moreSum k d (.binary .sub l r) ts
    | _ => return (l, ts)

def product : Nat → Nat → List Token → Except Malformed (Expr × List Token)
  | 0, _, _ => .error .formula
  | k + 1, d, ts => do
    let (l, ts) ← factor k d ts
    moreProduct k d l ts

def moreProduct : Nat → Nat → Expr → List Token → Except Malformed (Expr × List Token)
  | 0, _, _, _ => .error .formula
  | k + 1, d, l, ts =>
    match ts with
    | .mark "*" :: ts => do
      let (r, ts) ← factor k d ts
      moreProduct k d (.binary .mul l r) ts
    | .mark "//" :: ts => do
      let (r, ts) ← factor k d ts
      moreProduct k d (.binary .floorDiv l r) ts
    | .mark "%" :: ts => do
      let (r, ts) ← factor k d ts
      moreProduct k d (.binary .mod l r) ts
    | _ => return (l, ts)

def factor : Nat → Nat → List Token → Except Malformed (Expr × List Token)
  | 0, _, _ => .error .formula
  | k + 1, d, ts => do
    notTooDeep d
    match ts with
    | .mark "-" :: ts => do
      let (e, ts) ← factor k (d + 1) ts
      return (.negative e, ts)
    | _ => do
      let (e, ts) ← operand k d ts
      followed k d e ts

/-- What follows an operand: members, indices and arguments. -/
def followed : Nat → Nat → Expr → List Token → Except Malformed (Expr × List Token)
  | 0, _, _, _ => .error .formula
  | k + 1, d, e, ts =>
    match ts with
    | .mark "." :: .name n :: ts => followed k d (.member e n) ts
    | .mark "." :: ts => .error (refuse ts)
    | .mark "(" :: ts => do
      let (args, ts) ← arguments k (d + forArguments) ts
      followed k d (.call e args) ts
    | .mark "[" :: ts => do
      let (first, ts) ← named k (d + forArguments) ts
      match ts with
      | .mark "," :: ts =>
        let (rest, ts) ← namedUntil k (d + forArguments) "]" ts
        followed k d (.subscript e (.tuple (first :: rest))) ts
      | _ =>
        let ts ← expectMark "]" ts
        followed k d (.subscript e first) ts
    | _ => return (e, ts)

/-- The arguments of a call, after its opening parenthesis. -/
def arguments : Nat → Nat → List Token → Except Malformed (List Expr × List Token)
  | 0, _, _ => .error .formula
  | k + 1, d, ts =>
    match ts with
    | .mark ")" :: ts => return ([], ts)
    | _ => do
      let (first, ts) ← named k d ts
      match ts with
      | .word "for" :: _ =>
        let ((target, source, conditions), ts) ← loop k d ts
        let ts ← expectMark ")" ts
        return ([.generator first target source conditions], ts)
      | .mark "," :: ts =>
        let (rest, ts) ← namedUntil k d ")" ts
        return (first :: rest, ts)
      | _ =>
        let ts ← expectMark ")" ts
        return ([first], ts)

/-- What stands between commas up to a closing mark, after a first comma. -/
def namedUntil : Nat → Nat → String → List Token → Except Malformed (List Expr × List Token)
  | 0, _, _, _ => .error .formula
  | k + 1, d, close, ts =>
    match expectMark close ts with
    | .ok ts => return ([], ts)
    | .error _ => do
      let (e, ts) ← named k d ts
      match ts with
      | .mark "," :: ts =>
        let (rest, ts) ← namedUntil k d close ts
        return (e :: rest, ts)
      | _ =>
        let ts ← expectMark close ts
        return ([e], ts)

/-- The loop of a comprehension: its target, its source and its conditions. -/
def loop : Nat → Nat → List Token → Except Malformed ((String × Expr × List Expr) × List Token)
  | 0, _, _ => .error .formula
  | k + 1, d, ts => do
    let ts ← expectWord "for" ts
    match ts with
    | .name target :: ts =>
      let ts ← expectWord "in" ts
      let (source, ts) ← alternatives k d ts
      let (conditions, ts) ← filters k d ts
      return ((target, source, conditions), ts)
    | _ => .error (refuse ts)

def filters : Nat → Nat → List Token → Except Malformed (List Expr × List Token)
  | 0, _, _ => .error .formula
  | k + 1, d, ts =>
    match ts with
    | .word "if" :: ts => do
      let (c, ts) ← alternatives k d ts
      let (rest, ts) ← filters k d ts
      return (c :: rest, ts)
    | _ => return ([], ts)

/-- A literal, a name, or what brackets enclose. -/
def operand : Nat → Nat → List Token → Except Malformed (Expr × List Token)
  | 0, _, _ => .error .formula
  | k + 1, d, ts =>
    match ts with
    | .name n :: ts => return (.name n, ts)
    | .word "None" :: ts => return (.constant (.literal .null), ts)
    | .word "True" :: ts => return (.constant (.literal (.bool true)), ts)
    | .word "False" :: ts => return (.constant (.literal (.bool false)), ts)
    | .whole n :: ts => return (.constant (.literal (.int n)), ts)
    | .text s :: ts =>
      let (more, ts) := moreText ts
      return (.constant (.literal (.text (String.ofList (s ++ more)))), ts)
    | .mark "(" :: .mark ")" :: ts => return (.constant (.tuple []), ts)
    | .mark "(" :: ts => do
      let (first, ts) ← named k (d + forParenthesis) ts
      match ts with
      | .word "for" :: _ =>
        let ((target, source, conditions), ts) ← loop k (d + forParenthesis) ts
        let ts ← expectMark ")" ts
        return (.generator first target source conditions, ts)
      | .mark "," :: ts =>
        let (rest, ts) ← namedUntil k (d + forBracket) ")" ts
        return (.tuple (first :: rest), ts)
      | _ =>
        let ts ← expectMark ")" ts
        return (first, ts)
    | .mark "[" :: .mark "]" :: ts => return (.list [], ts)
    | .mark "[" :: ts => do
      let (first, ts) ← named k (d + forBracket) ts
      match ts with
      | .word "for" :: _ =>
        let ((target, source, conditions), ts) ← loop k (d + forBracket) ts
        let ts ← expectMark "]" ts
        return (.listing first target source conditions, ts)
      | .mark "," :: ts =>
        let (rest, ts) ← namedUntil k (d + forBracket) "]" ts
        return (.list (first :: rest), ts)
      | _ =>
        let ts ← expectMark "]" ts
        return (.list [first], ts)
    | .mark "\x7b" :: .mark "\x7d" :: ts => return (.dict [], ts)
    | .mark "\x7b" :: ts =>
      match ts with
      | .name n :: .mark ":=" :: ts => do
        let (e, ts) ← condition k (d + forBracket) ts
        let ts ← closeSet ts
        return (.set (.assign n e), ts)
      | _ => do
        let (first, ts) ← condition k (d + forBracket) ts
        match ts with
        | .mark ":" :: ts =>
          let (value, ts) ← condition k (d + forBracket) ts
          let (rest, ts) ← entries k (d + forBracket) ts
          return (.dict ((first, value) :: rest), ts)
        | _ =>
          let ts ← closeSet ts
          return (.set first, ts)
    | _ => .error (refuse ts)

/-- The end of a set with one element. -/
def closeSet (ts : List Token) : Except Malformed (List Token) :=
  match ts with
  | .mark "," :: ts => expectMark "\x7d" ts
  | _ => expectMark "\x7d" ts

/-- Further entries of a dictionary, and its end. -/
def entries : Nat → Nat → List Token → Except Malformed (List (Expr × Expr) × List Token)
  | 0, _, _ => .error .formula
  | k + 1, d, ts =>
    match ts with
    | .mark "," :: .mark "\x7d" :: ts => return ([], ts)
    | .mark "," :: ts => do
      let (key, ts) ← condition k d ts
      let ts ← expectMark ":" ts
      let (value, ts) ← condition k d ts
      let (rest, ts) ← entries k d ts
      return ((key, value) :: rest, ts)
    | _ => do
      let ts ← expectMark "\x7d" ts
      return ([], ts)

end

/-- Further formulas after a comma, up to the end of the code. -/
def moreFormulas : Nat → List Token → Except Malformed (List Expr × List Token)
  | 0, _ => .error .formula
  | k + 1, ts =>
    match ts with
    | .mark "," :: ts =>
      match ts with
      | [] | .newline :: _ => return ([], ts)
      | _ => do
        let (e, ts) ← condition k 0 ts
        let (rest, ts) ← moreFormulas k ts
        return (e :: rest, ts)
    | _ => return ([], ts)

/-- Checks what no reader does: how deep a formula is nested, and where its assignments stand. -/
def checked (e : Expr) : Except Malformed Expr :=
  if maxNesting < e.depth then .error .tooNested
  else if e.wellScoped [] false then .ok e
  else .error .formula

/-- The formula that these tokens write, all of them. -/
def ofTokens (ts : List Token) : Except Malformed Expr := do
  let fuel := 32 * (ts.length + 1)
  let (first, ts) ← condition fuel 0 ts
  let (e, ts) ← (match ts with
    | .mark "," :: _ => do
      let (rest, ts) ← moreFormulas fuel ts
      return (.tuple (first :: rest), ts)
    | _ => return (first, ts) : Except Malformed (Expr × List Token))
  match ts with
  | [] => checked e
  | .newline :: ts => .error (refuse ts)
  | _ => .error (refuse ts)

/-- The formula that some code writes. -/
def ofCode (code : String) : Except Malformed Expr :=
  if code.toList.contains (Char.ofNat 0) then .error .nullCharacter
  else ofTokens (Token.ofCode code)

end Expr

end Splice.Formula
