import Splice.Formula.Expr

/-!
# Filter expressions

The filter language has no assignments and no loops. Values are passed through filters, as in `items
| first` or `name | default('unknown')`, texts are joined by `~`, and a name that has no value is
not an error until it is used.
-/

namespace Splice.Filter

/-- An expression of the filter language. -/
inductive Expr where
  | constant (l : Literal)
  | name (n : String)
  | list (items : List Expr)
  | tuple (items : List Expr)
  | dict (entries : List (Expr × Expr))
  | choose (condition yes no : Expr)
  /-- A value where a condition holds. Where it does not, nothing is said on this line. -/
  | provided (condition yes : Expr) (line : Nat)
  | both (l r : Expr)
  | either (l r : Expr)
  | negation (e : Expr)
  | compare (first : Expr) (rest : List (Formula.Comparison × Expr))
  | binary (op : Operation) (l r : Expr)
  | negative (e : Expr)
  /-- The texts of several values, one after the other. -/
  | joined (parts : List Expr)
  | subscript (e index : Expr)
  | member (e : Expr) (name : String)
  | call (f : Expr) (args : List Expr) (options : List (String × Expr))
  | filtered (e : Expr) (filter : String) (args : List Expr) (options : List (String × Expr))
  /-- Whether a value passes a test. -/
  | tested (e : Expr) (test : String) (args : List Expr) (options : List (String × Expr))
  deriving Inhabited

/-- The filters there are. -/
def filterNames : List String :=
  ["upper", "trim", "join", "length", "first", "last", "sum", "max", "min", "default"]

/-- The tests there are. -/
def testNames : List String :=
  ["defined"]

namespace Expr

/-! ## Names of filters and tests -/

/-- Whether an expression is true or false whatever its names stand for. -/
def decided? : Expr → Option Bool
  | constant l => l.value.truth.toOption
  | negation e => (decided? e).map (!·)
  | both l r =>
    match decided? l with
    | some true => decided? r
    | found => found
  | either l r =>
    match decided? l with
    | some false => decided? r
    | found => found
  | _ => none

mutual

/-- Whether all filters and tests exist. Those in the parts of a condition are left to be found out
when they are used, and those that are never used do not matter. -/
def wellNamed : Expr → Bool
  | constant _ | name _ | choose .. | provided .. => true
  | list items | tuple items | joined items => allWellNamed items
  | dict entries => entriesWellNamed entries
  | both l r => wellNamed l && (decided? l == some false || wellNamed r)
  | either l r => wellNamed l && (decided? l == some true || wellNamed r)
  | binary _ l r | subscript l r => wellNamed l && wellNamed r
  | negation e | negative e | member e _ => wellNamed e
  | compare e rest => wellNamed e && chainWellNamed rest
  | call f args options =>
    wellNamed f && allWellNamed args && optionsWellNamed options
  | filtered e f args options =>
    filterNames.contains f && wellNamed e && allWellNamed args &&
      optionsWellNamed options
  | tested e t args options =>
    testNames.contains t && wellNamed e && allWellNamed args && optionsWellNamed options

def allWellNamed : List Expr → Bool
  | [] => true
  | e :: es => wellNamed e && allWellNamed es

def entriesWellNamed : List (Expr × Expr) → Bool
  | [] => true
  | (k, v) :: es => wellNamed k && wellNamed v && entriesWellNamed es

def chainWellNamed : List (Formula.Comparison × Expr) → Bool
  | [] => true
  | (_, e) :: es => wellNamed e && chainWellNamed es

def optionsWellNamed : List (String × Expr) → Bool
  | [] => true
  | (_, e) :: es => wellNamed e && optionsWellNamed es

end

/-! ## Depth -/

mutual

/-- Whether an expression has neither names nor calls, so that its value is known from the start. -/
def isFixed : Expr → Bool
  | constant _ => true
  | name _ | call .. => false
  | list items | tuple items | joined items => allFixed items
  | dict entries => entriesFixed entries
  | choose c y n => isFixed c && isFixed y && isFixed n
  | provided l r _ | both l r | either l r | binary _ l r | subscript l r => isFixed l && isFixed r
  | negation e | negative e | member e _ => isFixed e
  | compare e rest => isFixed e && chainFixed rest
  | filtered e _ args options | tested e _ args options =>
    isFixed e && allFixed args && optionsFixed options

def allFixed : List Expr → Bool
  | [] => true
  | e :: es => isFixed e && allFixed es

def entriesFixed : List (Expr × Expr) → Bool
  | [] => true
  | (k, v) :: es => isFixed k && isFixed v && entriesFixed es

def chainFixed : List (Formula.Comparison × Expr) → Bool
  | [] => true
  | (_, e) :: es => isFixed e && chainFixed es

def optionsFixed : List (String × Expr) → Bool
  | [] => true
  | (_, e) :: es => isFixed e && optionsFixed es

end

mutual

/-- How many parts of parts an expression has, at most. -/
def levels : Expr → Nat
  | constant _ | name _ => 0
  | list items | tuple items | joined items => levelsOfAll items + 1
  | dict entries => levelsOfEntries entries + 1
  | choose c y n => max (levels c) (max (levels y) (levels n)) + 1
  | provided l r _ | both l r | either l r | binary _ l r | subscript l r =>
    max (levels l) (levels r) + 1
  | negation e | negative e | member e _ => levels e + 1
  | compare e rest => max (levels e) (levelsOfChain rest) + 1
  | call e args options | filtered e _ args options | tested e _ args options =>
    max (levels e) (max (levelsOfAll args) (levelsOfOptions options)) + 1

def levelsOfAll : List Expr → Nat
  | [] => 0
  | e :: es => max (levels e) (levelsOfAll es)

def levelsOfEntries : List (Expr × Expr) → Nat
  | [] => 0
  | (k, v) :: es => max (max (levels k) (levels v)) (levelsOfEntries es)

def levelsOfChain : List (Formula.Comparison × Expr) → Nat
  | [] => 0
  | (_, e) :: es => max (levels e) (levelsOfChain es)

def levelsOfOptions : List (String × Expr) → Nat
  | [] => 0
  | (_, e) :: es => max (levels e) (levelsOfOptions es)

end

mutual

/-- How many brackets are open at most when an expression is written with all its brackets: one pair
for every operation, two for names and for joined texts, and none for what is known from the start.
-/
def brackets (e : Expr) : Nat :=
  if isFixed e then 0
  else
    match e with
    | constant _ => 0
    | name _ => 2
    | list items | tuple items => bracketsOfAll items + 1
    | joined items => bracketsOfAll items + 2
    | dict entries => bracketsOfEntries entries + 1
    | choose c y n => max (brackets c) (max (brackets y) (brackets n)) + 1
    | provided l r _ | both l r | either l r | binary _ l r | subscript l r =>
      max (brackets l) (brackets r) + 1
    | negation e | negative e | member e _ => brackets e + 1
    | compare e rest => max (brackets e) (bracketsOfChain rest) + 1
    | call e args options | filtered e _ args options | tested e _ args options =>
      max (brackets e) (max (bracketsOfAll args) (bracketsOfOptions options)) + 1

def bracketsOfAll : List Expr → Nat
  | [] => 0
  | e :: es => max (brackets e) (bracketsOfAll es)

def bracketsOfEntries : List (Expr × Expr) → Nat
  | [] => 0
  | (k, v) :: es => max (max (brackets k) (brackets v)) (bracketsOfEntries es)

def bracketsOfChain : List (Formula.Comparison × Expr) → Nat
  | [] => 0
  | (_, e) :: es => max (brackets e) (bracketsOfChain es)

def bracketsOfOptions : List (String × Expr) → Nat
  | [] => 0
  | (_, e) :: es => max (brackets e) (bracketsOfOptions es)

end

/-- An expression may not have more levels than this. -/
def maxLevels : Nat :=
  315

/-- No more brackets than this can be open when an expression is written. -/
def maxBrackets : Nat :=
  200

/-! ## Names of options -/

/-- Whether some name occurs twice. -/
def hasRepeat : List String → Bool
  | [] => false
  | n :: ns => ns.contains n || hasRepeat ns

mutual

/-- Whether an option is given twice somewhere. -/
def repeatsOption : Expr → Bool
  | constant _ | name _ => false
  | list items | tuple items | joined items => someRepeat items
  | dict entries => entriesRepeat entries
  | choose c y n => repeatsOption c || repeatsOption y || repeatsOption n
  | provided l r _ | both l r | either l r | binary _ l r | subscript l r =>
    repeatsOption l || repeatsOption r
  | negation e | negative e | member e _ => repeatsOption e
  | compare e rest => repeatsOption e || chainRepeats rest
  | call e args options | filtered e _ args options | tested e _ args options =>
    repeatsOption e || someRepeat args || hasRepeat (options.map (·.1)) || optionsRepeat options

def someRepeat : List Expr → Bool
  | [] => false
  | e :: es => repeatsOption e || someRepeat es

def entriesRepeat : List (Expr × Expr) → Bool
  | [] => false
  | (k, v) :: es => repeatsOption k || repeatsOption v || entriesRepeat es

def chainRepeats : List (Formula.Comparison × Expr) → Bool
  | [] => false
  | (_, e) :: es => repeatsOption e || chainRepeats es

def optionsRepeat : List (String × Expr) → Bool
  | [] => false
  | (_, e) :: es => repeatsOption e || optionsRepeat es

end

/-! ## Names of values -/

mutual

/-- The names in an expression, in the order in which they are found. In a condition the test comes
first. -/
def names : Expr → List String
  | constant _ => []
  | name n => [n]
  | list items | tuple items | joined items => namesOfAll items
  | dict entries => namesOfEntries entries
  | choose c y n => names c ++ names y ++ names n
  | provided l r _ | both l r | either l r | binary _ l r | subscript l r => names l ++ names r
  | negation e | negative e | member e _ => names e
  | compare e rest => names e ++ namesOfChain rest
  | call e args options | filtered e _ args options | tested e _ args options =>
    names e ++ namesOfAll args ++ namesOfOptions options

def namesOfAll : List Expr → List String
  | [] => []
  | e :: es => names e ++ namesOfAll es

def namesOfEntries : List (Expr × Expr) → List String
  | [] => []
  | (k, v) :: es => names k ++ names v ++ namesOfEntries es

def namesOfChain : List (Formula.Comparison × Expr) → List String
  | [] => []
  | (_, e) :: es => names e ++ namesOfChain es

def namesOfOptions : List (String × Expr) → List String
  | [] => []
  | (_, e) :: es => names e ++ namesOfOptions es

end

end Expr

end Splice.Filter
