import Splice.Value.Arith
import Splice.Yaml.Scalar
import Splice.Yaml.Token

/-!
# YAML documents

Tokens make up nodes: scalars, sequences and mappings. Nodes make values: of two equal keys of a
mapping the later one counts, and a mapping can take over the entries of others that it does not
have itself. A text holds at most one document.
-/

namespace Splice.Yaml

/-- The structure of a document. -/
inductive Node where
  | scalar (text : String) (plain : Bool)
  | sequence (items : List Node)
  | mapping (entries : List (Node × Node))
  deriving Inhabited

namespace Node

/-- A node that nothing is written for. -/
def nothing : Node :=
  scalar "" true

/-- Why these tokens are not what they should be. -/
def refuse : List Token → Malformed
  | .unreadable :: _ => .yamlToken
  | _ => .yamlStructure

/-- Takes a token from the front. -/
def expect (t : Token) : List Token → Except Malformed (List Token)
  | k :: ts => if k = t then .ok ts else .error (refuse (k :: ts))
  | [] => .error .yamlStructure

mutual

/-- A node. In a block, collections may show by indentation; `loose` allows the dashes of a sequence
that is not indented. -/
def node (block loose : Bool) : Nat → List Token → Except Malformed (Node × List Token)
  | 0, _ => .error .yamlStructure
  | k + 1, ts =>
    match ts with
    | .scalar t plain :: ts => return (scalar t plain, ts)
    | .flowSequence :: .flowSequenceEnd :: ts => return (sequence [], ts)
    | .flowSequence :: ts => do
      let (items, ts) ← flowItems k ts
      return (sequence items, ts)
    | .flowMapping :: .flowMappingEnd :: ts => return (mapping [], ts)
    | .flowMapping :: ts => do
      let (es, ts) ← flowEntries k ts
      return (mapping es, ts)
    | .blockEntry :: _ => do
      if loose then
        let (items, ts) ← looseItems k ts
        return (sequence items, ts)
      else throw .yamlStructure
    | .blockSequence :: ts => do
      if block then
        let (items, ts) ← blockItems k ts
        return (sequence items, ts)
      else throw .yamlStructure
    | .blockMapping :: ts => do
      if block then
        let (es, ts) ← blockEntries k ts
        return (mapping es, ts)
      else throw .yamlStructure
    | _ => .error (refuse ts)

/-- The elements of an indented sequence, and its end. -/
def blockItems : Nat → List Token → Except Malformed (List Node × List Token)
  | 0, _ => .error .yamlStructure
  | k + 1, ts =>
    match ts with
    | .blockEntry :: ts => do
      let (n, ts) ← (match ts with
        | .blockEntry :: _ | .blockEnd :: _ => return (nothing, ts)
        | _ => node true false k ts)
      let (more, ts) ← blockItems k ts
      return (n :: more, ts)
    | _ => do return ([], ← expect .blockEnd ts)

/-- The elements of a sequence that is not indented. -/
def looseItems : Nat → List Token → Except Malformed (List Node × List Token)
  | 0, _ => .error .yamlStructure
  | k + 1, ts =>
    match ts with
    | .blockEntry :: ts => do
      let (n, ts) ← (match ts with
        | .blockEntry :: _ | .key :: _ | .value :: _ | .blockEnd :: _ => return (nothing, ts)
        | _ => node true false k ts)
      let (more, ts) ← looseItems k ts
      return (n :: more, ts)
    | .unreadable :: _ => .error .yamlToken
    | _ => return ([], ts)

/-- The entries of an indented mapping, and its end. -/
def blockEntries : Nat → List Token → Except Malformed (List (Node × Node) × List Token)
  | 0, _ => .error .yamlStructure
  | k + 1, ts =>
    match ts with
    | .key :: ts => do
      let (name, ts) ← (match ts with
        | .key :: _ | .value :: _ | .blockEnd :: _ => return (nothing, ts)
        | _ => node true true k ts)
      let (v, ts) ← (match ts with
        | .value :: ts =>
          match ts with
          | .key :: _ | .value :: _ | .blockEnd :: _ => return (nothing, ts)
          | _ => node true true k ts
        | .unreadable :: _ => throw .yamlToken
        | _ => return (nothing, ts))
      let (more, ts) ← blockEntries k ts
      return ((name, v) :: more, ts)
    | _ => do return ([], ← expect .blockEnd ts)

/-- The elements of a sequence in brackets, at least one, and its end. -/
def flowItems : Nat → List Token → Except Malformed (List Node × List Token)
  | 0, _ => .error .yamlStructure
  | k + 1, ts => do
    let (n, ts) ← (match ts with
      | .key :: ts => do
        let (name, ts) ← (match ts with
          | .value :: _ | .flowEntry :: _ | .flowSequenceEnd :: _ => return (nothing, ts)
          | _ => node false false k ts)
        let (v, ts) ← (match ts with
          | .value :: ts =>
            match ts with
            | .flowEntry :: _ | .flowSequenceEnd :: _ => return (nothing, ts)
            | _ => node false false k ts
          | .unreadable :: _ => throw .yamlToken
          | _ => return (nothing, ts))
        return (mapping [(name, v)], ts)
      | _ => node false false k ts)
    match ts with
    | .flowSequenceEnd :: ts => return ([n], ts)
    | .flowEntry :: .flowSequenceEnd :: ts => return ([n], ts)
    | .flowEntry :: ts =>
      let (more, ts) ← flowItems k ts
      return (n :: more, ts)
    | _ => throw (refuse ts)

/-- The entries of a mapping in braces, at least one, and its end. -/
def flowEntries : Nat → List Token → Except Malformed (List (Node × Node) × List Token)
  | 0, _ => .error .yamlStructure
  | k + 1, ts => do
    let (e, ts) ← (match ts with
      | .key :: ts => do
        let (name, ts) ← (match ts with
          | .value :: _ | .flowEntry :: _ | .flowMappingEnd :: _ => return (nothing, ts)
          | _ => node false false k ts)
        let (v, ts) ← (match ts with
          | .value :: ts =>
            match ts with
            | .flowEntry :: _ | .flowMappingEnd :: _ => return (nothing, ts)
            | _ => node false false k ts
          | .unreadable :: _ => throw .yamlToken
          | _ => return (nothing, ts))
        return ((name, v), ts)
      | _ => do
        let (name, ts) ← node false false k ts
        return ((name, nothing), ts))
    match ts with
    | .flowMappingEnd :: ts => return ([e], ts)
    | .flowEntry :: .flowMappingEnd :: ts => return ([e], ts)
    | .flowEntry :: ts =>
      let (more, ts) ← flowEntries k ts
      return (e :: more, ts)
    | _ => throw (refuse ts)

end

/-- The document that tokens write, if they write one. -/
def ofTokens (ts : List Token) : Except Malformed (Option Node) := do
  let fuel := 4 * ts.length + 4
  match ts with
  | [] => return none
  | .documentStart :: ts =>
    match ts with
    | [] => return some nothing
    | .documentStart :: _ => throw .yamlDocuments
    | .documentEnd :: ts => only nothing ts
    | _ =>
      let (n, ts) ← node true false fuel ts
      only n ts
  | _ =>
    let (n, ts) ← node true false fuel ts
    only n ts
where
  /-- Checks that nothing comes after a document. -/
  only (n : Node) (ts : List Token) : Except Malformed (Option Node) :=
    match ts.dropWhile (· == .documentEnd) with
    | [] => .ok (some n)
    | .documentStart :: _ => .error .yamlDocuments
    | rest => .error (refuse rest)

/-! ## Values -/

/-- The mappings that a mapping takes over, as a node to be merged names them; of several, the first
counts most and comes last. -/
def merged? : Node → Option (List (List (Node × Node)))
  | mapping es => some [es]
  | sequence ns =>
    ns.reverse.mapM fun n => match n with
      | mapping es => some es
      | _ => none
  | scalar .. => none

/-- Whether a node is the mark that merges mappings. -/
def isMerge : Node → Bool
  | scalar t true => t == "<<"
  | _ => false

/-- The entries of a mapping, those that it takes over in front, and likewise in the mappings that
it takes over, which are nested no deeper than the fuel. -/
def flatten : (fuel : Nat) → List (Node × Node) → Except Malformed (List (Node × Node))
  | 0, es => .ok es
  | fuel + 1, es => do
    let taken ← (es.filter (isMerge ·.1)).mapM fun (_, n) =>
      match merged? n with
      | some mappings => return (← mappings.mapM (flatten fuel)).flatten
      | none => .error Malformed.yamlValue
    return taken.flatten ++ es.filter (!isMerge ·.1)

/-- The value of a scalar. As a key the mark of a default value is a text. -/
def scalarValue (isKey : Bool) (t : String) (plain : Bool) : Except Malformed Value :=
  if plain then
    match Meaning.ofPlain t with
    | .ok (.value v) => .ok v
    | .ok .merge => .error .yamlValue
    | .ok .standard => if isKey then .ok (.text t) else .error .yamlValue
    | .error why => .error (.scalar why)
  else .ok (.text t)

/-- A node that is a scalar with a value, or a collection of its own; a key has to be a scalar. -/
def glance (isKey : Bool) (n : Node) : Except Malformed (List Node) :=
  match n with
  | scalar t plain => do
    let _ ← scalarValue isKey t plain
    return []
  | n => if isKey then .error .yamlValue else .ok [n]

/-- The collections directly inside a collection, whose scalars have to have values. -/
def inside (fuel : Nat) : Node → Except Malformed (List Node)
  | scalar .. => .ok []
  | sequence ns => do return (← ns.mapM (glance false)).flatten
  | mapping es => do
    let found ← (← flatten fuel es).mapM fun (k, v) => do
      return (← glance true k) ++ (← glance false v)
    return found.flatten

/-- Looks for what is wrong with nodes: first in all of them, then in what is inside them, no deeper
than the fuel. -/
def examine : (fuel : Nat) → List Node → Except Malformed Unit
  | 0, _ | _, [] => .ok ()
  | fuel + 1, ns => do examine fuel (← ns.mapM (inside fuel)).flatten

/-- Adds an entry to a dictionary; lists and dictionaries cannot be keys. -/
def addEntry (es : List (Object × Object)) (k v : Value) :
    Except Malformed (List (Object × Object)) :=
  match (do Object.insertKey (← (Object.new k).asKey) (.new v) es : Except Fault _) with
  | .ok es => .ok es
  | .error _ => .error .yamlValue

/-- The value of a node, which is nested no deeper than the fuel. -/
def value (isKey : Bool) : (fuel : Nat) → Node → Except Malformed Value
  | 0, _ => .error .yamlValue
  | _ + 1, scalar t plain => scalarValue isKey t plain
  | fuel + 1, sequence ns => do
    return .list (← ns.mapM fun n => (value false fuel n).map .new)
  | fuel + 1, mapping es => do
    let entries ← (← flatten fuel es).foldlM (fun done (name, n) => do
      addEntry done (← value true fuel name) (← value false fuel n)) []
    return .dict entries

end Node

/-- The value of the document in a text, if there is a document. -/
def decode (text : String) : Except Malformed (Option Value) := do
  if !text.toList.all Token.isAllowed then throw .yamlCharacter
  let ts := Token.ofText text.toList
  match ← Node.ofTokens ts with
  | none => return none
  | some n =>
    let _ ← n.glance false
    Node.examine (ts.length + 2) [n]
    return some (← n.value false (ts.length + 2))

end Splice.Yaml
