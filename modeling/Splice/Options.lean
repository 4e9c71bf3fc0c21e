import Splice.Hook

/-!
# Options

The options say how templates are written, what their code means and how values are laid out.
Callers give them by name, as values that have to be made sense of: truth values have many
spellings, names of evaluators must be known. All objections to single options are reported
together, in a fixed order; whether the options fit together is looked at only when there are none.

Options that were accepted are usable: their markers are `Delimiters`, and merging further options
into them starts over with all of them, so what comes out has been checked as a whole.
-/

namespace Splice

/-- What a caller gives for an option. -/
inductive Given where
  | value (v : Value)
  | hook (h : Hook)
  | evaluator (c : EvaluatorChoice)
  deriving Inhabited

/-- Options in force. -/
structure Options where
  delimiters : Delimiters
  /-- The hook for code, instead of the plain one. -/
  hook : Option Hook
  /-- The evaluator of the plain hook. -/
  evaluator : EvaluatorChoice
  separator : String
  missing : String
  trim : Bool
  policy : Recycling.Policy

namespace Options

/-! ## Making sense of single options -/

/-- The text that bytes write in UTF-8. -/
def textOf? (bs : List UInt8) : Option String :=
  match Text.Encoding.utf8.decode (fun _ _ _ => Except.error ()) bs.length 0 bs with
  | .ok s => some (String.ofList s)
  | .error () => none

/-- A text, or bytes that write one. -/
def asText : Given → Except Objection String
  | .value (.text s) => .ok s
  | .value (.bytes bs) | .value (.buffer bs) =>
    match textOf? bs with
    | some s => .ok s
    | none => .error .unreadableText
  | _ => .error .notText

/-- The truth value that a text spells, in any letter case. -/
def truthOf? (s : String) : Option Bool :=
  let t := s.toLower
  if ["1", "on", "t", "true", "y", "yes"].contains t then some true
  else if ["0", "off", "f", "false", "n", "no"].contains t then some false
  else none

/-- The truth value that a word stands for, if there is a word. -/
def truthOfWord (s : Option String) : Except Objection Bool :=
  match s.bind truthOf? with
  | some b => .ok b
  | none => .error .unreadableTruth

/-- Whether a number is so large that it is not looked at. -/
def isHuge (n : Int) : Bool :=
  n < -(Int.pow 2 63) || Int.pow 2 63 ≤ n

/-- The truth value that a number stands for. -/
def truthOfNumber (n : Int) : Except Objection Bool :=
  if n == 0 then .ok false
  else if n == 1 then .ok true
  else if isHuge n then .error .notTruth
  else .error .unreadableTruth

/-- The truth value that a real number stands for; it has to be a whole one. -/
def truthOfReal (x : Binary64) : Except Objection Bool :=
  match x.whole? with
  | some n => if n == -(Int.pow 2 63) then .error .notTruth else truthOfNumber n
  | none => .error .notTruth

/-- A truth value: one of the two numbers or of the words that stand for it will do. -/
def asTruth : Given → Except Objection Bool
  | .value (.bool b) => .ok b
  | .value (.int n) => truthOfNumber n
  | .value (.real x) => truthOfReal x
  | .value (.text s) => truthOfWord (some s)
  | .value (.bytes bs) => truthOfWord (textOf? bs)
  | _ => .error .notTruth

/-- A policy for columns of different lengths. -/
def asPolicy : Given → Except Objection Recycling.Policy
  | .value (.text s) =>
    match Recycling.Policy.ofName s with
    | .unknown _ => .error .notAChoice
    | policy => .ok policy
  | _ => .error .notAChoice

/-- A hook, or none. -/
def asHook : Given → Except Objection (Option Hook)
  | .value .null => .ok none
  | .hook h => .ok (some h)
  | _ => .error .notCallable

/-- The name of a known evaluator. -/
def knownEvaluator (r : Registry) (name : String) : Except Objection EvaluatorChoice :=
  if (r.get? name).isSome then .ok (.named name)
  else
    .error (.rule ("unknown evaluator " ++ Text.quoted name ++ " (known: " ++
      ", ".intercalate r.available ++ ")"))

/-- An evaluator, or the name of a known one. -/
def asEvaluator (r : Registry) : Given → Except Objection EvaluatorChoice
  | .value (.text name) => knownEvaluator r name
  | .evaluator (.named name) => knownEvaluator r name
  | .evaluator (.given e) => .ok (.given e)
  | _ => .error (.rule "evaluator must be a name or implement evaluate()")

/-! ## Making sense of all options -/

/-- Applies a checked function to a checked argument; objections to both are kept, in order. -/
def apply {α β : Type} (f : Except (List OptionIssue) (α → β)) (a : Except (List OptionIssue) α) :
    Except (List OptionIssue) β :=
  match f, a with
  | .ok f, .ok a => .ok (f a)
  | .ok _, .error e => .error e
  | .error e, .ok _ => .error e
  | .error e, .error e' => .error (e ++ e')

/-- One option: what was given for it, or else its standard value. -/
def field {α : Type} (given : List (String × Given)) (name : String)
    (read : Given → Except Objection α) (standard : α) : Except (List OptionIssue) α :=
  match given.lookup name with
  | none => .ok standard
  | some g =>
    match read g with
    | .ok a => .ok a
    | .error objection => .error [⟨some name, objection⟩]

/-- The rule that markers break, if they break one. -/
def markerRule? (opening closing : String) (nested : Bool) : Option String :=
  if opening = "" ∨ closing = "" then some "open and close markers must be non-empty"
  else if nested = true ∧ opening = closing then
    some "nested scanning needs distinct open and close markers"
  else none

/-- Markers that break no rule make delimiters. -/
theorem markerRule?_eq_none_iff {opening closing : String} {nested : Bool} :
    markerRule? opening closing nested = none ↔
      opening.toList ≠ [] ∧ closing.toList ≠ [] ∧
        (nested = true → opening.toList ≠ closing.toList) := by
  simp only [ne_eq, String.toList_eq_nil_iff, String.toList_inj]
  unfold markerRule?
  by_cases he : opening = "" ∨ closing = ""
  · rw [if_pos he]
    exact ⟨nofun, fun ⟨ho, hc, _⟩ => absurd he (not_or.mpr ⟨ho, hc⟩)⟩
  rw [if_neg he]
  by_cases hd : nested = true ∧ opening = closing
  · rw [if_pos hd]
    exact ⟨nofun, fun ⟨_, _, h⟩ => absurd hd.2 (h hd.1)⟩
  · rw [if_neg hd]
    obtain ⟨ho, hc⟩ := not_or.mp he
    exact ⟨fun _ => ⟨ho, hc, fun hn heq => hd ⟨hn, heq⟩⟩, fun _ => rfl⟩

/-- Puts options together, if their markers fit. -/
def assemble (opening closing : String) (hook : Option Hook) (evaluator : EvaluatorChoice)
    (separator missing : String) (trim nested : Bool) (policy : Recycling.Policy) :
    Except (List OptionIssue) Options :=
  match h : markerRule? opening closing nested with
  | some rule => .error [⟨none, .rule rule⟩]
  | none =>
    have fit := markerRule?_eq_none_iff.mp h
    .ok ⟨⟨opening.toList, closing.toList, nested, fit.1, fit.2.1, fit.2.2⟩, hook, evaluator,
      separator, missing, trim, policy⟩

/-- Makes sense of what a caller gives; options of other names are ignored. -/
def check (r : Registry) (given : List (String × Given)) : Except (List OptionIssue) Options :=
  let checked := apply (apply (apply (apply (apply (apply (apply (apply (apply (.ok assemble)
    (field given "open" asText "\x7b"))
    (field given "close" asText "\x7d"))
    (field given "transformer" asHook none))
    (field given "evaluator" (asEvaluator r) (.named r.standardName)))
    (field given "separator" asText ""))
    (field given "na" asText standardMissing))
    (field given "trim" asTruth false))
    (field given "nested" asTruth false))
    (field given "recycle" asPolicy .cycle)
  match checked with
  | .ok assembled => assembled
  | .error issues => .error issues

/-- The options that a caller gives. -/
def ofGiven (r : Registry) (given : List (String × Given)) : Except Failure Options :=
  (check r given).mapError fun issues => .of (.invalidOptions issues)

/-- The standard options. -/
def standard (r : Registry) : Options :=
  ⟨.braces, none, .named r.standardName, "", standardMissing, false, .cycle⟩

/-- All options by name, as a caller would give them. -/
def given (o : Options) : List (String × Given) :=
  [("open", .value (.text (String.ofList o.delimiters.opening))),
   ("close", .value (.text (String.ofList o.delimiters.closing))),
   ("transformer", match o.hook with
    | some h => .hook h
    | none => .value .null),
   ("evaluator", .evaluator o.evaluator),
   ("separator", .value (.text o.separator)),
   ("na", .value (.text o.missing)),
   ("trim", .value (.bool o.trim)),
   ("nested", .value (.bool o.delimiters.nested)),
   ("recycle", .value (.text o.policy.name))]

/-- These options with others in their place, checked again as a whole. -/
def merged (r : Registry) (changes : List (String × Given)) (o : Options) :
    Except Failure Options :=
  ofGiven r (changes ++ o.given)

/-- These options with others in their place, given as named arguments of a function that has
arguments of its own; no option can have the name of one of those. -/
def mergedBy (function : String) (own : List String) (r : Registry)
    (changes : List (String × Given)) (o : Options) : Except Failure Options :=
  match changes.find? fun (n, _) => own.contains n with
  | some (n, _) => .error (.ofMisuse (.argumentTwice function n))
  | none => o.merged r changes

/-- The options that a value stands for where options are asked for. A value that counts as false
stands for the standard ones; nothing else stands for any. -/
def ofArgument (r : Registry) (v : Value) : Except Failure Options :=
  match v.truth with
  | .ok false => .ok (standard r)
  | _ => .error (.ofFault (.noAttribute v.typeName "transformer"))

/-- Options do not change: assigning one fails, whatever its name. -/
def assignmentFailure (name : String) : Failure :=
  .of (.invalidOptions [⟨some name, .frozen⟩])

/-- Whether these are the standard options. -/
def isStandard (r : Registry) (o : Options) : Bool :=
  o.delimiters.opening == ['\x7b'] && o.delimiters.closing == ['\x7d'] && !o.delimiters.nested &&
    o.hook.isNone && o.separator == "" && o.missing == standardMissing && !o.trim &&
    o.policy == .cycle &&
    match o.evaluator with
    | .named name => name == r.standardName
    | _ => false

/-! ## Options in files -/

/-- The fields of a dictionary whose keys are all texts. -/
def namedFields : List (Object × Object) → Option (List (String × Given))
  | [] => some []
  | (k, v) :: rest =>
    match k.value with
    | .text n => (namedFields rest).map ((n, .value v.value) :: ·)
    | _ => none

/-- The options that a value describes. Values that count as false describe the standard ones. -/
def ofValue (r : Registry) (v : Value) : Except Failure Options :=
  match v.truth with
  | .ok true =>
    match v with
    | .dict entries =>
      match namedFields entries with
      | some given => ofGiven r given
      | none => .error (.ofMisuse .optionNotNamed)
    | _ => .error (.ofMisuse (.optionsNotMapping v.qualifiedTypeName))
  | _ => ofGiven r []

/-- The options in a file, given what the file holds if it is there. -/
def load (r : Registry) (path : String) (text : Option String) : Except Failure Options :=
  match text with
  | none => .error (.ofMisuse (.missingFile path))
  | some s =>
    match Yaml.decode s with
    | .error refused => .error (.ofMalformed refused)
    | .ok v => ofValue r (v.getD .null)

end Options

end Splice
