import Splice.Options

/-!
# Splicing

A splicer renders templates with one set of options. It can render into an environment as it is, so
that what the code assigns stays there, or with bindings in front of the environment (`splice` and
its companions): then assignments go into a layer of their own, and the bindings and the environment
are afterwards what they were before.
-/

namespace Splice

/-- Renders templates. -/
structure Splicer where
  settings : Settings
  hook : Hook

/-- The splicer for some options. -/
def Options.splicer (r : Registry) (o : Options) : Action Splicer := do
  let settings : Settings := ⟨o.delimiters, o.trim, o.separator, o.missing, o.policy⟩
  match o.hook with
  | some h => return ⟨settings, h⟩
  | none => return ⟨settings, .plain (← r.create o.evaluator)⟩

namespace Splicer

/-- Renders a template to one text. -/
def render (s : Splicer) (template : String) : Action String :=
  s.settings.render s.hook.run template

/-- Renders a template to lines. -/
def renderLines (s : Splicer) (template : String) : Action (List String) :=
  s.settings.renderLines s.hook.run template

/-- Renders a template; names are looked up in the bindings, then in the environment. -/
def splice (s : Splicer) (bindings : Bindings) (template : String) : Action String :=
  Action.within [bindings] (s.render template)

/-- Renders a template to lines; names are looked up in the bindings, then in the environment. -/
def spliceLines (s : Splicer) (bindings : Bindings) (template : String) : Action (List String) :=
  Action.within [bindings] (s.renderLines template)

/-- Renders a template; names are looked up in the bindings, the data, and the environment. -/
def spliceData (s : Splicer) (bindings data : Bindings) (template : String) : Action String :=
  Action.within [bindings, data] (s.render template)

end Splicer

/-- The environment of a caller: its local names, and behind them its global ones. -/
def Environment.ofCaller (locals globals : Bindings) : Environment :=
  .chain locals [globals]

end Splice
