/-!
# How much is logged

An application asks for more than warnings by being verbose, or by a debugging switch, which is on
when it is set to anything but the empty text. The switch goes further and also shows where an entry
was written; the time is shown to those who ask to be told more.
-/

namespace Splice

/-- From which level on entries of the log are shown. -/
inductive LogLevel where
  | debug
  | info
  | warning
  deriving DecidableEq, Repr, Inhabited

/-- How the log is shown. -/
structure LogDisplay where
  level : LogLevel
  showTime : Bool
  showPlace : Bool
  deriving DecidableEq, Repr

/-- How the log is shown to an application, given what the debugging switch is set to. -/
def LogDisplay.choose (verbose : Bool) (debugging : Option String) : LogDisplay :=
  let debug := debugging.any (· != "")
  ⟨if debug then .debug else if verbose then .info else .warning, verbose, debug⟩

end Splice
