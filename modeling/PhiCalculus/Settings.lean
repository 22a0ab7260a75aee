import PhiCalculus.Text.Blank

/-!
# Settings

What a run takes from its surroundings: the object to run, whether to trace, and which log lines to
show.  Variables of the environment come first and the command line after them.
-/

set_option autoImplicit false

namespace PhiCalculus

/-- The settings of a run. -/
structure Settings where
  /-- The object to run; the program decides when there is none. -/
  root : Option String := none
  /-- Whether every dataization leaves a line. -/
  trace : Bool := false
  /-- Which log lines to show. -/
  log : Option String := none
  deriving Repr, DecidableEq

namespace Settings

/-- Which log lines are shown when nothing is said. -/
def defaultLog : String := "warn"

/-- The part of the log that holds the trace. -/
def traceTarget : String := "phic::dataized"

/-- Whether a text switches something on. -/
def isTruthy (text : String) : Bool :=
  let word := String.ofList ((Text.trim text.toList).map Char.toLower)
  word == "1" || word == "true" || word == "yes" || word == "on"

/-- A variable that says something. -/
def nonempty? (value : Option String) : Option String := value.filter (· != "")

/-- Takes over the variables that are set. -/
def withEnvironment (s : Settings) (lookup : String → Option String) : Settings :=
  { root := (nonempty? (lookup "PHIC_ROOT")).or s.root
    trace := ((lookup "PHIC_TRACE").map isTruthy).getD s.trace
    log := (nonempty? (lookup "PHIC_LOG")).or s.log }

/-- The filter of log lines: the one that is set, and the trace if it is on. -/
def logFilter (s : Settings) : String :=
  let base := s.log.getD defaultLog
  if s.trace then base ++ "," ++ traceTarget ++ "=debug" else base

end Settings

end PhiCalculus
