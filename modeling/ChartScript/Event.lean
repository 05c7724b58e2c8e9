import ChartScript.Fault
import ChartScript.Log

/-!
# Events

What happens in a run is told as events, in order, beside its result.  Every event has an
entry in the log.
-/

namespace ChartScript

inductive Event where
  | loaded (lines : Nat) (path encoding : Text)
  | loop (line : Nat) (var : Text) (values bodyLines : Nat)
  | passedThrough (line : Nat) (text : Text)
  | statementSkipped (error : ExpandError)
  | expanded (statements definitions : Nat)
  | statementsSkipped (count : Nat)
  | seriesSkipped (error : ChartError)
  | chartsBuilt (charts series : Nat)
  | chartStatementsSkipped (count : Nat)
  | casesIgnored (raw : Text)
  | policyIgnored (name : Text)
  deriving DecidableEq, Repr

structure Report (ε α : Type) where
  events : List Event
  result : Except ε α

namespace Event

/-- What is said of a name that names no error policy. -/
def unknownPolicy (name : Text) : String :=
  s!"unknown error policy '{name.str}', expected abort or skip"

def level : Event → LogLevel
  | .loaded _ _ _ | .loop _ _ _ _ | .expanded _ _ => .info
  | .chartsBuilt _ _ => .success
  | .passedThrough _ _ | .statementsSkipped _ | .chartStatementsSkipped _ | .casesIgnored _
  | .policyIgnored _ => .warning
  | .statementSkipped _ | .seriesSkipped _ => .error

/-- The report on a loop is nested under the run. -/
def indent : Event → Nat
  | .loop _ _ _ _ => 1
  | _ => 0

def message : Event → String
  | .loaded lines path encoding =>
    s!"Loaded {lines} line(s) from {path.str} ({encoding.str})"
  | .loop line var values bodyLines =>
    s!"line {line}: FOR {var.str} over {values} value(s), {bodyLines} body line(s)"
  | .passedThrough line text => s!"line {line}: unknown keyword, passed through: {text.str}"
  | .statementSkipped error => s!"skipped: {error.message}"
  | .expanded statements definitions =>
    s!"Expanded to {statements} statement(s), {definitions} derived definition(s)"
  | .statementsSkipped count => s!"{count} statement(s) skipped"
  | .seriesSkipped error => s!"skipped: {error.message}"
  | .chartsBuilt charts series => s!"Built {charts} chart(s) with {series} series"
  | .chartStatementsSkipped count => s!"{count} chart statement(s) skipped"
  | .casesIgnored raw => s!"ignoring CMDF_NUM_CASES='{raw.str}': not a dataset count"
  | .policyIgnored name => s!"ignoring CMDF_ON_ERROR: {unknownPolicy name}"

def entry (event : Event) : LogEntry :=
  { level := event.level, message := event.message, indent := event.indent }

end Event

end ChartScript
