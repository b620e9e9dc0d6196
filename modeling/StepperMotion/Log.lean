/-!
# The log

Lines that operations leave behind for the people who run the machine. Operations return their
lines in order, as data; nothing here writes them anywhere.
-/

namespace StepperMotion

/-- How much a log line matters. -/
inductive Severity where
  /-- Of interest when something is being tracked down. -/
  | debug
  /-- The normal course of things. -/
  | info
  /-- Something was refused or lost. -/
  | warn
  /-- A move failed. -/
  | error
deriving DecidableEq, Repr

def Severity.label : Severity → String
  | debug => "DEBUG"
  | info => "INFO"
  | warn => "WARN"
  | error => "ERROR"

structure LogLine where
  severity : Severity
  text : String
deriving DecidableEq, Repr

/-- The line as it is written. -/
def LogLine.render (l : LogLine) : String := s!"{l.severity.label} {l.text}"

end StepperMotion
