/-!
# Log lines

What the adapter writes to its log, line by line.
-/

namespace TableFeed

/-- How much a log line matters. -/
inductive Level where
  | error
  | warn
  | info
  | debug
  deriving DecidableEq, Repr

/-- The word of a level. -/
def Level.text : Level → String
  | .error => "ERROR"
  | .warn => "WARN"
  | .info => "INFO"
  | .debug => "DEBUG"

/-- A line of the log. -/
structure LogLine where
  level : Level
  body : String
  deriving DecidableEq, Repr

/-- A log line with its level. -/
def LogLine.text (l : LogLine) : String :=
  l.level.text ++ " " ++ l.body

end TableFeed
