/-!
# The log

What an activity reports on its way, line by line.
-/

namespace CommandDocs

/-- How important a log line is. -/
inductive Level where
  | debug
  | info
  | warning
  deriving DecidableEq, Repr

structure Note where
  level : Level
  text : String
  deriving DecidableEq, Repr

end CommandDocs
