/-!
# Log records

A parse reports what it does by records: a level, a fixed message, and named values that are already
text.  Records are values like any other; whoever runs a parse decides what becomes of them.
-/

namespace DeclScope

/-- How much a record matters. -/
inductive LogLevel where
  | trace
  | debug
  | info
  | warn
deriving DecidableEq, Inhabited

namespace LogLevel

/-- The name of a level. -/
def name : LogLevel → String
  | trace => "TRACE"
  | debug => "DEBUG"
  | info => "INFO"
  | warn => "WARN"

end LogLevel

/-- One record. -/
structure LogRecord where
  level : LogLevel
  message : String
  values : List (String × String)
deriving DecidableEq, Inhabited

end DeclScope
