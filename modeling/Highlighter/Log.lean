-- Records of what happened, for whoever watches: a level and a message.
namespace Highlighter.Log

/-- How much a record matters, from fine detail to failure. -/
inductive Level where
  | trace
  | debug
  | info
  | warn
  | error
  deriving DecidableEq

/-- The name of a level. -/
def Level.name : Level → String
  | trace => "TRACE"
  | debug => "DEBUG"
  | info => "INFO"
  | warn => "WARN"
  | error => "ERROR"

/-- One record. -/
structure Record where
  level : Level
  message : String
  deriving DecidableEq

end Highlighter.Log
