/-!
# Log lines

The library reports what it does in log lines, each at a level and on the channel of the part that
writes it.
-/

namespace RequestLog

/-- The levels that the library writes at. -/
inductive Level where
  | debug
  | info
  | warning
  | error
  deriving DecidableEq, Repr

namespace Level

/-- The name that a line shows. -/
def name : Level → String
  | debug => "DEBUG"
  | info => "INFO"
  | warning => "WARNING"
  | error => "ERROR"

/-- The number that levels are compared by. -/
def number : Level → Int
  | debug => 10
  | info => 20
  | warning => 30
  | error => 40

end Level

/-- The parts of the library that write log lines. -/
inductive Channel where
  | tokens
  | formats
  | settings
  | store
  | requests
  | service
  | queries
  deriving DecidableEq, Repr

/-- The name of a channel, whose parts lead from the whole library to the part that writes. -/
def Channel.name : Channel → String
  | tokens => "logmongo.core.tokens"
  | formats => "logmongo.core.formats"
  | settings => "logmongo.config.settings"
  | store => "logmongo.database.mongodb"
  | requests => "logmongo.middleware.request_logger"
  | service => "logmongo.api.main"
  | queries => "logmongo.api.routes"

/-- One line of the log. -/
structure LogLine where
  level : Level
  channel : Channel
  text : String
  deriving DecidableEq, Repr

end RequestLog
