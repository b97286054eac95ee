/-!
# Log lines

Every operation reports what it did as a list of lines, oldest first.

* `Level`, `LogLine`: a line and its severity;
* `LogLine.debug`, `LogLine.info`, `LogLine.warn`, `LogLine.error`: a line of each severity.
-/

namespace SecureStream

/-- How serious a line is. -/
inductive Level
  | debug
  | info
  | warn
  | error
  deriving DecidableEq

/-- One line of the log. -/
structure LogLine where
  level : Level
  text : String
  deriving DecidableEq

namespace LogLine

/-- A line of level `debug`. -/
def debug (text : String) : LogLine := ⟨.debug, text⟩

/-- A line of level `info`. -/
def info (text : String) : LogLine := ⟨.info, text⟩

/-- A line of level `warn`. -/
def warn (text : String) : LogLine := ⟨.warn, text⟩

/-- A line of level `error`. -/
def error (text : String) : LogLine := ⟨.error, text⟩

end LogLine

end SecureStream
