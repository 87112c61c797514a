/-!
# Log records

A record carries its level, the name of the logger and the message.
-/

namespace WorkbookTools

/-- The levels at which records are written. -/
inductive LogLevel where
  | debug
  | info
  | warning
  | error
  deriving DecidableEq, Repr

namespace LogLevel

/-- The rank of a level on the scale where a threshold is a number. -/
def rank : LogLevel → Nat
  | debug => 10
  | info => 20
  | warning => 30
  | error => 40

def name : LogLevel → String
  | debug => "DEBUG"
  | info => "INFO"
  | warning => "WARNING"
  | error => "ERROR"

end LogLevel

/-- One line of the log. -/
structure LogRecord where
  level : LogLevel
  logger : String
  message : String
  deriving DecidableEq, Repr

/-- The record as one line: level, logger and message. -/
def LogRecord.line (r : LogRecord) : String :=
  r.level.name ++ " " ++ r.logger ++ ": " ++ r.message

def LogRecord.shown (threshold : Nat) (records : List LogRecord) : List LogRecord :=
  records.filter fun r => threshold ≤ r.level.rank

end WorkbookTools
