/-!
Log entries and the lines they are written as.
-/

namespace SchemaDraft

inductive LogLevel where
  | trace
  | debug
  | info
  | warn
  deriving DecidableEq

namespace LogLevel

def name : LogLevel → String
  | .trace => "TRACE"
  | .debug => "DEBUG"
  | .info => "INFO"
  | .warn => "WARN"

def rank : LogLevel → Nat
  | .trace => 0
  | .debug => 1
  | .info => 2
  | .warn => 3

end LogLevel

/-- A named value of a log entry. -/
structure LogField where
  name : String
  value : String
  /-- Whether a line has the value between double quotes. -/
  quoted : Bool := false
  deriving DecidableEq

structure LogEntry where
  level : LogLevel
  message : String
  fields : List LogField := []
  deriving DecidableEq

namespace LogField

def text (field : LogField) : String :=
  " " ++ field.name ++ "=" ++
    (if field.quoted then "\"" ++ field.value ++ "\"" else field.value)

end LogField

namespace LogEntry

/-- The line of an entry: the level in five columns, the message, the fields, and a line feed. It
has no terminal colours, as with `NO_COLOR` set. -/
def line (entry : LogEntry) : String :=
  String.ofList (List.replicate (5 - entry.level.name.length) ' ') ++ entry.level.name ++ " " ++
    entry.message ++ String.join (entry.fields.map LogField.text) ++ "\n"

/-- The lines of the entries that are at least as important as a level. -/
def lines (least : LogLevel) (entries : List LogEntry) : String :=
  String.join ((entries.filter fun entry => least.rank ≤ entry.level.rank).map line)

end LogEntry

end SchemaDraft
