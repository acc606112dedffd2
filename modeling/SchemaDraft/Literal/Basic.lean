import SchemaDraft.Calendar.Timestamp
import SchemaDraft.Number.Binary

/-!
Literal values. Statements that define a schema take no parameters, so every value in a predicate,
a default or a bound is written into the text itself.
-/

namespace SchemaDraft

inductive Literal where
  | null
  | boolean (value : Bool)
  | integer (value : Int64)
  | float (value : Binary64)
  | text (value : String)
  | date (value : Date)
  | timestamp (value : Timestamp)
  deriving DecidableEq

namespace Literal

/-- The name of the kind of value. -/
def kind : Literal → String
  | .null => "null"
  | .boolean _ => "boolean"
  | .integer _ => "integer"
  | .float _ => "float"
  | .text _ => "text"
  | .date _ => "date"
  | .timestamp _ => "timestamp"

def isNull : Literal → Bool
  | .null => true
  | _ => false

/-- An integer that fits into 64 bits. -/
def integer? (n : Int) : Option Int64 :=
  if Int64.minValue.toInt ≤ n ∧ n ≤ Int64.maxValue.toInt then some (Int64.ofInt n) else none

end Literal

end SchemaDraft
