import SchemaDraft.Text.Blank

/-!
The comparison operators, their SQL spellings, and the texts that name them.
-/

namespace SchemaDraft

inductive Comparison where
  | eq
  | notEq
  | lt
  | ltEq
  | gt
  | gtEq
  deriving DecidableEq

namespace Comparison

def all : List Comparison := [.eq, .notEq, .lt, .ltEq, .gt, .gtEq]

/-- The SQL spelling. -/
def sql : Comparison → String
  | .eq => "="
  | .notEq => "<>"
  | .lt => "<"
  | .ltEq => "<="
  | .gt => ">"
  | .gtEq => ">="

/-- The operator with exactly this spelling, where `!=` is another spelling of `<>`. -/
def ofSpelling? (text : String) : Option Comparison :=
  if text = "!=" then some .notEq else all.find? (·.sql == text)

/-- Reads an operator with blanks around it. The trimmed text is what a refusal names. -/
def ofText (text : String) : Except String Comparison :=
  let trimmed := Text.trim text
  match ofSpelling? trimmed with
  | some operator => .ok operator
  | none => .error trimmed

theorem ofSpelling?_sql (operator : Comparison) : ofSpelling? operator.sql = some operator := by
  cases operator <;> decide

end Comparison

end SchemaDraft
