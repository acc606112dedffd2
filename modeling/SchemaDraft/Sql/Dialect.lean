import SchemaDraft.Literal.Basic

/-!
What a SQL dialect decides: how a name is spelled and how a literal is written. Everything else in
a statement is the same in every dialect.
-/

namespace SchemaDraft

/-- A literal has no text in a dialect. -/
structure UnsupportedLiteral where
  reason : String
  deriving DecidableEq

structure Dialect where
  quoteIdentifier : String → String
  formatLiteral : Literal → Except UnsupportedLiteral String

/-- An array constructor with these element texts. -/
def arrayText (texts : List String) : String := "ARRAY[" ++ ", ".intercalate texts ++ "]"

namespace Dialect

/-- The names as they are spelled, with commas between them. -/
def quoteAll (d : Dialect) (names : List String) : String :=
  ", ".intercalate (names.map d.quoteIdentifier)

/-- The texts of several literals, or the first refusal. -/
def formatLiterals (d : Dialect) : List Literal → Except UnsupportedLiteral (List String)
  | [] => .ok []
  | value :: rest => do
    let text ← d.formatLiteral value
    let texts ← d.formatLiterals rest
    return text :: texts

/-- An array constructor with one element per literal. -/
def formatArray (d : Dialect) (values : List Literal) : Except UnsupportedLiteral String := do
  let texts ← d.formatLiterals values
  return arrayText texts

end Dialect

end SchemaDraft
