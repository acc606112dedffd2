import SchemaDraft.Condition.Operator
import SchemaDraft.Literal.Basic

/-!
Filter conditions, the predicates of partial indexes. A condition is a plain tree over columns and
literals; only a fragment carries SQL text of its own.
-/

namespace SchemaDraft

inductive Condition where
  | comparison (column : String) (operator : Comparison) (value : Literal)
  | columnComparison (left : String) (operator : Comparison) (right : String)
  /-- Whether the column lies between two bounds, these included, or outside them. -/
  | between (column : String) (low high : Literal) (negated : Bool)
  /-- Whether the column is one of the values, or none of them. -/
  | membership (column : String) (values : List Literal) (negated : Bool)
  | nullCheck (column : String) (isNull : Bool)
  /-- SQL text with a question mark for each bound value, in order. -/
  | fragment (template : String) (bindings : List Literal)
  | conjunction (left right : Condition)
  | disjunction (left right : Condition)
  deriving DecidableEq

namespace Condition

/-- What a message calls a node. -/
def describe : Condition → String
  | .comparison column _ _ => "comparison on '" ++ column ++ "'"
  | .columnComparison left _ right => "column comparison '" ++ left ++ "' / '" ++ right ++ "'"
  | .between column _ _ _ => "range check on '" ++ column ++ "'"
  | .membership column _ _ => "membership test on '" ++ column ++ "'"
  | .nullCheck column _ => "null check on '" ++ column ++ "'"
  | .fragment template _ => "raw fragment '" ++ template ++ "'"
  | .conjunction _ _ => "conjunction"
  | .disjunction _ _ => "disjunction"

end Condition

end SchemaDraft
