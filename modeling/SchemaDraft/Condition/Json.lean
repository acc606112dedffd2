import SchemaDraft.Condition.Basic
import SchemaDraft.Literal.Json

/-!
Conditions as JSON: an object whose `kind` names the node and whose other members are its parts.
-/

namespace SchemaDraft

namespace Comparison

def toJson (operator : Comparison) : Json := .str operator.sql

def ofJson? : Json → Option Comparison := Json.named? .inside ofSpelling?

end Comparison

namespace Condition

def toJson : Condition → Json
  | .comparison column operator value =>
    .obj [("kind", .str "comparison"), ("column", .str column), ("operator", operator.toJson),
      ("value", value.toJson)]
  | .columnComparison left operator right =>
    .obj [("kind", .str "column_comparison"), ("left", .str left), ("operator", operator.toJson),
      ("right", .str right)]
  | .between column low high negated =>
    .obj [("kind", .str "between"), ("column", .str column), ("low", low.toJson),
      ("high", high.toJson), ("negated", .bool negated)]
  | .membership column values negated =>
    .obj [("kind", .str "set_membership"), ("column", .str column),
      ("values", .arr (values.map Literal.toJson)), ("negated", .bool negated)]
  | .nullCheck column isNull =>
    .obj [("kind", .str "null_check"), ("column", .str column), ("is_null", .bool isNull)]
  | .fragment template bindings =>
    .obj [("kind", .str "raw_fragment"), ("template", .str template),
      ("bindings", .arr (bindings.map Literal.toJson))]
  | .conjunction left right =>
    .obj [("kind", .str "conjunction"), ("left", left.toJson), ("right", right.toJson)]
  | .disjunction left right =>
    .obj [("kind", .str "disjunction"), ("left", left.toJson), ("right", right.toJson)]

/-- Reads a node without operands of its own kind. -/
def leafOfMembers? (kind : String) (members : List (String × Json)) : Option Condition :=
  match kind with
  | "comparison" => do
    let column ← Json.required "column" Json.str? members
    let operator ← Json.required "operator" Comparison.ofJson? members
    let value ← Json.required "value" (Literal.ofJson? .inside) members
    return .comparison column operator value
  | "column_comparison" => do
    let left ← Json.required "left" Json.str? members
    let operator ← Json.required "operator" Comparison.ofJson? members
    let right ← Json.required "right" Json.str? members
    return .columnComparison left operator right
  | "between" => do
    let column ← Json.required "column" Json.str? members
    let low ← Json.required "low" (Literal.ofJson? .inside) members
    let high ← Json.required "high" (Literal.ofJson? .inside) members
    let negated ← Json.defaulted "negated" false Json.bool? members
    return .between column low high negated
  | "set_membership" => do
    let column ← Json.required "column" Json.str? members
    let values ← Json.required "values" (Json.list? (Literal.ofJson? .inside)) members
    let negated ← Json.defaulted "negated" false Json.bool? members
    return .membership column values negated
  | "null_check" => do
    let column ← Json.required "column" Json.str? members
    let isNull ← Json.required "is_null" Json.bool? members
    return .nullCheck column isNull
  | "raw_fragment" => do
    let template ← Json.required "template" Json.str? members
    let bindings ← Json.defaulted "bindings" [] (Json.list? (Literal.ofJson? .inside)) members
    return .fragment template bindings
  | _ => none

/-- The operand with this name, among members that have been read as conditions where they can
be. -/
def operand? (name : String) : List (String × Option Condition) → Option Condition
  | [] => none
  | (key, condition) :: rest => if key = name then condition else operand? name rest

/-- Joins two operands if each of them occurs once. -/
def joined? (join : Condition → Condition → Condition) (members : List (String × Json))
    (operands : List (String × Option Condition)) : Option Condition := do
  let left ← Json.required "left" (fun _ => operand? "left" operands) members
  let right ← Json.required "right" (fun _ => operand? "right" operands) members
  return join left right

mutual

def ofJson? : Json → Option Condition
  | .obj members =>
    match Json.required "kind" Json.str? members with
    | none => none
    | some "conjunction" => joined? .conjunction members (operands members)
    | some "disjunction" => joined? .disjunction members (operands members)
    | some kind => leafOfMembers? kind members
  | _ => none

/-- Reads every member as a condition. -/
def operands : List (String × Json) → List (String × Option Condition)
  | [] => []
  | (name, value) :: rest => (name, ofJson? value) :: operands rest

end

end Condition

end SchemaDraft
