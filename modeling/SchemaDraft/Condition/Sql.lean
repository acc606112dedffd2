import SchemaDraft.Literal.Sql

/-!
Conditions as SQL text. The text of a node has no parentheses around it; a node with operands puts
each of them into parentheses, so the text can be read in one way only. A NULL literal is refused
as an operand of a comparison or a range check, because these would never hold.
-/

namespace SchemaDraft.Condition

/-- How many question marks a template has. -/
def placeholders (template : String) : Nat := template.toList.count '?'

/-- A template with its question marks replaced by texts, in order. A text is not searched for
further question marks. -/
def fill : List Char → List String → List Char
  | [], _ => []
  | c :: rest, texts =>
    if c = '?' then
      match texts with
      | text :: texts => text.toList ++ fill rest texts
      | [] => fill rest []
    else c :: fill rest texts

/-- The text of an operand of a comparison. -/
def operandText (d : Dialect) (node : Condition) (value : Literal) : Except RenderError String :=
  if value.isNull then .error (.nullOperand node) else d.literalAt (.condition node) value

/-- The text of a range check between two operand texts, or of its negation. -/
def betweenText (column low high : String) (negated : Bool) : String :=
  if negated then "(" ++ column ++ " < " ++ low ++ ") OR (" ++ column ++ " > " ++ high ++ ")"
  else "(" ++ column ++ " >= " ++ low ++ ") AND (" ++ column ++ " <= " ++ high ++ ")"

/-- No value is a member of the empty list. -/
def emptyMembershipText (negated : Bool) : String := if negated then "1 = 1" else "0 = 1"

def membershipText (column : String) (texts : List String) (negated : Bool) : String :=
  column ++ (if negated then " <> ALL " else " = ANY ") ++ "(" ++ arrayText texts ++ ")"

def render (d : Dialect) : Condition → Except RenderError String
  | .comparison column operator value => do
    let text ← operandText d (.comparison column operator value) value
    return d.quoteIdentifier column ++ " " ++ operator.sql ++ " " ++ text
  | .columnComparison left operator right =>
    return d.quoteIdentifier left ++ " " ++ operator.sql ++ " " ++ d.quoteIdentifier right
  | .between column low high negated => do
    let node := Condition.between column low high negated
    let lowText ← operandText d node low
    let highText ← operandText d node high
    return betweenText (d.quoteIdentifier column) lowText highText negated
  | .membership column values negated =>
    if values.isEmpty then return emptyMembershipText negated
    else do
      let texts ← d.literalsAt (.condition (.membership column values negated)) values
      return membershipText (d.quoteIdentifier column) texts negated
  | .nullCheck column isNull =>
    return d.quoteIdentifier column ++ (if isNull then " IS NULL" else " IS NOT NULL")
  | .fragment template bindings =>
    if placeholders template ≠ bindings.length then
      throw (.placeholderMismatch template (placeholders template) bindings.length)
    else do
      let texts ← d.literalsAt (.condition (.fragment template bindings)) bindings
      return String.ofList (fill template.toList texts)
  | .conjunction left right => do
    let leftText ← render d left
    let rightText ← render d right
    return "(" ++ leftText ++ ") AND (" ++ rightText ++ ")"
  | .disjunction left right => do
    let leftText ← render d left
    let rightText ← render d right
    return "(" ++ leftText ++ ") OR (" ++ rightText ++ ")"

end SchemaDraft.Condition
