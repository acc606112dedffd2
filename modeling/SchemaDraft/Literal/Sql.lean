import SchemaDraft.Error
import SchemaDraft.Sql.Dialect

/-!
Literals as SQL text at a place in a blueprint. A dialect refuses a literal for a reason; the
refusal that comes out of here also says where the literal stands.
-/

namespace SchemaDraft.Dialect

/-- The text of a literal at a place. -/
def literalAt (d : Dialect) (site : LiteralSite) (value : Literal) : Except RenderError String :=
  match d.formatLiteral value with
  | .ok text => .ok text
  | .error e => .error (.unsupportedLiteral site e.reason)

/-- The texts of the literals at a place, or the refusal of the first that has none. -/
def literalsAt (d : Dialect) (site : LiteralSite) (values : List Literal) :
    Except RenderError (List String) :=
  match d.formatLiterals values with
  | .ok texts => .ok texts
  | .error e => .error (.unsupportedLiteral site e.reason)

/-- Literals in parentheses, with commas between them. -/
def tupleAt (d : Dialect) (site : LiteralSite) (values : List Literal) :
    Except RenderError String := do
  let texts ← d.literalsAt site values
  return "(" ++ ", ".intercalate texts ++ ")"

end SchemaDraft.Dialect
