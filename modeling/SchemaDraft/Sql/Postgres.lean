import SchemaDraft.Sql.Dialect
import SchemaDraft.Sql.Identifier
import SchemaDraft.Number.Shortest

/-!
The PostgreSQL dialect. Text with a NUL byte and numbers that are not finite cannot be written.
-/

namespace SchemaDraft.Postgres

def name : String := "postgresql"

/-- Numbers are written without a power of ten, however large or small; of two equally near
decimals the greater one is taken. -/
def numberLayout : NumberLayout := ⟨.up, none, none⟩

def floatText : Binary64 → Except UnsupportedLiteral String
  | .finite negative rank => .ok (numberLayout.write negative rank)
  | .nan => .error ⟨"non-finite float NaN"⟩
  | .infinite false => .error ⟨"non-finite float inf"⟩
  | .infinite true => .error ⟨"non-finite float -inf"⟩

def formatLiteral : Literal → Except UnsupportedLiteral String
  | .null => .ok "NULL"
  | .boolean true => .ok "true"
  | .boolean false => .ok "false"
  | .integer n => .ok (n.toInt.repr)
  | .float x => floatText x
  | .text s =>
    if '\x00' ∈ s.toList then .error ⟨"text contains a NUL byte"⟩ else .ok (Sql.stringConstant s)
  | .date d => .ok (Sql.stringConstant d.text)
  | .timestamp t => .ok (Sql.stringConstant (t.textWith ' '))

def dialect : Dialect := ⟨Sql.quoteIdentifier, formatLiteral⟩

end SchemaDraft.Postgres
