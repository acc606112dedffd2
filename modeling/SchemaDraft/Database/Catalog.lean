import SchemaDraft.Database.Basic

/-!
Questions to the system catalog of a database, each one statement and a way to read its rows.
-/

namespace SchemaDraft

inductive CatalogQuery where
  | indexDefinition (index : String)
  | hasConstraint (table name : String)
  | hasTable (table : String)
  | hasView (view : String)
  | viewDefinition (view : String)
  | columnNames (table : String)
  | columnDefault (table column : String)
  | columnComment (table column : String)
  | indexNames (table : String)
  deriving DecidableEq

inductive CatalogAnswer where
  | flag (value : Bool)
  | text (value : Option String)
  | names (values : List String)
  deriving DecidableEq

namespace CatalogQuery

def execution : CatalogQuery → Execution
  | .indexDefinition index =>
    ⟨"SELECT indexdef FROM pg_indexes WHERE indexname = $1", [index]⟩
  | .hasConstraint table name =>
    ⟨"SELECT 1 FROM pg_constraint c JOIN pg_class t ON t.oid = c.conrelid " ++
      "WHERE t.relname = $1 AND c.conname = $2", [table, name]⟩
  | .hasTable table => ⟨"SELECT 1 FROM pg_tables WHERE tablename = $1", [table]⟩
  | .hasView view => ⟨"SELECT 1 FROM pg_views WHERE viewname = $1", [view]⟩
  | .viewDefinition view => ⟨"SELECT definition FROM pg_views WHERE viewname = $1", [view]⟩
  | .columnNames table =>
    ⟨"SELECT column_name::text FROM information_schema.columns " ++
      "WHERE table_name = $1 ORDER BY ordinal_position", [table]⟩
  | .columnDefault table column =>
    ⟨"SELECT column_default::text FROM information_schema.columns " ++
      "WHERE table_name = $1 AND column_name = $2", [table, column]⟩
  | .columnComment table column =>
    ⟨"SELECT col_description(c.oid, a.attnum) FROM pg_class c " ++
      "JOIN pg_attribute a ON a.attrelid = c.oid " ++
      "WHERE c.relname = $1 AND a.attname = $2", [table, column]⟩
  | .indexNames table =>
    ⟨"SELECT indexname::text FROM pg_indexes WHERE tablename = $1 ORDER BY indexname", [table]⟩

/-- The texts of all rows, or the error of the first row that has none. -/
def texts : List Row → Except RowError (List String)
  | [] => .ok []
  | row :: rest => do
    let s ← row.text
    let more ← texts rest
    return s :: more

/-- Reads an answer: whether there is any row, the text of the first row, or the texts of all rows.
Only the default and the comment of a column may be NULL. -/
def read : CatalogQuery → List Row → Except RowError CatalogAnswer
  | .hasConstraint _ _, rows | .hasTable _, rows | .hasView _, rows =>
    match rows with
    | [] => .ok (.flag false)
    | row :: _ => row.number.map fun _ => .flag true
  | .indexDefinition _, rows | .viewDefinition _, rows =>
    match rows with
    | [] => .ok (.text none)
    | row :: _ => row.text.map fun s => .text (some s)
  | .columnDefault _ _, rows | .columnComment _ _, rows =>
    match rows with
    | [] => .ok (.text none)
    | row :: _ => row.optionalText.map .text
  | .columnNames _, rows | .indexNames _, rows => (texts rows).map .names

/-- Puts the question to a database in which nothing has been executed before. -/
def ask (db : Database) (query : CatalogQuery) : Except DatabaseError CatalogAnswer :=
  match db.answer [] query.execution with
  | .error message => .error (.refused message)
  | .ok rows =>
    match query.read rows with
    | .error e => .error (.row e)
    | .ok answer => .ok answer

end CatalogQuery

end SchemaDraft
