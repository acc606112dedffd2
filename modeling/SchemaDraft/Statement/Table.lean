import SchemaDraft.Command
import SchemaDraft.Condition.Sql

/-!
The statements that create tables and columns: the definition of each column, the LIKE clause, and
the comments, which are statements of their own.
-/

namespace SchemaDraft

/-- Applies a rendering to each element, and stops at the first refusal. -/
def renderEach (render : α → Except RenderError β) : List α → Except RenderError (List β)
  | [] => .ok []
  | a :: rest => do
    let b ← render a
    let bs ← renderEach render rest
    return b :: bs

namespace LikeOption

def sql (option : LikeOption) : String :=
  (if option.including then " INCLUDING " else " EXCLUDING ") ++ option.feature.sql

end LikeOption

namespace LikeOptions

def sql : LikeOptions → String
  | .plain => ""
  | .includingAll => " INCLUDING ALL"
  | .selected options => String.join (options.map LikeOption.sql)

end LikeOptions

def LikeClause.render (d : Dialect) (clause : LikeClause) : String :=
  "LIKE " ++ d.quoteIdentifier clause.source ++ clause.options.sql

namespace Column

/-- A primary key needs no NOT NULL. -/
def constraintText (column : Column) : String :=
  if column.primaryKey then " PRIMARY KEY"
  else if column.nullable then "" else " NOT NULL"

def renderDefault (d : Dialect) (column : Column) : Except RenderError String :=
  match column.defaultValue with
  | none => return ""
  | some (.literal value) => do
    let text ← d.literalAt (.columnDefault column.name) value
    return " DEFAULT " ++ text
  | some (.expression sql) => return " DEFAULT " ++ sql

def render (d : Dialect) (column : Column) : Except RenderError String := do
  let default ← column.renderDefault d
  return d.quoteIdentifier column.name ++ " " ++ column.type.sql ++ column.constraintText ++ default

/-- The statement that sets the comment of a column, if it has one. -/
def renderComment? (d : Dialect) (table : String) (column : Column) :
    Option (Except RenderError String) :=
  column.comment.map fun comment => do
    let text ← d.literalAt (.columnComment column.name) (.text comment)
    return "COMMENT ON COLUMN " ++ d.quoteIdentifier table ++ "." ++
      d.quoteIdentifier column.name ++ " IS " ++ text

/-- One statement for each column with a comment. -/
def renderComments (d : Dialect) (table : String) (columns : List Column) :
    Except RenderError (List String) :=
  renderEach id (columns.filterMap (renderComment? d table))

end Column

namespace CreateTable

def render (d : Dialect) (table : String) (definition : CreateTable) :
    Except RenderError String := do
  let columns ← renderEach (Column.render d) definition.columns
  let like := (definition.like.map (LikeClause.render d)).toList
  return "CREATE TABLE " ++ (if definition.ifNotExists then "IF NOT EXISTS " else "") ++
    d.quoteIdentifier table ++ " (" ++ ", ".intercalate (like ++ columns) ++ ")"

/-- The definition of the table, then the comments on its columns. -/
def statements (d : Dialect) (table : String) (definition : CreateTable) :
    Except RenderError (List String) := do
  let sql ← definition.render d table
  let comments ← Column.renderComments d table definition.columns
  return sql :: comments

end CreateTable

namespace Column

def renderAddition (d : Dialect) (column : Column) : Except RenderError String := do
  let text ← column.render d
  return "ADD COLUMN " ++ text

/-- One statement that adds all columns. No columns need none. -/
def renderAdditions? (d : Dialect) (table : String) (columns : List Column) :
    Except RenderError (Option String) := do
  let additions ← renderEach (renderAddition d) columns
  if additions.isEmpty then return none
  else return some ("ALTER TABLE " ++ d.quoteIdentifier table ++ " " ++
    ", ".intercalate additions)

/-- The statement that adds the columns, if there are any, then the comments on them. -/
def additionStatements (d : Dialect) (table : String) (columns : List Column) :
    Except RenderError (List String) := do
  let addition ← renderAdditions? d table columns
  let comments ← renderComments d table columns
  return addition.toList ++ comments

end Column

end SchemaDraft
