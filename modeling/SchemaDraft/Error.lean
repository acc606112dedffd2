import SchemaDraft.Condition.Basic
import SchemaDraft.Index.Method

/-!
Why a blueprint has no statements. Either its structure is at fault, which is found before any text
is made, or some predicate or literal of it has no text in the dialect.
-/

namespace SchemaDraft

/-- What a name that may not be empty is for. -/
inductive NameRole where
  | table
  | column
  | likeSource
  | index
  | constraint
  | view
  | viewQuery
  | trigger
  | triggerTable
  | triggerFunction
  | partition
  | predicateColumn
  deriving DecidableEq

def NameRole.describe : NameRole → String
  | .table => "table"
  | .column => "column"
  | .likeSource => "LIKE source"
  | .index => "index"
  | .constraint => "constraint"
  | .view => "view"
  | .viewQuery => "view query"
  | .trigger => "trigger"
  | .triggerTable => "trigger table"
  | .triggerFunction => "trigger function"
  | .partition => "partition"
  | .predicateColumn => "predicate column"

/-- A fault in the structure of a blueprint, or in a call that builds one. -/
inductive StructureError where
  | emptyIndexColumns (table index : String)
  | emptyTable (table : String)
  | predicateAlreadyAttached (index : String)
  | predicateOnNonUniqueIndex (index : String)
  | uniqueRequiresBtree (index : String) (method : IndexMethod)
  | emptyTriggerEvents (trigger : String)
  | emptyUpdateColumns (trigger : String)
  | emptyName (role : NameRole)
  | unknownOperator (text : String)
  deriving DecidableEq

def StructureError.message : StructureError → String
  | .emptyIndexColumns table index =>
    "Index '" ++ index ++ "' on table '" ++ table ++ "' has no columns"
  | .emptyTable table => "Table '" ++ table ++ "' is created without columns or a LIKE source"
  | .predicateAlreadyAttached index =>
    "Index '" ++ index ++ "' already has a predicate attached"
  | .predicateOnNonUniqueIndex index =>
    "Predicate attached to non-unique index '" ++ index ++ "'"
  | .uniqueRequiresBtree index method =>
    "Unique index '" ++ index ++ "' must use btree, not " ++ method.sql
  | .emptyTriggerEvents trigger => "Trigger '" ++ trigger ++ "' has no events"
  | .emptyUpdateColumns trigger =>
    "Trigger '" ++ trigger ++ "' has an UPDATE OF event without column names"
  | .emptyName role => "Empty identifier for " ++ role.describe
  | .unknownOperator text => "Unknown comparison operator '" ++ text ++ "'"

/-- Where in a blueprint a literal stands. -/
inductive LiteralSite where
  | condition (node : Condition)
  | columnDefault (column : String)
  | columnComment (column : String)
  | triggerArguments (trigger : String)
  | partitionBounds (partition : String)
  deriving DecidableEq

def LiteralSite.describe : LiteralSite → String
  | .condition node => node.describe
  | .columnDefault column => "default of column '" ++ column ++ "'"
  | .columnComment column => "comment on column '" ++ column ++ "'"
  | .triggerArguments trigger => "arguments of trigger '" ++ trigger ++ "'"
  | .partitionBounds partition => "bounds of partition '" ++ partition ++ "'"

/-- A predicate or a literal without text in the dialect. -/
inductive RenderError where
  | unsupportedLiteral (site : LiteralSite) (reason : String)
  | nullOperand (node : Condition)
  | placeholderMismatch (template : String) (placeholders bindings : Nat)
  deriving DecidableEq

def RenderError.message : RenderError → String
  | .unsupportedLiteral site reason =>
    "Unsupported literal in " ++ site.describe ++ ": " ++ reason
  | .nullOperand node =>
    "NULL operand in " ++ node.describe ++ "; use a null check instead"
  | .placeholderMismatch template placeholders bindings =>
    "Raw fragment '" ++ template ++ "' has " ++ placeholders.repr ++ " placeholder(s) but " ++
      bindings.repr ++ " binding(s)"

inductive CompileError where
  | structure (error : StructureError)
  | render (error : RenderError)
  deriving DecidableEq

def CompileError.message : CompileError → String
  | .structure error => error.message
  | .render error => error.message

end SchemaDraft
