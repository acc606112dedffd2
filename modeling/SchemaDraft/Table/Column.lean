import SchemaDraft.Index.Method
import SchemaDraft.Literal.Basic
import SchemaDraft.Table.ColumnType

/-!
Columns to be created, and the changes that can be made to one while a table is being described.
-/

namespace SchemaDraft

inductive DefaultValue where
  | literal (value : Literal)
  /-- A SQL expression, kept as it is. -/
  | expression (sql : String)
  deriving DecidableEq

/-- An index that is declared on its only column. -/
structure InlineIndex where
  unique : Bool := false
  method : IndexMethod := .btree
  name : Option String := none
  deriving DecidableEq

structure Column where
  name : String
  type : ColumnType
  nullable : Bool := false
  primaryKey : Bool := false
  defaultValue : Option DefaultValue := none
  comment : Option String := none
  index : Option InlineIndex := none
  deriving DecidableEq

namespace Column

/-- A column that holds no NULL. A counter is the primary key. -/
def of (name : String) (type : ColumnType) : Column :=
  { name, type, primaryKey := type.isSerial }

def allowNull (c : Column) : Column := { c with nullable := true }

def makePrimary (c : Column) : Column := { c with primaryKey := true }

def withDefault (c : Column) (value : Literal) : Column :=
  { c with defaultValue := some (.literal value) }

def withDefaultExpression (c : Column) (sql : String) : Column :=
  { c with defaultValue := some (.expression sql) }

def withComment (c : Column) (comment : String) : Column := { c with comment := some comment }

/-- Declares an index on the column, in place of one declared before. -/
def withIndex (c : Column) (index : InlineIndex) : Column := { c with index := some index }

end Column

end SchemaDraft
