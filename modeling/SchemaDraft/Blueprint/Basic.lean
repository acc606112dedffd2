import SchemaDraft.Command

/-!
Blueprints: a table, or a view, and the commands that change it, in order.
-/

namespace SchemaDraft

structure Blueprint where
  table : String
  commands : List Command := []
  deriving DecidableEq

namespace Blueprint

/-- A blueprint of changes to a table that exists. -/
def alter (table : String) : Blueprint := { table }

/-- A blueprint that creates its table. -/
def create (table : String) : Blueprint := { table, commands := [.createTable {}] }

/-- All columns that the commands create, in order. -/
def columns (b : Blueprint) : List Column := b.commands.flatMap Command.columns

end Blueprint

/-- The index command that an index declared on a column stands for. -/
def Column.indexCommand? (column : Column) : Option Command :=
  column.index.map fun index =>
    .createIndex
      { name := index.name, columns := [column.name], method := index.method,
        unique := index.unique }

namespace Blueprint

/-- The index commands that the columns stand for, in the order of the columns. -/
def inlineIndexes (b : Blueprint) : List Command := b.columns.filterMap Column.indexCommand?

/-- The commands as they are compiled: those of the blueprint, then those its columns stand for. -/
def resolvedCommands (b : Blueprint) : List Command := b.commands ++ b.inlineIndexes

/-- Whether an index over exactly these columns is declared, by a command or on a column. If
`unique` is asked for, only unique ones count. -/
def hasIndex (b : Blueprint) (columns : List String) (unique : Bool) : Bool :=
  b.resolvedCommands.any fun
    | .createIndex index => (!unique || index.unique) && index.columns == columns
    | _ => false

end Blueprint

end SchemaDraft
