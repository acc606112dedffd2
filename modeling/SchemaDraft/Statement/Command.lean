import SchemaDraft.Statement.Index
import SchemaDraft.Statement.Partition
import SchemaDraft.Statement.Trigger

/-!
The statements of each command. A command that creates columns has one more statement for every
comment, one that adds no columns has none, and every other command has exactly one.
-/

namespace SchemaDraft

/-- What a command is rendered to: its statements, and before them the text of its predicate. -/
structure Rendering where
  predicate : Option String := none
  statements : List String
  deriving DecidableEq

/-- A rendering that is a single statement. -/
def Rendering.single (sql : String) : Rendering := { statements := [sql] }

/-- What VIEW is called, in a statement, for a view whose rows are stored or not. -/
def viewKeyword (materialized : Bool) : String :=
  if materialized then "MATERIALIZED VIEW " else "VIEW "

def Command.render (d : Dialect) (table : String) : Command → Except RenderError Rendering
  | .createTable definition => do
    let statements ← definition.statements d table
    return { statements }
  | .addColumns columns => do
    let statements ← Column.additionStatements d table columns
    return { statements }
  | .dropTable ifExists =>
    return .single ("DROP TABLE " ++ (if ifExists then "IF EXISTS " else "") ++
      d.quoteIdentifier table)
  | .createIndex index => do
    let (sql, predicate) ← index.render d table
    return { predicate, statements := [sql] }
  | .dropIndex name => return .single ("DROP INDEX " ++ d.quoteIdentifier name)
  | .dropUnique name =>
    return .single ("ALTER TABLE " ++ d.quoteIdentifier table ++ " DROP CONSTRAINT " ++
      d.quoteIdentifier name)
  | .createView view =>
    return .single ("CREATE " ++ viewKeyword view.materialize ++ d.quoteIdentifier view.name ++
      " AS " ++ view.select)
  | .dropView name materialized =>
    return .single ("DROP " ++ viewKeyword materialized ++ d.quoteIdentifier name)
  | .createTrigger trigger => do
    let sql ← trigger.render d
    return .single sql
  | .dropTrigger name =>
    return .single ("DROP TRIGGER " ++ d.quoteIdentifier name ++ " ON " ++ d.quoteIdentifier table)
  | .attachPartition partition bounds => do
    let sql ← renderAttachment d table partition bounds
    return .single sql
  | .detachPartition partition =>
    return .single ("ALTER TABLE " ++ d.quoteIdentifier table ++ " DETACH PARTITION " ++
      d.quoteIdentifier partition)

end SchemaDraft
