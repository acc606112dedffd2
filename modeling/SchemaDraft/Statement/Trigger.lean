import SchemaDraft.Statement.Table

/-!
The statements that create triggers.
-/

namespace SchemaDraft

def TriggerEvent.render (d : Dialect) : TriggerEvent → String
  | .insert => "INSERT"
  | .update => "UPDATE"
  | .updateOf columns => "UPDATE OF " ++ d.quoteAll columns
  | .delete => "DELETE"
  | .truncate => "TRUNCATE"

def Trigger.render (d : Dialect) (trigger : Trigger) : Except RenderError String := do
  let arguments ← d.tupleAt (.triggerArguments trigger.name) trigger.arguments
  let events := " OR ".intercalate (trigger.events.map (TriggerEvent.render d))
  return "CREATE TRIGGER " ++ d.quoteIdentifier trigger.name ++ " " ++ trigger.timing.sql ++ " " ++
    events ++ " ON " ++ d.quoteIdentifier trigger.table ++ " FOR EACH " ++ trigger.level.sql ++
    " EXECUTE " ++ trigger.routine.sql ++ " " ++ d.quoteIdentifier trigger.function ++ arguments

end SchemaDraft
