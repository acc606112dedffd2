import SchemaDraft.Blueprint.Basic

/-!
The structural faults of a blueprint, listed in the order in which they count: a blueprint is
refused for the first of them. They are looked for in every command before any text is made.
-/

namespace SchemaDraft

def nameFaults (role : NameRole) (name : String) : List StructureError :=
  if name = "" then [.emptyName role] else []

def Column.faults (column : Column) : List StructureError := nameFaults .column column.name

/-- Names inside fragments are not looked at. -/
def Condition.faults : Condition → List StructureError
  | .comparison column _ _ => nameFaults .predicateColumn column
  | .columnComparison left _ right =>
    nameFaults .predicateColumn left ++ nameFaults .predicateColumn right
  | .between column _ _ _ => nameFaults .predicateColumn column
  | .membership column _ _ => nameFaults .predicateColumn column
  | .nullCheck column _ => nameFaults .predicateColumn column
  | .fragment _ _ => []
  | .conjunction left right => left.faults ++ right.faults
  | .disjunction left right => left.faults ++ right.faults

def LikeClause.faults (clause : LikeClause) : List StructureError :=
  nameFaults .likeSource clause.source

def CreateTable.faults (table : String) (definition : CreateTable) : List StructureError :=
  (if definition.columns.isEmpty && definition.like.isNone then [.emptyTable table] else []) ++
    (definition.like.map LikeClause.faults).getD []

/-- Whether a list of column names is empty or holds an empty name. -/
def lacksColumns (columns : List String) : Bool := columns.isEmpty || columns.contains ""

def Index.faults (table : String) (index : Index) : List StructureError :=
  let name := index.resolvedName table
  (index.name.map (nameFaults .index)).getD [] ++
    (if lacksColumns index.columns then [.emptyIndexColumns table name] else []) ++
    (if index.unique && index.method ≠ .btree then [.uniqueRequiresBtree name index.method]
      else []) ++
    (if index.predicate.isSome && !index.unique then [.predicateOnNonUniqueIndex name] else []) ++
    (index.predicate.map Condition.faults).getD []

def TriggerEvent.faults (trigger : String) : TriggerEvent → List StructureError
  | .updateOf columns => if lacksColumns columns then [.emptyUpdateColumns trigger] else []
  | _ => []

def Trigger.faults (trigger : Trigger) : List StructureError :=
  nameFaults .trigger trigger.name ++ nameFaults .triggerTable trigger.table ++
    nameFaults .triggerFunction trigger.function ++
    (if trigger.events.isEmpty then [.emptyTriggerEvents trigger.name] else []) ++
    trigger.events.flatMap (TriggerEvent.faults trigger.name)

/-- The faults of a command apart from those of its columns. -/
def Command.ownFaults (table : String) : Command → List StructureError
  | .createTable definition => definition.faults table
  | .addColumns _ => []
  | .dropTable _ => []
  | .createIndex index => index.faults table
  | .dropIndex name => nameFaults .index name
  | .dropUnique name => nameFaults .constraint name
  | .createView view => nameFaults .view view.name ++ nameFaults .viewQuery view.select
  | .dropView name _ => nameFaults .view name
  | .createTrigger trigger => trigger.faults
  | .dropTrigger name => nameFaults .trigger name
  | .attachPartition partition _ => nameFaults .partition partition
  | .detachPartition partition => nameFaults .partition partition

def Command.faults (table : String) (command : Command) : List StructureError :=
  command.columns.flatMap Column.faults ++ command.ownFaults table

def Blueprint.faults (b : Blueprint) : List StructureError :=
  nameFaults .table b.table ++ b.resolvedCommands.flatMap (Command.faults b.table)

end SchemaDraft
