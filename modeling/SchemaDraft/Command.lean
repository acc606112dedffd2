import SchemaDraft.Index.Basic
import SchemaDraft.Table.Column
import SchemaDraft.Table.Like
import SchemaDraft.Trigger

/-!
The commands a blueprint is made of: one schema change each.
-/

namespace SchemaDraft

structure CreateTable where
  columns : List Column := []
  ifNotExists : Bool := false
  like : Option LikeClause := none
  deriving DecidableEq

structure CreateView where
  name : String
  /-- The query, kept as it is. -/
  select : String
  materialize : Bool := false
  deriving DecidableEq

/-- Which rows a partition holds. -/
inductive PartitionBounds where
  /-- From the first values, these included, up to the second. -/
  | range (lower upper : List Literal)
  | list (values : List Literal)
  | hash (modulus remainder : UInt32)
  /-- The rows of no other partition. -/
  | rest
  /-- A clause that is kept as it is. -/
  | raw (clause : String)
  deriving DecidableEq

inductive Command where
  | createTable (definition : CreateTable)
  | addColumns (columns : List Column)
  | dropTable (ifExists : Bool)
  | createIndex (index : Index)
  | dropIndex (name : String)
  | dropUnique (name : String)
  | createView (view : CreateView)
  | dropView (name : String) (materialized : Bool)
  | createTrigger (trigger : Trigger)
  | dropTrigger (name : String)
  | attachPartition (partition : String) (bounds : PartitionBounds)
  | detachPartition (partition : String)
  deriving DecidableEq

namespace Command

/-- The name of the kind of command. -/
def kind : Command → String
  | .createTable _ => "create_table"
  | .addColumns _ => "add_columns"
  | .dropTable _ => "drop_table"
  | .createIndex _ => "create_index"
  | .dropIndex _ => "drop_index"
  | .dropUnique _ => "drop_unique"
  | .createView _ => "create_view"
  | .dropView _ _ => "drop_view"
  | .createTrigger _ => "create_trigger"
  | .dropTrigger _ => "drop_trigger"
  | .attachPartition _ _ => "attach_partition"
  | .detachPartition _ => "detach_partition"

/-- The columns the command creates. -/
def columns : Command → List Column
  | .createTable definition => definition.columns
  | .addColumns columns => columns
  | _ => []

/-- Whether the command has a place for columns, be there any or none. -/
def carriesColumns : Command → Bool
  | .createTable _ | .addColumns _ => true
  | _ => false

end Command

end SchemaDraft
