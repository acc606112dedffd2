import SchemaDraft.Blueprint.Basic
import SchemaDraft.Condition.Json

/-!
Blueprints and their parts as JSON. Writing gives every member of a record, those with their
default values included; reading lets these be left out.
-/

namespace SchemaDraft

namespace Json

def ofOption (write : α → Json) : Option α → Json
  | none => .null
  | some a => write a

def ofStrings (names : List String) : Json := .arr (names.map .str)

end Json

namespace IndexMethod

def toJson (method : IndexMethod) : Json := .str method.sql

def ofJson? (place : Json.Place) : Json → Option IndexMethod :=
  Json.named? place (Json.byName? sql all)

end IndexMethod

namespace DefaultValue

def toJson : DefaultValue → Json
  | .literal value => .obj [("literal", value.toJson)]
  | .expression sql => .obj [("expression", .str sql)]

def ofJson? (place : Json.Place) : Json → Option DefaultValue :=
  Json.variant? place (fun _ => none) fun
    | "literal", content => (Literal.ofJson? place content).map .literal
    | "expression", content => content.str?.map .expression
    | _, _ => none

end DefaultValue

namespace InlineIndex

def toJson (index : InlineIndex) : Json :=
  .obj [("unique", .bool index.unique), ("method", index.method.toJson),
    ("name", Json.ofOption .str index.name)]

def ofJson? (place : Json.Place) (json : Json) : Option InlineIndex := do
  let members ← json.members?
  let unique ← Json.defaulted "unique" false Json.bool? members
  let method ← Json.defaulted "method" .btree (IndexMethod.ofJson? place) members
  let name ← Json.optional "name" Json.str? members
  return { unique, method, name }

end InlineIndex

namespace Column

def toJson (column : Column) : Json :=
  .obj [("name", .str column.name), ("type", column.type.toJson),
    ("nullable", .bool column.nullable), ("primary_key", .bool column.primaryKey),
    ("default", Json.ofOption DefaultValue.toJson column.defaultValue),
    ("comment", Json.ofOption .str column.comment),
    ("index", Json.ofOption InlineIndex.toJson column.index)]

def ofJson? (place : Json.Place) (json : Json) : Option Column := do
  let members ← json.members?
  let name ← Json.required "name" Json.str? members
  let type ← Json.required "type" ColumnType.ofJson? members
  let nullable ← Json.defaulted "nullable" false Json.bool? members
  let primaryKey ← Json.defaulted "primary_key" false Json.bool? members
  let defaultValue ← Json.optional "default" (DefaultValue.ofJson? place) members
  let comment ← Json.optional "comment" Json.str? members
  let index ← Json.optional "index" (InlineIndex.ofJson? place) members
  return { name, type, nullable, primaryKey, defaultValue, comment, index }

end Column

namespace LikeFeature

def toJson (feature : LikeFeature) : Json := .str feature.tag

def ofJson? (place : Json.Place) : Json → Option LikeFeature :=
  Json.named? place (Json.byName? tag all)

end LikeFeature

namespace LikeOption

def toJson (option : LikeOption) : Json :=
  .obj [("including", .bool option.including), ("feature", option.feature.toJson)]

def ofJson? (json : Json) : Option LikeOption := do
  let members ← json.members?
  let including ← Json.required "including" Json.bool? members
  let feature ← Json.required "feature" (LikeFeature.ofJson? .inside) members
  return { including, feature }

end LikeOption

namespace LikeOptions

def toJson : LikeOptions → Json
  | .plain => .str "plain"
  | .includingAll => .str "including_all"
  | .selected options => .obj [("selected", .arr (options.map LikeOption.toJson))]

def ofJson? : Json → Option LikeOptions :=
  Json.variant? .inside
    (fun
      | "plain" => some .plain
      | "including_all" => some .includingAll
      | _ => none)
    fun
      | "selected", content => (Json.list? LikeOption.ofJson? content).map .selected
      | _, _ => none

end LikeOptions

namespace LikeClause

def toJson (clause : LikeClause) : Json :=
  .obj [("source", .str clause.source), ("options", clause.options.toJson)]

def ofJson? (json : Json) : Option LikeClause := do
  let members ← json.members?
  let source ← Json.required "source" Json.str? members
  let options ← Json.defaulted "options" .plain LikeOptions.ofJson? members
  return { source, options }

end LikeClause

namespace TriggerTiming

def toJson (timing : TriggerTiming) : Json := .str timing.tag

def ofJson? (place : Json.Place) : Json → Option TriggerTiming :=
  Json.named? place (Json.byName? tag all)

end TriggerTiming

namespace TriggerLevel

def toJson (level : TriggerLevel) : Json := .str level.tag

def ofJson? : Json → Option TriggerLevel := Json.named? .inside (Json.byName? tag all)

end TriggerLevel

namespace RoutineKind

def toJson (kind : RoutineKind) : Json := .str kind.tag

def ofJson? : Json → Option RoutineKind := Json.named? .inside (Json.byName? tag all)

end RoutineKind

namespace TriggerEvent

def toJson : TriggerEvent → Json
  | .insert => .str "insert"
  | .update => .str "update"
  | .updateOf columns => .obj [("update_of", Json.ofStrings columns)]
  | .delete => .str "delete"
  | .truncate => .str "truncate"

def ofJson? (place : Json.Place) : Json → Option TriggerEvent :=
  Json.variant? place
    (fun
      | "insert" => some .insert
      | "update" => some .update
      | "delete" => some .delete
      | "truncate" => some .truncate
      | _ => none)
    fun
      | "update_of", content => content.strings?.map .updateOf
      | _, _ => none

end TriggerEvent

namespace PartitionBounds

def literals? (place : Json.Place) : Json → Option (List Literal) :=
  Json.list? (Literal.ofJson? place)

def ofLiterals (values : List Literal) : Json := .arr (values.map Literal.toJson)

def toJson : PartitionBounds → Json
  | .range lower upper =>
    .obj [("range", .obj [("from", ofLiterals lower), ("to", ofLiterals upper)])]
  | .list values => .obj [("list", ofLiterals values)]
  | .hash modulus remainder =>
    .obj [("hash", .obj [("modulus", .int modulus.toNat), ("remainder", .int remainder.toNat)])]
  | .rest => .str "default"
  | .raw clause => .obj [("raw", .str clause)]

def ofJson? (place : Json.Place) : Json → Option PartitionBounds :=
  Json.variant? place
    (fun
      | "default" => some .rest
      | _ => none)
    fun
      | "range", content => do
        let members ← content.members?
        let lower ← Json.required "from" (literals? place) members
        let upper ← Json.required "to" (literals? place) members
        return .range lower upper
      | "list", content => (literals? place content).map .list
      | "hash", content => do
        let members ← content.members?
        let modulus ← Json.required "modulus" ColumnType.uint32? members
        let remainder ← Json.required "remainder" ColumnType.uint32? members
        return .hash modulus remainder
      | "raw", content => content.str?.map .raw
      | _, _ => none

end PartitionBounds

namespace Command

/-- The members of a command besides its kind. -/
def members : Command → List (String × Json)
  | .createTable definition =>
    [("columns", .arr (definition.columns.map Column.toJson)),
     ("if_not_exists", .bool definition.ifNotExists),
     ("like", Json.ofOption LikeClause.toJson definition.like)]
  | .addColumns columns => [("columns", .arr (columns.map Column.toJson))]
  | .dropTable ifExists => [("if_exists", .bool ifExists)]
  | .createIndex index =>
    [("name", Json.ofOption .str index.name), ("columns", Json.ofStrings index.columns),
     ("method", index.method.toJson), ("unique", .bool index.unique),
     ("predicate", Json.ofOption Condition.toJson index.predicate)]
  | .dropIndex name => [("name", .str name)]
  | .dropUnique name => [("name", .str name)]
  | .createView view =>
    [("name", .str view.name), ("select", .str view.select),
     ("materialize", .bool view.materialize)]
  | .dropView name materialized => [("name", .str name), ("materialized", .bool materialized)]
  | .createTrigger trigger =>
    [("name", .str trigger.name), ("timing", trigger.timing.toJson),
     ("events", .arr (trigger.events.map TriggerEvent.toJson)), ("table", .str trigger.table),
     ("level", trigger.level.toJson), ("routine", trigger.routine.toJson),
     ("function", .str trigger.function),
     ("arguments", .arr (trigger.arguments.map Literal.toJson))]
  | .dropTrigger name => [("name", .str name)]
  | .attachPartition partition bounds =>
    [("partition", .str partition), ("bounds", bounds.toJson)]
  | .detachPartition partition => [("partition", .str partition)]

def toJson (command : Command) : Json := .obj (("command", .str command.kind) :: command.members)

def columns? : Json → Option (List Column) := Json.list? (Column.ofJson? .inside)

/-- Reads a command of the given kind from its other members. -/
def ofMembers? (kind : String) (members : List (String × Json)) : Option Command :=
  match kind with
  | "create_table" => do
    let columns ← Json.defaulted "columns" [] columns? members
    let ifNotExists ← Json.defaulted "if_not_exists" false Json.bool? members
    let like ← Json.optional "like" LikeClause.ofJson? members
    return .createTable { columns, ifNotExists, like }
  | "add_columns" => do
    let columns ← Json.required "columns" columns? members
    return .addColumns columns
  | "drop_table" => do
    let ifExists ← Json.defaulted "if_exists" false Json.bool? members
    return .dropTable ifExists
  | "create_index" => do
    let name ← Json.optional "name" Json.str? members
    let columns ← Json.required "columns" Json.strings? members
    let method ← Json.defaulted "method" .btree (IndexMethod.ofJson? .inside) members
    let unique ← Json.defaulted "unique" false Json.bool? members
    let predicate ← Json.optional "predicate" Condition.ofJson? members
    return .createIndex { name, columns, method, unique, predicate }
  | "drop_index" => do
    let name ← Json.required "name" Json.str? members
    return .dropIndex name
  | "drop_unique" => do
    let name ← Json.required "name" Json.str? members
    return .dropUnique name
  | "create_view" => do
    let name ← Json.required "name" Json.str? members
    let select ← Json.required "select" Json.str? members
    let materialize ← Json.defaulted "materialize" false Json.bool? members
    return .createView { name, select, materialize }
  | "drop_view" => do
    let name ← Json.required "name" Json.str? members
    let materialized ← Json.defaulted "materialized" false Json.bool? members
    return .dropView name materialized
  | "create_trigger" => do
    let name ← Json.required "name" Json.str? members
    let timing ← Json.required "timing" (TriggerTiming.ofJson? .inside) members
    let events ← Json.required "events" (Json.list? (TriggerEvent.ofJson? .inside)) members
    let table ← Json.required "table" Json.str? members
    let level ← Json.defaulted "level" .row TriggerLevel.ofJson? members
    let routine ← Json.defaulted "routine" .function RoutineKind.ofJson? members
    let function ← Json.required "function" Json.str? members
    let arguments ← Json.defaulted "arguments" [] (PartitionBounds.literals? .inside) members
    return .createTrigger { name, timing, events, table, level, routine, function, arguments }
  | "drop_trigger" => do
    let name ← Json.required "name" Json.str? members
    return .dropTrigger name
  | "attach_partition" => do
    let partition ← Json.required "partition" Json.str? members
    let bounds ← Json.required "bounds" (PartitionBounds.ofJson? .inside) members
    return .attachPartition partition bounds
  | "detach_partition" => do
    let partition ← Json.required "partition" Json.str? members
    return .detachPartition partition
  | _ => none

def ofJson? (json : Json) : Option Command := do
  let members ← json.members?
  let kind ← Json.required "command" Json.str? members
  ofMembers? kind members

end Command

namespace Blueprint

def toJson (b : Blueprint) : Json :=
  .obj [("table", .str b.table), ("commands", .arr (b.commands.map Command.toJson))]

def ofJson? (json : Json) : Option Blueprint := do
  let members ← json.members?
  let table ← Json.required "table" Json.str? members
  let commands ← Json.defaulted "commands" [] (Json.list? Command.ofJson?) members
  return { table, commands }

end Blueprint

end SchemaDraft
