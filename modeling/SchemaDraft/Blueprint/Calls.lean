import SchemaDraft.Blueprint.Builder

/-!
Calls that build a blueprint, as data: each is one call on the blueprint, with the calls that follow
on the column, index, trigger or LIKE clause it makes. A run is a list of them. Some calls have
something to report, which is noted beside the blueprint.
-/

namespace SchemaDraft

/-- What a call reports. -/
inductive Note where
  | declared (found : Bool)
  | attached
  | refused (error : StructureError)
  | resolved (name : String)
  deriving DecidableEq

/-- What an attempt to attach a predicate reports. -/
def Note.ofAttempt : Except StructureError Unit → Note
  | .ok _ => .attached
  | .error e => .refused e

inductive ColumnCall where
  | allowNull
  | makePrimary
  | setDefault (value : Literal)
  | setDefaultExpression (sql : String)
  | comment (text : String)
  | index (index : InlineIndex)

def ColumnCall.apply (column : Column) : ColumnCall → Column
  | .allowNull => column.allowNull
  | .makePrimary => column.makePrimary
  | .setDefault value => column.withDefault value
  | .setDefaultExpression sql => column.withDefaultExpression sql
  | .comment text => column.withComment text
  | .index declared => column.withIndex declared

inductive LikeCall where
  | includeAll
  | including (feature : LikeFeature)
  | excluding (feature : LikeFeature)

def LikeCall.apply (clause : LikeClause) : LikeCall → LikeClause
  | .includeAll => clause.includeAll
  | .including feature => clause.including feature
  | .excluding feature => clause.excluding feature

/-- A call on an index. The last two write a field of it, whatever it holds. -/
inductive IndexCall where
  | using (method : IndexMethod)
  | named (name : String)
  | attachPredicate (predicate : Condition)
  | resolvedName (table : String)
  | writePredicate (predicate : Option Condition)
  | writeUnique (unique : Bool)

namespace IndexCall

def apply (index : Index) : IndexCall → Index × List Note
  | .using method => (index.withMethod method, [])
  | .named name => (index.named name, [])
  | .attachPredicate predicate =>
    let (index, result) := index.attachPredicate predicate
    (index, [.ofAttempt result])
  | .resolvedName table => (index, [.resolved (index.resolvedName table)])
  | .writePredicate predicate => ({ index with predicate }, [])
  | .writeUnique unique => ({ index with unique }, [])

/-- Calls on one index, in order, with all that they report. -/
def applyAll (index : Index) : List IndexCall → Index × List Note
  | [] => (index, [])
  | call :: rest =>
    let (index, notes) := call.apply index
    let (index, later) := applyAll index rest
    (index, notes ++ later)

end IndexCall

/-- A call on a partial unique index. -/
inductive PartialIndexCall where
  | named (name : String)
  | andWhere (condition : Condition)
  | orWhere (condition : Condition)

def PartialIndexCall.apply (index : Index) : PartialIndexCall → Index
  | .named name => index.named name
  | .andWhere condition => index.andWhere condition
  | .orWhere condition => index.orWhere condition

/-- A call on a trigger. The last two write a field of it. -/
inductive TriggerCall where
  | on (event : TriggerEvent)
  | forEachStatement
  | execute (routine : RoutineKind) (name : String) (arguments : List Literal)
  | writeEvents (events : List TriggerEvent)
  | writeTable (table : String)

def TriggerCall.apply (trigger : Trigger) : TriggerCall → Trigger
  | .on event => trigger.on event
  | .forEachStatement => trigger.forEachStatement
  | .execute routine name arguments => trigger.execute routine name arguments
  | .writeEvents events => { trigger with events }
  | .writeTable table => { trigger with table }

inductive Call where
  | addColumn (name : String) (type : ColumnType) (calls : List ColumnCall)
  | ifNotExists
  | like (source : String) (calls : List LikeCall)
  | index (columns : List String) (method : IndexMethod) (calls : List IndexCall)
  | unique (columns : List String) (calls : List IndexCall)
  | uniquePartial (columns : List String) (calls : List PartialIndexCall)
  | hasIndex (columns : List String) (unique : Bool)
  | createTrigger (name : String) (timing : TriggerTiming) (event : TriggerEvent)
      (function : String) (calls : List TriggerCall)
  | createView (select : String) (materialize : Bool)
  | dropTable (ifExists : Bool)
  | dropIndex (name : String)
  | dropUnique (name : String)
  | dropView (materialized : Bool)
  | dropTrigger (name : String)
  | attachPartition (partition : String) (bounds : PartitionBounds)
  | detachPartition (partition : String)
  /-- Appends any command whatever. -/
  | push (command : Command)

namespace Call

/-- Adds the column that holds when a row was marked as deleted. -/
def softDeletes (calls : List ColumnCall) : Call :=
  .addColumn "deleted_at" .wholeSeconds (.allowNull :: calls)

def apply (b : Blueprint) : Call → Blueprint × List Note
  | .addColumn name type calls =>
    (b.addColumn (calls.foldl ColumnCall.apply (.of name type)), [])
  | .ifNotExists => (b.ifNotExists, [])
  | .like source calls => (b.like (calls.foldl LikeCall.apply { source }), [])
  | .index columns method calls =>
    let (made, notes) := IndexCall.applyAll { columns, method } calls
    (b.addIndex made, notes)
  | .unique columns calls =>
    let (made, notes) := IndexCall.applyAll { columns, unique := true } calls
    (b.addIndex made, notes)
  | .uniquePartial columns calls =>
    (b.addIndex (calls.foldl PartialIndexCall.apply { columns, unique := true }), [])
  | .hasIndex columns onlyUnique => (b, [.declared (b.hasIndex columns onlyUnique)])
  | .createTrigger name timing event function calls =>
    let trigger := calls.foldl TriggerCall.apply (b.rowTrigger name timing event function)
    (b.push (.createTrigger trigger), [])
  | .createView select materialize => (b.createView select materialize, [])
  | .dropTable ifExists => (b.push (.dropTable ifExists), [])
  | .dropIndex name => (b.push (.dropIndex name), [])
  | .dropUnique name => (b.push (.dropUnique name), [])
  | .dropView materialized => (b.dropView materialized, [])
  | .dropTrigger name => (b.push (.dropTrigger name), [])
  | .attachPartition partition bounds => (b.push (.attachPartition partition bounds), [])
  | .detachPartition partition => (b.push (.detachPartition partition), [])
  | .push command => (b.push command, [])

end Call

/-- The blueprint after a run of calls. -/
def Blueprint.run (b : Blueprint) (calls : List Call) : Blueprint :=
  calls.foldl (fun b call => (call.apply b).1) b

end SchemaDraft
