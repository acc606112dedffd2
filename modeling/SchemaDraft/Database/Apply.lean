import SchemaDraft.Database.Basic
import SchemaDraft.Document

/-!
Applying compiled blueprints to a database: their statements are executed in order, and the first
that is refused stops everything.
-/

namespace SchemaDraft

/-- What is reported while blueprints are applied. -/
inductive ApplyEvent where
  | applying (table source : String)
  | executing (sql : String)
  | applied (statements : Nat)
  deriving DecidableEq

def ApplyEvent.logEntry : ApplyEvent → LogEntry
  | .applying table source =>
    ⟨.info, "Applying blueprint", [⟨"table", table, false⟩, ⟨"source", source, false⟩]⟩
  | .executing sql => ⟨.debug, "Executing SQL", [⟨"sql", sql, false⟩]⟩
  | .applied statements =>
    ⟨.info, "Blueprints applied successfully", [⟨"statements", statements.repr, false⟩]⟩

/-- How far applying has come: what was executed, what was reported, the refusal, if there was one,
and the number of statements of the blueprints that are done. -/
structure Progress where
  executed : List Execution := []
  events : List ApplyEvent := []
  refusal : Option String := none
  count : Nat := 0

namespace Progress

def report (p : Progress) (event : ApplyEvent) : Progress :=
  { p with events := p.events ++ [event] }

/-- Executes one statement. -/
def execute (db : Database) (p : Progress) (sql : String) : Progress :=
  let step : Execution := { sql }
  let next := { p.report (.executing sql) with executed := p.executed ++ [step] }
  match db.answer p.executed step with
  | .ok _ => next
  | .error message => { next with refusal := some message }

/-- Executes statements until one is refused. -/
def executeAll (db : Database) (p : Progress) : List String → Progress
  | [] => p
  | sql :: rest =>
    let next := p.execute db sql
    if next.refusal.isSome then next else executeAll db next rest

/-- Applies one blueprint. -/
def applyBlueprint (db : Database) (p : Progress) (b : CompiledBlueprint) : Progress :=
  (p.report (.applying b.table b.source)).executeAll db b.statements

/-- Applies blueprints until a statement is refused, and counts the statements of each that is
done. -/
def applyBlueprints (db : Database) (p : Progress) : List CompiledBlueprint → Progress
  | [] => p
  | b :: rest =>
    let next := p.applyBlueprint db b
    if next.refusal.isSome then next
    else applyBlueprints db { next with count := next.count + b.statements.length } rest

end Progress

/-- The outcome of applying blueprints: the number of their statements, or the refusal. -/
structure Application where
  result : Except DatabaseError Nat
  executed : List Execution
  events : List ApplyEvent

/-- Applies compiled blueprints in order. -/
def applyAll (db : Database) (compiled : List CompiledBlueprint) : Application :=
  let p := Progress.applyBlueprints db {} compiled
  match p.refusal with
  | some message => ⟨.error (.refused message), p.executed, p.events⟩
  | none => ⟨.ok p.count, p.executed, (p.report (.applied p.count)).events⟩

end SchemaDraft
