import SchemaDraft.Blueprint.Faults
import SchemaDraft.Statement.Command

/-!
Compiling a blueprint: its faults are looked for first, and only a blueprint without any is
rendered, command by command. Rendering puts statements down one after the other and reports as it
goes: a predicate as soon as it has a text, the statements of a command once the whole command is
rendered. Where rendering is refused, the statements are dropped, but what was reported remains.
-/

namespace SchemaDraft

/-- What is reported while a blueprint is compiled. -/
inductive CompileEvent where
  | predicateRendered (sql : String)
  | statementRendered (table kind sql : String)
  deriving DecidableEq

/-- The outcome of compiling, and what was reported on the way. -/
structure Compilation where
  result : Except CompileError (List String)
  events : List CompileEvent

/-- The statements put down so far, and what was reported until then. -/
structure Transcript where
  statements : List String := []
  events : List CompileEvent := []

/-- A part of compiling. A refusal leaves the transcript as far as it has come. -/
abbrev Compiling := EStateM RenderError Transcript

namespace Compiling

def putDown (statements : List String) : Compiling Unit :=
  modify fun transcript => { transcript with statements := transcript.statements ++ statements }

def report (event : CompileEvent) : Compiling Unit :=
  modify fun transcript => { transcript with events := transcript.events ++ [event] }

end Compiling

open Compiling

/-- The text of a predicate, which is reported. -/
def Condition.compile (d : Dialect) (predicate : Condition) : Compiling String := do
  let text ← MonadExcept.ofExcept (predicate.render d)
  report (.predicateRendered text)
  return text

def Index.compile (d : Dialect) (table : String) (index : Index) : Compiling String := do
  let predicate ← index.predicate.mapM (Condition.compile d)
  return index.statement d table predicate

/-- Puts the statements of a command down. Where there can be several, each is put down before the
next is looked at. -/
def Command.compile (d : Dialect) (table : String) : Command → Compiling Unit
  | .createTable definition => do
    let sql ← MonadExcept.ofExcept (definition.render d table)
    putDown [sql]
    let comments ← MonadExcept.ofExcept (Column.renderComments d table definition.columns)
    putDown comments
  | .addColumns columns => do
    let addition ← MonadExcept.ofExcept (Column.renderAdditions? d table columns)
    putDown addition.toList
    let comments ← MonadExcept.ofExcept (Column.renderComments d table columns)
    putDown comments
  | .createIndex index => do
    let sql ← index.compile d table
    putDown [sql]
  | command => do
    let rendering ← MonadExcept.ofExcept (command.render d table)
    putDown rendering.statements

namespace Blueprint

/-- Puts the statements of a command down, and then reports every one of them. -/
def compileCommand (d : Dialect) (table : String) (command : Command) : Compiling Unit := do
  let before ← get
  command.compile d table
  let after ← get
  (after.statements.drop before.statements.length).forM fun sql =>
    report (.statementRendered table command.kind sql)

/-- Renders commands in order, up to the first that has no text. -/
def renderCommands (d : Dialect) (table : String) (commands : List Command) : Compilation :=
  match (commands.forM (compileCommand d table)).run {} with
  | .ok _ transcript => ⟨.ok transcript.statements, transcript.events⟩
  | .error e transcript => ⟨.error (.render e), transcript.events⟩

/-- The statements of a blueprint in a dialect, or why there are none, with the events on the
way. -/
def compilation (d : Dialect) (b : Blueprint) : Compilation :=
  match b.faults with
  | fault :: _ => ⟨.error (.structure fault), []⟩
  | [] => renderCommands d b.table b.resolvedCommands

/-- The statements of a blueprint in a dialect, or why there are none. -/
def compile (d : Dialect) (b : Blueprint) : Except CompileError (List String) :=
  (b.compilation d).result

end Blueprint

end SchemaDraft
