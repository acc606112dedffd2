import SchemaDraft.Blueprint.Basic

/-!
Building blueprints step by step. New columns go to the first command that carries columns; where
there is none, a command that adds them is put in front of all others, so that they exist before
anything refers to them. An option of the table turns that first command into one that creates the
table, in its place and with its columns. All other commands are appended.
-/

namespace SchemaDraft

/-- The commands with the column at the end of the first list of columns among them, if there is
one. -/
def appendToFirst? (column : Column) : List Command → Option (List Command)
  | [] => none
  | .createTable definition :: rest =>
    some (.createTable { definition with columns := definition.columns ++ [column] } :: rest)
  | .addColumns columns :: rest => some (.addColumns (columns ++ [column]) :: rest)
  | command :: rest => (appendToFirst? column rest).map (command :: ·)

/-- The commands with the first of them that carries columns turned into an edited table
definition, if there is one. -/
def defineFirst? (edit : CreateTable → CreateTable) : List Command → Option (List Command)
  | [] => none
  | .createTable definition :: rest => some (.createTable (edit definition) :: rest)
  | .addColumns columns :: rest => some (.createTable (edit { columns }) :: rest)
  | command :: rest => (defineFirst? edit rest).map (command :: ·)

namespace Blueprint

def addColumn (b : Blueprint) (column : Column) : Blueprint :=
  match appendToFirst? column b.commands with
  | some commands => { b with commands }
  | none => { b with commands := .addColumns [column] :: b.commands }

/-- Makes the blueprint create its table, if it does not yet, and edits the definition. -/
def define (b : Blueprint) (edit : CreateTable → CreateTable) : Blueprint :=
  match defineFirst? edit b.commands with
  | some commands => { b with commands }
  | none => { b with commands := .createTable (edit {}) :: b.commands }

/-- Creates the table only if it does not exist. -/
def ifNotExists (b : Blueprint) : Blueprint := b.define ({ · with ifNotExists := true })

/-- Copies the structure of another table, in place of one given before. -/
def like (b : Blueprint) (clause : LikeClause) : Blueprint :=
  b.define ({ · with like := some clause })

def push (b : Blueprint) (command : Command) : Blueprint :=
  { b with commands := b.commands ++ [command] }

def addIndex (b : Blueprint) (index : Index) : Blueprint := b.push (.createIndex index)

/-- Creates the view that the blueprint is named after. -/
def createView (b : Blueprint) (select : String) (materialize : Bool) : Blueprint :=
  b.push (.createView { name := b.table, select, materialize })

/-- Drops the view that the blueprint is named after. -/
def dropView (b : Blueprint) (materialized : Bool) : Blueprint :=
  b.push (.dropView b.table materialized)

/-- A trigger for each row of the blueprint's table, which executes a function without
arguments. -/
def rowTrigger (b : Blueprint) (name : String) (timing : TriggerTiming) (event : TriggerEvent)
    (function : String) : Trigger :=
  { name, timing, events := [event], table := b.table, function }

end Blueprint

/-- The type of a short text, if no length is given. -/
def ColumnType.shortString : ColumnType := .string 255

/-- Timestamps are kept to the second, if no precision is given. -/
def ColumnType.wholeSeconds : ColumnType := .timestamp (some 0)

def ColumnType.wholeSecondsTz : ColumnType := .timestampTz (some 0)

end SchemaDraft
