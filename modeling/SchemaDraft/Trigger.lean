import SchemaDraft.Literal.Basic

/-!
Triggers to be created.
-/

namespace SchemaDraft

/-- When a trigger fires. -/
inductive TriggerTiming where
  | before
  | after
  /-- In place of the event, which only views allow. -/
  | insteadOf
  deriving DecidableEq

namespace TriggerTiming

def all : List TriggerTiming := [.before, .after, .insteadOf]

def sql : TriggerTiming → String
  | .before => "BEFORE"
  | .after => "AFTER"
  | .insteadOf => "INSTEAD OF"

def tag : TriggerTiming → String
  | .before => "before"
  | .after => "after"
  | .insteadOf => "instead_of"

end TriggerTiming

/-- What fires a trigger. -/
inductive TriggerEvent where
  | insert
  | update
  /-- An update of one of the columns. -/
  | updateOf (columns : List String)
  | delete
  | truncate
  deriving DecidableEq

/-- Whether a trigger fires for each row or for each statement. -/
inductive TriggerLevel where
  | row
  | statement
  deriving DecidableEq

namespace TriggerLevel

def all : List TriggerLevel := [.row, .statement]

def sql : TriggerLevel → String
  | .row => "ROW"
  | .statement => "STATEMENT"

def tag : TriggerLevel → String
  | .row => "row"
  | .statement => "statement"

end TriggerLevel

/-- What kind of routine a trigger executes. -/
inductive RoutineKind where
  | function
  | procedure
  deriving DecidableEq

namespace RoutineKind

def all : List RoutineKind := [.function, .procedure]

def sql : RoutineKind → String
  | .function => "FUNCTION"
  | .procedure => "PROCEDURE"

def tag : RoutineKind → String
  | .function => "function"
  | .procedure => "procedure"

end RoutineKind

structure Trigger where
  name : String
  timing : TriggerTiming
  /-- Any one of these fires the trigger. -/
  events : List TriggerEvent
  table : String
  level : TriggerLevel := .row
  routine : RoutineKind := .function
  function : String
  arguments : List Literal := []
  deriving DecidableEq

namespace Trigger

/-- Adds an event that fires the trigger. -/
def on (trigger : Trigger) (event : TriggerEvent) : Trigger :=
  { trigger with events := trigger.events ++ [event] }

def forEachStatement (trigger : Trigger) : Trigger := { trigger with level := .statement }

/-- Chooses what the trigger executes. -/
def execute (trigger : Trigger) (routine : RoutineKind) (name : String)
    (arguments : List Literal) : Trigger :=
  { trigger with routine, function := name, arguments }

end Trigger

end SchemaDraft
