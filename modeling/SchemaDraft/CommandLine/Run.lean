import SchemaDraft.CommandLine.Help
import SchemaDraft.Connection.Parameters
import SchemaDraft.Database.Apply
import SchemaDraft.Database.Catalog

/-!
What the command line does with its arguments: what it writes, what it has a database execute, and
the status it ends with. All files are compiled before a connection is made.
-/

namespace SchemaDraft.CommandLine

/-- What the commands find around them. -/
structure Surroundings where
  /-- What is found under each path. -/
  file : String → FileContent
  /-- The connection string that holds if no other is given. -/
  defaultUrl : Option String
  /-- The database behind a connection string, if it can be reached. -/
  database : String → Option Database

inductive Failure where
  | usage
  | document (error : DocumentError)
  | noDatabase
  | connection (error : ConnectionError)
  | database (error : DatabaseError)
  deriving DecidableEq

namespace Failure

def status : Failure → Nat
  | .usage => 2
  | _ => 1

def message : Failure → String
  | .usage =>
    "usage: [--database-url URL] [--verbose] compile FILES | apply [--dry-run] FILES | " ++
      "show-index NAME"
  | .document error => error.message
  | .noDatabase => "No database configured; pass --database-url or set DATABASE_URL"
  | .connection error => "Database error: " ++ error.message
  | .database error => "Database error: " ++ error.message

/-- The errors beneath, the nearest one first. -/
def causes : Failure → List String
  | .document error => error.cause?.toList
  | .connection error => error.message :: error.reasons
  | .database error => error.message :: error.reason?.toList
  | _ => []

/-- A cause below its heading: a number in front of it where there are several, and its further
lines as far to the right as its first. -/
def causeText (number : Option Nat) (cause : String) : String :=
  let (lead, margin) := match number with
    | some n => (String.ofList (List.replicate (5 - n.repr.length) ' ') ++ n.repr ++ ": ", "       ")
    | none => ("    ", "    ")
  "\n" ++ lead ++
    String.ofList (cause.toList.flatMap fun c => if c = '\n' then c :: margin.toList else [c])

def causesText : List String → String
  | [] => ""
  | [cause] => "\n\nCaused by:" ++ causeText none cause
  | causes =>
    "\n\nCaused by:" ++ String.join (causes.zipIdx.map fun (cause, n) => causeText (some n) cause)

/-- What is written to standard error. -/
def report (failure : Failure) : String :=
  match failure with
  | .usage => failure.message ++ "\n"
  | _ => "Error: " ++ failure.message ++ causesText failure.causes ++ "\n"

end Failure

/-- What a run of the command line comes to. -/
structure Outcome where
  output : String := ""
  executed : List Execution := []
  failure : Option Failure := none

namespace Outcome

def status (o : Outcome) : Nat := (o.failure.map Failure.status).getD 0

/-- Puts text in front of the output. -/
def after (o : Outcome) (text : String) : Outcome := { o with output := text ++ o.output }

def failed (failure : Failure) : Outcome := { failure := some failure }

end Outcome

def leastLevel (options : Options) : LogLevel := if options.verbose then .debug else .info

/-- Connects to the database that the options or the surroundings name, and goes on with it. The
warnings about the connection string come before the rest of the output. -/
def withDatabase (s : Surroundings) (options : Options) (go : Database → Outcome) : Outcome :=
  match options.databaseUrl.or s.defaultUrl with
  | none => .failed .noDatabase
  | some url =>
    let check := Connection.check url
    let outcome : Outcome := match check.error with
      | some e => .failed (.connection e)
      | none =>
        match s.database url with
        | some db => go db
        | none => .failed (.connection .unreachable)
    outcome.after (LogEntry.lines (leastLevel options) check.warnings)

/-- Compiles files and goes on with what they compile to. The log comes before the rest of the
output. -/
def withFiles (s : Surroundings) (options : Options) (paths : List String)
    (go : List CompiledBlueprint → Outcome) : Outcome :=
  let batch := Batch.ofFiles (paths.map fun path => ⟨path, s.file path⟩)
  let outcome : Outcome := match batch.result with
    | .error e => .failed (.document e)
    | .ok compiled => go compiled
  outcome.after (LogEntry.lines (leastLevel options) (batch.events.map DocumentEvent.logEntry))

def dryRunEntry : LogEntry :=
  { level := .info, message := "Dry run mode - SQL will be printed but not executed." }

/-- Applies compiled blueprints to the database of the options. -/
def applyCompiled (s : Surroundings) (options : Options) (compiled : List CompiledBlueprint) :
    Outcome :=
  withDatabase s options fun db =>
    let application := applyAll db compiled
    { output := LogEntry.lines (leastLevel options)
        (application.events.map ApplyEvent.logEntry)
      executed := application.executed
      failure := match application.result with
        | .ok _ => none
        | .error e => some (.database e) }

def showIndex (s : Surroundings) (options : Options) (name : String) : Outcome :=
  withDatabase s options fun db =>
    let query := CatalogQuery.indexDefinition name
    let outcome : Outcome := match query.ask db with
      | .ok (.text (some definition)) => { output := definition ++ "\n" }
      | .ok _ => { output := LogEntry.line ⟨.info, "Index not found", [⟨"index", name, false⟩]⟩ }
      | .error e => .failed (.database e)
    { outcome with executed := [query.execution] }

def perform (s : Surroundings) (invocation : Invocation) : Outcome :=
  let options := invocation.options
  match invocation.request with
  | .compile paths => withFiles s options paths fun compiled => { output := renderScript compiled }
  | .apply paths true =>
    withFiles s options paths fun compiled =>
      { output := LogEntry.line dryRunEntry ++ renderScript compiled }
  | .apply paths false => withFiles s options paths (applyCompiled s options)
  | .showIndex name => showIndex s options name

/-- Runs the command line with these arguments. -/
def run (s : Surroundings) (arguments : List String) : Outcome :=
  match invocation {} arguments with
  | .error .usage => .failed .usage
  | .error .version => { output := versionText }
  | .error (.help topic) => { output := topic.text s.defaultUrl }
  | .ok invocation => perform s invocation

end SchemaDraft.CommandLine
