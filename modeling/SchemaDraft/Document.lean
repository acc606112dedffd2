import SchemaDraft.Blueprint.Compile
import SchemaDraft.Blueprint.Json
import SchemaDraft.Json.Reader
import SchemaDraft.Log
import SchemaDraft.Sql.Postgres

/-!
Blueprint files. A file holds one blueprint or an array of them. A batch of files is loaded and
compiled file by file, and the first error stops it, so nothing of a batch is used unless all of it
compiles.
-/

namespace SchemaDraft

/-- Why the text of a file cannot be read. -/
inductive ReadError where
  | missing
  /-- A part of the path that should be a directory is a file. -/
  | notDirectory
  | directory
  | nameTooLong
  | notUtf8
  deriving DecidableEq

def ReadError.message : ReadError → String
  | .missing => "No such file or directory (os error 2)"
  | .notDirectory => "Not a directory (os error 20)"
  | .directory => "Is a directory (os error 21)"
  | .nameTooLong => "File name too long (os error 36)"
  | .notUtf8 => "stream did not contain valid UTF-8"

/-- What is found under a path. -/
inductive FileContent where
  | bytes (bytes : ByteArray)
  | unreadable (error : ReadError)

structure SourceFile where
  path : String
  content : FileContent

inductive DocumentError where
  | read (path : String) (error : ReadError)
  /-- The text is not JSON, or neither a blueprint nor an array of blueprints. -/
  | parse (path : String)
  | compile (path table : String) (error : CompileError)
  deriving DecidableEq

namespace DocumentError

def message : DocumentError → String
  | .read path error => "Failed to read blueprint file '" ++ path ++ "': " ++ error.message
  | .parse path => "Failed to parse blueprint file '" ++ path ++ "'"
  | .compile path table error =>
    "Blueprint '" ++ table ++ "' in '" ++ path ++ "' does not compile: " ++ error.message

/-- The message of the error that lies beneath. -/
def cause? : DocumentError → Option String
  | .read _ error => some error.message
  | .parse _ => none
  | .compile _ _ error => some error.message

end DocumentError

/-- How deep the containers of a file may nest. -/
def documentDepth : Nat := 127

/-- The blueprints of a JSON document. -/
def Blueprint.ofDocument? (json : Json) : Option (List Blueprint) :=
  match ofJson? json with
  | some blueprint => some [blueprint]
  | none => Json.list? ofJson? json

def FileContent.text : FileContent → Except ReadError String
  | .unreadable error => .error error
  | .bytes content =>
    match String.fromUTF8? content with
    | some text => .ok text
    | none => .error .notUtf8

/-- The blueprints of a file, in order. -/
def SourceFile.load (file : SourceFile) : Except DocumentError (List Blueprint) :=
  match file.content.text with
  | .error e => .error (.read file.path e)
  | .ok text =>
    match (Json.read? documentDepth text).bind Blueprint.ofDocument? with
    | some blueprints => .ok blueprints
    | none => .error (.parse file.path)

/-- The statements of a blueprint, and the file it comes from. -/
structure CompiledBlueprint where
  source : String
  table : String
  statements : List String
  deriving DecidableEq

/-- What is reported while files are compiled. -/
inductive DocumentEvent where
  | loaded (path : String) (count : Nat)
  | compile (event : CompileEvent)
  deriving DecidableEq

/-- The outcome of compiling files, and what was reported on the way. -/
structure Batch where
  result : Except DocumentError (List CompiledBlueprint)
  events : List DocumentEvent

namespace Batch

def empty : Batch := ⟨.ok [], []⟩

/-- Goes on with a second batch, unless the first one failed. -/
def andThen (first second : Batch) : Batch :=
  match first.result with
  | .error e => ⟨.error e, first.events⟩
  | .ok compiled => ⟨second.result.map (compiled ++ ·), first.events ++ second.events⟩

def ofBlueprint (path : String) (b : Blueprint) : Batch :=
  let compilation := b.compilation Postgres.dialect
  ⟨match compilation.result with
    | .ok statements => .ok [⟨path, b.table, statements⟩]
    | .error e => .error (.compile path b.table e),
   compilation.events.map .compile⟩

def ofBlueprints (path : String) : List Blueprint → Batch
  | [] => empty
  | b :: rest => (ofBlueprint path b).andThen (ofBlueprints path rest)

def ofFile (file : SourceFile) : Batch :=
  match file.load with
  | .error e => ⟨.error e, []⟩
  | .ok blueprints =>
    let batch := ofBlueprints file.path blueprints
    { batch with events := .loaded file.path blueprints.length :: batch.events }

def ofFiles : List SourceFile → Batch
  | [] => empty
  | file :: rest => (ofFile file).andThen (ofFiles rest)

end Batch

/-- Loads and compiles every blueprint of every file, in order. -/
def compileFiles (files : List SourceFile) : Except DocumentError (List CompiledBlueprint) :=
  (Batch.ofFiles files).result

/-- All statements, in order. -/
def allStatements (compiled : List CompiledBlueprint) : List String :=
  compiled.flatMap CompiledBlueprint.statements

/-- A script that ends each statement with a semicolon and a line feed. -/
def renderScript (compiled : List CompiledBlueprint) : String :=
  String.join ((allStatements compiled).map (· ++ ";\n"))

def CompileEvent.logEntry : CompileEvent → LogEntry
  | .predicateRendered sql => ⟨.trace, "Compiled predicate", [⟨"predicate", sql, false⟩]⟩
  | .statementRendered table kind sql =>
    ⟨.debug, "Compiled statement",
      [⟨"table", table, false⟩, ⟨"command", kind, true⟩, ⟨"sql", sql, false⟩]⟩

def DocumentEvent.logEntry : DocumentEvent → LogEntry
  | .loaded path count =>
    ⟨.debug, "Loaded blueprints", [⟨"path", path, false⟩, ⟨"count", count.repr, false⟩]⟩
  | .compile event => event.logEntry

end SchemaDraft
