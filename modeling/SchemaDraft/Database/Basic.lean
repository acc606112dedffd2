/-!
A database as far as this library sees one: it is given statements, one after another, and answers
each with rows or with an error, perhaps depending on the statements before. Of a row only the first
column is read, and what is wrong with it is an error like a refusal.
-/

namespace SchemaDraft

/-- A statement with the texts bound to its parameters. -/
structure Execution where
  sql : String
  parameters : List String := []
  deriving DecidableEq

inductive Cell where
  | null
  | number (value : Int)
  | text (value : String)
  deriving DecidableEq

/-- The types that cells are asked for. -/
inductive CellType where
  | number
  | text
  /-- A text, or NULL. -/
  | optionalText
  deriving DecidableEq

namespace CellType

/-- The name of the type in a message, among the types of values. -/
def name : CellType → String
  | .number => "i32"
  | .text => "alloc::string::String"
  | .optionalText => "core::option::Option<alloc::string::String>"

/-- The name of the type in SQL. -/
def sql : CellType → String
  | .number => "INT4"
  | .text | .optionalText => "TEXT"

end CellType

abbrev Row := List Cell

/-- Why the first column of a row cannot be read. -/
inductive RowError where
  | noColumn
  | unexpectedNull
  | mismatch (wanted found : CellType)
  deriving DecidableEq

namespace RowError

/-- What is wrong with the value in the column, if there is a column. -/
def reason? : RowError → Option String
  | .noColumn => none
  | .unexpectedNull => some "unexpected null; try decoding as an `Option`"
  | .mismatch wanted found =>
    some ("mismatched types; Rust type `" ++ wanted.name ++ "` (as SQL type `" ++ wanted.sql ++
      "`) is not compatible with SQL type `" ++ found.sql ++ "`")

def message (e : RowError) : String :=
  match e.reason? with
  | none => "column index out of bounds: the len is 0, but the index is 0"
  | some reason => "error occurred while decoding column 0: " ++ reason

end RowError

namespace Row

/-- The number in the first column. -/
def number : Row → Except RowError Int
  | [] => .error .noColumn
  | .null :: _ => .error .unexpectedNull
  | .text _ :: _ => .error (.mismatch .number .text)
  | .number n :: _ => .ok n

/-- The text in the first column. -/
def text : Row → Except RowError String
  | [] => .error .noColumn
  | .null :: _ => .error .unexpectedNull
  | .number _ :: _ => .error (.mismatch .text .number)
  | .text s :: _ => .ok s

/-- The text in the first column, which may be NULL. -/
def optionalText : Row → Except RowError (Option String)
  | [] => .error .noColumn
  | .null :: _ => .ok none
  | .number _ :: _ => .error (.mismatch .optionalText .number)
  | .text s :: _ => .ok (some s)

end Row

structure Database where
  /-- The answer to a statement after others. An error is its message. -/
  answer : (before : List Execution) → Execution → Except String (List Row)

/-- What went wrong with a database. -/
inductive DatabaseError where
  /-- The database refused a statement. -/
  | refused (message : String)
  /-- The database answered with a row that cannot be read. -/
  | row (error : RowError)
  deriving DecidableEq

namespace DatabaseError

def message : DatabaseError → String
  | .refused message => "error returned from database: " ++ message
  | .row error => error.message

/-- The error beneath. -/
def reason? : DatabaseError → Option String
  | .refused message => some message
  | .row error => error.reason?

end DatabaseError

end SchemaDraft
