import SchemaDraft.Json.Record
import SchemaDraft.Json.Printer

/-!
The types a column can have, their names in SQL, and their form as JSON.
-/

namespace SchemaDraft

inductive ColumnType where
  /-- A counter of 32 bits that numbers the rows. -/
  | increments
  /-- A counter of 64 bits that numbers the rows. -/
  | bigIncrements
  | smallInteger
  | integer
  | bigInteger
  | string (length : UInt32)
  | text
  | boolean
  | date
  | timestamp (precision : Option UInt8)
  | timestampTz (precision : Option UInt8)
  | decimal (precision scale : UInt8)
  | uuid
  | jsonb
  | tsRange
  | tsVector
  /-- Any other type, by the name it has in SQL. -/
  | custom (name : String)
  deriving DecidableEq

namespace ColumnType

/-- A precision in parentheses, if there is one. -/
def precisionText : Option UInt8 → String
  | none => ""
  | some precision => "(" ++ precision.toNat.repr ++ ")"

def sql : ColumnType → String
  | .increments => "serial"
  | .bigIncrements => "bigserial"
  | .smallInteger => "smallint"
  | .integer => "integer"
  | .bigInteger => "bigint"
  | .string length => "varchar(" ++ length.toNat.repr ++ ")"
  | .text => "text"
  | .boolean => "boolean"
  | .date => "date"
  | .timestamp precision => "timestamp" ++ precisionText precision ++ " without time zone"
  | .timestampTz precision => "timestamp" ++ precisionText precision ++ " with time zone"
  | .decimal precision scale =>
    "decimal(" ++ precision.toNat.repr ++ ", " ++ scale.toNat.repr ++ ")"
  | .uuid => "uuid"
  | .jsonb => "jsonb"
  | .tsRange => "tsrange"
  | .tsVector => "tsvector"
  | .custom name => name

/-- The counters number the rows, and a column of their type is the primary key. -/
def isSerial : ColumnType → Bool
  | .increments | .bigIncrements => true
  | _ => false

/-- The tag of the type, which its parameters do not change. -/
def tag : ColumnType → String
  | .increments => "increments"
  | .bigIncrements => "big_increments"
  | .smallInteger => "small_integer"
  | .integer => "integer"
  | .bigInteger => "big_integer"
  | .string _ => "string"
  | .text => "text"
  | .boolean => "boolean"
  | .date => "date"
  | .timestamp _ => "timestamp"
  | .timestampTz _ => "timestamp_tz"
  | .decimal _ _ => "decimal"
  | .uuid => "uuid"
  | .jsonb => "jsonb"
  | .tsRange => "ts_range"
  | .tsVector => "ts_vector"
  | .custom _ => "custom"

def precisionJson : Option UInt8 → Json
  | none => .null
  | some precision => .int precision.toNat

def toJson (type : ColumnType) : Json :=
  let parameters : List (String × Json) := match type with
    | .string length => [("length", .int length.toNat)]
    | .timestamp precision => [("precision", precisionJson precision)]
    | .timestampTz precision => [("precision", precisionJson precision)]
    | .decimal precision scale =>
      [("precision", .int precision.toNat), ("scale", .int scale.toNat)]
    | .custom name => [("name", .str name)]
    | _ => []
  .obj (("type", .str type.tag) :: parameters)

def uint8? (json : Json) : Option UInt8 := (json.natBelow? UInt8.size).map UInt8.ofNat

def uint32? (json : Json) : Option UInt32 := (json.natBelow? UInt32.size).map UInt32.ofNat

def ofJson? (json : Json) : Option ColumnType := do
  let members ← json.members?
  match ← Json.required "type" Json.str? members with
  | "increments" => return .increments
  | "big_increments" => return .bigIncrements
  | "small_integer" => return .smallInteger
  | "integer" => return .integer
  | "big_integer" => return .bigInteger
  | "string" => return .string (← Json.required "length" uint32? members)
  | "text" => return .text
  | "boolean" => return .boolean
  | "date" => return .date
  | "timestamp" => return .timestamp (← Json.optional "precision" uint8? members)
  | "timestamp_tz" => return .timestampTz (← Json.optional "precision" uint8? members)
  | "decimal" =>
    let precision ← Json.required "precision" uint8? members
    let scale ← Json.required "scale" uint8? members
    return .decimal precision scale
  | "uuid" => return .uuid
  | "jsonb" => return .jsonb
  | "ts_range" => return .tsRange
  | "ts_vector" => return .tsVector
  | "custom" => return .custom (← Json.required "name" Json.str? members)
  | _ => none

end ColumnType

end SchemaDraft
