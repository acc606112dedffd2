import SchemaDraft.Literal.Basic
import SchemaDraft.Json.Record

/-!
Literals as JSON: an object with the kind as `type` and the content as `value`.
-/

namespace SchemaDraft.Literal

def toJson (literal : Literal) : Json :=
  let content : List (String × Json) := match literal with
    | .null => []
    | .boolean b => [("value", .bool b)]
    | .integer n => [("value", .int n.toInt)]
    | .float x => [("value", .float x)]
    | .text s => [("value", .str s)]
    | .date d => [("value", .str d.text)]
    | .timestamp t => [("value", .str (t.textWith 'T'))]
  .obj (("type", .str literal.kind) :: content)

/-- Any JSON number, an integer rounded to the nearest double. -/
def float? : Json → Option Binary64
  | .float x => some x
  | .int n => some (.ofQuotient (n < 0) n.natAbs 1)
  | _ => none

/-- Reads the content of a literal of the given kind. -/
def ofContent? (kind : String) (content : Json) : Option Literal :=
  match kind with
  | "boolean" => content.bool?.map .boolean
  | "integer" => (content.int? >>= integer?).map .integer
  | "float" => (float? content).map .float
  | "text" => content.str?.map .text
  | "date" => (content.str? >>= Date.ofText?).map .date
  | "timestamp" => (content.str? >>= Timestamp.ofTextWith? 'T').map .timestamp
  | _ => none

/-- A null literal may leave its content out or write it as null. -/
def ofJson? (place : Json.Place) (json : Json) : Option Literal := do
  let members ← json.members?
  let kind ← Json.required "type" (Json.named? place some) members
  match kind, ← Json.member? "value" members with
  | "null", none => some .null
  | "null", some .null => some .null
  | kind, some content => ofContent? kind content
  | _, none => none

end SchemaDraft.Literal
