import SchemaDraft.Number.Binary

/-!
JSON values. An object keeps its members in order, a name that occurs twice included, because the
records read from it refuse a repeated name.
-/

namespace SchemaDraft

inductive Json where
  | null
  | bool (value : Bool)
  | int (value : Int)
  | float (value : Binary64)
  | str (value : String)
  | arr (items : List Json)
  | obj (members : List (String × Json))

end SchemaDraft
