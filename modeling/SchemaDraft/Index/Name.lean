import SchemaDraft.Text.Lowercase

/-!
The conventional name of an index: table, columns and kind of index joined by underscores, in lower
case, with hyphens and dots turned into underscores.
-/

namespace SchemaDraft.Index

def underscoreFor (c : Char) : Char := if c = '-' || c = '.' then '_' else c

def conventionalName (table : String) (columns : List String) (ending : String) : String :=
  let joined := table ++ "_" ++ "_".intercalate columns ++ "_" ++ ending
  String.ofList ((Text.lowercase joined).toList.map underscoreFor)

end SchemaDraft.Index
