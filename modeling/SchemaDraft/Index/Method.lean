/-!
The access methods of indexes.
-/

namespace SchemaDraft

inductive IndexMethod where
  | btree
  | hash
  | gist
  | spgist
  | gin
  | brin
  deriving DecidableEq

namespace IndexMethod

def all : List IndexMethod := [.btree, .hash, .gist, .spgist, .gin, .brin]

/-- The name that stands after USING. -/
def sql : IndexMethod → String
  | .btree => "btree"
  | .hash => "hash"
  | .gist => "gist"
  | .spgist => "spgist"
  | .gin => "gin"
  | .brin => "brin"

end IndexMethod

end SchemaDraft
