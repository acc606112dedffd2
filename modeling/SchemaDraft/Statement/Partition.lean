import SchemaDraft.Statement.Table

/-!
The statements that attach partitions to a table and detach them.
-/

namespace SchemaDraft

/-- The clause that says which rows the partition of this name holds. -/
def PartitionBounds.render (d : Dialect) (partition : String) :
    PartitionBounds → Except RenderError String
  | .range lower upper => do
    let lowerText ← d.tupleAt (.partitionBounds partition) lower
    let upperText ← d.tupleAt (.partitionBounds partition) upper
    return "FOR VALUES FROM " ++ lowerText ++ " TO " ++ upperText
  | .list values => do
    let text ← d.tupleAt (.partitionBounds partition) values
    return "FOR VALUES IN " ++ text
  | .hash modulus remainder =>
    return "FOR VALUES WITH (MODULUS " ++ modulus.toNat.repr ++ ", REMAINDER " ++
      remainder.toNat.repr ++ ")"
  | .rest => return "DEFAULT"
  | .raw clause => return clause

def renderAttachment (d : Dialect) (table partition : String) (bounds : PartitionBounds) :
    Except RenderError String := do
  let text ← bounds.render d partition
  return "ALTER TABLE " ++ d.quoteIdentifier table ++ " ATTACH PARTITION " ++
    d.quoteIdentifier partition ++ " " ++ text

end SchemaDraft
