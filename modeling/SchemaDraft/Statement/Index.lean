import SchemaDraft.Statement.Table

/-!
The statements that create indexes.
-/

namespace SchemaDraft.Index

/-- The statement of an index, given the text of its predicate. A unique index without a predicate
is a constraint of the table. -/
def statement (d : Dialect) (table : String) (index : Index) (predicate : Option String) : String :=
  let name := d.quoteIdentifier (index.resolvedName table)
  let columns := d.quoteAll index.columns
  let head := "INDEX " ++ name ++ " ON " ++ d.quoteIdentifier table ++ " USING " ++
    index.method.sql ++ " (" ++ columns ++ ")"
  match predicate with
  | none =>
    if index.unique then
      "ALTER TABLE " ++ d.quoteIdentifier table ++ " ADD CONSTRAINT " ++ name ++
        " UNIQUE (" ++ columns ++ ")"
    else "CREATE " ++ head
  | some text =>
    "CREATE " ++ (if index.unique then "UNIQUE " else "") ++ head ++ " WHERE (" ++ text ++ ")"

/-- The statement of an index together with the text of its predicate, if it has one. -/
def render (d : Dialect) (table : String) (index : Index) :
    Except RenderError (String × Option String) :=
  match index.predicate with
  | none => return (index.statement d table none, none)
  | some predicate => do
    let text ← predicate.render d
    return (index.statement d table (some text), some text)

end SchemaDraft.Index
