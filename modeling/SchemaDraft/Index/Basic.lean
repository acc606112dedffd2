import SchemaDraft.Error
import SchemaDraft.Index.Name

/-!
Indexes to be created. A unique index without a predicate is a unique constraint; with a predicate
it is a partial unique index.
-/

namespace SchemaDraft

structure Index where
  /-- The name, if it is not the conventional one. -/
  name : Option String := none
  columns : List String
  method : IndexMethod := .btree
  unique : Bool := false
  predicate : Option Condition := none
  deriving DecidableEq

namespace Index

/-- What the conventional name of the index ends in. -/
def ending (index : Index) : String :=
  if index.unique then "unique"
  else match index.method with
    | .btree => "index"
    | method => method.sql

def resolvedName (index : Index) (table : String) : String :=
  match index.name with
  | some name => name
  | none => conventionalName table index.columns index.ending

/-- What a message calls the index: its name, or else its columns. -/
def label (index : Index) : String :=
  match index.name with
  | some name => name
  | none => "(" ++ ", ".intercalate index.columns ++ ")"

def withMethod (index : Index) (method : IndexMethod) : Index := { index with method }

def named (index : Index) (name : String) : Index := { index with name := some name }

/-- Attaches the predicate of a partial index, which only a unique index without one can take. -/
def attachPredicate (index : Index) (predicate : Condition) :
    Index × Except StructureError Unit :=
  if !index.unique then (index, .error (.predicateOnNonUniqueIndex index.label))
  else if index.predicate.isSome then (index, .error (.predicateAlreadyAttached index.label))
  else ({ index with predicate := some predicate }, .ok ())

/-- Narrows the predicate to the rows that also meet a condition. -/
def andWhere (index : Index) (condition : Condition) : Index :=
  match index.predicate with
  | none => { index with predicate := some condition }
  | some predicate => { index with predicate := some (.conjunction predicate condition) }

/-- Widens the predicate to the rows that meet a condition instead. -/
def orWhere (index : Index) (condition : Condition) : Index :=
  match index.predicate with
  | none => { index with predicate := some condition }
  | some predicate => { index with predicate := some (.disjunction predicate condition) }

end Index

end SchemaDraft
