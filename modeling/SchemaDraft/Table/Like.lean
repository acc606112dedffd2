/-!
The LIKE clause of a table definition, which copies the structure of another table.
-/

namespace SchemaDraft

/-- What a LIKE clause can copy besides names and types. -/
inductive LikeFeature where
  | comments
  | compression
  | constraints
  | defaults
  | generated
  | identity
  | indexes
  | statistics
  | storage
  deriving DecidableEq

namespace LikeFeature

def all : List LikeFeature :=
  [.comments, .compression, .constraints, .defaults, .generated, .identity, .indexes, .statistics,
   .storage]

def sql : LikeFeature → String
  | .comments => "COMMENTS"
  | .compression => "COMPRESSION"
  | .constraints => "CONSTRAINTS"
  | .defaults => "DEFAULTS"
  | .generated => "GENERATED"
  | .identity => "IDENTITY"
  | .indexes => "INDEXES"
  | .statistics => "STATISTICS"
  | .storage => "STORAGE"

/-- The name of the feature in a file. -/
def tag : LikeFeature → String
  | .comments => "comments"
  | .compression => "compression"
  | .constraints => "constraints"
  | .defaults => "defaults"
  | .generated => "generated"
  | .identity => "identity"
  | .indexes => "indexes"
  | .statistics => "statistics"
  | .storage => "storage"

end LikeFeature

/-- One feature that is copied, or that is not. -/
structure LikeOption where
  including : Bool
  feature : LikeFeature
  deriving DecidableEq

inductive LikeOptions where
  | plain
  | includingAll
  | selected (options : List LikeOption)
  deriving DecidableEq

structure LikeClause where
  source : String
  options : LikeOptions := .plain
  deriving DecidableEq

namespace LikeClause

/-- Copies every feature, whatever was chosen before. -/
def includeAll (clause : LikeClause) : LikeClause := { clause with options := .includingAll }

/-- Adds one choice to those made before. A clause that copied every feature starts anew. -/
def select (clause : LikeClause) (option : LikeOption) : LikeClause :=
  match clause.options with
  | .selected options => { clause with options := .selected (options ++ [option]) }
  | _ => { clause with options := .selected [option] }

def including (clause : LikeClause) (feature : LikeFeature) : LikeClause :=
  clause.select ⟨true, feature⟩

def excluding (clause : LikeClause) (feature : LikeFeature) : LikeClause :=
  clause.select ⟨false, feature⟩

end LikeClause

end SchemaDraft
