import SchemaDraft.Json.Value

/-!
Reading records from JSON objects. Members with other names are passed over, a name that the record
knows may occur only once, and `null` stands for nothing but the absence of an optional value.

A choice among named variants is written as a name, or as an object that gives the name a content.
A variant without content may be written as such an object too, and what then stands for the missing
content depends on where the choice stands: inside a command or a condition it is null or an object
without members, anywhere else only null.
-/

namespace SchemaDraft.Json

/-- The member with this name; `none` if it occurs more than once, `some none` if it does not
occur. -/
def member? (name : String) : List (String × Json) → Option (Option Json)
  | [] => some none
  | (key, value) :: rest =>
    if key = name then
      match member? name rest with
      | some none => some (some value)
      | _ => none
    else member? name rest

/-- A member that has to be there. -/
def required (name : String) (read : Json → Option α) (members : List (String × Json)) :
    Option α :=
  match member? name members with
  | some (some value) => read value
  | _ => none

/-- A member that may be left out in favour of `absent`, but not be null. -/
def defaulted (name : String) (absent : α) (read : Json → Option α)
    (members : List (String × Json)) : Option α :=
  match member? name members with
  | some (some value) => read value
  | some none => some absent
  | none => none

/-- A member that may be left out or null. -/
def optional (name : String) (read : Json → Option α) (members : List (String × Json)) :
    Option (Option α) :=
  match member? name members with
  | some (some .null) => some none
  | some (some value) => (read value).map some
  | some none => some none
  | none => none

/-- The members of an object. Records are read from objects only: that the values of the fields
may also stand in an array, in the order of the fields, is left out here. -/
def members? : Json → Option (List (String × Json))
  | .obj members => some members
  | _ => none

def str? : Json → Option String
  | .str s => some s
  | _ => none

def bool? : Json → Option Bool
  | .bool b => some b
  | _ => none

def int? : Json → Option Int
  | .int n => some n
  | _ => none

/-- A natural number below `bound`. -/
def natBelow? (bound : Nat) (json : Json) : Option Nat := do
  let n ← json.int?
  if 0 ≤ n ∧ n < bound then some n.toNat else none

/-- Reads every item of an array. -/
def list? (read : Json → Option α) : Json → Option (List α)
  | .arr items => items.mapM read
  | _ => none

def strings? : Json → Option (List String) := list? str?

/-- Where a value stands: by itself, or inside a command or a condition. -/
inductive Place where
  | alone
  | inside

/-- Whether a value stands for the content of a variant that has none. -/
def Place.isNoContent : Place → Json → Bool
  | _, .null => true
  | .inside, .obj [] => true
  | _, _ => false

/-- Reads a choice among named variants: a bare name, or an object whose only member is the name of
the variant with its content. -/
def variant? (place : Place) (bare : String → Option α)
    (withContent : String → Json → Option α) : Json → Option α
  | .str name => bare name
  | .obj [(name, content)] =>
    match bare name with
    | some a => if place.isNoContent content then some a else none
    | none => withContent name content
  | _ => none

/-- Reads a choice among variants none of which has content. -/
def named? (place : Place) (bare : String → Option α) : Json → Option α :=
  variant? place bare fun _ _ => none

/-- The variant among `all` that has this name. -/
def byName? (nameOf : α → String) (all : List α) (name : String) : Option α :=
  all.find? (nameOf · == name)

end SchemaDraft.Json
