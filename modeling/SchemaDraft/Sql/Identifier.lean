import SchemaDraft.Sql.Keyword
import SchemaDraft.Sql.Quoted

/-!
PostgreSQL identifiers. A name may be qualified by dots, and a part of it that is already delimited
by double quotes is kept as it is. Any other part is delimited unless it can stand bare: lower-case
letters, digits, underscores and dollar signs, and no reserved word.
-/

namespace SchemaDraft.Sql

/-- Puts a character in front of the first part. -/
def prependToFirst (c : Char) : List (List Char) → List (List Char)
  | [] => [[c]]
  | part :: rest => (c :: part) :: rest

/-- Cuts a name at the dots outside double quotes. `quoted` says whether an odd number of double
quotes stands before the text. -/
def splitParts (quoted : Bool) : List Char → List (List Char)
  | [] => [[]]
  | c :: rest =>
    if c = '.' && !quoted then [] :: splitParts quoted rest
    else prependToFirst c (splitParts (quoted != (c == '"')) rest)

def isBareStart (c : Char) : Bool := ('a' ≤ c && c ≤ 'z') || c = '_'

def isBareRest (c : Char) : Bool := isBareStart c || ('0' ≤ c && c ≤ '9') || c = '$'

/-- Whether a part can stand without quotes, reserved words aside. -/
def isBare : List Char → Bool
  | [] => false
  | c :: rest => isBareStart c && rest.all isBareRest

/-- One part as it is spelled in a statement. -/
def spellPart (part : List Char) : List Char :=
  if (quotedContent? '"' part).isSome then part
  else if isBare part && !isReserved part then part
  else quotedWith '"' part

/-- A name as it is spelled in a statement, part by part. -/
def spellName (name : List Char) : List Char :=
  ['.'].intercalate ((splitParts false name).map spellPart)

def quoteIdentifier (name : String) : String := String.ofList (spellName name.toList)

theorem splitParts_ne_nil (quoted : Bool) (name : List Char) : splitParts quoted name ≠ [] := by
  cases name with
  | nil => simp [splitParts]
  | cons c rest =>
    rw [splitParts]
    split
    · simp
    · cases splitParts (quoted != (c == '"')) rest <;> simp [prependToFirst]

end SchemaDraft.Sql
