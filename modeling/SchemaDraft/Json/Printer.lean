import SchemaDraft.Json.Value
import SchemaDraft.Number.Shortest

/-!
The compact text of a JSON value: no blanks, members in their order, and in strings only those
characters escaped that must be.
-/

namespace SchemaDraft.Json

/-- Numbers have a point where they are written positionally, which they are from 1e-5 up to 1e16;
of two equally near decimals the one with the even last digit is taken. -/
def numberLayout : NumberLayout := ⟨.even, some (-5), some 15⟩

/-- A number that is not finite has no JSON text and is written as null. -/
def floatText : Binary64 → String
  | .finite negative rank => numberLayout.write negative rank
  | _ => "null"

def hexDigit (n : Nat) : Char := Nat.digitChar (n % 16)

/-- A character inside a string. -/
def escapeChar (c : Char) : List Char :=
  if c = '"' then ['\\', '"']
  else if c = '\\' then ['\\', '\\']
  else if c = '\n' then ['\\', 'n']
  else if c = '\r' then ['\\', 'r']
  else if c = '\t' then ['\\', 't']
  else if c = '\x08' then ['\\', 'b']
  else if c = '\x0c' then ['\\', 'f']
  else if c.toNat < 0x20 then ['\\', 'u', '0', '0', hexDigit (c.toNat / 16), hexDigit c.toNat]
  else [c]

def quote (text : String) : String :=
  String.ofList ('"' :: text.toList.flatMap escapeChar ++ ['"'])

mutual

def print : Json → String
  | .null => "null"
  | .bool true => "true"
  | .bool false => "false"
  | .int n => n.repr
  | .float x => floatText x
  | .str s => quote s
  | .arr items => "[" ++ ",".intercalate (printItems items) ++ "]"
  | .obj members => "\x7b" ++ ",".intercalate (printMembers members) ++ "\x7d"

def printItems : List Json → List String
  | [] => []
  | item :: rest => print item :: printItems rest

def printMembers : List (String × Json) → List String
  | [] => []
  | (name, value) :: rest => (quote name ++ ":" ++ print value) :: printMembers rest

end

end SchemaDraft.Json
