import SchemaDraft.Text.LetterCase

/-!
Lower-casing of whole texts. Two letters need more than the one-to-one table: U+0130 becomes an i
followed by a combining dot, and a capital sigma becomes the final sigma when it ends a word.
-/

namespace SchemaDraft.Text

/-- Whether the nearest code point that is not case-ignorable is a cased one. -/
def casedNext (text : List Char) : Bool :=
  match text.dropWhile isCaseIgnorable with
  | [] => false
  | c :: _ => isCased c

/-- A sigma ends a word if a cased letter stands before it and none after it, case-ignorable code
points between them not counting. `before` is read from the sigma leftwards. -/
def sigmaEndsWord (before after : List Char) : Bool :=
  casedNext before && !casedNext after

def lowercaseOne (before after : List Char) (c : Char) : List Char :=
  if c = 'Σ' then [if sigmaEndsWord before after then 'ς' else 'σ']
  else if c = '\u0130' then ['i', '\u0307']
  else [simpleLowercase c]

/-- Lower-cases `text`, which stands after `before` (nearest character first). -/
def lowercaseAfter (before : List Char) : List Char → List Char
  | [] => []
  | c :: rest => lowercaseOne before rest c ++ lowercaseAfter (c :: before) rest

def lowercase (text : String) : String := String.ofList (lowercaseAfter [] text.toList)

end SchemaDraft.Text
