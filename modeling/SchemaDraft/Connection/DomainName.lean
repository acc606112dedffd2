import SchemaDraft.Connection.DomainMapping
import SchemaDraft.Text.Direction
import SchemaDraft.Text.Joining
import SchemaDraft.Text.Normalization
import SchemaDraft.Text.Punycode

/-!
Domain names in any script, as Unicode Technical Standard 46 lays them down. The characters of a
name are replaced by what they stand for, and then every label is checked, one in Punycode as the
text that it stands for. A name which is written from right to left anywhere has to keep every
label readable.
-/

namespace SchemaDraft.Connection

/-- Characters that no domain name contains. -/
def isDomainMark (c : Char) : Bool :=
  c ≤ ' ' || c = '\x7f' ||
    ['%', '#', '/', ':', '<', '>', '?', '@', '[', '\\', ']', '^', '|'].contains c

/-- The characters that a domain name stands for. -/
def domainText? (name : List Char) : Option (List Char) := do
  let chars ← name.mapM domainChars?
  let text := Text.composed chars.flatten
  if text.any isDomainMark then none else some text

def isAscii (c : Char) : Bool := c.toNat < 128

/-- The text of a label. What is in Punycode may not stand for anything else in turn. -/
def labelText? (label : List Char) : Option (List Char) :=
  if "xn--".toList.isPrefixOf label then
    let code := label.drop 4
    if code.all isAscii && label.getLast? ≠ some '-' && code.length ≤ 2000 then
      (Text.punycodeText? code).filter fun text =>
        text.all (fun c => domainChars? c = some [c]) && Text.composed text = text
    else none
  else some label

/-- The marks that put characters together as if they were in one word, and that keep them
apart. -/
def joiner : Char := '\u200D'

def nonJoiner : Char := '\u200C'

/-- The combining class of the mark that takes the vowel off a letter. -/
def viramaClass : Nat := 9

/-- Whether a character may stand between others. `before` is read leftwards. A joiner has to
follow a virama, and so has a non-joiner that does not part letters which would be joined. -/
def joinerFits (before : List Char) (c : Char) (after : List Char) : Bool :=
  if c = joiner || c = nonJoiner then
    before.head?.any (Text.combiningClass · = viramaClass) ||
      (c = nonJoiner &&
        (before.dropWhile Text.isPassedOver).head?.any Text.joinsAfter &&
        (after.dropWhile Text.isPassedOver).head?.any Text.joinsBefore)
  else true

def joinersFit (before : List Char) : List Char → Bool
  | [] => true
  | c :: rest => joinerFits before c rest && joinersFit (c :: before) rest

/-- Whether a label may stand in a name that is written from left to right. -/
def isLabel (label : List Char) : Bool :=
  !label.head?.any Text.isMark && joinersFit [] label &&
    (label.all isAscii || label.length ≤ 1000)

/-- Whether a label has characters that are written from right to left. -/
def hasRightToLeft (label : List Char) : Bool :=
  label.any fun c =>
    Text.Direction.of c = .rightToLeft || Text.Direction.of c = .arabicNumber

/-- Whether a label keeps to one direction: that of the letter which it starts with, and of the
letter or number which it ends with. -/
def keepsDirection (label : List Char) : Bool :=
  match label.map Text.Direction.of with
  | [] => true
  | first :: rest =>
    let inner := rest.reverse.dropWhile (· = .mark)
    match first with
    | .leftToRight =>
      inner.head?.all (fun last => last = .leftToRight || last = .europeanNumber) &&
        inner.all fun d => d ≠ .rightToLeft && d ≠ .arabicNumber
    | .rightToLeft =>
      inner.head?.all (fun last =>
          last = .rightToLeft || last = .arabicNumber || last = .europeanNumber) &&
        !inner.contains .leftToRight &&
        !(inner.contains .arabicNumber && inner.contains .europeanNumber)
    | _ => false

/-- The characters that a domain name stands for, if it is one. -/
def domainName? (name : List Char) : Option (List Char) := do
  let text ← domainText? name
  let labels ← ((String.ofList text).splitOn ".").mapM fun label => labelText? label.toList
  if labels.all isLabel && (labels.all keepsDirection || !labels.any hasRightToLeft) then
    some text
  else none

end SchemaDraft.Connection
