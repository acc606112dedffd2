/-!
Punycode: text written with ASCII characters alone. What is ASCII in the text stands in front of
the last hyphen. After it stand numbers, the lowest digit first, one for each of the other
characters in the order of their code points. A number tells how far a walk goes on that passes
every place in the text so far, for one code point after another. Numbers end by themselves, at a
digit below a threshold that follows the size of the numbers before.
-/

namespace SchemaDraft.Text

def punycodeDigit? (c : Char) : Option Nat :=
  if c.isLower then some (c.toNat - 'a'.toNat)
  else if c.isDigit then some (c.toNat - '0'.toNat + 26)
  else none

/-- What a digit has to stay below to be the last of a number. -/
def punycodeThreshold (bias position : Nat) : Nat :=
  if position ≤ bias then 1 else if bias + 26 ≤ position then 26 else position - bias

/-- Divides by 35 as often as the result stays large. -/
def scaledDown (n k : Nat) : Nat :=
  if 455 < n then scaledDown (n / 35) (k + 36) else k + 36 * n / (n + 38)
termination_by n
decreasing_by exact Nat.div_lt_self (by omega) (by decide)

/-- The bias after a number. -/
def punycodeBias (number length : Nat) (isFirst : Bool) : Nat :=
  let number := if isFirst then number / 700 else number / 2
  scaledDown (number + number / length) 0

/-- What reading digits has come to. -/
structure PunycodeState where
  /-- The text so far. -/
  text : List Char
  codePoint : Nat := 128
  /-- The place of the walk in the text. -/
  place : Nat := 0
  /-- The place before the current number. -/
  start : Nat := 0
  bias : Nat := 72
  /-- What the next digit of the number counts, and its position in steps of 36. -/
  factor : Nat := 1
  position : Nat := 36

/-- Whether there is a character with a code point. -/
def isCharacter (codePoint : Nat) : Bool :=
  codePoint < 0xD800 || (0xDFFF < codePoint && codePoint < 0x110000)

/-- Inserts the character that a completed number leads to. -/
def PunycodeState.insert? (state : PunycodeState) : Option PunycodeState :=
  let length := state.text.length + 1
  let codePoint := state.codePoint + state.place / length
  let place := state.place % length
  if isCharacter codePoint then
    some
      { text := state.text.take place ++ [Char.ofNat codePoint] ++ state.text.drop place,
        codePoint,
        place := place + 1,
        start := place + 1,
        bias := punycodeBias (state.place - state.start) length (state.start = 0) }
  else none

/-- Reads a digit. Numbers stay below 2 to the 32nd. -/
def PunycodeState.step? (state : PunycodeState) (c : Char) : Option PunycodeState := do
  let digit ← punycodeDigit? c
  let place := state.place + digit * state.factor
  if UInt32.size ≤ place then none
  else
    let threshold := punycodeThreshold state.bias state.position
    if digit < threshold then PunycodeState.insert? { state with place }
    else
      let factor := state.factor * (36 - threshold)
      if UInt32.size ≤ factor then none
      else some { state with place, factor, position := state.position + 36 }

/-- The parts of a text before and after its last hyphen. A hyphen in front of everything is no
mark of such parts. -/
def splitAtHyphen (text : List Char) : List Char × List Char :=
  match text.reverse.span (· ≠ '-') with
  | (after, _ :: last :: before) => ((last :: before).reverse, after.reverse)
  | _ => ([], text)

/-- The text that lower-case Punycode stands for. -/
def punycodeText? (code : List Char) : Option (List Char) := do
  let (text, digits) := splitAtHyphen code
  let state ← digits.foldlM PunycodeState.step? { text }
  if state.position = 36 then some state.text else none

end SchemaDraft.Text
