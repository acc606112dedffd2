import SchemaDraft.Calendar.Date

/-!
Moments of a day to the nanosecond, without a time zone. A leap second is kept as the second before
it with a nanosecond count of a thousand million or more, and is written as the next second: after
second 59 that is second 60, and after any other it is a second that is there already.
-/

namespace SchemaDraft

open Calendar

structure Timestamp where
  date : Date
  hour : Nat
  minute : Nat
  second : Nat
  nanosecond : Nat
  exists_moment : hour ≤ 23 ∧ minute ≤ 59 ∧ second ≤ 59 ∧ nanosecond < 2000000000 := by decide
  deriving DecidableEq

namespace Timestamp

/-- The moment of these parts, if there is one. -/
def of? (date : Date) (hour minute second nanosecond : Nat) : Option Timestamp :=
  if h : hour ≤ 23 ∧ minute ≤ 59 ∧ second ≤ 59 ∧ nanosecond < 2000000000 then
    some ⟨date, hour, minute, second, nanosecond, h⟩
  else none

/-- The second as it is written, and the nanoseconds past it. -/
def writtenSecond (t : Timestamp) : Nat × Nat :=
  if t.nanosecond < 1000000000 then (t.second, t.nanosecond)
  else (t.second + 1, t.nanosecond - 1000000000)

/-- Nothing, or a point with 3, 6 or 9 digits: the fewest that are exact. -/
def fractionText (nanosecond : Nat) : List Char :=
  if nanosecond = 0 then []
  else if nanosecond % 1000000 = 0 then '.' :: padded 3 (nanosecond / 1000000)
  else if nanosecond % 1000 = 0 then '.' :: padded 6 (nanosecond / 1000)
  else '.' :: padded 9 nanosecond

/-- The day, the given separator and the time of day. -/
def charsWith (separator : Char) (t : Timestamp) : List Char :=
  let (second, nanosecond) := t.writtenSecond
  t.date.chars ++ separator :: padded 2 t.hour ++ ':' :: padded 2 t.minute ++
    ':' :: padded 2 second ++ fractionText nanosecond

def textWith (separator : Char) (t : Timestamp) : String := String.ofList (t.charsWith separator)

/-- Reads a fraction of a second as nanoseconds, if a point comes next. Digits after the ninth are
dropped. -/
def readFraction : List Char → Option (Nat × List Char)
  | '.' :: rest => do
    let (n, after) ← readDigits 9 rest
    let width := rest.length - after.length
    return (n * Nat.pow 10 (9 - width), after.dropWhile Char.isDigit)
  | rest => some (0, rest)

/-- Reads a time of day: hour, minute, and the second with its nanoseconds, where second 60 is
taken as a leap second. -/
def readTime (text : List Char) : Option ((Nat × Nat × Nat × Nat) × List Char) := do
  let (hour, rest) ← readComponent text
  let rest ← readMark ':' rest
  let (minute, rest) ← readComponent rest
  let rest ← readMark ':' rest
  let (second, rest) ← readComponent rest
  let (nanosecond, rest) ← readFraction rest
  if second = 60 then return ((hour, minute, 59, nanosecond + 1000000000), rest)
  else return ((hour, minute, second, nanosecond), rest)

/-- Reads a whole text as a day, the separator and a time of day, blanks before the parts and after
the last one skipped. -/
def ofTextWith? (separator : Char) (text : String) : Option Timestamp := do
  let (date, rest) ← Date.readFront text.toList
  let rest ← readMark separator rest
  let ((hour, minute, second, nanosecond), rest) ← readTime rest
  if (Text.skipBlanks rest).isEmpty then of? date hour minute second nanosecond else none

end Timestamp

end SchemaDraft
