import SchemaDraft.Text.Blank

/-!
Days of the proleptic Gregorian calendar, with their text. Every value is a day that exists, so
writing one needs no check and reading one gives back only what some day is written as.
-/

namespace SchemaDraft

namespace Calendar

def isLeapYear (year : Int) : Bool := year % 4 == 0 && (year % 100 != 0 || year % 400 == 0)

def daysInMonth (year : Int) (month : Nat) : Nat :=
  if month = 2 then if isLeapYear year then 29 else 28
  else if month = 4 || month = 6 || month = 9 || month = 11 then 30
  else 31

/-- The first and the last year that have dates. -/
def firstYear : Int := -262143

def lastYear : Int := 262142

/-- Decimal digits, with zeros in front up to the given width. -/
def padded (width n : Nat) : List Char :=
  let digits := Nat.toDigits 10 n
  List.replicate (width - digits.length) '0' ++ digits

/-- Reads one to `width` digits. -/
def readDigits (width : Nat) (text : List Char) : Option (Nat × List Char) :=
  match (text.take width).takeWhile Char.isDigit with
  | [] => none
  | digits => some (Nat.ofDigitChars 10 digits 0, text.drop digits.length)

/-- Reads a two-digit component, blanks before it skipped. -/
def readComponent (text : List Char) : Option (Nat × List Char) :=
  readDigits 2 (Text.skipBlanks text)

/-- Reads one mark, blanks before it skipped. -/
def readMark (mark : Char) (text : List Char) : Option (List Char) :=
  match Text.skipBlanks text with
  | c :: rest => if c = mark then some rest else none
  | [] => none

/-- A year of up to four digits needs no sign; with a sign it may have any number of digits. -/
def readYear (text : List Char) : Option (Int × List Char) :=
  match Text.skipBlanks text with
  | '-' :: rest => (readDigits rest.length rest).map fun (n, r) => (-(n : Int), r)
  | '+' :: rest => (readDigits rest.length rest).map fun (n, r) => ((n : Int), r)
  | rest => (readDigits 4 rest).map fun (n, r) => ((n : Int), r)

/-- At least four digits, and a sign on years below 0 and above 9999. -/
def yearText (year : Int) : List Char :=
  if 0 ≤ year && year ≤ 9999 then padded 4 year.natAbs
  else (if year < 0 then '-' else '+') :: padded 4 year.natAbs

end Calendar

open Calendar

/-- A day between the first and the last year. -/
structure Date where
  year : Int
  month : Nat
  day : Nat
  exists_day : (firstYear ≤ year ∧ year ≤ lastYear) ∧ (1 ≤ month ∧ month ≤ 12) ∧
    1 ≤ day ∧ day ≤ daysInMonth year month := by decide
  deriving DecidableEq

namespace Date

/-- The day of this year, month and day of the month, if there is one. -/
def of? (year : Int) (month day : Nat) : Option Date :=
  if h : (firstYear ≤ year ∧ year ≤ lastYear) ∧ (1 ≤ month ∧ month ≤ 12) ∧
      1 ≤ day ∧ day ≤ daysInMonth year month then
    some ⟨year, month, day, h⟩
  else none

def chars (d : Date) : List Char :=
  yearText d.year ++ '-' :: padded 2 d.month ++ '-' :: padded 2 d.day

/-- The day as year, month and day of the month with hyphens between them. -/
def text (d : Date) : String := String.ofList d.chars

/-- Reads a day at the front of a text. Blanks are skipped before every part. -/
def readFront (text : List Char) : Option (Date × List Char) := do
  let (year, rest) ← readYear text
  let rest ← readMark '-' rest
  let (month, rest) ← readComponent rest
  let rest ← readMark '-' rest
  let (day, rest) ← readComponent rest
  let date ← of? year month day
  return (date, rest)

/-- Reads a whole text as a day, blanks after it included. -/
def ofText? (text : String) : Option Date := do
  let (date, rest) ← readFront text.toList
  if (Text.skipBlanks rest).isEmpty then some date else none

end Date

end SchemaDraft
