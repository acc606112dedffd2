import SchemaDraft.Number.Binary

/-!
Decimal numbers as they are written, `digits` times a power of ten, and the binary number nearest
to one.
-/

namespace SchemaDraft

structure Decimal where
  negative : Bool
  digits : Nat
  exponent : Int
  deriving DecidableEq

/-- The longest run of decimal digits at the front, and what follows it. -/
def Decimal.digitRun (text : List Char) : List Char × List Char :=
  text.span Char.isDigit

/-- The value of a run of decimal digits. -/
def Decimal.digitsValue (digits : List Char) : Nat := Nat.ofDigitChars 10 digits 0

namespace Decimal

/-- The decimal written with these digits before and after the point and this power of ten. -/
def ofParts (negative : Bool) (whole fraction : List Char) (power : Int) : Decimal :=
  ⟨negative, digitsValue (whole ++ fraction), power - fraction.length⟩

/-- The exponents within which the magnitude of a decimal with these many digits is computed. One
outside is below half of the least positive double, or above the greatest. -/
def computedExponents : Int := 400

/-- The rank of the magnitude nearest to a decimal. -/
def nearestRank (f : BinaryFormat) (d : Decimal) : Nat :=
  let width : Int := (Nat.toDigits 10 d.digits).length
  if d.digits = 0 || width + d.exponent < -computedExponents then 0
  else if width + d.exponent > computedExponents then f.ranks
  else f.nearestRank (d.digits * Nat.pow 10 d.exponent.toNat) (Nat.pow 10 (-d.exponent).toNat)

/-- The double nearest to a decimal. -/
def toBinary64 (d : Decimal) : Binary64 := .ofRank d.negative (d.nearestRank .double)

/-- The single nearest to a decimal, as the double of the same value. -/
def toSingle (d : Decimal) : Binary64 :=
  let rank := d.nearestRank .single
  if rank < BinaryFormat.single.ranks then
    .ofQuotient d.negative (BinaryFormat.single.magnitude rank)
      (Nat.pow 2 BinaryFormat.single.scale)
  else .infinite d.negative

/-- Reads an `e` and a power of ten, with or without a sign, if an `e` comes next. -/
def readPower : List Char → Option (Option Int × List Char)
  | c :: rest =>
    if c = 'e' || c = 'E' then
      let (negative, rest) : Bool × List Char := match rest with
        | '-' :: r => (true, r)
        | '+' :: r => (false, r)
        | r => (false, r)
      match digitRun rest with
      | ([], _) => none
      | (ds, rest) =>
        let n : Int := digitsValue ds
        some (some (if negative then -n else n), rest)
    else some (none, c :: rest)
  | [] => some (none, [])

/-- A point and the digits after it, if a point comes next. -/
def readFraction : List Char → List Char × List Char
  | '.' :: rest => digitRun rest
  | rest => ([], rest)

/-- Reads a whole text as a decimal: digits with or without a point among or beside them, then
perhaps a power of ten. -/
def ofText? (negative : Bool) (text : List Char) : Option Decimal := do
  let (whole, rest) := digitRun text
  let (fraction, rest) := readFraction rest
  if whole.isEmpty && fraction.isEmpty then none
  else
    let (power, rest) ← readPower rest
    if rest.isEmpty then some (ofParts negative whole fraction (power.getD 0)) else none

end Decimal

namespace Binary64

/-- Reads a number in the given rounding, `inf` and `NaN` included, with or without a sign. -/
def read? (round : Decimal → Binary64) (text : String) : Option Binary64 :=
  let (negative, rest) : Bool × List Char := match text.toList with
    | '-' :: r => (true, r)
    | '+' :: r => (false, r)
    | r => (false, r)
  if rest = "inf".toList then some (.infinite negative)
  else if rest = "NaN".toList then some .nan
  else (Decimal.ofText? negative rest).map round

end Binary64

end SchemaDraft
