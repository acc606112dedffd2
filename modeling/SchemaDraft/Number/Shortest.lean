import SchemaDraft.Number.Decimal

/-!
The shortest decimal that reads back as a given binary number, and how such a decimal is laid out.
A candidate is kept only if the reader of `SchemaDraft.Decimal` returns the number from it, so what
is written is always read back; of the grids with 1, 2, ... 17 digits the first with a candidate
wins, and of two candidates the nearer.
-/

namespace SchemaDraft

/-- Which of two equally near decimals is taken. -/
inductive Tie where
  | up
  | even
  deriving DecidableEq

namespace Binary64

/-- A positive quotient `n / d` on the grid of multiples of `10 ^ exponent`: the point at or below
it, the remainder and the step, both in the same unit. -/
def gridFloor (n d : Nat) (exponent : Int) : Nat × Nat × Nat :=
  let n := n * Nat.pow 10 (-exponent).toNat
  let d := d * Nat.pow 10 exponent.toNat
  (n / d, n % d, d)

/-- The power of ten of the first digit of a positive quotient. -/
def leadingExponent (n d : Nat) : Int :=
  if d ≤ n then ((Nat.toDigits 10 (n / d)).length : Int) - 1
  else -((Nat.toDigits 10 ((n + d - 1) / n - 1)).length : Int)

/-- The neighbour of a number on a decimal grid that reads back as the number. -/
def onGrid? (tie : Tie) (x : Binary64) (n d : Nat) (exponent : Int) : Option Nat :=
  let (low, rest, step) := gridFloor n d exponent
  let reads (digits : Nat) : Bool := (Decimal.mk false digits exponent).toBinary64 == x
  match reads low, reads (low + 1) with
  | false, false => none
  | true, false => some low
  | false, true => some (low + 1)
  | true, true =>
    if 2 * rest < step then some low
    else if step < 2 * rest then some (low + 1)
    else match tie with
      | .up => some (low + 1)
      | .even => some (if low % 2 = 0 then low else low + 1)

/-- The first grid below `exponent` with a hit, within `fuel` grids. -/
def searchGrids (tie : Tie) (x : Binary64) (n d : Nat) : Nat → Int → Option (Nat × Int)
  | 0, _ => none
  | fuel + 1, exponent =>
    match onGrid? tie x n d exponent with
    | some digits => some (digits, exponent)
    | none => searchGrids tie x n d fuel (exponent - 1)

/-- The digits of a finite magnitude and the power of ten of the last one. Should no grid of 17
digits have a hit, all digits of the exact value are taken. -/
def shortest (tie : Tie) (rank : Fin BinaryFormat.double.ranks) : Nat × Int :=
  let f := BinaryFormat.double
  let n := f.magnitude rank
  if n = 0 then (0, 0)
  else
    let d := Nat.pow 2 f.scale
    match searchGrids tie (.finite false rank) n d 17 (leadingExponent n d) with
    | some found => found
    | none => (n * Nat.pow 5 f.scale, -f.scale)

end Binary64

/-- How a finite number is written: which of two equally near decimals is taken, and outside which
powers of ten of the first digit the text has an exponent. -/
structure NumberLayout where
  tie : Tie
  leastPositional : Option Int
  greatestPositional : Option Int
  deriving DecidableEq

namespace NumberLayout

def isPositional (layout : NumberLayout) (leading : Int) : Bool :=
  layout.leastPositional.all (· ≤ leading) && layout.greatestPositional.all (leading ≤ ·)

/-- Digits with a point, never without a digit on either side of it. -/
def positional (digits : List Char) (exponent : Int) : List Char :=
  let point : Int := digits.length + exponent
  if 0 ≤ exponent then digits ++ List.replicate exponent.toNat '0' ++ ['.', '0']
  else if 0 < point then digits.take point.toNat ++ '.' :: digits.drop point.toNat
  else '0' :: '.' :: List.replicate (-point).toNat '0' ++ digits

/-- One digit, the others after a point, and the signed power of ten of the first. -/
def scientific (digits : List Char) (leading : Int) : List Char :=
  let mantissa := match digits with
    | d :: [] => [d]
    | d :: rest => d :: '.' :: rest
    | [] => []
  let sign := if leading < 0 then '-' else '+'
  mantissa ++ 'e' :: sign :: Nat.toDigits 10 leading.natAbs

/-- The text of a finite number. Zeros at the end of its digits are dropped. -/
def write (layout : NumberLayout) (negative : Bool) (rank : Fin BinaryFormat.double.ranks) :
    String :=
  let (number, exponent) := Binary64.shortest layout.tie rank
  let all := Nat.toDigits 10 number
  let kept := match (all.reverse.dropWhile (· == '0')).reverse with
    | [] => ['0']
    | ds => ds
  let exponent := exponent + (all.length - kept.length : Nat)
  let leading := exponent + kept.length - 1
  let text := if layout.isPositional leading || number = 0 then positional kept exponent
    else scientific kept leading
  String.ofList (if negative then '-' :: text else text)

end NumberLayout

end SchemaDraft
