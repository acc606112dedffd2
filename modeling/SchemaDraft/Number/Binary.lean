/-!
Binary floating-point numbers, and the value that a quotient of two naturals rounds to. A finite
magnitude is named by its rank in the increasing sequence of the magnitudes that its format can
hold, so that equal numbers have equal names and a neighbour is one rank away.
-/

namespace SchemaDraft

/-- A binary interchange format. Its finite magnitudes are multiples of `2 ^ -scale`; those of one
binade above the subnormals differ in the `fraction` bits after the leading one. -/
structure BinaryFormat where
  fraction : Nat
  scale : Nat
  /-- How many finite magnitudes there are, zero included. -/
  ranks : Nat
  deriving DecidableEq

namespace BinaryFormat

def double : BinaryFormat := ⟨52, 1074, 2047 * Nat.pow 2 52⟩

def single : BinaryFormat := ⟨23, 149, 255 * Nat.pow 2 23⟩

/-- The magnitude of a rank, counted in units of `2 ^ -scale`. -/
def magnitude (f : BinaryFormat) (rank : Nat) : Nat :=
  let binade := Nat.pow 2 f.fraction
  if rank < binade then rank
  else (binade + rank % binade) * Nat.pow 2 (rank / binade - 1)

/-- The integer nearest to `n / d`, the even one of two that are equally near. -/
def roundQuotient (n d : Nat) : Nat :=
  let q := n / d
  let twice := 2 * (n % d)
  if twice < d || (twice == d && q % 2 == 0) then q else q + 1

/-- The rank of the magnitude nearest to `n / d`. It is `ranks` or more when the quotient is too
large for the format. -/
def nearestRank (f : BinaryFormat) (n d : Nat) : Nat :=
  let units := n * Nat.pow 2 f.scale
  let shift := (units / d).log2 - f.fraction
  shift * Nat.pow 2 f.fraction + roundQuotient units (d * Nat.pow 2 shift)

end BinaryFormat

/-- A double-precision number. One value stands for every NaN. -/
inductive Binary64 where
  | nan
  | infinite (negative : Bool)
  | finite (negative : Bool) (rank : Fin BinaryFormat.double.ranks)
  deriving DecidableEq

namespace Binary64

def isFinite : Binary64 → Bool
  | .finite .. => true
  | _ => false

/-- The number with the given sign whose magnitude has this rank, or the infinity beyond them. -/
def ofRank (negative : Bool) (rank : Nat) : Binary64 :=
  if h : rank < BinaryFormat.double.ranks then .finite negative ⟨rank, h⟩ else .infinite negative

/-- The number nearest to plus or minus `n / d`. -/
def ofQuotient (negative : Bool) (n d : Nat) : Binary64 :=
  ofRank negative (BinaryFormat.double.nearestRank n d)

end Binary64

end SchemaDraft
