/-!
Tables over code points. Small ones are lists of numbers. Large ones are written as words of
hexadecimal numbers. A set has words `first` or `first-last`. A map has words such as `41-5A>61`
and `100-12E/2>101`: a range, the distance between its members if that is not one, and what the
first member is mapped to, from which the others follow. What is longer than one code point is
joined by dots.
-/

namespace SchemaDraft.Text

def inRanges (ranges : List (Nat × Nat)) (c : Char) : Bool :=
  ranges.any fun (first, last) => first ≤ c.toNat && c.toNat ≤ last

/-- Code points `first`, `first + step`, ... up to `last`, and what the first of them is mapped
to. -/
structure CodeRun where
  first : Nat
  last : Nat
  step : Nat
  target : List Nat

def CodeRun.covers (run : CodeRun) (codePoint : Nat) : Bool :=
  run.first ≤ codePoint && codePoint ≤ run.last && (codePoint - run.first) % run.step == 0

/-- What a covered code point is mapped to. -/
def CodeRun.apply (run : CodeRun) (codePoint : Nat) : List Char :=
  run.target.map fun n => Char.ofNat (n + (codePoint - run.first))

/-- What a table maps a character to, if it is in the table. -/
def mapped? (runs : List CodeRun) (c : Char) : Option (List Char) :=
  (runs.find? (·.covers c.toNat)).map (·.apply c.toNat)

def hexNumber (digits : String) : Nat :=
  digits.toList.foldl (fun n c =>
    n * 16 + if c.isDigit then c.toNat - '0'.toNat else c.toNat - 'A'.toNat + 10) 0

def rangeOfWord (word : String) : Nat × Nat :=
  match word.splitOn "-" with
  | [first, last] => (hexNumber first, hexNumber last)
  | _ => (hexNumber word, hexNumber word)

def CodeRun.ofWord (word : String) : CodeRun :=
  let (source, target) := match word.splitOn ">" with
    | [source, target] => (source, (target.splitOn ".").map hexNumber)
    | _ => (word, [])
  let (range, step) := match source.splitOn "/" with
    | [range, step] => (range, hexNumber step)
    | _ => (source, 1)
  let (first, last) := rangeOfWord range
  { first, last, step, target }

/-- Reads a set. -/
def rangesOf (lines : List String) : List (Nat × Nat) :=
  (lines.flatMap (·.splitOn " ")).map rangeOfWord

/-- Reads a map. -/
def runsOf (lines : List String) : List CodeRun :=
  (lines.flatMap (·.splitOn " ")).map CodeRun.ofWord

end SchemaDraft.Text
