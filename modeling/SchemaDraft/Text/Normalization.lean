import SchemaDraft.Text.Canonical

/-!
The composed form of a text, in which texts that differ only in how marks are attached to letters
are the same. The text is taken apart as far as possible, the marks on each letter are put in
order, and what can be put together again is.
-/

namespace SchemaDraft.Text

/-- The number of leading, middle and trailing parts of Hangul syllables. A middle part that stands
alone counts as having no trailing part. -/
def hangulLeads : Nat := 19

def hangulMiddles : Nat := 21

def hangulTrails : Nat := 28

def hangulTails : Nat := hangulMiddles * hangulTrails

/-- The position of a character in a block of `size` code points that starts at `first`. -/
def blockIndex? (first size : Nat) (c : Char) : Option Nat :=
  if first ≤ c.toNat && c.toNat < first + size then some (c.toNat - first) else none

def hangulLead? : Char → Option Nat := blockIndex? 0x1100 hangulLeads

def hangulMiddle? : Char → Option Nat := blockIndex? 0x1161 hangulMiddles

def hangulTrail? (c : Char) : Option Nat :=
  (blockIndex? 0x11A8 (hangulTrails - 1) c).map (· + 1)

def hangulSyllable? : Char → Option Nat := blockIndex? 0xAC00 (hangulLeads * hangulTails)

/-- The parts of a Hangul syllable. -/
def hangulParts (syllable : Nat) : List Char :=
  let trail := syllable % hangulTrails
  [Char.ofNat (0x1100 + syllable / hangulTails),
    Char.ofNat (0x1161 + syllable % hangulTails / hangulTrails)] ++
  if trail = 0 then [] else [Char.ofNat (0x11A7 + trail)]

/-- Takes a character apart by one step. -/
def decomposedOnce (c : Char) : List Char :=
  match hangulSyllable? c with
  | some syllable => hangulParts syllable
  | none => ((mapped? composites c).or (mapped? replacedCharacters c)).getD [c]

/-- Takes a text apart. No character needs more than three steps. -/
def decomposed (text : List Char) : List Char :=
  ((text.flatMap decomposedOnce).flatMap decomposedOnce).flatMap decomposedOnce

/-- Puts a mark in its place among the marks that follow. -/
def placeMark (c : Char) : List Char → List Char
  | [] => [c]
  | next :: rest =>
    if combiningClass next ≠ 0 && combiningClass next < combiningClass c then
      next :: placeMark c rest
    else c :: next :: rest

/-- Orders the marks on each letter by their combining classes. -/
def ordered : List Char → List Char
  | [] => []
  | c :: rest => placeMark c (ordered rest)

/-- The Hangul syllable made of two characters. -/
def hangulComposite? (first second : Char) : Option Char :=
  match hangulLead? first, hangulMiddle? second with
  | some lead, some middle =>
    some (Char.ofNat (0xAC00 + lead * hangulTails + middle * hangulTrails))
  | _, _ =>
    match hangulSyllable? first, hangulTrail? second with
    | some syllable, some trail =>
      if syllable % hangulTrails = 0 then some (Char.ofNat (first.toNat + trail)) else none
    | _, _ => none

/-- The character made of two. -/
def composite? (first second : Char) : Option Char :=
  (hangulComposite? first second).or
    ((composites.find? (·.target = [first.toNat, second.toNat])).map fun run =>
      Char.ofNat run.first)

/-- Puts a letter together with what follows. `marks` holds the marks that have been passed over,
the nearest first. They keep away what has no higher combining class than theirs. -/
def composedAfter (letter : Char) (marks : List Char) : List Char → List Char
  | [] => letter :: marks.reverse
  | c :: rest =>
    let isKeptAway := marks.head?.any fun mark => combiningClass c ≤ combiningClass mark
    match if isKeptAway then none else composite? letter c with
    | some letter => composedAfter letter marks rest
    | none =>
      if combiningClass c = 0 then letter :: marks.reverse ++ composedAfter c [] rest
      else composedAfter letter (c :: marks) rest

/-- Puts together a text that has been taken apart. -/
def recomposed : List Char → List Char
  | [] => []
  | c :: rest => if combiningClass c = 0 then composedAfter c [] rest else c :: recomposed rest

/-- The composed form of a text. -/
def composed (text : List Char) : List Char := recomposed (ordered (decomposed text))

end SchemaDraft.Text
