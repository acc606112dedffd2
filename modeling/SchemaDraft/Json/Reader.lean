import SchemaDraft.Json.Value
import SchemaDraft.Number.Decimal

/-!
A strict reader of JSON text. Blanks are the four of the grammar, nothing may follow the value,
strings hold no raw control character and no lone surrogate, and containers nest no deeper than a
given depth. An integer outside the 64-bit ranges becomes the nearest double, and a number beyond
the doubles is refused.
-/

namespace SchemaDraft.Json

def isJsonBlank (c : Char) : Bool := c = ' ' || c = '\t' || c = '\n' || c = '\r'

def skipJsonBlanks (text : List Char) : List Char := text.dropWhile isJsonBlank

def hexValue? (c : Char) : Option Nat :=
  if '0' ≤ c && c ≤ '9' then some (c.toNat - '0'.toNat)
  else if 'a' ≤ c && c ≤ 'f' then some (c.toNat - 'a'.toNat + 10)
  else if 'A' ≤ c && c ≤ 'F' then some (c.toNat - 'A'.toNat + 10)
  else none

/-- The code unit of four hexadecimal digits. -/
def codeUnit? (a b c d : Char) : Option Nat := do
  let a ← hexValue? a
  let b ← hexValue? b
  let c ← hexValue? c
  let d ← hexValue? d
  return ((a * 16 + b) * 16 + c) * 16 + d

/-- The character that a one-letter escape stands for. -/
def shortEscape? (c : Char) : Option Char :=
  match c with
  | '"' => some '"'
  | '\\' => some '\\'
  | '/' => some '/'
  | 'b' => some '\x08'
  | 'f' => some '\x0c'
  | 'n' => some '\n'
  | 'r' => some '\r'
  | 't' => some '\t'
  | _ => none

def isHighSurrogate (unit : Nat) : Bool := 0xD800 ≤ unit && unit < 0xDC00

def isLowSurrogate (unit : Nat) : Bool := 0xDC00 ≤ unit && unit < 0xE000

/-- The character of a pair of surrogates. -/
def pairedChar (high low : Nat) : Char :=
  Char.ofNat (0x10000 + (high - 0xD800) * 0x400 + (low - 0xDC00))

/-- Reads the rest of a string, up to and over its closing quote. A code unit that is half of a
surrogate pair needs the other half right behind it. -/
def stringRest : List Char → Option (List Char × List Char)
  | '"' :: rest => some ([], rest)
  | '\\' :: 'u' :: a :: b :: c :: d :: rest =>
    match codeUnit? a b c d with
    | none => none
    | some unit =>
      if isHighSurrogate unit then
        match rest with
        | '\\' :: 'u' :: e :: f :: g :: h :: rest =>
          match codeUnit? e f g h with
          | none => none
          | some low =>
            if isLowSurrogate low then
              (stringRest rest).map fun (s, r) => (pairedChar unit low :: s, r)
            else none
        | _ => none
      else if isLowSurrogate unit then none
      else (stringRest rest).map fun (s, r) => (Char.ofNat unit :: s, r)
  | '\\' :: c :: rest =>
    match shortEscape? c with
    | none => none
    | some c => (stringRest rest).map fun (s, r) => (c :: s, r)
  | c :: rest =>
    if c.toNat < 0x20 || c = '\\' then none
    else (stringRest rest).map fun (s, r) => (c :: s, r)
  | [] => none

/-- Reads the digits before the point: a zero alone, or a run that starts with no zero. -/
def wholeDigits (text : List Char) : Option (List Char × List Char) :=
  match text with
  | '0' :: rest => some (['0'], rest)
  | _ =>
    match Decimal.digitRun text with
    | ([], _) => none
    | run => some run

/-- Reads the point and the digits after it. `none` is a point without digits. -/
def fractionDigits : List Char → Option (Option (List Char) × List Char)
  | '.' :: rest =>
    match Decimal.digitRun rest with
    | ([], _) => none
    | (digits, rest) => some (some digits, rest)
  | rest => some (none, rest)

/-- The value of a number with a point or a power of ten, which a double has to hold. -/
def ofDecimal (d : Decimal) : Option Json :=
  let x := d.toBinary64
  if x.isFinite then some (.float x) else none

/-- The value of a number without point and power of ten: minus zero and an integer outside the
64-bit ranges are doubles. -/
def ofInteger (negative : Bool) (digits : List Char) : Option Json :=
  let n := Decimal.digitsValue digits
  if negative then
    if n = 0 || UInt64.size / 2 < n then ofDecimal ⟨true, n, 0⟩ else some (.int (-n))
  else if UInt64.size ≤ n then ofDecimal ⟨false, n, 0⟩ else some (.int n)

/-- Reads a number whose sign has been read. -/
def number (negative : Bool) (text : List Char) : Option (Json × List Char) := do
  let (whole, rest) ← wholeDigits text
  let (fraction, rest) ← fractionDigits rest
  let (power, rest) ← Decimal.readPower rest
  let value ← match fraction, power with
    | none, none => ofInteger negative whole
    | _, _ => ofDecimal (Decimal.ofParts negative whole (fraction.getD []) (power.getD 0))
  return (value, rest)

mutual

/-- Reads one value. `depth` bounds the nesting of containers and `fuel` the number of steps. -/
def value : (fuel depth : Nat) → List Char → Option (Json × List Char)
  | 0, _, _ => none
  | fuel + 1, depth, text =>
    match skipJsonBlanks text with
    | 'n' :: 'u' :: 'l' :: 'l' :: rest => some (.null, rest)
    | 't' :: 'r' :: 'u' :: 'e' :: rest => some (.bool true, rest)
    | 'f' :: 'a' :: 'l' :: 's' :: 'e' :: rest => some (.bool false, rest)
    | '"' :: rest => (stringRest rest).map fun (s, r) => (.str (String.ofList s), r)
    | '[' :: rest =>
      match depth with
      | 0 => none
      | depth + 1 =>
        match skipJsonBlanks rest with
        | ']' :: rest => some (.arr [], rest)
        | rest => (items fuel depth rest).map fun (xs, r) => (.arr xs, r)
    | '\x7b' :: rest =>
      match depth with
      | 0 => none
      | depth + 1 =>
        match skipJsonBlanks rest with
        | '\x7d' :: rest => some (.obj [], rest)
        | rest => (members fuel depth rest).map fun (ms, r) => (.obj ms, r)
    | '-' :: rest => number true rest
    | rest => number false rest

/-- Reads items up to and over the closing bracket. -/
def items : (fuel depth : Nat) → List Char → Option (List Json × List Char)
  | 0, _, _ => none
  | fuel + 1, depth, text =>
    match value fuel depth text with
    | none => none
    | some (item, rest) =>
      match skipJsonBlanks rest with
      | ',' :: rest => (items fuel depth rest).map fun (xs, r) => (item :: xs, r)
      | ']' :: rest => some ([item], rest)
      | _ => none

/-- Reads members up to and over the closing brace. -/
def members : (fuel depth : Nat) → List Char → Option (List (String × Json) × List Char)
  | 0, _, _ => none
  | fuel + 1, depth, text =>
    match skipJsonBlanks text with
    | '"' :: rest =>
      match stringRest rest with
      | none => none
      | some (name, rest) =>
        match skipJsonBlanks rest with
        | ':' :: rest =>
          match value fuel depth rest with
          | none => none
          | some (item, rest) =>
            match skipJsonBlanks rest with
            | ',' :: rest =>
              (members fuel depth rest).map fun (ms, r) => ((String.ofList name, item) :: ms, r)
            | '\x7d' :: rest => some ([(String.ofList name, item)], rest)
            | _ => none
        | _ => none
    | _ => none

end

/-- Reads a whole text as one value whose containers nest at most `depth` deep. Each step reads at
least one character or starts an item, so twice the length is fuel enough. -/
def read? (depth : Nat) (text : String) : Option Json :=
  let chars := text.toList
  match value (2 * chars.length + 2) depth chars with
  | some (json, rest) => if (skipJsonBlanks rest).isEmpty then some json else none
  | none => none

end SchemaDraft.Json
