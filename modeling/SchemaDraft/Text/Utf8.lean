/-!
UTF-8 read from bytes that may hold anything. The bytes are cut into pieces, each a character or a
sequence that stands for none: the longest front of a character that is there, or else one byte.
A sequence at the very end that more bytes could complete is told apart from one that nothing could.
-/

namespace SchemaDraft.Text

/-- A piece of a byte sequence. -/
inductive Utf8Piece where
  | char (c : Char)
  | invalid (width : Nat)
  | incomplete (width : Nat)

/-- What the first byte of a character of several bytes says about the others: how many there are,
and the range of the second. -/
structure Utf8Lead where
  following : Nat
  low : UInt8
  high : UInt8

def Utf8Lead.of? (byte : UInt8) : Option Utf8Lead :=
  if byte < 0xC2 then none
  else if byte ≤ 0xDF then some ⟨1, 0x80, 0xBF⟩
  else if byte = 0xE0 then some ⟨2, 0xA0, 0xBF⟩
  else if byte = 0xED then some ⟨2, 0x80, 0x9F⟩
  else if byte ≤ 0xEF then some ⟨2, 0x80, 0xBF⟩
  else if byte = 0xF0 then some ⟨3, 0x90, 0xBF⟩
  else if byte ≤ 0xF3 then some ⟨3, 0x80, 0xBF⟩
  else if byte = 0xF4 then some ⟨3, 0x80, 0x8F⟩
  else none

/-- How many of the bytes can follow, `count` at most, the first of them between two bounds. -/
def followers : (count : Nat) → (low high : UInt8) → List UInt8 → Nat
  | 0, _, _, _ => 0
  | _, _, _, [] => 0
  | count + 1, low, high, byte :: rest =>
    if low ≤ byte && byte ≤ high then followers count 0x80 0xBF rest + 1 else 0

/-- The bits of a first byte that belong to the code point, for the number of bytes to follow. -/
def leadBits (byte : UInt8) : (following : Nat) → Nat
  | 1 => byte.toNat % 32
  | 2 => byte.toNat % 16
  | _ => byte.toNat % 8

/-- The piece that starts with a byte. -/
def Utf8Piece.ofBytes (byte : UInt8) (rest : List UInt8) : Utf8Piece :=
  if byte < 0x80 then .char (Char.ofNat byte.toNat)
  else match Utf8Lead.of? byte with
    | none => .invalid 1
    | some lead =>
      let found := followers lead.following lead.low lead.high rest
      if found = lead.following then
        .char (Char.ofNat ((rest.take found).foldl (fun n b => n * 64 + b.toNat % 64)
          (leadBits byte lead.following)))
      else if found = rest.length then .incomplete (found + 1)
      else .invalid (found + 1)

def Utf8Piece.width : Utf8Piece → Nat
  | .char c => c.utf8Size
  | .invalid width => width
  | .incomplete width => width

/-- The pieces of a byte sequence after its first `skip` bytes. -/
def utf8Pieces : (skip : Nat) → List UInt8 → List Utf8Piece
  | _, [] => []
  | skip + 1, _ :: rest => utf8Pieces skip rest
  | 0, byte :: rest =>
    let piece := Utf8Piece.ofBytes byte rest
    piece :: utf8Pieces (piece.width - 1) rest

/-- The first piece that is no character, and how many bytes stand before it. -/
inductive Utf8Error where
  | invalid (width index : Nat)
  | incomplete (index : Nat)
  deriving DecidableEq

def Utf8Error.message : Utf8Error → String
  | .invalid width index =>
    "invalid utf-8 sequence of " ++ width.repr ++ " bytes from index " ++ index.repr
  | .incomplete index => "incomplete utf-8 byte sequence from index " ++ index.repr

/-- The characters of pieces that stand `index` bytes into a sequence. -/
def charsOfPieces (index : Nat) : List Utf8Piece → Except Utf8Error (List Char)
  | [] => .ok []
  | .char c :: rest => (charsOfPieces (index + c.utf8Size) rest).map (c :: ·)
  | .invalid width :: _ => .error (.invalid width index)
  | .incomplete _ :: _ => .error (.incomplete index)

/-- The text of a byte sequence. -/
def ofUtf8 (bytes : List UInt8) : Except Utf8Error String :=
  (charsOfPieces 0 (utf8Pieces 0 bytes)).map String.ofList

/-- The text of a byte sequence with U+FFFD for each piece that is no character. -/
def ofUtf8Lossy (bytes : List UInt8) : String :=
  String.ofList ((utf8Pieces 0 bytes).map fun
    | .char c => c
    | _ => '\uFFFD')

end SchemaDraft.Text
