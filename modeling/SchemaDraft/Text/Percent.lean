/-!
Percent encoding: a byte is written as a percent sign and two hexadecimal digits. A percent sign
that two such digits do not follow stands for itself, and so does everything else.
-/

namespace SchemaDraft.Text

def hexDigit? (byte : UInt8) : Option UInt8 :=
  if 0x30 ≤ byte && byte ≤ 0x39 then some (byte - 0x30)
  else if 0x41 ≤ byte && byte ≤ 0x46 then some (byte - 0x37)
  else if 0x61 ≤ byte && byte ≤ 0x66 then some (byte - 0x57)
  else none

def hexByte? (high low : UInt8) : Option UInt8 := do
  let high ← hexDigit? high
  let low ← hexDigit? low
  return high * 16 + low

def percentDecode : List UInt8 → List UInt8
  | 0x25 :: high :: low :: rest =>
    match hexByte? high low with
    | some byte => byte :: percentDecode rest
    | none => 0x25 :: percentDecode (high :: low :: rest)
  | byte :: rest => byte :: percentDecode rest
  | [] => []

/-- The bytes that a percent-encoded text stands for. -/
def percentBytes (text : List Char) : List UInt8 :=
  percentDecode (String.ofList text).toUTF8.data.toList

end SchemaDraft.Text
