/-!
Addresses of hosts by number. An IPv4 address is four numbers below 256 with dots between them. An
IPv6 address is eight groups of up to four hexadecimal digits with colons between them; two colons
stand for one or more groups of zeros, and the last two groups may be written as an IPv4 address.
-/

namespace SchemaDraft.Connection

def isHexDigit (c : Char) : Bool :=
  c.isDigit || ('a' ≤ c && c ≤ 'f') || ('A' ≤ c && c ≤ 'F')

/-- A decimal number below 256 without leading zeros. -/
def isByteText (text : String) : Bool :=
  match text.toList with
  | ['0'] => true
  | '0' :: _ => false
  | digits => digits.length ≤ 3 && digits.all Char.isDigit && (text.toNat?.any (· < 256))

def isIpv4 (text : String) : Bool :=
  let parts := text.splitOn "."
  parts.length == 4 && parts.all isByteText

/-- How many groups of an IPv6 address the parts between its colons come to. Only the last part may
be an IPv4 address, and only if `ipv4AtEnd`. -/
def groupCount? (ipv4AtEnd : Bool) : List String → Option Nat
  | [] => some 0
  | part :: rest => do
    let count ←
      if !part.isEmpty && part.length ≤ 4 && part.toList.all isHexDigit then some 1
      else if ipv4AtEnd && rest.isEmpty && isIpv4 part then some 2
      else none
    let more ← groupCount? ipv4AtEnd rest
    return count + more

/-- The parts of a text between its colons. An empty text has none. -/
def groupTexts (text : String) : List String :=
  if text.isEmpty then [] else text.splitOn ":"

def isIpv6 (text : String) : Bool :=
  match text.splitOn "::" with
  | [groups] => groupCount? true (groupTexts groups) == some 8
  | [front, back] =>
    match groupCount? false (groupTexts front), groupCount? true (groupTexts back) with
    | some n, some m => n + m ≤ 7
    | _, _ => false
  | _ => false

end SchemaDraft.Connection
