import SchemaDraft.Connection.Address
import SchemaDraft.Connection.DomainName
import SchemaDraft.Connection.Error
import SchemaDraft.Text.Percent

/-!
Which hosts a connection string may name. A host between brackets is an IPv6 address. Otherwise it
is a name, of which the schemes of the web and of files demand more than other schemes do: there it
is a domain name, and one that ends in a number has to be an IPv4 address, whose parts may be
written in octal or hexadecimal and whose last part may stand for several bytes.
-/

namespace SchemaDraft.Connection

def hostMarks : List Char :=
  ['\x00', '\t', '\n', '\r', ' ', '#', '/', ':', '<', '>', '?', '@', '[', '\\', ']', '^', '|']

/-- Checks an address that starts with a bracket. -/
def checkBracketed (host : List Char) : Except UrlError Unit :=
  if host.getLast? = some ']' && isIpv6 (String.ofList (host.drop 1).dropLast) then .ok ()
  else .error .ipv6

/-- Checks the host of a scheme that asks for no domain names. -/
def checkPlainHost (host : List Char) : Except UrlError Unit :=
  if host.head? = some '[' then checkBracketed host
  else if host.any hostMarks.contains then .error .hostCharacter
  else .ok ()

/-- The value of a numeral with the given base. No digits at all stand for zero. -/
def numeral? (base : Nat) (digits : List Char) : Option Nat :=
  digits.foldlM (fun n c =>
    if isHexDigit c then
      let digit := if c.isDigit then c.toNat - '0'.toNat else c.toLower.toNat - 'a'.toNat + 10
      if digit < base then some (n * base + digit) else none
    else none) 0

/-- The value of one part of an IPv4 address. -/
def ipv4Part? (part : String) : Option Nat :=
  match part.toList with
  | [] => none
  | '0' :: 'x' :: digits | '0' :: 'X' :: digits => numeral? 16 digits
  | '0' :: digit :: digits => numeral? 8 (digit :: digits)
  | digits => numeral? 10 digits

/-- The labels of a domain name. A dot at its end starts no further label. -/
def labels (name : String) : List String :=
  let all := name.splitOn "."
  if all.getLast? = some "" then all.dropLast else all

def endsInNumber (name : String) : Bool :=
  match (labels name).getLast? with
  | none => false
  | some label =>
    (!label.isEmpty && label.toList.all Char.isDigit) || (ipv4Part? label).isSome

/-- Whether the labels of a name are the parts of an IPv4 address. -/
def isIpv4Name (name : String) : Bool :=
  match (labels name).mapM ipv4Part? with
  | none => false
  | some parts =>
    parts.length ≤ 4 && parts.dropLast.all (· < 256) &&
      parts.getLast?.any (· < Nat.pow 256 (5 - parts.length))

/-- Checks the host of a scheme that asks for domain names. -/
def checkDomain (host : List Char) : Except UrlError Unit :=
  if host.head? = some '[' then checkBracketed host
  else match Text.ofUtf8 (Text.percentBytes host) with
    | .error _ => .error .domain
    | .ok name =>
      match domainName? name.toList with
      | none => .error .domain
      | some [] => .error .emptyHost
      | some name =>
        let name := String.ofList name
        if endsInNumber name && !isIpv4Name name then .error .ipv4 else .ok ()

end SchemaDraft.Connection
