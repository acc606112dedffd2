import SchemaDraft.Text.Escaped
import SchemaDraft.Text.Utf8

/-!
Why a connection string cannot be used, or leads to no database.
-/

namespace SchemaDraft

/-- What is wrong with the form of a connection string. -/
inductive UrlError where
  | noScheme
  | emptyHost
  | hostCharacter
  | domain
  | ipv4
  | ipv6
  | portNumber
  deriving DecidableEq

def UrlError.message : UrlError → String
  | .noScheme => "relative URL without a base"
  | .emptyHost => "empty host"
  | .hostCharacter => "invalid domain character"
  | .domain => "invalid international domain name"
  | .ipv4 => "invalid IPv4 address"
  | .ipv6 => "invalid IPv6 address"
  | .portNumber => "invalid port number"

inductive NumberError where
  | empty
  | digit
  | tooLarge
  deriving DecidableEq

def NumberError.message : NumberError → String
  | .empty => "cannot parse integer from empty string"
  | .digit => "invalid digit found in string"
  | .tooLarge => "number too large to fit in target type"

/-- Why there is no connection. -/
inductive ConnectionError where
  | url (error : UrlError)
  | encoding (error : Text.Utf8Error)
  | number (error : NumberError)
  | address
  | securityMode (value : String)
  /-- Nothing answers. -/
  | unreachable
  deriving DecidableEq

namespace ConnectionError

def inSettings (reason : String) : String := "error with configuration: " ++ reason

def securityModeText (value : String) : String :=
  "unknown value " ++ Text.escaped value ++ " for `ssl_mode`"

def message : ConnectionError → String
  | .url e => inSettings e.message
  | .encoding e => inSettings e.message
  | .number e => inSettings e.message
  | .address => inSettings "invalid IP address syntax"
  | .securityMode value => inSettings (inSettings (securityModeText value))
  | .unreachable => "pool timed out while waiting for an open connection"

/-- The errors beneath, the nearest one first. -/
def reasons : ConnectionError → List String
  | .url e => [e.message]
  | .encoding e => [e.message]
  | .number e => [e.message]
  | .address => ["invalid IP address syntax"]
  | .securityMode value => [inSettings (securityModeText value), securityModeText value]
  | .unreachable => []

end ConnectionError

end SchemaDraft
