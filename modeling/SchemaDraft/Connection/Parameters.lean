import SchemaDraft.Connection.Url
import SchemaDraft.Log

/-!
What a connection string tells about a connection: the parts of the URL, and the parameters in its
query. They are read in order up to the first that cannot be used. A parameter that is not known is
passed over with a warning.
-/

namespace SchemaDraft.Connection

/-- Reads digits that follow digits with the value `n`. -/
def checkDigits (bound n : Nat) : List Char → Except NumberError Unit
  | [] => .ok ()
  | c :: rest =>
    let next := n * 10 + (c.toNat - '0'.toNat)
    if !c.isDigit then .error .digit
    else if bound ≤ next then .error .tooLarge
    else checkDigits bound next rest

/-- Checks a decimal number below `bound`, which may have a plus sign. -/
def checkNumber (bound : Nat) (text : String) : Except NumberError Unit :=
  match text.toList with
  | [] => .error .empty
  | ['+'] => .error .digit
  | '+' :: digits => checkDigits bound 0 digits
  | digits => checkDigits bound 0 digits

/-- Checks that a part of a URL is text. -/
def checkText (part : List Char) : Except ConnectionError Unit :=
  match Text.ofUtf8 (Text.percentBytes part) with
  | .ok _ => .ok ()
  | .error e => .error (.encoding e)

/-- Checks the parts of a URL before its query. Of hosts only the path of a socket has to be
text. -/
def Url.checkParts (url : Url) : Except ConnectionError Unit := do
  if (Text.percentBytes url.host).head? = some 0x2F then checkText url.host
  checkText url.username
  checkText url.password
  checkText (url.path.dropWhile (· = '/'))

/-- A piece of a query as text: a plus sign stands for a space. -/
def queryText (piece : List Char) : String :=
  Text.ofUtf8Lossy (Text.percentBytes (piece.map fun c => if c = '+' then ' ' else c))

/-- The names and values of the parameters in a query. -/
def Url.parameters (url : Url) : List (String × String) :=
  ((Url.pieces (· = '&') url.query).filter (!·.isEmpty)).map fun piece =>
    let (name, value) := piece.span (· ≠ '=')
    (queryText name, queryText (value.drop 1))

def securityModes : List String :=
  ["disable", "allow", "prefer", "require", "verify-ca", "verify-full"]

/-- Parameters that take any value. -/
def isFreeParameter (name : String) : Bool :=
  ["sslrootcert", "ssl-root-cert", "ssl-ca", "sslcert", "ssl-cert", "sslkey", "ssl-key", "host",
    "dbname", "user", "password", "application_name", "options"].contains name ||
    "options[".isPrefixOf name

inductive ParameterCheck where
  | accepted
  | unrecognized
  | refused (error : ConnectionError)

def ParameterCheck.ofNumber : Except NumberError Unit → ParameterCheck
  | .ok _ => .accepted
  | .error e => .refused (.number e)

def checkParameter (name value : String) : ParameterCheck :=
  match name with
  | "sslmode" | "ssl-mode" =>
    if securityModes.contains value.toLower then .accepted else .refused (.securityMode value)
  | "statement-cache-capacity" => .ofNumber (checkNumber UInt64.size value)
  | "port" => .ofNumber (checkNumber UInt16.size value)
  | "hostaddr" => if isIpv4 value || isIpv6 value then .accepted else .refused .address
  | name => if isFreeParameter name then .accepted else .unrecognized

/-- What reading a connection string comes to. -/
structure Check where
  warnings : List LogEntry := []
  error : Option ConnectionError := none

def unrecognizedEntry (name value : String) : LogEntry :=
  { level := .warn
    message := "ignoring unrecognized connect parameter"
    fields := [⟨"key", name, false⟩, ⟨"value", value, false⟩] }

def checkParameters : List (String × String) → Check
  | [] => {}
  | (name, value) :: rest =>
    match checkParameter name value with
    | .accepted => checkParameters rest
    | .unrecognized =>
      let check := checkParameters rest
      { check with warnings := unrecognizedEntry name value :: check.warnings }
    | .refused e => { error := some e }

/-- Checks a connection string. -/
def check (text : String) : Check :=
  match Url.ofText text with
  | .error e => { error := some (.url e) }
  | .ok url =>
    match url.checkParts with
    | .error e => { error := some e }
    | .ok _ => checkParameters url.parameters

end SchemaDraft.Connection
