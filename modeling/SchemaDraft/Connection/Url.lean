import SchemaDraft.Connection.Host

/-!
Connection strings as URLs: a scheme, then perhaps a user with a password, an address, which is a
host and perhaps a number after it, a path, and a query. The parts are kept as they are written,
percent-encoded. Tabs and line ends anywhere, and blanks and controls at the ends, do not count.
-/

namespace SchemaDraft.Connection

inductive SchemeKind where
  /-- Hosts are domain names, and there always is one. -/
  | web
  /-- Hosts are domain names, and an address is nothing but a host. -/
  | file
  | other
  deriving DecidableEq

namespace SchemeKind

def ofName (scheme : String) : SchemeKind :=
  if scheme = "file" then .file
  else if ["http", "https", "ws", "wss", "ftp"].contains scheme then .web
  else .other

def isSlash (kind : SchemeKind) (c : Char) : Bool := c = '/' || (c = '\\' && kind ≠ .other)

/-- Whether the user and the address end in front of a character. -/
def endsAuthority (kind : SchemeKind) (c : Char) : Bool := kind.isSlash c || c = '?' || c = '#'

end SchemeKind

/-- The parts of a URL, each empty where it is missing. -/
structure Url where
  username : List Char := []
  password : List Char := []
  host : List Char := []
  /-- The path without the slash in front of it. -/
  path : List Char := []
  query : List Char := []

namespace Url

/-- The pieces between separators. -/
def pieces (isSeparator : Char → Bool) : List Char → List (List Char)
  | [] => [[]]
  | c :: rest =>
    if isSeparator c then [] :: pieces isSeparator rest
    else match pieces isSeparator rest with
      | [] => [[c]]
      | piece :: more => (c :: piece) :: more

/-- Segments that stand for the directory they are in. -/
def isHere (segment : List Char) : Bool :=
  [".", "%2e"].contains (String.ofList (segment.map Char.toLower))

/-- Segments that stand for the directory above. -/
def isAbove (segment : List Char) : Bool :=
  ["..", ".%2e", "%2e.", "%2e%2e"].contains (String.ofList (segment.map Char.toLower))

/-- Segments that name a drive. A backslash may part the drive from more. -/
def isDriveSegment : List Char → Bool
  | letter :: mark :: rest =>
    letter.isAlpha && (mark = ':' || mark = '|') && (rest.isEmpty || rest.head? = some '\\')
  | _ => false

/-- The directory above. There is none above a drive. -/
def above (dir : List (List Char)) : List (List Char) :=
  if dir.getLast?.any isDriveSegment then dir else dir.dropLast

/-- Follows segments from a directory. A path that ends in a directory ends in an empty segment. -/
def follow (dir : List (List Char)) : List (List Char) → List (List Char)
  | [] => dir
  | segment :: rest =>
    let close (dir : List (List Char)) := if rest.isEmpty then dir ++ [[]] else dir
    if isAbove segment then follow (close (above dir)) rest
    else if isHere segment then follow (close dir) rest
    else follow (dir ++ [segment]) rest

def pathOf (kind : SchemeKind) (text : List Char) : List Char :=
  ['/'].intercalate (follow [] (pieces kind.isSlash text))

/-- The query, where a path ends. What follows a number sign is no part of it. -/
def queryOf : List Char → List Char
  | '?' :: rest => rest.takeWhile (· ≠ '#')
  | _ => []

/-- Completes a URL with the path and the query in a text. -/
def withPath (kind : SchemeKind) (url : Url) (text : List Char) : Url :=
  let (path, rest) := text.span fun c => c ≠ '?' && c ≠ '#'
  let path := match path with
    | [] => []
    | c :: more => pathOf kind (if kind.isSlash c then more else path)
  { url with path, query := queryOf rest }

/-- The parts of a text before and after its last at sign. -/
def splitUser? (text : List Char) : Option (List Char × List Char) :=
  match text.reverse.span (· ≠ '@') with
  | (after, _ :: before) => some (before.reverse, after.reverse)
  | _ => none

/-- The parts of a text before and from the first colon that is not between brackets. -/
def splitHost (bracketed : Bool) : List Char → List Char × List Char
  | [] => ([], [])
  | c :: rest =>
    if c = ':' && !bracketed then ([], c :: rest)
    else
      let (host, number) := splitHost (c = '[' || (bracketed && c ≠ ']')) rest
      (c :: host, number)

/-- Passes over the number after a host, with the colon in front of it. A backslash may end it. -/
def skipPortNumber : List Char → Except UrlError (List Char)
  | [] => .ok []
  | _ :: text =>
    let (digits, rest) := text.span Char.isDigit
    let number := digits.foldl (fun n c => n * 10 + (c.toNat - '0'.toNat)) 0
    if number < 65536 && (rest.isEmpty || rest.head? = some '\\') then .ok rest
    else .error .portNumber

def checkHost (kind : SchemeKind) (host : List Char) : Except UrlError Unit :=
  match kind with
  | .other => checkPlainHost host
  | .web => if host.isEmpty then .error .emptyHost else checkDomain host
  | .file => if host.isEmpty then .ok () else checkDomain host

/-- Reads what follows two slashes: a user, an address, and the rest. A user and a number need a
host. -/
def ofAuthority (kind : SchemeKind) (text : List Char) : Except UrlError Url := do
  let (authority, rest) := text.span fun c => !kind.endsAuthority c
  let (user, address) := (splitUser? authority).getD ([], authority)
  if authority = ['@'] && !rest.isEmpty then throw .emptyHost
  let (host, number) := splitHost false address
  checkHost kind host
  if host.isEmpty && !number.isEmpty then throw .emptyHost
  let afterNumber ← skipPortNumber number
  let username := user.takeWhile (· ≠ ':')
  let password := (user.dropWhile (· ≠ ':')).drop 1
  if host.isEmpty && !(username.isEmpty && password.isEmpty) then throw .emptyHost
  return withPath kind { username, password, host } (afterNumber ++ rest)

/-- Whether a text is the letter of a drive, which is no host. -/
def isDrive : List Char → Bool
  | [letter, mark] => letter.isAlpha && (mark = ':' || mark = '|')
  | _ => false

/-- Reads what follows the scheme of a file. -/
def ofFile (text : List Char) : Except UrlError Url :=
  match text with
  | a :: b :: text =>
    if SchemeKind.file.isSlash a && SchemeKind.file.isSlash b then do
      let (host, rest) := text.span fun c => !SchemeKind.file.endsAuthority c
      if isDrive host then return withPath .file {} text
      checkHost .file host
      return withPath .file { host } rest
    else .ok (withPath .file {} (a :: b :: text))
  | text => .ok (withPath .file {} text)

/-- The scheme of a text, in lower case, and what follows its colon. -/
def splitScheme? (text : List Char) : Option (String × List Char) :=
  let (name, rest) := text.span fun c => c.isAlphanum || c = '+' || c = '-' || c = '.'
  match name, rest with
  | first :: _, ':' :: rest =>
    if first.isAlpha then some (String.ofList (name.map Char.toLower), rest) else none
  | _, _ => none

/-- The characters of a text that count. -/
def significant (text : String) : List Char :=
  let front := text.toList.dropWhile (· ≤ ' ')
  let both := (front.reverse.dropWhile (· ≤ ' ')).reverse
  both.filter fun c => c ≠ '\t' && c ≠ '\n' && c ≠ '\r'

def ofText (text : String) : Except UrlError Url :=
  match splitScheme? (significant text) with
  | none => .error .noScheme
  | some (scheme, rest) =>
    match SchemeKind.ofName scheme, rest with
    | .web, rest => ofAuthority .web (rest.dropWhile SchemeKind.web.isSlash)
    | .file, rest => ofFile rest
    | .other, '/' :: '/' :: rest => ofAuthority .other rest
    | .other, '/' :: rest => .ok (withPath .other {} ('/' :: rest))
    | .other, rest =>
      let (path, rest) := rest.span fun c => c ≠ '?' && c ≠ '#'
      .ok { path, query := queryOf rest }

end Url

end SchemaDraft.Connection
