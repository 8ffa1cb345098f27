import ApiTools.Decimal.Reader
import ApiTools.Http.Host
import ApiTools.Text.Base64
import ApiTools.Text.Percent
import ApiTools.Text.Search

/-!
# Addresses

The address of a request from a text. Its parts are brought into their normal forms: dot segments
are resolved, what may not stand in a part is percent-encoded, and a port is left out where the
scheme has it by itself. An address can name a user, whose name and password are sent along.
-/

namespace ApiTools.Http

/-- An address without a query. The parts are in the form in which they are written. -/
structure Url where
  scheme : List Char
  user : List Char
  host : List Char
  port : Option Int
  path : List Char
  fragment : Option (List Char)
  deriving DecidableEq, Repr

namespace Url

open ApiTools.Text

/-- The greatest number of characters of an address, and of each of its parts. -/
def lengthLimit : Nat := 65536

/-! ## Cutting -/

/-- The parts of an address, as they stand in a text. -/
structure Parts where
  scheme : List Char
  authority : List Char
  path : List Char
  fragment : Option (List Char)

/-- A text is cut before the first of some characters. -/
def cutBefore (marks : List Char) (text : List Char) : List Char × List Char :=
  (text.takeWhile fun c => !marks.contains c, text.dropWhile fun c => !marks.contains c)

/-- The scheme before the first colon, if what stands there can be one, and the rest. Nothing at all
can be one. -/
def cutScheme (text : List Char) : List Char × List Char :=
  let scheme := before ':' text
  let isScheme :=
    (scheme.head?.map Char.isAlpha).getD true &&
      scheme.all fun c => c.isAlphanum || c == '+' || c == '.' || c == '-'
  match after? ':' text with
  | some rest => if isScheme then (scheme, rest) else ([], text)
  | none => ([], text)

/-- The authority after two slashes, if there is one, and the rest. -/
def cutAuthority : List Char → List Char × List Char
  | '/' :: '/' :: rest => cutBefore ['/', '?', '#'] rest
  | text => ([], text)

/-- The parts of an address; its query is left out. -/
def cut (text : List Char) : Parts :=
  let (scheme, rest) := cutScheme text
  let (authority, rest) := cutAuthority rest
  let (path, rest) := cutBefore ['?', '#'] rest
  ⟨scheme, authority, path, after? '#' rest⟩

/-- The user before the last `@` of an authority, and the rest. -/
def cutUser (authority : List Char) : List Char × List Char :=
  let rest := (before '@' authority.reverse).reverse
  (authority.take (authority.length - rest.length - 1), rest)

/-- The host and the port of an authority without a user; colons within brackets are the host's. -/
def cutPort (text : List Char) : List Char × List Char :=
  let bracketed := (text.reverse.dropWhile (· != ']')).reverse
  let host := if text.head? = some '[' && !bracketed.isEmpty then bracketed else before ':' text
  match text.drop host.length with
  | ':' :: port => (host, port)
  | port => (host, port)

/-! ## Normal forms -/

/-- The port that a scheme has by itself. -/
def defaultPort? (scheme : List Char) : Option Int :=
  [("ftp", 21), ("http", 80), ("https", 443), ("ws", 80), ("wss", 443)].lookup
    (String.ofList scheme)

/-- The port that a text says, unless the scheme has it by itself. -/
def normalPort (scheme text : List Char) : Except Flaw (Option Int) :=
  if text.isEmpty then .ok none
  else
    match Decimal.readInteger? text with
    | some port => .ok (if defaultPort? scheme = some port then none else some port)
    | none => .error (.badPort (String.ofList text))

/-- Resolves dot segments. The segments kept so far come last one first; `..` takes the last one
back, unless there is none or only the empty one before the leading slash. -/
def resolveDots : List (List Char) → List (List Char) → List (List Char)
  | kept, [] => kept.reverse
  | kept, segment :: rest =>
    if segment = ['.'] then resolveDots kept rest
    else if segment = ['.', '.'] then
      resolveDots (if kept = [[]] then kept else kept.drop 1) rest
    else resolveDots (segment :: kept) rest

/-- The path without dot segments. -/
def resolvePath (path : List Char) : List Char :=
  ['/'].intercalate (resolveDots [] (path.splitOn '/'))

/-- A visible ASCII character. -/
def isVisible (c : Char) : Bool :=
  0x20 < c.toNat && c.toNat < 0x7F

/-- A character that stays as it is in a path. -/
def staysInPath (c : Char) : Bool :=
  isVisible c && !"\"#<>?`\x7b\x7d".toList.contains c

/-- A character that stays as it is in a fragment. -/
def staysInFragment (c : Char) : Bool :=
  isVisible c && !"\"<>`".toList.contains c

/-- A character that stays as it is in the name and password of a user. -/
def staysInUser (c : Char) : Bool :=
  staysInPath c && !"/;=@[\\]^|".toList.contains c

/-- The path is refused where nothing comes before it and its start would be read as another part of
an address. -/
def checkPath (path : List Char) : Except Flaw Unit :=
  match path with
  | '/' :: '/' :: _ => .error .doubleSlash
  | ':' :: _ => .error .leadingColon
  | _ => .ok ()

/-- The first ASCII control character of a text, with its place. -/
def control? (text : List Char) : Option (Char × Nat) :=
  text.zipIdx.find? fun (c, _) => c.toNat < 0x20 || c.toNat = 0x7F

/-- The address that the parts of a text make. -/
def ofParts (parts : Parts) : Except Flaw Url := do
  let scheme := Host.lowerAscii parts.scheme
  let (user, rest) := cutUser parts.authority
  let user := Percent.encode staysInUser user
  let (host, port) := cutPort rest
  let host ← Host.normal host
  let port ← normalPort scheme port
  let isAlone := scheme.isEmpty && user.isEmpty && host.isEmpty && port.isNone
  if isAlone then
    checkPath parts.path
  let path := if isAlone then parts.path else resolvePath parts.path
  return ⟨scheme, user, host, port, Percent.encode staysInPath path,
    parts.fragment.map (Percent.encode staysInFragment)⟩

/-- The address that a text denotes. -/
def ofText (text : List Char) : Except Flaw Url :=
  if lengthLimit < text.length then .error .tooLong
  else
    match control? text with
    | some (c, place) => .error (.control c place)
    | none => ofParts (cut text)

/-! ## Requests -/

/-- The address says by itself where a request goes. -/
def isAbsolute (url : Url) : Bool :=
  !url.scheme.isEmpty && !url.host.isEmpty

/-- The address as a request has it. Of one that is not absolute only the path is left. -/
def target (url : Url) : Url :=
  if url.isAbsolute then url
  else ⟨[], [], [], none, '/' :: url.path.dropWhile (· == '/'), none⟩

/-- The user, the host and the port. -/
def authority (url : Url) : List Char :=
  (if url.user.isEmpty then [] else url.user ++ ['@']) ++ url.host ++
    match url.port with
    | some port => ':' :: (toString port).toList
    | none => []

/-- The text of an address with a query. -/
def text (url : Url) (query : List Char) : List Char :=
  (if url.scheme.isEmpty then [] else url.scheme ++ [':']) ++
    (if url.authority.isEmpty then [] else '/' :: '/' :: url.authority) ++
    url.path ++ '?' :: query ++
    match url.fragment with
    | some fragment => '#' :: fragment
    | none => []

/-- The address that a request with a query goes to. Putting the query in brings the host, as it is
written, into its normal form once more, and takes none but parts of admissible length. -/
def addressed (url : Url) (query : List Char) : Except Flaw Url := do
  let url := url.target
  let parts := [url.authority, url.path, query, url.fragment.getD []]
  if parts.any fun part => lengthLimit < part.length then
    throw .partTooLong
  return { url with host := ← Host.normal url.host }

/-- The name and the password of the user that an address names, unless both are empty. -/
def credentials? (url : Url) : Option (List Char × List Char) :=
  let name := Percent.decode (before ':' url.user)
  let password := Percent.decode ((after? ':' url.user).getD [])
  if name.isEmpty && password.isEmpty then none else some (name, password)

/-- The header value that carries a name and a password. -/
def basicAuthorization (name password : List Char) : String :=
  String.ofList ("Basic ".toList ++ Base64.encode (Utf8.encode (name ++ ':' :: password)))

/-! ## References -/

/-- What is wrong with an address that a response refers to, where it is to be put beside that of
the request: with a scheme and without a host it gets the request's host, and then its path has to
start with a slash. -/
def referenceFlaw? (url : Url) : Option Flaw :=
  if url.scheme.isEmpty || !url.host.isEmpty then none
  else
    match url.path with
    | [] | '/' :: _ => none
    | _ => some .noSlash

end Url

end ApiTools.Http
