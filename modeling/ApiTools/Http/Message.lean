import ApiTools.Http.Url
import ApiTools.Text.Blank
import ApiTools.Text.Utf8

/-!
# Messages

Requests as they are sent and responses as they arrive: the header lines, and a body that comes in
chunks of bytes and is read as text in the character set that the response names.
-/

namespace ApiTools.Http

/-- A request. -/
structure Request where
  method : String
  address : Url
  /-- The query, encoded. -/
  query : List Char
  /-- The `Authorization` header, where one is sent. -/
  authorization : Option String
  contentType : String
  body : String
  deriving DecidableEq, Repr

/-- The text of the address that a request goes to. -/
def Request.url (request : Request) : String :=
  String.ofList (request.address.text request.query)

/-- A response. -/
structure Response where
  status : Nat
  headers : List (String × String)
  chunks : List (List UInt8)
  deriving DecidableEq

/-- What comes back for a request: a response, or the text of a failure in transport. -/
inductive Reply where
  | response (response : Response)
  | failure (message : String)
  deriving DecidableEq

namespace Response

/-- The value of a header, whose name is given in lower case. Values of repeated lines are joined.
-/
def header? (response : Response) (name : String) : Option String :=
  let values := response.headers.filterMap fun (key, value) =>
    if String.ofList (key.toList.map Char.toLower) = name then some value else none
  if values.isEmpty then none else some (", ".intercalate values)

/-- The response reports success. -/
def isSuccess (response : Response) : Bool :=
  200 ≤ response.status && response.status < 300

end Response

/-! ## Character sets -/

/-- How the bytes of a body are read. -/
inductive Charset where
  | utf8
  | latin1
  | ascii
  deriving DecidableEq, Repr

namespace Charset

/-- The names of the character sets, in lower case with single underscores between their parts. -/
def names : List (Charset × List String) := [
  (.utf8, ["utf_8", "utf8", "u8", "utf", "cp65001"]),
  (.latin1, ["iso8859_1", "iso_8859_1", "8859", "cp819", "latin", "latin1", "latin_1", "l1",
    "iso8859", "ibm819", "iso_ir_100", "csisolatin1"]),
  (.ascii, ["ascii", "us_ascii", "646", "us", "ansi_x3.4_1968", "ibm367", "cp367", "csascii",
    "iso_ir_6", "iso646_us"])]

/-- A name in the form in which names are listed: what is neither letter, digit nor point separates
parts. -/
def normalName (name : List Char) : String :=
  let parts := (name.map Char.toLower).splitOnP fun c => !(c.isAlphanum || c == '.')
  String.ofList (['_'].intercalate (parts.filter fun part => !part.isEmpty))

/-- The character set with a name. -/
def ofName? (name : List Char) : Option Charset :=
  (names.find? fun entry => entry.2.contains (normalName name)).map Prod.fst

/-- The value of a parameter, without quotes. -/
def unquote (value : List Char) : List Char :=
  match value with
  | '"' :: rest => Text.before '"' rest
  | value => value

/-- The character set named in a content type, if it is a known one. -/
def ofContentType? (contentType : String) : Option Charset :=
  let value? := (contentType.toList.splitOn ';').findSome? fun parameter =>
    let name := Text.trim (Text.before '=' parameter)
    if String.ofList (name.map Char.toLower) = "charset" then
      (Text.after? '=' parameter).map fun value => unquote (Text.trim value)
    else none
  value?.bind ofName?

/-- The character set of a response's body. -/
def ofResponse (response : Response) : Charset :=
  ((response.header? "content-type").bind ofContentType?).getD .utf8

/-- A byte in a character set of single bytes. -/
def charOfByte (charset : Charset) (byte : UInt8) : Char :=
  match charset with
  | .ascii => if byte.toNat < 0x80 then Char.ofNat byte.toNat else '\uFFFD'
  | _ => Char.ofNat byte.toNat

/-- The text of chunks of UTF-8, where a character may begin in one chunk and end in another. The
last text is what is left when all chunks have come. -/
def decodeChunks (decoder : Text.Utf8.Decoder) : List (List UInt8) → List (List Char)
  | [] => [decoder.finish]
  | chunk :: rest =>
    let next := chunk.foldl Text.Utf8.Decoder.step decoder
    next.chars.reverse :: decodeChunks ⟨[], next.pending⟩ rest

/-- The texts of the chunks of a body. -/
def decode (charset : Charset) (chunks : List (List UInt8)) : List (List Char) :=
  match charset with
  | .utf8 => decodeChunks .start chunks
  | _ => chunks.map fun chunk => chunk.map charset.charOfByte

end Charset

/-- The text of a response's body, in the pieces in which it arrives. -/
def Response.texts (response : Response) : List (List Char) :=
  (Charset.ofResponse response).decode response.chunks

end ApiTools.Http
