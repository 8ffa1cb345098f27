import ApiTools.Fault
import ApiTools.Http.Pagination
import ApiTools.Http.Reason
import ApiTools.Json.Reader

/-!
# Answers

What a reply of the service means: data, perhaps with its place in a list of pages, or a failure of
the service. The text of a body is read piece by piece, and no further than to the limit of its
size.
-/

namespace ApiTools

open ApiTools.Http

/-- What the service answered to one request. -/
structure Answer where
  data : Json
  pagination : Option Pagination
  deriving DecidableEq

namespace Answer

/-- The greatest number of characters of a body. -/
def sizeLimit : Nat := 500000

/-- How many characters of a body that is too long are kept. -/
def keptSize : Nat := 1024

/-- Reads the pieces of a body up to the one that exceeds the limit. `read` has the pieces so far,
last one first, and `size` is the number of their characters. The result is the whole text, or else
the part of it that was read. -/
def gather (size : Nat) (read : List (List Char)) :
    List (List Char) → Except (List Char) (List Char)
  | [] => .ok read.reverse.flatten
  | piece :: rest =>
    if sizeLimit < size + piece.length then .error (piece :: read).reverse.flatten
    else gather (size + piece.length) (piece :: read) rest

/-- The failure that a status and the text of a body say. -/
def failure (message : String) (response : Response) (text : List Char) : Fault :=
  .api ⟨message, response.status, some (String.ofList text)⟩

/-- The data in the text of a body; an empty one holds null. A text that is no document is a failure
of the service. -/
def dataOf (response : Response) (text : List Char) : Except Fault Json :=
  if text.isEmpty then .ok .null
  else
    match Json.read text with
    | .ok data => .ok data
    | .error .malformedJson =>
      .error (failure "simkl api error: invalid json response" response text)
    | .error fault => .error fault

/-- The meaning of a response whose body has been read. -/
def ofText (response : Response) (text : List Char) : Except Fault Answer :=
  if !response.isSuccess then
    .error (failure s!"simkl api error: {response.status} {reasonPhrase response.status}" response
      text)
  else do
    let pagination ← Pagination.ofResponse response
    return ⟨← dataOf response text, pagination⟩

/-! ## Redirections -/

/-- The failure of a request for which no response could be made use of. -/
def unanswered (message : String) : Fault :=
  .api ⟨s!"simkl api request failed: {message}", 0, none⟩

/-- The address that a response refers to. -/
def location (response : Response) : Json :=
  match response.header? "location" with
  | some address => .str address
  | none => .null

/-- The statuses of redirections, whose responses say where to go. -/
def redirections : List Nat :=
  [301, 302, 303, 307, 308]

/-- Refuses a redirection to what is no address. -/
def checkLocation (response : Response) : Except Fault Unit :=
  match response.header? "location" with
  | some address =>
    if redirections.contains response.status then
      match Url.ofText address.toList with
      | .error flaw => .error (unanswered s!"Invalid URL in location header: {flaw.message}.")
      | .ok url =>
        match url.referenceFlaw? with
        | some flaw => .error (.badAddress flaw)
        | none => .ok ()
    else .ok ()
  | none => .ok ()

/-! ## Replies -/

/-- The meaning of a response. Without content there is no data, and a redirection is reported, not
followed; in both cases the body is not read. -/
def ofResponse (response : Response) : Except Fault Answer := do
  checkLocation response
  if response.status = 204 then
    return ⟨.obj [], none⟩
  else if response.status = 302 then
    return ⟨.obj [("redirectUrl", location response)], none⟩
  else
    match gather 0 [] response.texts with
    | .ok text => ofText response text
    | .error text =>
      throw (failure "simkl api error: response too large" response (text.take keptSize))

/-- The meaning of the reply to a request. A response can only come from an absolute address. -/
def ofReply (request : Request) : Reply → Except Fault Answer
  | .response response =>
    if request.address.isAbsolute then ofResponse response else .error .relativeAddress
  | .failure message => .error (unanswered message)

end Answer

end ApiTools
