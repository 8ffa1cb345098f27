import ApiTools.Answer
import ApiTools.Call
import ApiTools.Http.Wire
import ApiTools.Json.Literal
import ApiTools.Json.Printer
import ApiTools.Text.Case

/-!
# The client

The client makes HTTP requests of calls and sends them. It adds its own identifier to every query
and the user's access token, where there is one, to the header. Lists that the service gives out in
pages can be fetched page by page.
-/

namespace ApiTools

open ApiTools.Http
open ApiTools.Text

/-- The service as the client knows it. -/
structure Client where
  baseUrl : String
  clientId : String
  deriving DecidableEq, Repr

namespace Client

/-- The address of the service. -/
def defaultBaseUrl : String := "https://api.simkl.com"

/-- A client for the service at an address, whose trailing slashes do not count. -/
def make (baseUrl clientId : String) : Client :=
  ⟨String.ofList (baseUrl.toList.reverse.dropWhile (· == '/')).reverse, clientId⟩

/-! ## Requests -/

/-- The text of the address of an endpoint, before its query. -/
def address (client : Client) (endpoint : String) : List Char :=
  let path := endpoint.toList
  client.baseUrl.toList ++ if path.head? = some '/' then path else '/' :: path

/-- A single value in a query. -/
def valueText : Json → List Char
  | .null => []
  | .bool true => "true".toList
  | .bool false => "false".toList
  | value => value.shown

/-- The parameters that an argument of a query becomes: one for each item of a list. -/
def parametersOf (argument : String × Json) : List (List Char × List Char) :=
  match argument.2 with
  | .arr items => items.map fun item => (argument.1.toList, valueText item)
  | value => [(argument.1.toList, valueText value)]

/-- The arguments of the query that is sent: the client's identifier, then those of the call that
are not null. -/
def arguments (client : Client) (query : List (String × Json)) : List (String × Json) :=
  (query.filter fun argument => !argument.2.isNull).foldl
    (fun done argument => Keyed.put argument.1 argument.2 done)
    [("client_id", .str client.clientId)]

/-- The header that carries an access token; an empty token is none. Headers are ASCII. -/
def bearer : Option String → Except Fault (Option String)
  | none => .ok none
  | some token =>
    if token.isEmpty then .ok none
    else if token.toList.all fun c => c.toNat < 0x80 then .ok (some s!"Bearer {token}")
    else .error .tokenNotAscii

/-- The header that says who asks: the user that the address names, else the access token. -/
def authorization (address : Url) (bearer : Option String) : Option String :=
  match address.credentials? with
  | some (name, password) => some (Url.basicAuthorization name password)
  | none => bearer

/-- The body that is sent: none with the method GET and none for a null value. -/
def bodyText (method : String) (body : Option Json) : String :=
  match body with
  | none | some .null => ""
  | some value => if method = "GET" then "" else value.toLine

/-- The request for a call. -/
def request (client : Client) (token : Option String) (call : Call) : Except Fault Request := do
  let url ← (Url.ofText (client.address call.endpoint)).mapError .badAddress
  let bearer ← bearer token
  let query := Percent.encodePairs ((client.arguments call.query).flatMap parametersOf)
  let address ← (url.addressed query).mapError .badAddress
  let method := String.ofList (Text.upper call.method.toList)
  return {
    method := method
    address := address
    query := query
    authorization := authorization address bearer
    contentType := "application/json"
    body := bodyText method call.body }

/-- Makes a call. -/
def fetch (client : Client) (token : Option String) (call : Call) : Talk Answer := do
  let request ← Talk.ofResult (client.request token call)
  let reply ← Talk.exchange request
  Talk.ofResult (Answer.ofReply request reply)

/-! ## Pages -/

/-- The call with further arguments of the query, as far as they are given. -/
def withQuery (call : Call) (arguments : List (String × Option Int)) : Call :=
  { call with
    query := arguments.foldl (fun query argument =>
      match argument.2 with
      | some value => Keyed.put argument.1 (.int value) query
      | none => query) call.query }

/-- The items of a page. -/
def itemsOf (answer : Answer) : Except Fault (List Json) :=
  match answer.data with
  | .arr items => .ok items
  | _ => .error (.api ⟨"simkl api error: fetchAllPages requires array response", 0, none⟩)

/-- Fetches a number of consecutive pages, of which the first has the given number. -/
def fetchItems (client : Client) (token : Option String) (call : Call) :
    (count : Nat) → (page : Int) → Talk (List Json)
  | 0, _ => pure []
  | count + 1, page => do
    let answer ← client.fetch token (withQuery call [("page", some page)])
    let items ← Talk.ofResult (itemsOf answer)
    let others ← client.fetchItems token call count (page + 1)
    return items ++ others

/-- What is asked of a list that comes in pages. -/
structure Paging where
  page : Option Int
  limit : Option Int
  /-- Fetch the following pages too. -/
  all : Bool
  /-- The number of the last page to fetch, if not that of the last one there is. -/
  maxPages : Option Int

/-- Makes a call that is answered by a page of a list. With `all` the pages after it are fetched one
after another, and the answer holds the items of them all. -/
def fetchPages (client : Client) (token : Option String) (call : Call) (paging : Paging) :
    Talk Answer := do
  let call := withQuery call [("page", paging.page), ("limit", paging.limit)]
  let first ← client.fetch token call
  match paging.all, first.pagination with
  | true, some pagination =>
    let items ← Talk.ofResult (itemsOf first)
    let last :=
      match paging.maxPages with
      | some most => min most pagination.pageCount
      | none => pagination.pageCount
    let others ←
      client.fetchItems token call (last - pagination.page).toNat (pagination.page + 1)
    return ⟨.arr (items ++ others), some { pagination with pageCount := last }⟩
  | _, _ => return first

end Client

end ApiTools
