import ApiTools.Call
import ApiTools.Formatter
import ApiTools.Json.Printer
import ApiTools.Path
import ApiTools.Text.Case
import ApiTools.Text.Percent

/-!
# Handlers

A handler is what a call of a tool needs to know: the method and path of the operation, which
arguments go into the query, which into the body, and how the response is shown. From the arguments
of a call it makes one request to the service.
-/

namespace ApiTools

/-- How a tool answers calls. Every format but `simple` shows the response as JSON. -/
structure Handler where
  toolName : String
  method : String
  path : String
  queryKeys : List Json
  /-- For each flattened argument, the body property that holds it. -/
  flatten : List (String × String)
  responseFormat : String
  formatter : Option Formatter

/-- The arguments of a call. -/
abbrev Arguments := List (String × Json)

namespace Arguments

/-- The argument with a name, unless it is absent or null. -/
def given? (args : Arguments) (name : String) : Option Json :=
  (Keyed.get? name args).filter fun value => !value.isNull

end Arguments

/-- A value as a part of a path. -/
def encodePathValue (name : String) (value : Json) : Except Fault String :=
  match value with
  | .null => .error (.missingPathValue name)
  | .bool true => .ok "true"
  | .bool false => .ok "false"
  | value => .ok (String.ofList (Text.Percent.encodeComponent value.shown))

namespace Handler

/-- A handler; one with formatted responses needs a formatter. -/
def make (toolName method path : String) (queryKeys : List Json) (flatten : List (String × String))
    (responseFormat : String) (formatter : Option Formatter) : Except Fault Handler :=
  if responseFormat = "simple" ∧ formatter.isNone then .error (.formatterMissing toolName)
  else .ok ⟨toolName, method, path, queryKeys, flatten, responseFormat, formatter⟩

/-- The handler's method in upper case. -/
def verb (handler : Handler) : String :=
  String.ofList (Text.upper handler.method.toList)

/-- Requests of this method send a body. -/
def hasBody (handler : Handler) : Bool :=
  ["POST", "PUT", "PATCH"].contains handler.verb

/-! ## Requests -/

/-- The text of a piece of the path, with the placeholders' values encoded. -/
def fillPiece (args : Arguments) : Path.Piece → Except Fault (List Char)
  | .char c => .ok [c]
  | .placeholder name =>
    (encodePathValue name ((Keyed.get? name args).getD .null)).map String.toList

/-- The path before the query markers, with the placeholders' values filled in. -/
def endpoint (handler : Handler) (args : Arguments) : Except Fault String := do
  let texts ← (Path.pieces (Path.route handler.path.toList)).mapM (fillPiece args)
  return String.ofList texts.flatten

/-- The query arguments of the markers, all of which are needed. -/
def markerQuery (args : Arguments) : List String → List (String × Json) →
    Except Fault (List (String × Json))
  | [], query => .ok query
  | marker :: rest, query =>
    match args.given? marker with
    | some value => markerQuery args rest (Keyed.put marker value query)
    | none => .error (.missingPathValue marker)

/-- Adds the query argument with a name, if it is given. Arguments are named by texts, and only an
atomic value can be looked up. -/
def addQuery (args : Arguments) (query : List (String × Json)) (key : Json) :
    Except Fault (List (String × Json)) :=
  match key with
  | .str key =>
    match args.given? key with
    | some value => .ok (Keyed.put key value query)
    | none => .ok query
  | .arr _ | .obj _ => .error .wrongKind
  | _ => .ok query

/-- The query of a request: the markers first, then the other query arguments. -/
def query (handler : Handler) (args : Arguments) : Except Fault (List (String × Json)) := do
  let first ← markerQuery args (Path.markers handler.path.toList) []
  handler.queryKeys.foldlM (addQuery args) first

/-- The body of a request: the argument of that name, or the object that holds each flattened
argument as the only item of its property. -/
def body (handler : Handler) (args : Arguments) : Json :=
  if handler.flatten.isEmpty then (Keyed.get? "body" args).getD .null
  else
    .obj (handler.flatten.foldl (fun done (singular, plural) =>
      match args.given? singular with
      | some value => Keyed.put plural (.arr [value]) done
      | none => done) [])

/-- The request for a call. -/
def call (handler : Handler) (args : Arguments) : Except Fault Call := do
  let endpoint ← handler.endpoint args
  let query ← handler.query args
  return ⟨endpoint, handler.verb, query, if handler.hasBody then some (handler.body args) else none⟩

/-! ## Responses -/

/-- The response to a call as the tool shows it. -/
def format (handler : Handler) (args : Arguments) (response : Json) : Except Fault Content :=
  if handler.responseFormat = "simple" then
    match handler.formatter with
    | some formatter => formatter.apply response (.obj args)
    | none => .error (.formatterMissing handler.toolName)
  else
    .ok (.one (response.toLines false))

end Handler

end ApiTools
