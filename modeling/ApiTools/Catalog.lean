import ApiTools.Field
import ApiTools.Handler
import ApiTools.Hint
import ApiTools.ToolName
import ApiTools.Whitelist

/-!
# The catalog

Compiling an API description: every operation of the whitelist that the description holds becomes a
tool with its arguments, its hints and its handler. Operations that the description lacks are passed
over with a warning.
-/

namespace ApiTools

/-- A compiled tool. -/
structure Tool where
  name : String
  description : String
  fields : List Field
  hints : List Hint
  handler : Handler

namespace Tool

/-- The name of a tool's argument model. -/
def modelName (tool : Tool) : String :=
  ToolName.modelName tool.name

end Tool

/-- The compiled tools of an API description. -/
structure Catalog where
  /-- The tools, in the order of the whitelist. -/
  tools : List Tool
  /-- The formatters of the tools whose responses are put into words. -/
  formatters : List (String × Formatter)
  /-- The version of the description. -/
  version : Json
  warnings : List Warning

namespace Catalog

/-! ## Operations -/

/-- The operation at a path, written with braces, and a method; null where there is none. -/
def operation (description : Json) (path method : String) : Except Fault Json := do
  let paths ← description.memberOr "paths" (.obj [])
  let operations ← paths.part path
  operations.member (String.ofList (Text.lower method.toList))

/-- The schema of a request body. One that is not described is an object. -/
def bodySchema (requestBody : Json) : Except Fault Json := do
  let content ← requestBody.part "content"
  let document ← content.part "application/json"
  return (← document.member "schema").orElse (.obj [("type", .str "object")])

/-- The parameters of an operation; a request body is one more. -/
def parameters (operation : Json) : Except Fault (List Json) := do
  let listed ← ((← operation.member "parameters").orElse (.arr [])).elements
  let requestBody ← operation.member "requestBody"
  if requestBody.isNull then
    return listed
  else
    let schema ← bodySchema requestBody
    return listed ++
      [.obj [("name", .str "body"), ("in", .str "body"), ("required", .bool true),
        ("schema", schema)]]

/-! ## Handlers -/

/-- The name of a parameter, if it goes into the query like this: not the one that the client adds,
and no query marker. -/
def queryKey? (markers : List String) (parameter : Json) : Except Fault (Option Json) := do
  if (← parameter.member "in") ≠ .str "query" then
    return none
  let name ← parameter.memberThere "name"
  if name = .str Field.clientParameter then
    return none
  return if ← name.isAmong markers then none else some name

/-- The handler for an operation with the given parameters. -/
def handler (path method : String) (parameters : List Json) (responseFormat toolName : String)
    (flatten : List (String × String)) (formatter : Option Formatter) : Except Fault Handler := do
  let keys ← parameters.mapM (queryKey? (Path.markers path.toList))
  Handler.make toolName (String.ofList (Text.upper method.toList)) path (keys.filterMap id) flatten
    responseFormat formatter

/-! ## Tools -/

/-- The tool for an entry of the whitelist, from the operation in the description, with the warnings
about it. -/
def tool (entry : WhitelistEntry) (operation : Json) : Except Fault (Tool × List Warning) := do
  let parameters ← parameters operation
  let name ← ToolName.ofPath entry.path
  let set ← FieldSet.ofParameters entry.path parameters entry.omitted
  let handler ←
    handler entry.path entry.method parameters entry.formatName name set.flatten entry.formatter
  let description ← Description.ofOperation operation
  return (⟨name, description, set.fields, Hint.ofOperation entry.method entry.path, handler⟩,
    set.warnings)

/-- The result for an entry of the whitelist: a tool or a warning. -/
def compileEntry (description : Json) (entry : WhitelistEntry) :
    Except Fault (Option Tool × List Warning) := do
  let path := String.ofList (Path.normalize entry.path.toList)
  let operation ← operation description path entry.method
  if operation.isNull then
    return (none, [.operationNotFound entry.method entry.path])
  else
    let (tool, warnings) ← tool entry operation
    return (some tool, warnings)

/-- The formatters of tools under the names of the tools. -/
def formattersOf (tools : List Tool) : List (String × Formatter) :=
  Keyed.ofPairs (tools.filterMap fun tool =>
    tool.handler.formatter.map fun formatter => (tool.name, formatter))

/-- Compiles the operations of a whitelist from an API description. -/
def compile (description : Json) (whitelist : List WhitelistEntry) : Except Fault Catalog := do
  let results ← whitelist.mapM (compileEntry description)
  let tools := results.filterMap Prod.fst
  let information ← description.memberOr "info" (.obj [])
  let version ← information.memberOr "version" (.str "unknown")
  return ⟨tools, formattersOf tools, version, results.flatMap Prod.snd⟩

end Catalog

end ApiTools
