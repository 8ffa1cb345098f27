import ApiTools.ArgumentModel
import ApiTools.Catalog.Module

/-!
# The registry

The tools that a server offers, in the order in which they were registered. Every name belongs to
one tool: registering a second one of the same name is refused and changes nothing.
-/

namespace ApiTools

/-- What a tool does with the arguments of a call, once they are checked. -/
inductive Action where
  /-- Makes one call of the service, as a handler says. -/
  | operation (handler : Handler)
  /-- Shows the statistics of the user that the access token belongs to, which takes two calls. -/
  | ownStatistics
  /-- Answers without asking the service. -/
  | custom (answer : Arguments → Except Fault Content)

/-- A tool of a server. -/
structure RegisteredTool where
  name : String
  description : String
  arguments : ArgumentModel
  /-- What a client may assume of the tool. -/
  annotations : List (String × Bool)
  action : Action

/-- A tool as a listing describes it, with its annotations where there are any. -/
structure ToolListing (Annotations : Type) where
  name : String
  description : String
  inputSchema : Json
  annotations : Option Annotations

/-- The entry for a tool in a listing. -/
def RegisteredTool.listing (tool : RegisteredTool) : ToolListing (List (String × Bool)) :=
  { name := tool.name
    description := tool.description
    inputSchema := tool.arguments.schema
    annotations := if tool.annotations.isEmpty then none else some tool.annotations }

namespace ToolDefinition

/-- The tool that is registered for a definition of the compiled module. -/
def registered (definition : ToolDefinition) : RegisteredTool :=
  { name := definition.name
    description := definition.description
    arguments := definition.arguments
    annotations := definition.hints.map fun hint => (hint.label, true)
    action := .operation definition.handler }

end ToolDefinition

/-- The tools of a server. -/
structure Registry where
  tools : List RegisteredTool

namespace Registry

/-- No tools. -/
def empty : Registry :=
  ⟨[]⟩

/-- The names of the tools. -/
def names (registry : Registry) : List String :=
  registry.tools.map RegisteredTool.name

/-- The number of tools. -/
def size (registry : Registry) : Nat :=
  registry.tools.length

/-- The tool with a name. -/
def get? (registry : Registry) (name : String) : Option RegisteredTool :=
  registry.tools.find? fun tool => tool.name = name

/-- There is a tool with the name. -/
def contains (registry : Registry) (name : String) : Bool :=
  (registry.get? name).isSome

/-- The tool with a name, which has to be there. -/
def get (registry : Registry) (name : String) : Except Fault RegisteredTool :=
  match registry.get? name with
  | some tool => .ok tool
  | none => .error .absentKey

/-- The tools as they are listed. -/
def listTools (registry : Registry) : List (ToolListing (List (String × Bool))) :=
  registry.tools.map RegisteredTool.listing

/-- Adds a tool, unless there is one of its name. -/
def register (registry : Registry) (tool : RegisteredTool) : Except Fault Registry :=
  if registry.contains tool.name then .error (.duplicateTool tool.name)
  else .ok ⟨registry.tools ++ [tool]⟩

/-- Adds tools one after another up to the first one that is refused. The registry holds the tools
before that one also when one is refused. -/
def registerAll (registry : Registry) : List RegisteredTool → Except Fault Unit × Registry
  | [] => (.ok (), registry)
  | tool :: rest =>
    match registry.register tool with
    | .ok extended => extended.registerAll rest
    | .error fault => (.error fault, registry)

/-! ## Names -/

theorem contains_eq_true_iff {registry : Registry} {name : String} :
    registry.contains name = true ↔ name ∈ registry.names := by
  simp [contains, get?, names, List.find?_isSome]

theorem register_of_not_mem {registry : Registry} {tool : RegisteredTool}
    (fresh : tool.name ∉ registry.names) :
    registry.register tool = .ok ⟨registry.tools ++ [tool]⟩ := by
  rw [register, if_neg (by rwa [contains_eq_true_iff])]

theorem register_of_mem {registry : Registry} {tool : RegisteredTool}
    (present : tool.name ∈ registry.names) :
    registry.register tool = .error (.duplicateTool tool.name) := by
  rw [register, if_pos (contains_eq_true_iff.2 present)]

end Registry

end ApiTools
