import ApiTools.Registry.Calling
import ApiTools.Resource.Reading

/-!
# The server

A server has a client of the service, the tools of a compiled module and one tool of its own. During
a session tools are called, resources are read, and now and then the access token changes or a tool
is registered.
-/

namespace ApiTools

open ApiTools.Http

/-- A server that is ready for calls. -/
structure Server where
  client : Client
  /-- The tools of the compiled module. -/
  definitions : List ToolDefinition
  registry : Registry

namespace Server

/-- The tool that shows the user's own statistics. -/
def ownStatistics : RegisteredTool :=
  { name := "simkl_my_stats"
    description := "Get watching statistics for the current authenticated user"
    arguments := .empty "SimklMyStatsArguments"
    annotations := []
    action := .ownStatistics }

/-- Registers the tools of the compiled module. -/
def registerDefinitions (definitions : List ToolDefinition) (registry : Registry) :
    Except Fault Unit × Registry :=
  registry.registerAll (definitions.map ToolDefinition.registered)

/-- The registry of a server: the tools of the compiled module and then the server's own one. -/
def buildRegistry (definitions : List ToolDefinition) : Except Fault Registry :=
  match registerDefinitions definitions .empty with
  | (.ok (), registry) => registry.register ownStatistics
  | (.error fault, _) => .error fault

/-- Starts a server with the module of a catalog, which has to be there. -/
def start (client : Client) (catalog : Option Catalog) : Except Fault Server :=
  match catalog with
  | some catalog => do
    let definitions ← catalog.toolDefinitions
    return ⟨client, definitions, ← buildRegistry definitions⟩
  | none => .error .toolsNotCompiled

/-- The entry for a tool in the listing that clients get. `hintsOf` makes the hints of the protocol
from annotations, and may refuse them. -/
def served {Hints : Type} (hintsOf : List (String × Bool) → Except Fault Hints)
    (entry : ToolListing (List (String × Bool))) : Except Fault (ToolListing Hints) := do
  let hints ←
    match entry.annotations with
    | some annotations =>
      if annotations.isEmpty then pure none else (hintsOf annotations).map some
    | none => pure none
  return ⟨entry.name, entry.description, entry.inputSchema, hints⟩

/-- The tools as clients get to see them. -/
def listTools {Hints : Type} (hintsOf : List (String × Bool) → Except Fault Hints)
    (registry : Registry) : Except Fault (List (ToolListing Hints)) :=
  registry.listTools.mapM (served hintsOf)

/-- The values that complete the beginning of a variable's value, where the template of a family of
resources is referred to. -/
def complete (reference : Option String) (name start : String) : Option (List String) :=
  (reference.bind ResourceTemplate.ofUriTemplate?).map fun template => template.complete name start

/-- The resources that are listed. -/
def resources : List ResourceEntry :=
  ResourceTemplate.all.flatMap ResourceTemplate.resources

end Server

/-- A server in use. -/
structure Session where
  server : Server
  /-- The access token, where the user has given one. -/
  token : Option String
  wire : Wire

/-- What is done in a session. -/
inductive Session.Step where
  | register (tool : RegisteredTool)
  /-- Registers the tools of the compiled module once more. -/
  | registerDefinitions
  | call (name : String) (arguments : Json)
  | read (uri : String)
  | setToken (token : Option String)
  /-- The service gets further replies ready. -/
  | addReplies (replies : List Reply)

/-- What a step gives. -/
inductive Session.Result where
  | done
  | outcome (outcome : Outcome)
  | contents (contents : List ResourceContent)

namespace Session

/-- The session with another registry. -/
def withRegistry (session : Session) (registry : Registry) : Session :=
  { session with server := { session.server with registry := registry } }

/-- The result of an activity and the session after it. -/
def after {α : Type} (session : Session) (result : α → Result) (activity : Talk α) :
    Except Fault Result × Session :=
  let (value, wire) := activity session.wire
  (value.map result, { session with wire := wire })

/-- Does one step. -/
def step (session : Session) : Step → Except Fault Result × Session
  | .register tool =>
    match session.server.registry.register tool with
    | .ok registry => (.ok .done, session.withRegistry registry)
    | .error fault => (.error fault, session)
  | .registerDefinitions =>
    let (result, registry) :=
      Server.registerDefinitions session.server.definitions session.server.registry
    (result.map fun _ => .done, session.withRegistry registry)
  | .call name arguments =>
    session.after .outcome
      (session.server.registry.call session.server.client session.token name arguments)
  | .read uri => session.after .contents (readResource session.server.client session.token uri)
  | .setToken token => (.ok .done, { session with token := token })
  | .addReplies replies =>
    (.ok .done, { session with wire := ⟨session.wire.replies ++ replies, session.wire.sent⟩ })

/-- Does steps one after another. -/
def run (session : Session) : List Step → List (Except Fault Result) × Session
  | [] => ([], session)
  | step :: rest =>
    let (result, next) := session.step step
    let (results, last) := next.run rest
    (result :: results, last)

end Session

end ApiTools
