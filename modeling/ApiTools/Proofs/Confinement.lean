import ApiTools.Proofs.Registry.Calling
import ApiTools.Proofs.Resource.Reading
import ApiTools.Proofs.Session

/-!
# Requests are confined to their endpoints

Whatever happens in a session, a call of one of the server's tools and the reading of a resource
send requests for the endpoints of the operation. Such a request is confined to its endpoint exactly
when the base of the service has neither a query nor a fragment and every value keeps to its
segment.
-/

namespace ApiTools

open ApiTools.Http

/-! ## Compiled tools -/

/-- The handlers of a server's module have paths of the table. -/
theorem Server.isSegmented_of_mem_definitions {description : Json}
    {whitelist : List WhitelistEntry} {catalog : Catalog} {client : Client} {server : Server}
    (compiled : Catalog.compile description whitelist = .ok catalog)
    (started : Server.start client (some catalog) = .ok server) :
    ∀ definition ∈ server.definitions,
      Path.isSegmented (Path.route definition.handler.path.toList) = true := by
  intro definition member
  obtain ⟨entry, tool, operation, parameters, set, compiles, samePath, -⟩ :=
    Server.exists_compiles_of_mem_definitions compiled started definition member
  rw [samePath]
  exact ToolName.isSegmented_of_ofPath compiles.named

/-! ## What a step asks for -/

namespace Session

/-- The segments of the endpoints that a step asks for: those of the operation of a tool, of the
settings and the statistics, or of a resource. -/
inductive Asks (server : Server) : Step → List Segment → Prop where
  | operation {definition : ToolDefinition} {arguments : Json} {checked : Arguments}
      (member : definition ∈ server.definitions)
      (accepted : definition.arguments.check (arguments.orElse (.obj [])) = .ok checked) :
      Asks server (.call definition.name arguments) (definition.handler.segments checked)
  | settings (arguments : Json) :
      Asks server (.call Server.ownStatistics.name arguments) Action.settingsSegments
  | statistics (arguments : Json) {settings id : Json}
      (found : Action.accountId settings = .ok id) (filled : id.isFilled = true) :
      Asks server (.call Server.ownStatistics.name arguments) (Action.statisticsSegments id)
  | resource {uri : String} {template : ResourceTemplate} {first second : List Char}
      (matched : template.match? uri.toList = some (first, second)) :
      Asks server (.read uri) (template.segments first second)

/-- A request for what a step asks for. -/
def IsAsked (server : Server) (client : Client) (step : Step) (request : Request) : Prop :=
  ∃ segments, Asks server step segments ∧ client.IsFor segments request

theorem sendsOnly_call {server : Server} {client : Client} {token : Option String}
    {registry : Registry} {name : String} {arguments : Json} {tool : RegisteredTool}
    (segmented : ∀ definition ∈ server.definitions,
      Path.isSegmented (Path.route definition.handler.path.toList) = true)
    (found : registry.get? name = some tool)
    (offered : (∃ definition ∈ server.definitions, tool = definition.registered) ∨
      tool = Server.ownStatistics) :
    Talk.SendsOnly (IsAsked server client (.call name arguments))
      (registry.call client token name arguments) := by
  rw [Registry.call, found]
  obtain ⟨-, isNamed⟩ := Registry.get?_eq_some found
  refine RegisteredTool.sendsOnly_call fun checked accepted => ?_
  rcases offered with ⟨definition, member, rfl⟩ | rfl
  · refine Talk.sendsOnly_mono
      (Action.sendsOnly_runOperation (segmented definition member)) fun request isFor => ?_
    exact ⟨_, isNamed ▸ .operation member accepted, isFor⟩
  · refine Talk.sendsOnly_mono Action.sendsOnly_runOwnStatistics fun request isFor => ?_
    rcases isFor with isFor | ⟨settings, id, idFound, filled, isFor⟩
    · exact ⟨_, isNamed ▸ .settings arguments, isFor⟩
    · exact ⟨_, isNamed ▸ .statistics arguments idFound filled, isFor⟩

theorem sendsOnly_readResource {server : Server} {client : Client} {token : Option String}
    (uri : String) :
    Talk.SendsOnly (IsAsked server client (.read uri)) (readResource client token uri) := by
  unfold readResource
  dsimp only
  split
  · next template first second found =>
      obtain ⟨other, -, matched⟩ := List.exists_of_findSome?_eq_some found
      obtain ⟨values, valuesMatched, same⟩ := Option.map_eq_some_iff.1 matched
      obtain ⟨rfl, rfl⟩ : other = template ∧ values = (first, second) := by simpa using same
      refine Talk.sendsOnly_mono (ResourceTemplate.sendsOnly_read other uri _ _)
        fun request isFor => ?_
      rw [String.toList_ofList, String.toList_ofList] at isFor
      exact ⟨_, .resource valuesMatched, isFor⟩
  · exact Talk.sendsOnly_ofResult _

/-- What a step may send: nothing but requests for what it asks for. Tools that are registered
during the session are not the server's. -/
theorem exists_sent_of_step {server : Server} {session : Session} {step : Step}
    (segmented : ∀ definition ∈ server.definitions,
      Path.isSegmented (Path.route definition.handler.path.toList) = true)
    (offered : ∀ tool ∈ server.registry.tools,
      (∃ definition ∈ server.definitions, tool = definition.registered) ∨
        tool = Server.ownStatistics)
    (known : server.registry.IsPartOf session.server.registry)
    (isOwn : ∀ name arguments, step = .call name arguments → name ∈ server.registry.names) :
    ∃ sent, (session.step step).2.wire.sent = session.wire.sent ++ sent ∧
      ∀ request ∈ sent, IsAsked server session.server.client step request := by
  have sendsNothing : ∀ {after : Session}, after.wire.sent = session.wire.sent →
      ∃ sent, after.wire.sent = session.wire.sent ++ sent ∧
        ∀ request ∈ sent, IsAsked server session.server.client step request :=
    fun same => ⟨[], by simp [same], by simp⟩
  cases step with
  | register tool =>
      refine sendsNothing ?_
      rw [Session.step]
      split <;> rfl
  | registerDefinitions => exact sendsNothing rfl
  | call name arguments =>
      obtain ⟨tool, found⟩ := Registry.exists_get?_of_mem_names (isOwn name arguments rfl)
      exact sendsOnly_call segmented (known name tool found)
        (offered tool (Registry.get?_eq_some found).1) session.wire
  | read uri => exact sendsOnly_readResource uri session.wire
  | setToken token => exact sendsNothing rfl
  | addReplies replies => exact sendsNothing rfl

/-! ## Confinement -/

theorem confined_iff_of_asks {server : Server} {client : Client} {step : Step}
    {segments : List Segment} {request : Request} {root : Url}
    (segmented : ∀ definition ∈ server.definitions,
      Path.isSegmented (Path.route definition.handler.path.toList) = true)
    (isRoot : Url.ofText client.baseUrl.toList = .ok root) (absolute : root.isAbsolute = true)
    (asks : Asks server step segments) (isFor : client.IsFor segments request) :
    Confined root request.address segments ↔
      client.baseUrl.toList.any Url.endsPath = false ∧
        ∀ segment ∈ segments, segment.isSafe = true := by
  have encodedCase : segments ≠ [] →
      (∀ segment ∈ segments, segment.isPlain = true ∧ segment.isEncoded = true) →
      (Confined root request.address segments ↔ client.baseUrl.toList.any Url.endsPath = false ∧
        ∀ segment ∈ segments, segment.isSafe = true) := by
    intro filled plain
    obtain ⟨url, done, samePath⟩ := Client.ofText_of_isFor filled isRoot absolute isFor
    rw [Confined, samePath, ← Confined]
    exact confined_iff_of_encoded isRoot absolute filled
      (fun segment member => (plain segment member).1)
      (fun segment member => (plain segment member).2) done
  cases asks with
  | operation member accepted =>
      exact encodedCase (Handler.segments_ne_nil (segmented _ member))
        (Handler.isPlain_of_mem_segments (segmented _ member))
  | settings arguments =>
      refine encodedCase (List.cons_ne_nil _ _) ?_
      decide
  | statistics arguments found filled =>
      obtain ⟨url, done, samePath⟩ :=
        Client.ofText_of_isFor (List.cons_ne_nil _ _) isRoot absolute isFor
      rw [Confined, samePath, ← Confined]
      unfold Action.statisticsSegments
      rw [confined_iff_of_raw isRoot absolute (by decide) (by decide) done]
      simp [Segment.isSafe]
  | @resource uri template first second matched =>
      exact encodedCase (template.segments_ne_nil first second)
        (template.isPlain_of_mem_segments first second)

/-- The catalog of an empty description. -/
def bareCatalog : Catalog :=
  ⟨[], [], .str "unknown", []⟩

/-- A server that only has its own tool. -/
def bareServer : Server :=
  ⟨.make Client.defaultBaseUrl "id", [], ⟨[Server.ownStatistics]⟩⟩

/-- The address of the service. -/
def serviceRoot : Url :=
  ⟨"https".toList, [], "api.simkl.com".toList, none, [], none⟩

/-- The settings that give a user's number with dot segments and a question mark. -/
def strayingSettings : Reply :=
  let text := "\x7b\"account\":\x7b\"id\":\"1/../../search/id?x\"\x7d\x7d"
  .response ⟨200, [], [text.toList.map fun c => UInt8.ofNat c.toNat]⟩

/-- The session of a server that only has its own tool and gets the straying settings. -/
def strayingSession : Session :=
  ⟨bareServer, none, ⟨[strayingSettings], []⟩⟩

end Session

end ApiTools
