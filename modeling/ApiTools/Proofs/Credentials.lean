import ApiTools.Proofs.Completion
import ApiTools.Proofs.Confinement
import ApiTools.Proofs.Delivery

/-!
# Who asks

Every request of a session carries the client's identifier once, since no compiled tool has a query
argument of that name. The access token that it carries is the one that holds at its step. Only for
the titles that are watched most is it left out.
-/

namespace ApiTools

open ApiTools.Http

/-! ## Tools -/

namespace Action

/-- The action has no query argument of the name under which the client adds its identifier. -/
def KeepsIdentifier : Action → Prop
  | .operation handler =>
    Field.clientParameter ∉ Path.markers handler.path.toList ∧
      .str Field.clientParameter ∉ handler.queryKeys
  | .ownStatistics => True
  | .custom _ => True

variable {client : Client} {token : Option String}

theorem ne_clientParameter_of_query {handler : Handler} {arguments : Arguments}
    {query : List (String × Json)} (keeps : (Action.operation handler).KeepsIdentifier)
    (done : handler.query arguments = .ok query) :
    ∀ argument ∈ query, argument.1 ≠ Field.clientParameter := by
  have absent : Keyed.get? Field.clientParameter query = none := by
    rw [Handler.get?_query Field.clientParameter done, if_neg (not_or.2 keeps)]
  rw [Keyed.get?_eq_none_iff] at absent
  intro argument member isClient
  exact absent (List.mem_map.2 ⟨argument, member, isClient⟩)

theorem sendsOnly_run_isSigned {action : Action} {arguments : Arguments}
    (keeps : action.KeepsIdentifier) :
    Talk.SendsOnly (client.IsSigned (Client.bearerText token))
      (action.run client token arguments) := by
  cases action with
  | operation handler =>
      refine Talk.sendsOnly_bind (Talk.sendsOnly_ofResult _) fun call gives => ?_
      obtain ⟨endpoint, query, -, queryDone, rfl⟩ :=
        Handler.call_eq_ok_iff.1 (Talk.eq_ok_of_gives gives)
      refine Talk.sendsOnly_bind ?_ fun _ _ => Talk.sendsOnly_ofResult _
      exact Client.sendsOnly_fetch_isSigned (ne_clientParameter_of_query keeps queryDone)
  | ownStatistics =>
      have postSends : ∀ endpoint, Talk.SendsOnly (client.IsSigned (Client.bearerText token))
          (client.fetch token (post endpoint)) :=
        fun endpoint => Client.sendsOnly_fetch_isSigned (by simp [post])
      refine Talk.sendsOnly_bind (postSends _) fun settings _ =>
        Talk.sendsOnly_bind (Talk.sendsOnly_ofResult _) fun id _ => ?_
      split
      · exact Talk.sendsOnly_bind (postSends _) fun _ _ => Talk.sendsOnly_pure _
      · exact Talk.sendsOnly_pure _
  | custom answer => exact Talk.sendsOnly_ofResult _

end Action

namespace ToolName

set_option maxRecDepth 20000 in
theorem clientParameter_notMem_of_mem_table :
    ∀ entry ∈ table, Field.clientParameter ∉ Path.markers entry.1.toList := by
  decide +kernel

theorem clientParameter_notMem_of_ofPath {path name : String} (named : ofPath path = .ok name) :
    Field.clientParameter ∉ Path.markers path.toList :=
  clientParameter_notMem_of_mem_table (path, name) (mem_table_of_ofPath named)

end ToolName

theorem Catalog.Compiles.keepsIdentifier {description : Json} {entry : WhitelistEntry}
    {compiled : Tool} {operation : Json} {parameters : List Json} {set : FieldSet}
    (compiles : Compiles description entry compiled operation parameters set) :
    (Action.operation compiled.handler).KeepsIdentifier := by
  constructor
  · rw [compiles.handler_path]
    exact ToolName.clientParameter_notMem_of_ofPath compiles.named
  · exact clientParameter_notMem_of_handler compiles.handled

/-! ## Resources -/

namespace ResourceTemplate

variable {client : Client} {token : Option String}

/-- The header with which a resource is asked for. -/
def header (token : Option String) : ResourceTemplate → Option String
  | .watchlist => Client.bearerText token
  | .trending => none

theorem query_of_trendingCall {kind interval : String} {call : Call}
    (made : trendingCall kind interval = .ok call) :
    call.query = [("extended", .str "full")] := by
  simp only [trendingCall, Binding.bind_eq_ok_iff, Binding.pure_eq_ok, Except.ok.injEq] at made
  obtain ⟨_, -, _, -, rfl⟩ := made
  rfl

theorem sendsOnly_read_isSigned (template : ResourceTemplate) (uri first second : String) :
    Talk.SendsOnly (client.IsSigned (template.header token))
      (template.read client token uri first second) := by
  cases template with
  | watchlist =>
      refine Talk.sendsOnly_bind (Talk.sendsOnly_ofResult _) fun call gives => ?_
      have query := (watchlistCall_eq_ok (Talk.eq_ok_of_gives gives)).2.2.1
      have pageSends : ∀ page : Int, Talk.SendsOnly (client.IsSigned (Client.bearerText token))
          (client.fetch token
            (Client.withQuery call [("page", some page), ("limit", some pageSize)])) := by
        intro page
        apply Client.sendsOnly_fetch_isSigned
        have ofPage : (Client.withQuery call [("page", some page), ("limit", some pageSize)]).query =
            [("extended", .str "full"), ("page", .int page), ("limit", .int pageSize)] := by
          simp [Client.withQuery, query, Keyed.put]
        rw [ofPage]
        simp [Field.clientParameter]
      exact Talk.sendsOnly_bind (sendsOnly_readPages pageSends _ _) fun _ _ =>
        Talk.sendsOnly_bind (Talk.sendsOnly_ofResult _) fun _ _ => Talk.sendsOnly_pure _
  | trending =>
      refine Talk.sendsOnly_bind (Talk.sendsOnly_ofResult _) fun call gives => ?_
      have query := query_of_trendingCall (Talk.eq_ok_of_gives gives)
      have fetchSends : Talk.SendsOnly (client.IsSigned (Client.bearerText none))
          (client.fetch none call) := by
        apply Client.sendsOnly_fetch_isSigned
        rw [query]
        simp [Field.clientParameter]
      exact Talk.sendsOnly_bind fetchSends fun _ _ =>
        Talk.sendsOnly_bind (Talk.sendsOnly_ofResult _) fun _ _ =>
          Talk.sendsOnly_bind (Talk.sendsOnly_ofResult _) fun _ _ => Talk.sendsOnly_pure _

/-- No address belongs to both families. -/
theorem match?_trending_of_watchlist {uri : List Char} {values : List Char × List Char}
    (matched : ResourceTemplate.watchlist.match? uri = some values) :
    ResourceTemplate.trending.match? uri = none := by
  have startsOf : ResourceTemplate.watchlist.start <+: uri := by
    unfold match? at matched
    split at matched
    · next starts => exact List.isPrefixOf_iff_prefix.1 starts
    · cases matched
  have startsNot : ¬ ResourceTemplate.trending.start <+: uri := by
    intro starts
    rcases List.prefix_or_prefix_of_prefix startsOf starts with isPrefix | isPrefix
    · revert isPrefix
      decide
    · revert isPrefix
      decide
  rw [match?, if_neg]
  rwa [List.isPrefixOf_iff_prefix]

end ResourceTemplate

/-! ## Sessions -/

namespace Session

variable {session : Session}

/-- The token that holds after a step. -/
def Step.token (current : Option String) : Step → Option String
  | .setToken token => token
  | _ => current

def tokenAfter (first : Option String) (steps : List Step) : Option String :=
  steps.foldl Step.token first

/-- The header of the requests of a step: the current token's, and none where the titles that are
watched most are read. -/
def Step.header (current : Option String) : Step → Option String
  | .read uri =>
    if (ResourceTemplate.trending.match? uri.toList).isSome then none
    else Client.bearerText current
  | _ => Client.bearerText current

theorem token_step (step : Step) : (session.step step).2.token = step.token session.token := by
  cases step with
  | register tool =>
      rw [Session.step]
      split <;> rfl
  | registerDefinitions | call _ _ | read _ | setToken _ | addReplies _ => rfl

theorem token_run (steps : List Step) :
    ∀ session : Session, (session.run steps).2.token = tokenAfter session.token steps := by
  induction steps with
  | nil => exact fun _ => rfl
  | cons step rest inductionHypothesis =>
      intro session
      have restToken := inductionHypothesis (session.step step).2
      rw [token_step] at restToken
      exact restToken

/-- The tools of a session, and those of the compiled module, keep the client's identifier. -/
structure KeepsIdentifier (session : Session) : Prop where
  registered : ∀ tool ∈ session.server.registry.tools, tool.action.KeepsIdentifier
  compiled : ∀ definition ∈ session.server.definitions,
    (Action.operation definition.handler).KeepsIdentifier

theorem keepsIdentifier_step {step : Step} (keeps : session.KeepsIdentifier)
    (kept : ∀ tool, step = .register tool → tool.action.KeepsIdentifier) :
    (session.step step).2.KeepsIdentifier := by
  cases step with
  | register tool =>
      cases done : session.server.registry.register tool with
      | error fault =>
          rw [Session.step, done]
          exact keeps
      | ok extended =>
          rw [Session.step, done]
          refine ⟨fun other member => ?_, keeps.compiled⟩
          rcases Registry.mem_tools_of_register done member with before | rfl
          · exact keeps.registered other before
          · exact kept other rfl
  | registerDefinitions =>
      refine ⟨fun other member => ?_, keeps.compiled⟩
      rcases Registry.mem_tools_of_registerAll _ member with before | isCompiled
      · exact keeps.registered other before
      · obtain ⟨definition, inModule, rfl⟩ := List.mem_map.1 isCompiled
        exact keeps.compiled definition inModule
  | call _ _ | read _ | setToken _ | addReplies _ => exact ⟨keeps.registered, keeps.compiled⟩

theorem keepsIdentifier_run (steps : List Step) :
    ∀ session : Session, session.KeepsIdentifier →
      (∀ tool, .register tool ∈ steps → tool.action.KeepsIdentifier) →
        (session.run steps).2.KeepsIdentifier := by
  -- only the two ways of registering add tools; the compiled ones can come again at any step
  induction steps with
  | nil => exact fun _ keeps _ => keeps
  | cons step rest inductionHypothesis =>
      intro session keeps kept
      apply inductionHypothesis (session.step step).2
      · apply keepsIdentifier_step keeps
        rintro tool rfl
        exact kept tool List.mem_cons_self
      · exact fun tool member => kept tool (List.mem_cons_of_mem step member)

theorem sendsOnly_readResource_isSigned {client : Client} {token : Option String}
    (uri : String) :
    Talk.SendsOnly (client.IsSigned ((Step.read uri).header token))
      (readResource client token uri) := by
  unfold readResource
  dsimp only
  split
  · next template first second found =>
      obtain ⟨other, -, matched⟩ := List.exists_of_findSome?_eq_some found
      obtain ⟨values, valuesMatched, same⟩ := Option.map_eq_some_iff.1 matched
      obtain ⟨rfl, rfl⟩ : other = template ∧ values = (first, second) := by simpa using same
      have sameHeader : (Step.read uri).header token = other.header token := by
        cases other with
        | watchlist =>
            rw [Step.header, ResourceTemplate.match?_trending_of_watchlist valuesMatched]
            rfl
        | trending =>
            rw [Step.header, valuesMatched]
            rfl
      rw [sameHeader]
      exact ResourceTemplate.sendsOnly_read_isSigned other uri _ _
  · exact Talk.sendsOnly_ofResult _

theorem exists_sent_isSigned_of_step (keeps : session.KeepsIdentifier) (step : Step) :
    ∃ sent, (session.step step).2.wire.sent = session.wire.sent ++ sent ∧
      ∀ request ∈ sent,
        session.server.client.IsSigned (step.header session.token) request := by
  have sendsNothing : ∀ {after : Session}, after.wire.sent = session.wire.sent →
      ∃ sent, after.wire.sent = session.wire.sent ++ sent ∧
        ∀ request ∈ sent,
          session.server.client.IsSigned (step.header session.token) request :=
    fun same => ⟨[], by simp [same], by simp⟩
  cases step with
  | register tool =>
      refine sendsNothing ?_
      rw [Session.step]
      split <;> rfl
  | call name arguments =>
      have callSends : Talk.SendsOnly
          (session.server.client.IsSigned (Client.bearerText session.token))
          (session.server.registry.call session.server.client session.token name arguments) := by
        rw [Registry.call]
        cases found : session.server.registry.get? name with
        | none => exact Talk.sendsOnly_ofResult _
        | some tool =>
            apply RegisteredTool.sendsOnly_call
            intro checked _
            apply Action.sendsOnly_run_isSigned
            exact keeps.registered tool (Registry.get?_eq_some found).1
      exact callSends session.wire
  | read uri => exact sendsOnly_readResource_isSigned uri session.wire
  | registerDefinitions | setToken _ | addReplies _ => exact sendsNothing rfl

theorem keepsIdentifier_of_start {description : Json} {whitelist : List WhitelistEntry}
    {catalog : Catalog} {client : Client} {server : Server}
    (compiled : Catalog.compile description whitelist = .ok catalog)
    (started : Server.start client (some catalog) = .ok server)
    (token : Option String) (wire : Wire) : KeepsIdentifier ⟨server, token, wire⟩ := by
  have ofModule : ∀ definition ∈ server.definitions,
      (Action.operation definition.handler).KeepsIdentifier := by
    intro definition inModule
    obtain ⟨entry, tool, operation, parameters, set, compiles, samePath, sameKeys⟩ :=
      Server.exists_compiles_of_mem_definitions compiled started definition inModule
    obtain ⟨noMarker, noKey⟩ := compiles.keepsIdentifier
    rw [compiles.handler_path] at noMarker
    exact ⟨samePath ▸ noMarker, sameKeys ▸ noKey⟩
  refine ⟨fun tool member => ?_, ofModule⟩
  rcases (Server.mem_tools_of_start started).2 tool member with ⟨definition, inModule, rfl⟩ | rfl
  · exact ofModule definition inModule
  · trivial

/-- In every session of a server, each request that a step sends carries the client's identifier
once, and its header is that of the token that holds at the step. A tool that is registered on the
way may be any that has no query argument of the identifier's name. -/
theorem exists_sent_isSigned {description : Json} {whitelist : List WhitelistEntry}
    {catalog : Catalog} {client : Client} {server : Server}
    (compiled : Catalog.compile description whitelist = .ok catalog)
    (started : Server.start client (some catalog) = .ok server)
    (token : Option String) (wire : Wire) (steps : List Step) (step : Step)
    (kept : ∀ tool, .register tool ∈ steps → tool.action.KeepsIdentifier) :
    ∃ sent, ((run ⟨server, token, wire⟩ steps).2.step step).2.wire.sent =
        (run ⟨server, token, wire⟩ steps).2.wire.sent ++ sent ∧
      ∀ request ∈ sent, client.IsSigned (step.header (tokenAfter token steps)) request := by
  have keeps : (run ⟨server, token, wire⟩ steps).2.KeepsIdentifier :=
    keepsIdentifier_run steps _ (keepsIdentifier_of_start compiled started token wire) kept
  have sameClient : (run ⟨server, token, wire⟩ steps).2.server.client = client :=
    (isBefore_run steps ⟨server, token, wire⟩).client.trans (Server.mem_tools_of_start started).1
  have signed := exists_sent_isSigned_of_step keeps step
  rw [sameClient, token_run] at signed
  exact signed

/-- A description in which the search by number takes a query and the identifier of a client. -/
def identifiedSearch : Json :=
  Catalog.searchDescription [.obj [("name", .str "q"), ("in", .str "query")],
    .obj [("name", .str Field.clientParameter), ("in", .str "query")]]

/-- The server's own tool is registered once more, and the token changes twice. -/
def tokenChanges : List Step :=
  [.register Server.ownStatistics, .setToken (some "old"), .setToken (some "new")]

/-- The search with another client's identifier among the arguments. -/
def foreignSearch : Step :=
  .call "simkl_search_by_id" (.obj [("q", .str "dune"), (Field.clientParameter, .str "other")])

set_option maxRecDepth 20000 in
/-- The search sends a request with the client's own identifier and the last token. -/
theorem exists_sent_isSigned_of_foreignSearch :
    ∃ catalog server,
      Catalog.compile identifiedSearch [Catalog.searchEntry] = .ok catalog ∧
      Server.start (.make Client.defaultBaseUrl "id") (some catalog) = .ok server ∧
      (Client.make Client.defaultBaseUrl "id").IsAnonymous ∧
      (∀ tool, .register tool ∈ tokenChanges → tool.action.KeepsIdentifier) ∧
      (((run ⟨server, none, ⟨[], []⟩⟩ tokenChanges).2.step foreignSearch).2.wire.sent.map
          fun request => (request.url, request.authorization)) =
        [("https://api.simkl.com/search/id?client_id=id&q=dune", some "Bearer new")] ∧
      ∃ sent, ((run ⟨server, none, ⟨[], []⟩⟩ tokenChanges).2.step foreignSearch).2.wire.sent =
          (run ⟨server, none, ⟨[], []⟩⟩ tokenChanges).2.wire.sent ++ sent ∧
        ∀ request ∈ sent, (Client.make Client.defaultBaseUrl "id").IsSigned
          (foreignSearch.header (tokenAfter none tokenChanges)) request := by
  have asks : (Server.ofDescription? identifiedSearch [Catalog.searchEntry]
      (.make Client.defaultBaseUrl "id")).any (fun server =>
        decide ((((run ⟨server, none, ⟨[], []⟩⟩ tokenChanges).2.step foreignSearch).2.wire.sent.map
            fun request => (request.url, request.authorization)) =
          [("https://api.simkl.com/search/id?client_id=id&q=dune", some "Bearer new")])) = true := by
    decide +kernel
  have anonymous : (Client.make Client.defaultBaseUrl "id").IsAnonymous :=
    ⟨serviceRoot, by decide +kernel, rfl, rfl⟩
  have kept : ∀ tool, .register tool ∈ tokenChanges → tool.action.KeepsIdentifier := by
    intro tool member
    simp only [tokenChanges, List.mem_cons, Step.register.injEq, reduceCtorEq, List.not_mem_nil,
      or_false] at member
    subst member
    trivial
  obtain ⟨catalog, server, compiled, started, asked⟩ := Server.exists_of_any_ofDescription? asks
  exact ⟨catalog, server, compiled, started, anonymous, kept, of_decide_eq_true asked,
    exists_sent_isSigned compiled started none ⟨[], []⟩ tokenChanges foreignSearch kept⟩

end Session

end ApiTools
