import ApiTools.Proofs.Answer
import ApiTools.Proofs.Client
import ApiTools.Proofs.Formatter
import ApiTools.Proofs.Handler
import ApiTools.Proofs.Session

/-!
# Calls that come to an outcome

A call of a tool comes to an outcome, which shows content or reports a failure, unless it is stopped
on its way: by a request that cannot be made, a reply that cannot be read, or data that the tool's
formatter does not accept.
-/

namespace ApiTools

open ApiTools.Binding
open ApiTools.Http

/-! ## Requests -/

namespace Client

variable {client : Client} {token : Option String}

theorem isSilent_request (call : Call) : IsSilent (client.request token call) := by
  have addressSilent {α : Type} (result : Except Url.Flaw α) :
      IsSilent (result.mapError Fault.badAddress) := by
    cases result with
    | ok _ => exact isSilent_ok _
    | error _ => exact isSilent_error rfl
  have bearerSilent : IsSilent (bearer token) := by
    unfold bearer
    split
    · exact isSilent_ok _
    · split
      · exact isSilent_ok _
      · split
        · exact isSilent_ok _
        · exact isSilent_error rfl
  refine isSilent_bind (addressSilent _) fun url => ?_
  refine isSilent_bind bearerSilent fun carried => ?_
  exact isSilent_bind (addressSilent _) fun address => isSilent_ok _

/-- The request for a call can be made and its reply can be read. Where the reply is an answer, its
data and the wire after it are as they should be. -/
def Settles (client : Client) (token : Option String) (call : Call)
    (Holds : Json → Wire → Prop) (wire : Wire) : Prop :=
  ∃ request, client.request token call = .ok request ∧
    Answer.isReadableReply request wire.next = true ∧
    ∀ answer, Answer.ofReply request wire.next = .ok answer → Holds answer.data (wire.after request)

theorem isReported_fetch_bind {α : Type} {next : Answer → Talk α} {call : Call} {wire : Wire}
    (Holds : Json → Wire → Prop)
    (follows : ∀ answer after, isReported (next answer after).1 = true ↔ Holds answer.data after) :
    isReported ((client.fetch token call >>= next) wire).1 = true ↔
      client.Settles token call Holds wire := by
  rw [Talk.bind_apply, Settles]
  cases made : client.request token call with
  | error fault =>
      have silent := isSilent_request call fault made
      rw [fetch_apply_of_error made]
      simp [isReported, silent]
  | ok request =>
      have readable := Answer.isReported_ofReply request wire.next
      rw [fetch_apply made]
      cases answered : Answer.ofReply request wire.next with
      | error fault =>
          rw [answered] at readable
          simp [answered, ← readable, isReported]
      | ok answer =>
          rw [answered] at readable
          have canBeRead : Answer.isReadableReply request wire.next = true := readable.symm
          constructor
          · intro reported
            refine ⟨request, rfl, canBeRead, fun other same => ?_⟩
            obtain rfl := Except.ok.inj (answered.symm.trans same)
            exact (follows answer (wire.after request)).1 reported
          · rintro ⟨other, same, -, holds⟩
            obtain rfl := Except.ok.inj same
            exact (follows answer (wire.after request)).2 (holds answer answered)

end Client

/-! ## Tools -/

/-- The handler can show data as the answer to a call with the given arguments. -/
def Handler.accepts (handler : Handler) (args : Arguments) (data : Json) : Bool :=
  handler.responseFormat ≠ "simple" ||
    handler.formatter.any fun formatter => formatter.accepts data args

theorem Handler.isSilent_format (handler : Handler) (args : Arguments) (data : Json) :
    IsSilent (handler.format args data) := by
  unfold format
  split
  · cases handler.formatter with
    | none => exact isSilent_error rfl
    | some formatter => exact formatter.isSilent_apply data (.obj args)
  · exact isSilent_ok _

theorem Handler.isReported_format (handler : Handler) (args : Arguments) (data : Json) :
    isReported (handler.format args data) = handler.accepts args data := by
  unfold format accepts
  split
  · next isSimple =>
      rw [isSimple]
      cases handler.formatter with
      | none => rfl
      | some formatter =>
          have silent := formatter.isSilent_apply data (.obj args)
          exact (isReported_eq_isOk silent).trans (formatter.isOk_apply data args)
  · next notSimple => simp [notSimple, isReported]

namespace Action

variable {client : Client} {token : Option String}

theorem isSilent_accountId (settings : Json) : IsSilent (accountId settings) :=
  isSilent_bind (Formatter.isSilent_memberOrElse _ _ _) fun account =>
    Formatter.isSilent_memberOr account _ _

theorem isReported_accountId (settings : Json) :
    isReported (accountId settings) = (settings.orElse (.obj [])).hasPart "account" := by
  rw [isReported_eq_isOk (isSilent_accountId settings), accountId,
    Json.isOk_bind_part true fun account => ?_, Bool.and_true]
  rw [Json.isOk_member, Bool.and_true]

/-- The call that the arguments are for settles, and the handler can show its data. Without a call a
value is missing for the path, which is reported. -/
def OperationCompletes (handler : Handler) (client : Client) (token : Option String)
    (args : Arguments) (wire : Wire) : Prop :=
  ∀ call, handler.call args = .ok call →
    client.Settles token call (fun data _ => handler.accepts args data = true) wire

/-- Both calls for the user's own statistics settle, or the first one tells that there is no user.
The account in the settings is an object, or says nothing. -/
def OwnStatisticsCompletes (client : Client) (token : Option String) (wire : Wire) : Prop :=
  client.Settles token (post "/users/settings") (fun settings after =>
    (settings.orElse (.obj [])).hasPart "account" = true ∧
      ∀ id, accountId settings = .ok id → id.isFilled = true →
        client.Settles token (post s!"/users/{id.toText}/stats") (fun _ _ => True) after) wire

/-- What a tool does with checked arguments ends with a result or a fault that is reported. -/
def Completes (action : Action) (client : Client) (token : Option String) (args : Arguments)
    (wire : Wire) : Prop :=
  match action with
  | .operation handler => OperationCompletes handler client token args wire
  | .ownStatistics => OwnStatisticsCompletes client token wire
  | .custom answer => isReported (answer args) = true

theorem isReported_runOperation {handler : Handler}
    (atomic : ∀ key ∈ handler.queryKeys, key.isAtomic = true) (args : Arguments) (wire : Wire) :
    isReported (runOperation handler client token args wire).1 = true ↔
      OperationCompletes handler client token args wire := by
  rw [runOperation, Talk.bind_apply, Talk.ofResult_apply, OperationCompletes]
  rcases handler.call_cases args with ⟨call, made, -⟩ | ⟨name, -, -, lacking⟩ |
    ⟨-, -, key, member, notAtomic⟩
  · rw [made]
    dsimp only
    have follows : ∀ (answer : Answer) (after : Wire),
        isReported (Talk.ofResult (handler.format args answer.data) after).1 = true ↔
          handler.accepts args answer.data = true := by
      intro answer after
      rw [Talk.ofResult_apply, handler.isReported_format]
    rw [Client.isReported_fetch_bind (fun data _ => handler.accepts args data = true) follows]
    constructor
    · intro settles other same
      obtain rfl := Except.ok.inj same
      exact settles
    · intro completes
      exact completes call rfl
  · rw [lacking]
    simp [isReported, Fault.isReported]
  · rw [atomic key member] at notAtomic
    cases notAtomic

theorem isReported_runOwnStatistics (wire : Wire) :
    isReported (runOwnStatistics client token wire).1 = true ↔
      OwnStatisticsCompletes client token wire := by
  rw [runOwnStatistics, OwnStatisticsCompletes]
  refine Client.isReported_fetch_bind _ fun settings after => ?_
  rw [Talk.bind_apply, Talk.ofResult_apply, ← isReported_accountId]
  cases found : accountId settings.data with
  | error fault => simp [isReported]
  | ok id =>
      have sameId : ∀ other, (Except.ok id : Except Fault Json) = .ok other → other = id :=
        fun other same => (Except.ok.inj same).symm
      dsimp only
      split
      · next filled =>
          rw [Client.isReported_fetch_bind (fun _ _ => True) fun _ _ => by simp [isReported]]
          constructor
          · intro settles
            refine ⟨rfl, fun other same _ => ?_⟩
            rw [sameId other same]
            exact settles
          · rintro ⟨-, completes⟩
            exact completes id rfl filled
      · next notFilled =>
          constructor
          · intro _
            refine ⟨rfl, fun other same filled => ?_⟩
            exact absurd (sameId other same ▸ filled) notFilled
          · exact fun _ => rfl

/-- What a tool of the server does with checked arguments. -/
theorem isReported_run {action : Action} (args : Arguments) (wire : Wire)
    (atomic : ∀ handler, action = .operation handler →
      ∀ key ∈ handler.queryKeys, key.isAtomic = true) :
    isReported (action.run client token args wire).1 = true ↔
      action.Completes client token args wire := by
  cases action with
  | operation handler => exact isReported_runOperation (atomic handler rfl) args wire
  | ownStatistics => exact isReported_runOwnStatistics wire
  | custom answer => exact Iff.rfl

end Action

/-! ## Calls -/

theorem Outcome.exists_ofResult_iff {tool : String} {result : Except Fault Content} :
    (∃ outcome, Outcome.ofResult tool result = .ok outcome) ↔ isReported result = true := by
  cases result with
  | ok shown => simp [ofResult, isReported]
  | error fault => cases fault <;> simp [ofResult, isReported, Fault.isReported]

theorem RegisteredTool.exists_outcome_iff {tool : RegisteredTool} {client : Client}
    {token : Option String} (arguments : Json) (wire : Wire)
    (atomic : ∀ handler, tool.action = .operation handler →
      ∀ key ∈ handler.queryKeys, key.isAtomic = true) :
    (∃ outcome, (tool.call client token arguments wire).1 = .ok outcome) ↔
      ∀ checked, tool.arguments.check (arguments.orElse (.obj [])) = .ok checked →
        tool.action.Completes client token checked wire := by
  rw [call]
  cases accepted : tool.arguments.check (arguments.orElse (.obj [])) with
  | error issues => simp
  | ok checked =>
      dsimp only
      rw [Outcome.exists_ofResult_iff, Action.isReported_run checked wire atomic]
      constructor
      · intro completes other same
        obtain rfl := Except.ok.inj same
        exact completes
      · intro completes
        exact completes checked rfl

namespace Server

/-- The handlers of a server's module look up atomic keys only. -/
theorem isAtomic_of_mem_tools {description : Json} {whitelist : List WhitelistEntry}
    {catalog : Catalog} {client : Client} {server : Server}
    (compiled : Catalog.compile description whitelist = .ok catalog)
    (started : start client (some catalog) = .ok server) {tool : RegisteredTool}
    (member : tool ∈ server.registry.tools) {handler : Handler}
    (isOperation : tool.action = .operation handler) :
    ∀ key ∈ handler.queryKeys, key.isAtomic = true := by
  rcases (mem_tools_of_start started).2 tool member with ⟨definition, inModule, rfl⟩ | rfl
  · obtain ⟨entry, compiledTool, operation, parameters, set, compiles, -, sameKeys⟩ :=
      exists_compiles_of_mem_definitions compiled started definition inModule
    obtain rfl : definition.handler = handler := Action.operation.inj isOperation
    rw [sameKeys]
    exact Catalog.isAtomic_of_handler compiles.handled
  · cases isOperation

/-- The server that is started with what a description compiles to. -/
def ofDescription? (description : Json) (whitelist : List WhitelistEntry) (client : Client) :
    Option Server :=
  match Catalog.compile description whitelist with
  | .ok catalog => (start client (some catalog)).toOption
  | .error _ => none

theorem exists_of_any_ofDescription? {description : Json} {whitelist : List WhitelistEntry}
    {client : Client} {Holds : Server → Bool}
    (any : (ofDescription? description whitelist client).any Holds = true) :
    ∃ catalog server, Catalog.compile description whitelist = .ok catalog ∧
      start client (some catalog) = .ok server ∧ Holds server = true := by
  obtain ⟨server, found, holds⟩ := (Option.any_eq_true _ _).1 any
  unfold ofDescription? at found
  split at found
  · next catalog compiled =>
      cases started : start client (some catalog) with
      | ok other =>
          rw [started] at found
          obtain rfl := Option.some.inj found
          exact ⟨catalog, other, compiled, started, holds⟩
      | error fault =>
          rw [started] at found
          cases found
  · cases found

/-- A description with one operation of the standard whitelist, which lists the shows that are
watched most. -/
def trendingDescription : Json :=
  .obj [("paths", .obj [("/tv/trending/{interval}", .obj [("get", .obj [("summary", .str "")])])])]

/-- A response with the status of success and a text as its body. -/
def successReply (text : String) : Reply :=
  .response ⟨200, [], [text.toList.map fun c => UInt8.ofNat c.toNat]⟩

end Server

end ApiTools
