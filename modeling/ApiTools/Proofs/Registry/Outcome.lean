import ApiTools.Proofs.Completion
import ApiTools.Proofs.Json.RoundTrip
import Mathlib.Data.Nat.Digits.Defs

/-!
# What an outcome tells about the wire

The outcome of a call tells how the requests of the call went. Content is shown only after requests
that all succeeded. A report on a failure of the service is about the last request, and any other
report says that nothing was sent. The reports show the status of the response, except for a
redirection to what is no address, for which they show none.
-/

namespace ApiTools

open ApiTools.Binding
open ApiTools.Http

/-! ## Replies -/

namespace Http

/-- The response is a success or the redirection that is not followed, and its body, where it is
read, is of admissible size and empty or a document. -/
structure Response.Succeeds (response : Response) : Prop where
  status : response.isSuccess = true ∨ response.status = 302
  body : response.status ≠ 204 → response.status ≠ 302 →
    response.texts.flatten.length ≤ Answer.sizeLimit ∧
      (response.texts.flatten = [] ∨ ∃ data, Json.read response.texts.flatten = .ok data)

namespace Reply

/-- A response came, and it succeeds. -/
def Succeeds : Reply → Prop
  | .response arrived => arrived.Succeeds
  | .failure _ => False

/-- The status of the response, if one came, else zero. -/
def status : Reply → Int
  | .response arrived => arrived.status
  | .failure _ => 0

/-- A redirection to what is no address came. -/
def misdirects : Reply → Bool
  | .response arrived => Answer.misdirects arrived
  | .failure _ => false

/-- The status of a response has three digits. -/
def IsWellFormed : Reply → Prop
  | .response arrived => 100 ≤ arrived.status ∧ arrived.status ≤ 999
  | .failure _ => True

/-- The reply is a failure with this status, which is zero exactly when no response came. -/
structure FailsWith (shown : Int) (reply : Reply) : Prop where
  fails : ¬ reply.Succeeds
  truthful : shown = reply.status
  unanswered : shown = 0 ↔ ∃ message, reply = .failure message

end Reply

end Http

namespace Answer

variable {request : Request} {reply : Reply}

theorem succeeds_of_ofReply {answer : Answer} (answered : ofReply request reply = .ok answer) :
    reply.Succeeds := by
  cases reply with
  | failure message => cases answered
  | response response =>
      rw [ofReply] at answered
      split at answered
      · rcases ofResponse_eq_ok_iff.1 answered with ⟨isEmpty, -⟩ | ⟨isRedirection, -⟩ |
          ⟨-, success, fits, -, read⟩
        · have success : response.isSuccess = true := by
            rw [Response.isSuccess, isEmpty]
            rfl
          exact ⟨Or.inl success, fun notEmpty => absurd isEmpty notEmpty⟩
        · exact ⟨Or.inr isRedirection, fun _ notRedirection => absurd isRedirection notRedirection⟩
        · refine ⟨Or.inl success, fun _ _ => ⟨fits, ?_⟩⟩
          exact (dataOf_eq_ok_iff.1 read).imp And.left fun document => ⟨_, document.2⟩
      · cases answered

/-- A response that succeeds and does not misdirect is answered, or stops the client with a fault
that no one is told. -/
theorem isSilent_ofResponse {response : Response} (succeeds : response.Succeeds)
    (directs : misdirects response = false) : IsSilent (ofResponse response) := by
  cases checked : checkLocation response with
  | error fault =>
      rw [ofResponse, checked, error_bind]
      rcases checkLocation_eq_error checked with silent | ⟨-, -, -, misdirected⟩
      · exact isSilent_error silent
      · rw [directs] at misdirected
        cases misdirected
  | ok passed =>
      by_cases isEmpty : response.status = 204
      · rw [ofResponse, checked, ok_bind, if_pos isEmpty]
        exact isSilent_ok _
      by_cases isRedirection : response.status = 302
      · rw [ofResponse, checked, ok_bind, if_neg isEmpty, if_pos isRedirection]
        exact isSilent_ok _
      obtain ⟨fits, isText⟩ := succeeds.body isEmpty isRedirection
      have success := succeeds.status.resolve_right isRedirection
      have data : ∃ data, dataOf response response.texts.flatten = .ok data := by
        by_cases isNil : response.texts.flatten = []
        · exact ⟨.null, dataOf_eq_ok_iff.2 (Or.inl ⟨isNil, rfl⟩)⟩
        · obtain ⟨data, document⟩ := isText.resolve_left isNil
          exact ⟨data, dataOf_eq_ok_iff.2 (Or.inr ⟨isNil, document⟩)⟩
      obtain ⟨data, isData⟩ := data
      rw [ofResponse_of_read checked isEmpty isRedirection, gather_eq_ok_iff.2 ⟨fits, rfl⟩]
      dsimp only
      rw [ofText, success, Bool.not_true, if_neg (by decide)]
      refine isSilent_bind ?_ fun pagination => ?_
      · intro fault stopped
        rw [Pagination.ofResponse_eq_error stopped]
        rfl
      · rw [isData, ok_bind]
        exact isSilent_ok _

theorem not_succeeds_of_ofReply {fault : Fault} (stopped : ofReply request reply = .error fault)
    (reported : fault.isReported = true) (directs : reply.misdirects = false) :
    ¬ reply.Succeeds := by
  intro succeeds
  cases reply with
  | failure message => exact succeeds
  | response response =>
      rw [ofReply] at stopped
      split at stopped
      · rw [isSilent_ofResponse succeeds directs fault stopped] at reported
        cases reported
      · rw [← Except.error.inj stopped] at reported
        cases reported

theorem status_of_ofReply {failure : ApiFailure}
    (stopped : ofReply request reply = .error (.api failure)) :
    failure.status = shownStatus reply := by
  rcases ofReply_eq_error stopped with silent | ⟨other, isApi, status⟩
  · cases silent
  · rw [Fault.api.inj isApi, status]

theorem natAbs_shownStatus_lt (wellFormed : reply.IsWellFormed) :
    (shownStatus reply).natAbs < 10 ^ 3 := by
  cases reply with
  | failure message => exact Nat.zero_lt_succ _
  | response response =>
      have atMost := wellFormed.2
      rw [shownStatus]
      split <;> omega

/-- A failure of the service shows the status of the reply. For a redirection to what is no address
it shows none. -/
theorem failsWith_iff {failure : ApiFailure} (wellFormed : reply.IsWellFormed)
    (stopped : ofReply request reply = .error (.api failure)) :
    (reply.FailsWith failure.status ↔ reply.misdirects = false) ∧
      (reply.misdirects = true → failure.status = 0) := by
  have fails := not_succeeds_of_ofReply stopped rfl
  rw [status_of_ofReply stopped]
  cases reply with
  | failure message =>
      refine ⟨⟨fun _ => rfl, fun directs => ⟨fails directs, rfl, fun _ => ⟨message, rfl⟩, ?_⟩⟩, ?_⟩
      · exact fun _ => rfl
      · exact fun misdirected => nomatch misdirected
  | response response =>
      have notZero : (response.status : Int) ≠ 0 := by
        have atLeast := wellFormed.1
        omega
      cases directs : misdirects response with
      | true =>
          have noStatus : shownStatus (.response response) = 0 := if_pos directs
          rw [noStatus]
          refine ⟨⟨fun failsWith => absurd failsWith.truthful.symm notZero, fun impossible => ?_⟩,
            fun _ => rfl⟩
          rw [Reply.misdirects, directs] at impossible
          cases impossible
      | false =>
          have status : shownStatus (.response response) = response.status :=
            if_neg (by rw [directs]; decide)
          rw [status]
          refine ⟨⟨fun _ => directs, fun _ => ⟨fails directs, rfl, ?_⟩⟩, fun misdirected => ?_⟩
          · exact ⟨fun isZero => absurd isZero notZero, fun ⟨_, noResponse⟩ => nomatch noResponse⟩
          · rw [Reply.misdirects, directs] at misdirected
            cases misdirected

end Answer

/-! ## Activities -/

namespace Http

/-- The exchanges are those behind a result. With a value all of them succeeded. A fault that is
reported is what the last reply means, after others that succeeded. -/
structure Accounts {α : Type} (result : Except Fault α) (exchanges : List (Request × Reply)) :
    Prop where
  ofValue : ∀ value, result = .ok value → ∀ exchange ∈ exchanges, exchange.2.Succeeds
  ofFault : ∀ fault, result = .error fault → fault.isReported = true →
    ∃ earlier last, exchanges = earlier ++ [last] ∧
      (∀ exchange ∈ earlier, exchange.2.Succeeds) ∧
      Answer.ofReply last.1 last.2 = .error fault

theorem Accounts.append {α : Type} {result : Except Fault α}
    {first second : List (Request × Reply)}
    (succeeded : ∀ exchange ∈ first, exchange.2.Succeeds) (accounts : Accounts result second) :
    Accounts result (first ++ second) := by
  constructor
  · intro value isValue
    exact List.forall_mem_append.2 ⟨succeeded, accounts.ofValue value isValue⟩
  · intro fault stopped reported
    obtain ⟨earlier, last, isAppend, earlierSucceed, isLast⟩ :=
      accounts.ofFault fault stopped reported
    refine ⟨first ++ earlier, last, ?_, ?_, isLast⟩
    · rw [isAppend, List.append_assoc]
    · exact List.forall_mem_append.2 ⟨succeeded, earlierSucceed⟩

/-- What a result stops with does not depend on what it would have given. -/
theorem Accounts.error {α β : Type} {fault : Fault} {exchanges : List (Request × Reply)}
    (accounts : Accounts (.error fault : Except Fault α) exchanges) :
    Accounts (.error fault : Except Fault β) exchanges := by
  constructor
  · intro value impossible
    cases impossible
  · intro other same
    rw [← Except.error.inj same]
    exact accounts.ofFault fault rfl

namespace Talk

variable {α β : Type}

/-- The activity sends no more than `most` requests, and no less than `least` where it comes to a
value. The result is that of its exchanges. -/
def IsAccountedFor (least most : Nat) (activity : Talk α) : Prop :=
  ∀ wire, ∃ requests, (activity wire).2 = wire.afterAll requests ∧ requests.length ≤ most ∧
    ((activity wire).1.isOk = true → least ≤ requests.length) ∧
    Accounts (activity wire).1 (wire.exchanges requests)

theorem isAccountedFor_ofResult {result : Except Fault α} (silent : IsSilent result) :
    (ofResult result).IsAccountedFor 0 0 := by
  refine fun wire => ⟨[], rfl, Nat.le_refl 0, fun _ => Nat.le_refl 0, ?_, ?_⟩
  · exact fun _ _ => List.forall_mem_nil _
  · intro fault stopped reported
    rw [silent fault stopped] at reported
    cases reported

theorem isAccountedFor_mono {least most fewer more : Nat} {activity : Talk α}
    (accounted : activity.IsAccountedFor least most) (lower : fewer ≤ least)
    (upper : most ≤ more) : activity.IsAccountedFor fewer more := by
  intro wire
  obtain ⟨requests, sameWire, atMost, atLeast, accounts⟩ := accounted wire
  exact ⟨requests, sameWire, atMost.trans upper, fun done => lower.trans (atLeast done), accounts⟩

theorem isAccountedFor_bind {firstLeast firstMost : Nat} (nextLeast nextMost : Nat)
    {first : Talk α} {next : α → Talk β}
    (firstAccounted : first.IsAccountedFor firstLeast firstMost)
    (nextAccounted : ∀ value, (next value).IsAccountedFor nextLeast nextMost) :
    (first >>= next).IsAccountedFor (firstLeast + nextLeast) (firstMost + nextMost) := by
  intro wire
  obtain ⟨requests, sameWire, atMost, atLeast, accounts⟩ := firstAccounted wire
  rw [bind_apply]
  cases done : first wire with
  | mk result after =>
      rw [done] at sameWire atLeast accounts
      cases result with
      | error fault =>
          exact ⟨requests, sameWire, Nat.le_add_right_of_le atMost, by simp, accounts.error⟩
      | ok value =>
          obtain ⟨later, laterWire, laterMost, laterLeast, laterAccounts⟩ :=
            nextAccounted value after
          dsimp only at sameWire ⊢
          subst sameWire
          have succeeded := accounts.ofValue value rfl
          refine ⟨requests ++ later, ?_, ?_, ?_, ?_⟩
          · rw [laterWire, Wire.afterAll_append]
          · rw [List.length_append]
            exact Nat.add_le_add atMost laterMost
          · rw [List.length_append]
            exact fun isOk => Nat.add_le_add (atLeast rfl) (laterLeast isOk)
          · rw [Wire.exchanges_append]
            exact laterAccounts.append succeeded

end Talk

end Http

/-- A call is one request, if it can be made at all. -/
theorem Client.isAccountedFor_fetch (client : Client) (token : Option String) (call : Call) :
    (client.fetch token call).IsAccountedFor 1 1 := by
  intro wire
  cases made : client.request token call with
  | error fault =>
      rw [fetch_apply_of_error made]
      refine ⟨[], rfl, Nat.zero_le 1, by simp, fun _ impossible => ?_, ?_⟩
      · cases impossible
      · intro other same reported
        rw [← Except.error.inj same, isSilent_request call fault made] at reported
        cases reported
  | ok request =>
      rw [fetch_apply made]
      refine ⟨[request], rfl, Nat.le_refl 1, fun _ => Nat.le_refl 1, ?_, ?_⟩
      · intro answer answered
        exact List.forall_mem_singleton.2 (Answer.succeeds_of_ofReply answered)
      · intro fault stopped _
        exact ⟨[], (request, wire.next), rfl, List.forall_mem_nil _, stopped⟩

namespace Action

variable {client : Client} {token : Option String}

theorem isAccountedFor_runOperation {handler : Handler} {args : Arguments} {call : Call}
    (made : handler.call args = .ok call) :
    (runOperation handler client token args).IsAccountedFor 1 1 := by
  have afterCall : runOperation handler client token args =
      client.fetch token call >>= fun answer =>
        Talk.ofResult (handler.format args answer.data) := by
    rw [runOperation, made]
    rfl
  rw [afterCall]
  refine Talk.isAccountedFor_bind 0 0 (client.isAccountedFor_fetch token call) fun answer => ?_
  exact Talk.isAccountedFor_ofResult (handler.isSilent_format args answer.data)

theorem isAccountedFor_runOwnStatistics : (runOwnStatistics client token).IsAccountedFor 1 2 := by
  have shows (text : String) : (pure (.one text) : Talk Content).IsAccountedFor 0 0 :=
    Talk.isAccountedFor_ofResult (isSilent_ok _)
  refine Talk.isAccountedFor_bind 0 1 (client.isAccountedFor_fetch token _) fun settings => ?_
  have asks := Talk.isAccountedFor_ofResult (isSilent_accountId settings.data)
  refine Talk.isAccountedFor_bind 0 1 asks fun id => ?_
  split
  · have fetches := client.isAccountedFor_fetch token (post s!"/users/{id.toText}/stats")
    have showsAll := Talk.isAccountedFor_bind 0 0 fetches fun statistics =>
      shows (statistics.data.toLines false)
    exact Talk.isAccountedFor_mono showsAll (Nat.zero_le 1) (Nat.le_refl 1)
  · exact Talk.isAccountedFor_mono (shows _) (Nat.le_refl 0) (Nat.zero_le 1)

end Action

/-! ## Outcomes -/

namespace CallFailure

theorem isPrintable_report (cause : CallFailure) (tool : String)
    (short : Json.IsShort cause.status) : Json.IsPrintable (cause.report tool) := by
  have distinct : ["error", "status", "message", "tool", "source"].Nodup := by decide
  refine .obj distinct ?_
  simp only [List.forall_mem_cons]
  exact ⟨.bool true, .int short, .str _, .str _, .str _, List.forall_mem_nil _⟩

/-- The call failed before anything was sent. -/
def isUnsent : CallFailure → Bool
  | .service _ => false
  | .unknownTool | .invalidArguments _ _ | .missingPathValue _ => true

theorem source_of_isUnsent {cause : CallFailure} (unsent : cause.isUnsent = true) :
    (cause.source = "validation" ∨ cause.source = "simkl_mcp") ∧ cause.status = 0 := by
  cases cause with
  | service failure => cases unsent
  | unknownTool => exact ⟨Or.inr rfl, rfl⟩
  | invalidArguments model issues => exact ⟨Or.inl rfl, rfl⟩
  | missingPathValue placeholder => exact ⟨Or.inl rfl, rfl⟩

end CallFailure

theorem Json.isShort_of_natAbs_lt {value : Int} (small : value.natAbs < 10 ^ 3) :
    Json.IsShort value :=
  Json.isShort_iff.2 (small.trans_le (Nat.pow_le_pow_right (by decide) (by decide)))

namespace Outcome

/-- What the outcome of a call of the tool `name` has to do with the exchanges of the call. -/
inductive Tells (name : String) : Outcome → List (Request × Reply) → Prop where
  | content {shown : Content} {exchanges : List (Request × Reply)} (filled : exchanges ≠ [])
      (succeeded : ∀ exchange ∈ exchanges, exchange.2.Succeeds) :
      Tells name (.content shown) exchanges
  | refusal {cause : CallFailure} (unsent : cause.isUnsent = true) :
      Tells name (.failure name cause) []
  | failure {reported : ApiFailure} {earlier : List (Request × Reply)} {last : Request × Reply}
      (succeeded : ∀ exchange ∈ earlier, exchange.2.Succeeds)
      (stopped : Answer.ofReply last.1 last.2 = .error (.api reported)) :
      Tells name (.failure name (.service reported)) (earlier ++ [last])

theorem tells_of_ofResult {name : String} {result : Except Fault Content} {outcome : Outcome}
    {exchanges : List (Request × Reply)} (done : ofResult name result = .ok outcome)
    (accounts : Accounts result exchanges) (filled : result.isOk = true → exchanges ≠ []) :
    outcome.Tells name exchanges := by
  cases result with
  | ok shown =>
      obtain rfl := Except.ok.inj done
      exact .content (filled rfl) (accounts.ofValue shown rfl)
  | error fault =>
      have reported : fault.isReported = true := exists_ofResult_iff.1 ⟨outcome, done⟩
      obtain ⟨earlier, last, rfl, succeeded, stopped⟩ := accounts.ofFault fault rfl reported
      rcases Answer.ofReply_eq_error stopped with silent | ⟨failure, rfl, -⟩
      · rw [silent] at reported
        cases reported
      · obtain rfl := Except.ok.inj done
        exact .failure succeeded stopped

/-- The envelope in which the outcome of a call is sent back tells how the exchanges of the call
went. -/
structure IsTruthful (outcome : Outcome) (name : String) (exchanges : List (Request × Reply)) :
    Prop where
  /-- Nothing is sent after a request that does not succeed. -/
  inTurn : ∀ exchange ∈ exchanges.dropLast, exchange.2.Succeeds
  content : outcome.isFailure = false →
    exchanges ≠ [] ∧ ∀ exchange ∈ exchanges, exchange.2.Succeeds
  failure : outcome.isFailure = true → ∃ text status message source, outcome.texts = [text] ∧
    Json.read text.toList = .ok (.obj [("error", .bool true), ("status", .int status),
      ("message", .str message), ("tool", .str name), ("source", .str source)]) ∧
    ((source = "validation" ∨ source = "simkl_mcp") ∧ exchanges = [] ∨
      source = "simkl_api" ∧ ∃ last, exchanges.getLast? = some last ∧
        (last.2.FailsWith status ↔ last.2.misdirects = false) ∧
        (last.2.misdirects = true → status = 0))

theorem isTruthful_of_tells {outcome : Outcome} {name : String}
    {exchanges : List (Request × Reply)} (tells : outcome.Tells name exchanges)
    (wellFormed : ∀ exchange ∈ exchanges, exchange.2.IsWellFormed) :
    outcome.IsTruthful name exchanges := by
  cases tells with
  | content filled succeeded =>
      refine ⟨fun exchange member => ?_, fun _ => ⟨filled, succeeded⟩, fun impossible => ?_⟩
      · exact succeeded exchange (List.dropLast_subset _ member)
      · cases impossible
  | @refusal cause unsent =>
      obtain ⟨isSource, noStatus⟩ := CallFailure.source_of_isUnsent unsent
      have short : Json.IsShort cause.status := by
        rw [noStatus]
        exact Json.isShort_of_natAbs_lt (by decide)
      refine ⟨List.forall_mem_nil _, fun impossible => ?_, fun _ => ?_⟩
      · cases impossible
      · exact ⟨_, cause.status, cause.message name, cause.source, rfl,
          Json.read_toLines (cause.isPrintable_report name short) true,
          Or.inl ⟨isSource, rfl⟩⟩
  | @failure reported earlier last succeeded stopped =>
      have lastWellFormed := wellFormed last (List.mem_append_right _ (List.mem_singleton_self _))
      have short : Json.IsShort reported.status := by
        rw [Answer.status_of_ofReply stopped]
        exact Json.isShort_of_natAbs_lt (Answer.natAbs_shownStatus_lt lastWellFormed)
      refine ⟨?_, fun impossible => ?_, fun _ => ?_⟩
      · rw [List.dropLast_concat]
        exact succeeded
      · cases impossible
      · exact ⟨_, reported.status, (CallFailure.service reported).message name, "simkl_api", rfl,
          Json.read_toLines ((CallFailure.service reported).isPrintable_report name short) true,
          Or.inr ⟨rfl, last, List.getLast?_concat, Answer.failsWith_iff lastWellFormed stopped⟩⟩

end Outcome

/-! ## Calls -/

theorem Action.isAccountedFor_operation_or (handler : Handler) (client : Client)
    (token : Option String) (args : Arguments) :
    ((Action.operation handler).run client token args).IsAccountedFor 1 1 ∨
      ∃ fault, (∀ failure, fault ≠ .api failure) ∧
        (Action.operation handler).run client token args = Talk.ofResult (.error fault) := by
  have stops {fault : Fault} (stopped : handler.call args = .error fault) :
      (Action.operation handler).run client token args = Talk.ofResult (.error fault) := by
    rw [run, runOperation, stopped]
    rfl
  rcases handler.call_cases args with ⟨call, made, -⟩ | ⟨name, -, -, lacking⟩ | ⟨unusable, -⟩
  · exact Or.inl (isAccountedFor_runOperation made)
  · exact Or.inr ⟨_, by simp, stops lacking⟩
  · exact Or.inr ⟨_, by simp, stops unusable⟩

theorem RegisteredTool.exists_tells (tool : RegisteredTool) (most : Nat) {client : Client}
    {token : Option String} {arguments : Json} {wire after : Wire} {outcome : Outcome}
    (accounted : ∀ checked, (tool.action.run client token checked).IsAccountedFor 1 most ∨
      ∃ fault, (∀ failure, fault ≠ .api failure) ∧
        tool.action.run client token checked = Talk.ofResult (.error fault))
    (answered : tool.call client token arguments wire = (.ok outcome, after)) :
    ∃ requests, after = wire.afterAll requests ∧ requests.length ≤ most ∧
      outcome.Tells tool.name (wire.exchanges requests) := by
  rw [call] at answered
  cases accepted : tool.arguments.check (arguments.orElse (.obj [])) with
  | error issues =>
      rw [accepted] at answered
      obtain ⟨isOutcome, rfl⟩ := Prod.mk.inj answered
      obtain rfl := Except.ok.inj isOutcome
      exact ⟨[], rfl, Nat.zero_le most, .refusal rfl⟩
  | ok checked =>
      have ran : (Outcome.ofResult tool.name (tool.action.run client token checked wire).1,
          (tool.action.run client token checked wire).2) = (.ok outcome, after) := by
        rw [accepted] at answered
        exact answered
      obtain ⟨isOutcome, isAfter⟩ := Prod.mk.inj ran
      rw [← isAfter]
      rcases accounted checked with accounted | ⟨fault, notService, stops⟩
      · obtain ⟨requests, sameWire, atMost, atLeast, accounts⟩ := accounted wire
        refine ⟨requests, sameWire, atMost, Outcome.tells_of_ofResult isOutcome accounts ?_⟩
        intro isOk isNil
        have none : requests.length = 0 := by
          rw [← wire.length_exchanges requests, isNil, List.length_nil]
        exact absurd (atLeast isOk) (by omega)
      · rw [stops] at isOutcome ⊢
        refine ⟨[], rfl, Nat.zero_le most, ?_⟩
        cases fault with
        | missingPathValue placeholder =>
            obtain rfl := Except.ok.inj isOutcome
            exact .refusal rfl
        | api failure => exact absurd rfl (notService failure)
        | _ => cases isOutcome

namespace Server

section

variable {client : Client} {catalog : Option Catalog} {server : Server}
variable {token : Option String} {name : String} {arguments : Json} {wire after : Wire}
variable {outcome : Outcome}

theorem exists_tells (started : start client catalog = .ok server)
    (answered : server.registry.call server.client token name arguments wire =
      (.ok outcome, after)) :
    ∃ requests, after = wire.afterAll requests ∧ requests.length ≤ 2 ∧
      (∀ definition ∈ server.definitions, definition.name = name → requests.length ≤ 1) ∧
      outcome.Tells name (wire.exchanges requests) := by
  cases found : server.registry.get? name with
  | none =>
      rw [Registry.call, found] at answered
      obtain ⟨isOutcome, rfl⟩ := Prod.mk.inj answered
      obtain rfl := Except.ok.inj isOutcome
      exact ⟨[], rfl, Nat.zero_le 2, fun _ _ _ => Nat.zero_le 1, .refusal rfl⟩
  | some tool =>
      obtain ⟨member, rfl⟩ := Registry.get?_eq_some found
      rw [Registry.call, found] at answered
      rcases (mem_tools_of_start started).2 tool member with ⟨definition, -, rfl⟩ | rfl
      · obtain ⟨requests, sameWire, atMost, tells⟩ :=
          definition.registered.exists_tells 1
            (fun checked => Action.isAccountedFor_operation_or _ _ _ checked) answered
        exact ⟨requests, sameWire, atMost.trans (by decide), fun _ _ _ => atMost, tells⟩
      · obtain ⟨requests, sameWire, atMost, tells⟩ :=
          ownStatistics.exists_tells 2
            (fun _ => Or.inl Action.isAccountedFor_runOwnStatistics) answered
        refine ⟨requests, sameWire, atMost, fun definition inModule sameName => ?_, tells⟩
        -- the name of the server's own tool is that of no other one
        have other := get?_of_mem_definitions started definition inModule
        rw [sameName, found] at other
        have sameAction := congrArg RegisteredTool.action (Option.some.inj other)
        cases sameAction

end

/-- The shows that are watched most. -/
def trendingEntry : WhitelistEntry :=
  .simple "/tv/trending/:interval" "get" .titleList

/-- The arguments for those of today. -/
def todayArguments : Json :=
  .obj [("interval", .str "today")]

/-- A response with the status of a fault of the service. -/
def brokenReply : Reply :=
  .response ⟨500, [], ["down".toList.map fun c => UInt8.ofNat c.toNat]⟩

/-- A redirection to what is no address: its port is no number. -/
def movedReply : Reply :=
  .response ⟨301, [("Location", "http://a:b")], []⟩

end Server

end ApiTools
