import ApiTools.Client
import ApiTools.Field
import ApiTools.Proofs.Http.Confined
import ApiTools.Proofs.Http.Wire
import ApiTools.Proofs.Keyed
import ApiTools.Proofs.Text.Form

/-!
# The requests of a client

A client sends one request for a call, to the address of the call's endpoint below the base of the
service. Where the call does not name the client itself, the request carries the client's identifier
once and the access token of the call.
-/

namespace ApiTools.Client

open ApiTools.Http
open Binding

variable {client : Client} {token : Option String}

/-! ## The access token -/

/-- The header that an access token becomes, where there is one that says something. -/
def bearerText : Option String → Option String
  | none => none
  | some token => if token.isEmpty then none else some s!"Bearer {token}"

theorem bearer_eq_ok {header : Option String} (done : bearer token = .ok header) :
    header = bearerText token := by
  cases token with
  | none => exact (Except.ok.inj done).symm
  | some token =>
      rw [bearer] at done
      rw [bearerText]
      split at done
      · next isEmpty =>
          rw [if_pos isEmpty]
          exact (Except.ok.inj done).symm
      · next notEmpty =>
          rw [if_neg notEmpty]
          split at done
          · exact (Except.ok.inj done).symm
          · cases done

/-! ## Addresses -/

/-- What the request for a call is made of. -/
theorem request_eq_ok {call : Call} {request : Request}
    (made : client.request token call = .ok request) :
    ∃ url, Url.ofText (client.address call.endpoint) = .ok url ∧
      url.addressed request.query = .ok request.address ∧
      request.query =
        Text.Percent.encodePairs ((client.arguments call.query).flatMap parametersOf) ∧
      request.authorization = authorization request.address (bearerText token) := by
  simp only [Client.request, bind_eq_ok_iff, mapError_eq_ok_iff, pure_eq_ok, Except.ok.injEq]
    at made
  obtain ⟨url, urlDone, header, headerDone, address, addressDone, rfl⟩ := made
  refine ⟨url, urlDone, addressDone, rfl, ?_⟩
  rw [bearer_eq_ok headerDone]

/-- The method and the body of the request for a call. -/
theorem method_of_request {call : Call} {request : Request}
    (made : client.request token call = .ok request) :
    request.method = String.ofList (Text.upper call.method.toList) ∧
      request.body = bodyText request.method call.body := by
  simp only [Client.request, bind_eq_ok_iff, pure_eq_ok, Except.ok.injEq] at made
  obtain ⟨url, -, header, -, address, -, rfl⟩ := made
  exact ⟨rfl, rfl⟩

theorem address_of_request {call : Call} {request : Request}
    (made : client.request token call = .ok request) :
    ∃ url, Url.ofText (client.address call.endpoint) = .ok url ∧
      (url.isAbsolute = true → request.address.path = url.path) := by
  obtain ⟨url, urlDone, addressDone, -, -⟩ := request_eq_ok made
  exact ⟨url, urlDone, fun absolute => (Url.path_of_addressed absolute addressDone).1⟩

theorem exists_address_eq (client : Client) (endpoint : String) :
    ∃ tail, client.address endpoint = client.baseUrl.toList ++ '/' :: tail := by
  unfold address
  dsimp only
  split
  · next rooted =>
      obtain ⟨tail, isPath⟩ := List.head?_eq_some_iff.1 rooted
      exact ⟨tail, by rw [isPath]⟩
  · exact ⟨endpoint.toList, rfl⟩

/-! ## The identifier -/

/-- Arguments of other names come after the identifier and leave it as it is. -/
theorem arguments_eq_cons {query : List (String × Json)}
    (others : ∀ argument ∈ query, argument.1 ≠ Field.clientParameter) :
    ∃ rest, client.arguments query = (Field.clientParameter, .str client.clientId) :: rest ∧
      ∀ argument ∈ rest, argument.1 ≠ Field.clientParameter := by
  have fromAny : ∀ (given done : List (String × Json)),
      (∀ argument ∈ given, argument.1 ≠ Field.clientParameter) →
      (∀ argument ∈ done, argument.1 ≠ Field.clientParameter) →
      ∃ rest, given.foldl (fun done argument => Keyed.put argument.1 argument.2 done)
          ((Field.clientParameter, .str client.clientId) :: done) =
            (Field.clientParameter, .str client.clientId) :: rest ∧
        ∀ argument ∈ rest, argument.1 ≠ Field.clientParameter := by
    intro given
    induction given with
    | nil => exact fun done _ doneOthers => ⟨done, rfl, doneOthers⟩
    | cons argument rest inductionHypothesis =>
        intro done givenOthers doneOthers
        rw [List.forall_mem_cons] at givenOthers
        rw [List.foldl_cons, Keyed.put, if_neg (Ne.symm givenOthers.1)]
        apply inductionHypothesis _ givenOthers.2
        intro other member
        rcases Keyed.mem_of_mem_put member with rfl | inDone
        · exact givenOthers.1
        · exact doneOthers other inDone
  apply fromAny
  · exact fun argument member => others argument (List.mem_filter.1 member).1
  · simp

/-- The arguments around the place of one that is not the identifier. -/
theorem exists_arguments_framed {query : List (String × Json)} (distinct : (Keyed.keys query).Nodup)
    {name : String} (other : name ≠ Field.clientParameter) :
    ∃ before after given, name ∉ Keyed.keys (before ++ after) ∧
      client.arguments query = Keyed.framed name before after given ∧
      ∀ value : Json, value.isNull = false →
        client.arguments (Keyed.put name value query) =
          Keyed.framed name before after (some value) := by
  obtain ⟨front, back, absent, isFramed, isPut⟩ := Keyed.exists_framed distinct name
  have keeps (value? : Option Json) :
      (Keyed.framed name front back value?).filter (fun argument => !argument.2.isNull) =
        Keyed.framed name (front.filter fun argument => !argument.2.isNull)
          (back.filter fun argument => !argument.2.isNull)
          (value?.filter fun value => !value.isNull) := by
    rw [Keyed.framed, List.filter_append, List.filter_append, Keyed.framed]
    congr 2
    cases value? with
    | none => rfl
    | some value => cases isNull : value.isNull <;> simp [Option.filter, isNull]
  have isElsewhere {part : List (String × Json)} (outside : name ∉ Keyed.keys part) :
      name ∉ Keyed.keys (part.filter fun argument => !argument.2.isNull) := by
    intro member
    obtain ⟨argument, kept, isName⟩ := List.mem_map.1 member
    exact outside (List.mem_map.2 ⟨argument, (List.mem_filter.1 kept).1, isName⟩)
  have notIdentifier : name ∉ Keyed.keys [(Field.clientParameter, Json.str client.clientId)] := by
    simpa using other
  have elsewhere : name ∉ Keyed.keys ((front.filter fun argument => !argument.2.isNull) ++
      back.filter fun argument => !argument.2.isNull) := by
    rw [← List.filter_append]
    exact isElsewhere absent
  obtain ⟨before, after, absentBoth, isFold⟩ :=
    Keyed.exists_foldl_put_of_framed elsewhere notIdentifier
  have argumentsOf (value? : Option Json) :
      client.arguments (Keyed.framed name front back value?) =
        Keyed.framed name before after (value?.filter fun value => !value.isNull) := by
    rw [arguments, keeps]
    exact isFold _
  refine ⟨before, after, (Keyed.get? name query).filter fun value => !value.isNull, absentBoth, ?_,
    fun value notNull => ?_⟩
  · rw [← argumentsOf, ← isFramed]
  · rw [isPut, argumentsOf, Option.filter_some, notNull]
    rfl

theorem name_of_mem_parametersOf {argument : String × Json} {pair : List Char × List Char}
    (member : pair ∈ parametersOf argument) : pair.1 = argument.1.toList := by
  unfold parametersOf at member
  split at member
  · obtain ⟨item, -, rfl⟩ := List.mem_map.1 member
    rfl
  · rw [List.mem_singleton.1 member]

/-- The identifier is among the parameters once. -/
theorem filter_parameters {query : List (String × Json)}
    (others : ∀ argument ∈ query, argument.1 ≠ Field.clientParameter) :
    ((client.arguments query).flatMap parametersOf).filter
        (fun pair => pair.1 = Field.clientParameter.toList) =
      [(Field.clientParameter.toList, client.clientId.toList)] := by
  obtain ⟨rest, isCons, restOthers⟩ := arguments_eq_cons others
  have noneLater : (rest.flatMap parametersOf).filter
      (fun pair => pair.1 = Field.clientParameter.toList) = [] := by
    rw [List.filter_eq_nil_iff]
    intro pair member
    obtain ⟨argument, isArgument, inParameters⟩ := List.mem_flatMap.1 member
    rw [name_of_mem_parametersOf inParameters, decide_eq_true_eq, String.toList_inj]
    exact restOthers argument isArgument
  have first : parametersOf (Field.clientParameter, .str client.clientId) =
      [(Field.clientParameter.toList, client.clientId.toList)] := rfl
  rw [isCons, List.flatMap_cons, List.filter_append, noneLater, first]
  simp

/-! ## Signatures -/

/-- The base of the service is an address that names no user. -/
def IsAnonymous (client : Client) : Prop :=
  ∃ root, Url.ofText client.baseUrl.toList = .ok root ∧ root.isAbsolute = true ∧
    root.credentials? = none

/-- The request carries the client's identifier once, and the header says who asks, unless the base
of the service does. -/
structure IsSigned (client : Client) (header : Option String) (request : Request) : Prop where
  identified : (Text.Percent.readPairs request.query).filter
      (fun pair => pair.1 = Field.clientParameter.toList) =
    [(Field.clientParameter.toList, client.clientId.toList)]
  authorized : client.IsAnonymous → request.authorization = header

theorem credentials?_of_request {call : Call} {request : Request} (anonymous : client.IsAnonymous)
    (made : client.request token call = .ok request) : request.address.credentials? = none := by
  obtain ⟨root, isRoot, absolute, namesNoUser⟩ := anonymous
  obtain ⟨url, urlDone, addressDone, -, -⟩ := request_eq_ok made
  obtain ⟨tail, isAddress⟩ := exists_address_eq client call.endpoint
  rw [isAddress] at urlDone
  have urlAbsolute : url.isAbsolute = true :=
    (Url.splitOn_path_of_append isRoot absolute urlDone).1
  have sameUser : request.address.user = root.user :=
    (Url.path_of_addressed urlAbsolute addressDone).2.trans
      (Url.user_of_append isRoot absolute urlDone)
  rw [Url.credentials?] at namesNoUser ⊢
  rw [sameUser]
  exact namesNoUser

theorem isSigned_of_request {call : Call} {request : Request}
    (others : ∀ argument ∈ call.query, argument.1 ≠ Field.clientParameter)
    (made : client.request token call = .ok request) :
    client.IsSigned (bearerText token) request := by
  obtain ⟨url, urlDone, addressDone, query, authorized⟩ := request_eq_ok made
  have once : ((client.arguments call.query).flatMap parametersOf).filter
      (fun pair => pair.1 = Field.clientParameter.toList) =
        [(Field.clientParameter.toList, client.clientId.toList)] := filter_parameters others
  have filled : (client.arguments call.query).flatMap parametersOf ≠ [] := by
    intro isNil
    rw [isNil] at once
    cases once
  constructor
  · rw [query, Text.Percent.readPairs_encodePairs filled]
    exact once
  · intro anonymous
    rw [authorized, authorization, credentials?_of_request anonymous made]

/-! ## What is sent -/

theorem fetch_apply {call : Call} {request : Request}
    (made : client.request token call = .ok request) (wire : Wire) :
    client.fetch token call wire = (Answer.ofReply request wire.next, wire.after request) := by
  rw [fetch, made, Talk.bind_apply, Talk.ofResult_apply]
  dsimp only
  rw [Talk.bind_apply, Talk.exchange_eq]
  rfl

theorem fetch_apply_of_error {call : Call} {fault : Fault}
    (stopped : client.request token call = .error fault) (wire : Wire) :
    client.fetch token call wire = (.error fault, wire) := by
  rw [fetch, stopped, Talk.bind_apply, Talk.ofResult_apply]

theorem sendsOnly_fetch (call : Call) :
    Talk.SendsOnly (fun request => client.request token call = .ok request)
      (client.fetch token call) := by
  refine Talk.sendsOnly_bind (Talk.sendsOnly_ofResult _) fun request gives => ?_
  have made := Talk.eq_ok_of_gives gives
  exact Talk.sendsOnly_bind (Talk.sendsOnly_exchange made) fun _ _ => Talk.sendsOnly_ofResult _

theorem sendsOnly_fetch_isSigned {call : Call}
    (others : ∀ argument ∈ call.query, argument.1 ≠ Field.clientParameter) :
    Talk.SendsOnly (client.IsSigned (bearerText token)) (client.fetch token call) :=
  Talk.sendsOnly_mono (sendsOnly_fetch call) fun _ made => isSigned_of_request others made

/-- The request is for an endpoint with the given segments. -/
def IsFor (client : Client) (segments : List Segment) (request : Request) : Prop :=
  ∃ token call, client.request token call = .ok request ∧
    call.endpoint.toList = Segment.endpoint segments

theorem sendsOnly_fetch_isFor {call : Call} {segments : List Segment}
    (same : call.endpoint.toList = Segment.endpoint segments) :
    Talk.SendsOnly (client.IsFor segments) (client.fetch token call) :=
  Talk.sendsOnly_mono (sendsOnly_fetch call) fun _ made => ⟨token, call, made, same⟩

/-- The endpoint's address begins with the base. -/
theorem ofText_of_isFor {segments : List Segment} {request : Request} {root : Url}
    (filled : segments ≠ []) (isRoot : Url.ofText client.baseUrl.toList = .ok root)
    (absolute : root.isAbsolute = true) (isFor : client.IsFor segments request) :
    ∃ url, Url.ofText (client.baseUrl.toList ++ Segment.endpoint segments) = .ok url ∧
      request.address.path = url.path := by
  obtain ⟨token, call, made, same⟩ := isFor
  obtain ⟨url, done, samePath⟩ := address_of_request made
  have startsWithSlash := Segment.endpoint_eq filled
  rw [address, same, startsWithSlash, List.head?_cons, if_pos rfl] at done
  rw [startsWithSlash]
  exact ⟨url, done, samePath (Url.splitOn_path_of_append isRoot absolute done).1⟩

end ApiTools.Client
