import ApiTools.Proofs.Endpoint
import ApiTools.Registry.Calling

/-!
# How handlers answer

While a placeholder of its path has no value, a handler calls on nothing and fails for want of the
first such one. Otherwise it reads the access token once and makes one request, whose endpoint,
query and body are made of the arguments that are given.
-/

namespace ApiTools

open Binding
open Http

/-! ## What a handler calls on -/

/-- What a handler calls on: the accessor of the access token, and a client. -/
structure Service (m : Type → Type) where
  token : ExceptT Fault m (Option String)
  request : Option String → Call → ExceptT Fault m Json

/-- The service of a client that is called over the wire with an access token. -/
def Service.ofClient (client : Client) (token : Option String) : Service (StateM Wire) where
  token := pure token
  request token call := fun wire =>
    ((client.fetch token call wire).1.map Answer.data, (client.fetch token call wire).2)

namespace Handler

/-- Makes the request for a call with a service and shows the response. -/
def answer {m : Type → Type} [Monad m] (handler : Handler) (service : Service m)
    (args : Arguments) : ExceptT Fault m Content := do
  let call ← MonadExcept.ofExcept (handler.call args)
  let token ← service.token
  let response ← service.request token call
  MonadExcept.ofExcept (handler.format args response)

/-- Over the wire this is what the tool of a handler does. -/
theorem runOperation_eq_answer (handler : Handler) (client : Client) (token : Option String)
    (args : Arguments) (wire : Wire) :
    Action.runOperation handler client token args wire =
      ((handler.answer (.ofClient client token) args).run.run wire :
        Except Fault Content × Wire) := by
  have shows (result : Except Fault Content) (after : Wire) :
      (MonadExcept.ofExcept result : ExceptT Fault (StateM Wire) Content).run.run after =
        (result, after) := by
    cases result <;> rfl
  rw [Action.runOperation, Talk.bind_apply, Talk.ofResult_apply, answer]
  cases handler.call args with
  | error fault => rfl
  | ok call =>
      have request : ((Service.ofClient client token).request token call).run.run wire =
          ((client.fetch token call wire).1.map Answer.data,
            (client.fetch token call wire).2) := rfl
      change _ = (ExceptT.run ((Service.ofClient client token).request token call >>=
        fun response => MonadExcept.ofExcept (handler.format args response))).run wire
      rw [ExceptT.run_bind, StateT.run_bind, request]
      dsimp only
      rw [Talk.bind_apply]
      obtain ⟨result, after⟩ := client.fetch token call wire
      cases result with
      | error fault => rfl
      | ok found => exact (shows (handler.format args found.data) after).symm

/-! ## The path -/

/-- A placeholder without a value. -/
def lacks (args : Arguments) (name : String) : Bool :=
  (args.given? name).isNone

variable {args : Arguments}

theorem given?_eq_none_of_lacks {name : String} (absent : lacks args name = true) :
    args.given? name = none :=
  Option.isNone_iff_eq_none.1 absent

theorem fillPiece_of_lacks {name : String} (absent : lacks args name = true) :
    fillPiece args (.placeholder name) = .error (.missingPathValue name) := by
  have isNull := Arguments.given?_eq_none_iff.1 (given?_eq_none_of_lacks absent)
  rw [fillPiece, isNull]
  rfl

theorem fillPiece_of_given {piece : Path.Piece}
    (given : ∀ name, piece.name? = some name → lacks args name = false) :
    fillPiece args piece = .ok (filled args piece) := by
  cases done : fillPiece args piece with
  | ok text => rw [fillPiece_eq_ok done]
  | error fault =>
      obtain ⟨name, isNamed, absent, -⟩ := fillPiece_eq_error done
      have present := given name isNamed
      rw [lacks, absent] at present
      cases present

/-- The first placeholder without a value is what stops the filling. -/
theorem mapM_fillPiece (pieces : List Path.Piece) :
    pieces.mapM (fillPiece args) =
      match (pieces.filterMap Path.Piece.name?).find? (lacks args) with
      | some name => .error (.missingPathValue name)
      | none => .ok (pieces.map (filled args)) := by
  induction pieces with
  | nil => rfl
  | cons piece rest inductionHypothesis =>
      rw [List.mapM_cons, inductionHypothesis]
      cases piece with
      | char c =>
          rw [fillPiece_of_given (fun name impossible => by cases impossible), ok_bind,
            List.filterMap_cons_none rfl]
          cases (rest.filterMap Path.Piece.name?).find? (lacks args) <;> rfl
      | placeholder name =>
          have isNamed : (Path.Piece.placeholder name).name? = some name := rfl
          rw [List.filterMap_cons_some isNamed, List.find?_cons]
          cases absent : lacks args name with
          | true => rw [fillPiece_of_lacks absent, error_bind]
          | false =>
              have present : ∀ other, (Path.Piece.placeholder name).name? = some other →
                  lacks args other = false := by
                intro other sameName
                rw [← Option.some.inj sameName, absent]
              rw [fillPiece_of_given present, ok_bind]
              dsimp only
              cases (rest.filterMap Path.Piece.name?).find? (lacks args) <;> rfl

theorem endpoint_eq (handler : Handler) (args : Arguments) :
    handler.endpoint args =
      match (Path.placeholders (Path.route handler.path.toList)).find? (lacks args) with
      | some name => .error (.missingPathValue name)
      | none => .ok (String.ofList
          ((Path.pieces (Path.route handler.path.toList)).flatMap (filled args))) := by
  rw [endpoint, mapM_fillPiece, ← Path.placeholders]
  split
  · rfl
  · rw [List.flatMap_def]
    rfl

/-! ## The query -/

theorem markerQuery_of_lacks {markers : List String} {name : String}
    (first : markers.find? (lacks args) = some name) :
    ∀ query, markerQuery args markers query = .error (.missingPathValue name) := by
  induction markers with
  | nil => cases first
  | cons marker rest inductionHypothesis =>
      intro query
      rw [List.find?_cons] at first
      cases absent : lacks args marker with
      | true =>
          rw [absent] at first
          rw [markerQuery, given?_eq_none_of_lacks absent, ← Option.some.inj first]
      | false =>
          rw [absent] at first
          obtain ⟨value, given⟩ := Option.isSome_iff_exists.1 (Option.isNone_eq_false_iff.1 absent)
          rw [markerQuery, given]
          exact inductionHypothesis first _

theorem exists_markerQuery {markers : List String} (allGiven : markers.find? (lacks args) = none) :
    ∀ query, ∃ result, markerQuery args markers query = .ok result := by
  intro query
  cases done : markerQuery args markers query with
  | ok result => exact ⟨result, rfl⟩
  | error fault =>
      obtain ⟨name, member, absent, -⟩ := markerQuery_eq_error done
      have present := List.find?_eq_none.1 allGiven name member
      rw [lacks, absent] at present
      exact absurd rfl present

theorem keys_markerQuery_nodup {markers : List String} {result : List (String × Json)} :
    ∀ {query : List (String × Json)}, (Keyed.keys query).Nodup →
      markerQuery args markers query = .ok result → (Keyed.keys result).Nodup := by
  induction markers with
  | nil =>
      intro query distinct done
      rwa [← Except.ok.inj done]
  | cons marker rest inductionHypothesis =>
      intro query distinct done
      rw [markerQuery] at done
      split at done
      · exact inductionHypothesis (Keyed.keys_put_nodup distinct marker _) done
      · cases done

theorem keys_addQuery_nodup {query result : List (String × Json)} {key : Json}
    (distinct : (Keyed.keys query).Nodup) (done : addQuery args query key = .ok result) :
    (Keyed.keys result).Nodup := by
  unfold addQuery at done
  split at done
  · split at done
    · rw [← Except.ok.inj done]
      exact Keyed.keys_put_nodup distinct _ _
    · rwa [← Except.ok.inj done]
  · cases done
  · cases done
  · rwa [← Except.ok.inj done]

theorem keys_query_nodup {handler : Handler} {query : List (String × Json)}
    (done : handler.query args = .ok query) : (Keyed.keys query).Nodup := by
  obtain ⟨first, firstDone, restDone⟩ := bind_eq_ok_iff.1 done
  have fromFirst : ∀ (keys : List Json) {first result : List (String × Json)},
      (Keyed.keys first).Nodup → keys.foldlM (addQuery args) first = .ok result →
        (Keyed.keys result).Nodup := by
    intro keys
    induction keys with
    | nil =>
        intro first result distinct done
        rwa [← Except.ok.inj done]
    | cons key rest inductionHypothesis =>
        intro first result distinct done
        rw [List.foldlM_cons, bind_eq_ok_iff] at done
        obtain ⟨middle, keyDone, restDone⟩ := done
        exact inductionHypothesis (keys_addQuery_nodup distinct keyDone) restDone
  have noKeys : (Keyed.keys ([] : List (String × Json))).Nodup := List.nodup_nil
  exact fromFirst handler.queryKeys (keys_markerQuery_nodup noKeys firstDone) restDone

/-! ## The body -/

/-- The property that a flattened argument becomes, if it is given. -/
def property? (args : Arguments) (pair : String × String) : Option (String × Json) :=
  (args.given? pair.1).map fun value => (pair.2, .arr [value])

/-- The body of a request: each flattened argument that is given, as the only item of its property,
or else the argument that is the whole body. -/
def sentBody (handler : Handler) (args : Arguments) : Json :=
  if handler.flatten = [] then (args.given? "body").getD .null
  else .obj (handler.flatten.filterMap (property? args))

theorem foldl_addItem_eq_append {pairs : List (String × String)} :
    ∀ {done : List (String × Json)}, (Keyed.keys done ++ pairs.map Prod.snd).Nodup →
      pairs.foldl (addItem args) done = done ++ pairs.filterMap (property? args) := by
  induction pairs with
  | nil => exact fun _ => (List.append_nil _).symm
  | cons pair rest inductionHypothesis =>
      intro done distinct
      rw [List.map_cons] at distinct
      rw [List.foldl_cons, addItem]
      cases given : args.given? pair.1 with
      | none =>
          have isSkipped : property? args pair = none := by rw [property?, given, Option.map_none]
          have distinctRest : (Keyed.keys done ++ rest.map Prod.snd).Nodup :=
            distinct.sublist ((List.sublist_cons_self _ _).append_left _)
          rw [List.filterMap_cons_none isSkipped]
          exact inductionHypothesis distinctRest
      | some value =>
          have isAdded : property? args pair = some (pair.2, .arr [value]) := by
            rw [property?, given, Option.map_some]
          have absent : pair.2 ∉ Keyed.keys done := by
            intro member
            exact (List.disjoint_of_nodup_append distinct) member List.mem_cons_self
          have isLast := Keyed.put_append_of_notMem absent (.arr [value]) []
          rw [List.append_nil] at isLast
          dsimp only
          rw [List.filterMap_cons_some isAdded, isLast, Keyed.put, inductionHypothesis]
          · rw [List.append_assoc, List.singleton_append]
          · rwa [Keyed.keys_append, Keyed.keys_cons, Keyed.keys_nil, List.append_assoc,
              List.singleton_append]

theorem body_eq_sentBody {handler : Handler} (distinct : (handler.flatten.map Prod.snd).Nodup) :
    handler.body args = handler.sentBody args := by
  by_cases unflattened : handler.flatten = []
  · rw [sentBody, if_pos unflattened, Arguments.getD_given?, body, unflattened]
    rfl
  · rw [sentBody, if_neg unflattened, body_of_flatten unflattened, foldl_addItem_eq_append]
    · rfl
    · exact distinct

/-! ## Calls -/

/-- The first placeholder without a value: of those before the first question mark of the path, and
then of those after it. -/
def firstLacking (handler : Handler) (args : Arguments) : Option String :=
  (Path.placeholders (Path.route handler.path.toList) ++ Path.markers handler.path.toList).find?
    (lacks args)

/-- What the request of a call is made of. -/
structure IsCall (handler : Handler) (args : Arguments) (call : Call) : Prop where
  method : call.method = String.ofList (Text.upper handler.method.toList)
  /-- The pieces are all there is of the path before its first question mark. -/
  route : (Path.pieces (Path.route handler.path.toList)).flatMap Path.Piece.source =
    Path.route handler.path.toList
  /-- The endpoint is made of them, with the encoded values in place of the placeholders. -/
  endpoint : call.endpoint.toList =
    (Path.pieces (Path.route handler.path.toList)).flatMap (filled args)
  distinct : (Keyed.keys call.query).Nodup
  query : ∀ name, Keyed.get? name call.query =
    if name ∈ Path.markers handler.path.toList ∨ .str name ∈ handler.queryKeys
    then args.given? name else none
  body : call.body =
    if call.method ∈ ["POST", "PUT", "PATCH"] then some (handler.sentBody args) else none

theorem call_eq_error_of_firstLacking {handler : Handler} {name : String}
    (first : handler.firstLacking args = some name) :
    handler.call args = .error (.missingPathValue name) := by
  rw [firstLacking, List.find?_append] at first
  rw [call, endpoint_eq]
  cases onRoute : (Path.placeholders (Path.route handler.path.toList)).find? (lacks args) with
  | some other =>
      rw [onRoute, Option.some_or] at first
      rw [← Option.some.inj first]
      rfl
  | none =>
      rw [onRoute, Option.none_or] at first
      dsimp only
      rw [ok_bind, query, markerQuery_of_lacks first, error_bind, error_bind]

theorem exists_isCall {handler : Handler} (allGiven : handler.firstLacking args = none)
    (atomic : ∀ key ∈ handler.queryKeys, key.isAtomic = true)
    (distinct : (handler.flatten.map Prod.snd).Nodup) :
    ∃ call, handler.call args = .ok call ∧ handler.IsCall args call := by
  rw [firstLacking, List.find?_append, Option.or_eq_none_iff] at allGiven
  have endpointDone := endpoint_eq handler args
  rw [allGiven.1] at endpointDone
  obtain ⟨first, firstDone⟩ := exists_markerQuery allGiven.2 []
  have queryDone : ∃ query, handler.query args = .ok query := by
    rw [query, firstDone, ok_bind]
    cases done : handler.queryKeys.foldlM (addQuery args) first with
    | ok query => exact ⟨query, rfl⟩
    | error fault =>
        obtain ⟨-, key, member, compound⟩ := foldlM_addQuery_eq_error done
        rw [atomic key member] at compound
        cases compound
  obtain ⟨query, queryDone⟩ := queryDone
  refine ⟨_, call_eq_ok_iff.2 ⟨_, query, endpointDone, queryDone, rfl⟩, rfl, Path.flatMap_source _,
    String.toList_ofList, keys_query_nodup queryDone, fun name => get?_query name queryDone, ?_⟩
  dsimp only
  rw [body_eq_sentBody distinct, hasBody]
  simp only [List.contains_iff_mem]

/-- What a recording service writes down. -/
inductive Event where
  | tokenRead
  | requested (token : Option String) (call : Call)

/-- A service that has an access token and a response, and records how it is called on. -/
def recording (token : Option String) (response : Json) : Service (StateM (List Event)) where
  token := fun events => (.ok token, events ++ [.tokenRead])
  request token call := fun events => (.ok response, events ++ [.requested token call])

def airingHandler : Handler :=
  ⟨"tool", "post", "/tv/:id/airing?:date", [.str "sort"], [("show", "shows")], "json", none⟩

end Handler

end ApiTools
