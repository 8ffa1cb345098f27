import ApiTools.Proofs.Answer
import ApiTools.Proofs.Client
import Mathlib.Data.Int.Range

/-!
# Lists that come in pages

When all pages of a list are asked for, the pages after the first one are requested in order, up to
the last one or to the first reply that is no list. Their items are joined only where every reply is
a list.
-/

namespace ApiTools

open ApiTools.Binding
open ApiTools.Http
open ApiTools.Text

/-! ## Replies that are lists -/

/-- The items of a list that a response holds: a success with a body of admissible size. -/
def Http.Response.list? (response : Response) : Option (List Json) :=
  if response.isSuccess && response.status ≠ 204 &&
      response.texts.flatten.length ≤ Answer.sizeLimit then
    match Json.read response.texts.flatten with
    | .ok (.arr items) => some items
    | _ => none
  else none

/-- The items of a list that a reply holds. -/
def Http.Reply.list? : Reply → Option (List Json)
  | .response arrived => arrived.list?
  | .failure _ => none

theorem Http.Response.list?_eq_some_iff {response : Response} {items : List Json} :
    response.list? = some items ↔ response.isSuccess = true ∧ response.status ≠ 204 ∧
      response.texts.flatten.length ≤ Answer.sizeLimit ∧
      Json.read response.texts.flatten = .ok (.arr items) := by
  unfold list?
  split
  · next admissible =>
      simp only [Bool.and_eq_true, decide_eq_true_eq] at admissible
      obtain ⟨⟨success, notEmpty⟩, fits⟩ := admissible
      simp only [success, notEmpty, fits, ne_eq, not_false_eq_true, true_and]
      split
      · next other read => rw [read, Option.some.injEq, Except.ok.injEq, Json.arr.injEq]
      · next noList =>
          constructor
          · intro impossible
            cases impossible
          · exact fun read => absurd read (noList items)
  · next inadmissible =>
      constructor
      · intro impossible
        cases impossible
      · rintro ⟨success, notEmpty, fits, -⟩
        simp only [success, notEmpty, fits, ne_eq, not_false_eq_true, decide_true, Bool.and_true,
          not_true_eq_false] at inadmissible

namespace Client

/-- The items of the page that a request is answered with. -/
def pageItems (request : Request) (reply : Reply) : Except Fault (List Json) :=
  Answer.ofReply request reply >>= itemsOf

theorem itemsOf_eq_ok_iff {answer : Answer} {items : List Json} :
    itemsOf answer = .ok items ↔ answer.data = .arr items := by
  unfold itemsOf
  split
  · next other isList => rw [isList, Except.ok.injEq, Json.arr.injEq]
  · next noList =>
      constructor
      · intro impossible
        cases impossible
      · exact fun isList => absurd isList (noList items)

theorem itemsOf_eq_error {answer : Answer} {fault : Fault}
    (stopped : itemsOf answer = .error fault) :
    ∃ failure, fault = .api failure := by
  unfold itemsOf at stopped
  split at stopped
  · cases stopped
  · exact ⟨_, (Except.error.inj stopped).symm⟩

theorem list?_of_pageItems {request : Request} {reply : Reply} {items : List Json}
    (isItems : pageItems request reply = .ok items) : reply.list? = some items := by
  obtain ⟨answer, answered, isPage⟩ := bind_eq_ok_iff.1 isItems
  have isList := itemsOf_eq_ok_iff.1 isPage
  cases reply with
  | failure message => cases answered
  | response response =>
      rw [Answer.ofReply] at answered
      split at answered
      · rcases Answer.ofResponse_eq_ok_iff.1 answered with ⟨-, rfl⟩ | ⟨-, -, rfl⟩ |
          ⟨notEmpty, success, fits, -, read⟩
        · cases isList
        · cases isList
        · rw [isList, Answer.dataOf_eq_ok_iff] at read
          rcases read with ⟨-, impossible⟩ | ⟨-, read⟩
          · cases impossible
          · exact Response.list?_eq_some_iff.2 ⟨success, notEmpty, fits, read⟩
      · cases answered

/-- The headers of a success that can be read say where the page is, if they say anything. -/
theorem exists_pagination_of_isReadable {response : Response}
    (readable : Answer.isReadable response = true) (success : response.isSuccess = true)
    (notEmpty : response.status ≠ 204)
    (fits : response.texts.flatten.length ≤ Answer.sizeLimit) :
    ∃ pagination, Pagination.ofResponse response = .ok pagination := by
  have body := (Bool.and_eq_true_iff.1 readable).2
  simp only [Answer.hasReadableBody, success, notEmpty, Nat.not_lt.2 fits, Bool.not_true,
    decide_false, Bool.false_or, Bool.and_eq_true] at body
  have headers := body.1
  rw [← Pagination.isOk_ofResponse] at headers
  cases paged : Pagination.ofResponse response with
  | ok pagination => exact ⟨pagination, rfl⟩
  | error fault =>
      rw [paged] at headers
      cases headers

theorem pageItems_of_list? {request : Request} {response : Response} {items : List Json}
    (readable : Answer.isReadableReply request (.response response) = true)
    (isList : response.list? = some items) :
    pageItems request (.response response) = .ok items := by
  obtain ⟨success, notEmpty, fits, read⟩ := Response.list?_eq_some_iff.1 isList
  obtain ⟨absolute, canBeRead⟩ := Bool.and_eq_true_iff.1 readable
  obtain ⟨pagination, paged⟩ := exists_pagination_of_isReadable canBeRead success notEmpty fits
  have filled : response.texts.flatten ≠ [] := by
    intro isNil
    rw [isNil] at read
    cases read
  have data : Answer.dataOf response response.texts.flatten = .ok (.arr items) :=
    Answer.dataOf_eq_ok_iff.2 (Or.inr ⟨filled, read⟩)
  have answered : Answer.ofResponse response = .ok ⟨.arr items, pagination⟩ :=
    Answer.ofResponse_eq_ok_iff.2 (Or.inr (Or.inr ⟨notEmpty, success, fits, paged, data⟩))
  rw [pageItems, Answer.ofReply, if_pos absolute, answered]
  rfl

theorem pageItems_eq_ok_iff {request : Request} {reply : Reply} {items : List Json} :
    pageItems request reply = .ok items ↔
      Answer.isReadableReply request reply = true ∧ reply.list? = some items := by
  constructor
  · intro isItems
    obtain ⟨answer, answered, -⟩ := bind_eq_ok_iff.1 isItems
    refine ⟨?_, list?_of_pageItems isItems⟩
    rw [← Answer.isReported_ofReply, answered]
    rfl
  · rintro ⟨readable, isList⟩
    cases reply with
    | failure message => cases isList
    | response response => exact pageItems_of_list? readable isList

/-- Where a page is no list, the failure is the service's, unless the reply cannot be read. -/
theorem pageItems_eq_error {request : Request} {reply : Reply} {fault : Fault}
    (stopped : pageItems request reply = .error fault) :
    (∃ failure, fault = .api failure) ↔ Answer.isReadableReply request reply = true := by
  rw [← Answer.isReported_ofReply]
  rcases bind_eq_error_iff.1 stopped with unanswered | ⟨answer, answered, noList⟩
  · rw [unanswered, isReported]
    rcases Answer.ofReply_eq_error unanswered with silent | ⟨failure, rfl, -⟩
    · rw [silent]
      constructor
      · rintro ⟨failure, rfl⟩
        cases silent
      · intro impossible
        cases impossible
    · simp [Fault.isReported]
  · obtain ⟨failure, rfl⟩ := itemsOf_eq_error noList
    rw [answered]
    simp [isReported]

end Client

/-! ## Requests for pages -/

/-- The request is another one but for the parameter that says which page is asked for. -/
structure Http.Request.IsPage (first : Request) (page : Int) (request : Request) : Prop where
  same : request = { first with query := request.query }
  parameters : ∃ before pages after : List (List Char × List Char),
    first.query = Percent.encodePairs (before ++ pages ++ after) ∧
      request.query = Percent.encodePairs
        (before ++ [("page".toList, (toString page).toList)] ++ after) ∧
      (∀ pair ∈ before ++ after, pair.1 ≠ "page".toList) ∧ ∀ pair ∈ pages, pair.1 = "page".toList

namespace Client

variable {client : Client} {token : Option String}

/-- The query that is sent, as it is written. -/
def queryText (client : Client) (query : List (String × Json)) : List Char :=
  Percent.encodePairs ((client.arguments query).flatMap parametersOf)

/-- With another query a call leads to the same request but for that query, unless it is too
long. -/
theorem request_of_request {call : Call} {first : Request}
    (made : client.request token call = .ok first) (query : List (String × Json)) :
    client.request token { call with query := query } =
      if Url.lengthLimit < (client.queryText query).length then .error (.badAddress .partTooLong)
      else .ok { first with query := client.queryText query } := by
  simp only [request, bind_eq_ok_iff, mapError_eq_ok_iff, pure_eq_ok, Except.ok.injEq] at made
  obtain ⟨url, urlDone, header, headerDone, address, addressDone, rfl⟩ := made
  have addressed := Url.addressed_of_addressed addressDone (client.queryText query)
  rw [request]
  simp only [urlDone, headerDone, Except.mapError, ok_bind]
  rw [← queryText, addressed]
  by_cases exceeds : Url.lengthLimit < (client.queryText query).length
  · rw [if_pos exceeds, if_pos exceeds]
    rfl
  · rw [if_neg exceeds, if_neg exceeds]
    rfl

theorem flatMap_parametersOf_framed (name : String) (before after : List (String × Json))
    (value? : Option Json) :
    (Keyed.framed name before after value?).flatMap parametersOf =
      before.flatMap parametersOf ++
        value?.toList.flatMap (fun value => parametersOf (name, value)) ++
        after.flatMap parametersOf := by
  cases value? <;> simp [Keyed.framed]

theorem name_ne_of_mem_flatMap_parametersOf {name : String} {arguments : List (String × Json)}
    (absent : name ∉ Keyed.keys arguments) {pair : List Char × List Char}
    (member : pair ∈ arguments.flatMap parametersOf) : pair.1 ≠ name.toList := by
  obtain ⟨argument, isArgument, inParameters⟩ := List.mem_flatMap.1 member
  rw [name_of_mem_parametersOf inParameters, ne_eq, String.toList_inj]
  rintro rfl
  exact absent (List.mem_map_of_mem isArgument)

/-- The request for a further page. -/
theorem isPage_of_request {call : Call} {first request : Request} {page : Int}
    (distinct : (Keyed.keys call.query).Nodup) (made : client.request token call = .ok first)
    (next : client.request token (withQuery call [("page", some page)]) = .ok request) :
    first.IsPage page request := by
  have isOther : "page" ≠ Field.clientParameter := by decide
  obtain ⟨before, after, given, absent, isFramed, isPut⟩ :=
    @exists_arguments_framed client _ distinct _ isOther
  have changed := request_of_request made (Keyed.put "page" (.int page) call.query)
  rw [show client.request token { call with query := Keyed.put "page" (.int page) call.query } =
    .ok request from next] at changed
  split at changed
  · cases changed
  · obtain rfl := Except.ok.inj changed
    refine ⟨rfl, before.flatMap parametersOf,
      given.toList.flatMap (fun value => parametersOf ("page", value)), after.flatMap parametersOf,
      ?_, ?_, ?_, ?_⟩
    · rw [(request_eq_ok made).choose_spec.2.2.1, isFramed, flatMap_parametersOf_framed]
    · rw [queryText, isPut (.int page) rfl, flatMap_parametersOf_framed]
      rfl
    · rw [← List.flatMap_append]
      exact fun pair member => name_ne_of_mem_flatMap_parametersOf absent member
    · intro pair member
      obtain ⟨value, -, inParameters⟩ := List.mem_flatMap.1 member
      exact name_of_mem_parametersOf inParameters

/-- A further page cannot be asked for where its query is too long. -/
theorem request_page_eq_error {call : Call} {first : Request} {page : Int} {fault : Fault}
    (made : client.request token call = .ok first)
    (stopped : client.request token (withQuery call [("page", some page)]) = .error fault) :
    fault = .badAddress .partTooLong := by
  have changed := request_of_request made (Keyed.put "page" (.int page) call.query)
  rw [show client.request token { call with query := Keyed.put "page" (.int page) call.query } =
    .error fault from stopped] at changed
  split at changed
  · exact Except.error.inj changed
  · cases changed

/-! ## The pages after the first one -/

/-- Fetching pages in order: what it comes to and what is requested for it, where each request takes
the next reply. -/
inductive Fetching (first : Request) :
    List Int → Wire → Except Fault (List Json) → List Request → Prop where
  | done (wire : Wire) : Fetching first [] wire (.ok []) []
  | unmade (page : Int) (rest : List Int) (wire : Wire) :
      Fetching first (page :: rest) wire (.error (.badAddress .partTooLong)) []
  | refused {page : Int} (rest : List Int) {wire : Wire} {request : Request} {fault : Fault} :
      first.IsPage page request → pageItems request wire.next = .error fault →
      Fetching first (page :: rest) wire (.error fault) [request]
  | joined {page : Int} {rest : List Int} {wire : Wire} {request : Request} {items : List Json}
      {result : Except Fault (List Json)} {requests : List Request} :
      first.IsPage page request → pageItems request wire.next = .ok items →
      Fetching first rest (wire.after request) result requests →
      Fetching first (page :: rest) wire (result.map (items ++ ·)) (request :: requests)

theorem range_succ (page : Int) (count : Nat) :
    Int.range page (page + (count + 1 : Nat)) =
      page :: Int.range (page + 1) (page + 1 + count) := by
  have size : (page + (count + 1 : Nat) - page).toNat = count + 1 := by omega
  have sizeAfter : (page + 1 + (count : Int) - (page + 1)).toNat = count := by omega
  rw [Int.range, Int.range, size, sizeAfter, List.range_succ_eq_map, List.map_cons, List.map_map]
  congr 1
  · simp
  · apply List.map_congr_left
    intro index _
    simp only [Function.comp_apply, Nat.succ_eq_add_one]
    omega

/-- Fetching one page more: its items come before those of the pages that follow, unless there are
none. -/
theorem fetchItems_succ_apply {call : Call} {request : Request} {page : Int}
    (next : client.request token (withQuery call [("page", some page)]) = .ok request)
    (count : Nat) (wire : Wire) :
    client.fetchItems token call (count + 1) page wire =
      match pageItems request wire.next with
      | .error fault => (.error fault, wire.after request)
      | .ok items =>
        ((client.fetchItems token call count (page + 1) (wire.after request)).1.map (items ++ ·),
          (client.fetchItems token call count (page + 1) (wire.after request)).2) := by
  rw [fetchItems, Talk.bind_apply, fetch_apply next, pageItems]
  cases Answer.ofReply request wire.next with
  | error fault => rfl
  | ok answer =>
      dsimp only
      rw [Talk.bind_apply, Talk.ofResult_apply, ok_bind]
      cases itemsOf answer with
      | error fault => rfl
      | ok items =>
          dsimp only
          rw [Talk.bind_apply]
          generalize client.fetchItems token call count (page + 1) (wire.after request) = further
          obtain ⟨result, after⟩ := further
          cases result <;> rfl

theorem exists_fetching {call : Call} {first : Request} (distinct : (Keyed.keys call.query).Nodup)
    (made : client.request token call = .ok first) (count : Nat) :
    ∀ (page : Int) (wire : Wire), ∃ requests,
      (client.fetchItems token call count page wire).2 = wire.afterAll requests ∧
        Fetching first (Int.range page (page + count)) wire
          (client.fetchItems token call count page wire).1 requests := by
  induction count with
  | zero =>
      intro page wire
      have noPages : Int.range page (page + (0 : Nat)) = [] := by simp [Int.range]
      rw [noPages]
      exact ⟨[], rfl, .done wire⟩
  | succ count inductionHypothesis =>
      intro page wire
      rw [range_succ]
      cases next : client.request token (withQuery call [("page", some page)]) with
      | error fault =>
          rw [fetchItems, Talk.bind_apply, fetch_apply_of_error next,
            request_page_eq_error made next]
          exact ⟨[], rfl, .unmade page _ wire⟩
      | ok request =>
          have isPage := isPage_of_request distinct made next
          rw [fetchItems_succ_apply next]
          cases isItems : pageItems request wire.next with
          | error fault => exact ⟨[request], rfl, .refused _ isPage isItems⟩
          | ok items =>
              obtain ⟨requests, sent, fetching⟩ :=
                inductionHypothesis (page + 1) (wire.after request)
              exact ⟨request :: requests, sent, .joined isPage isItems fetching⟩

/-- The reply can be read and is a list. -/
def IsList (exchange : Request × Reply) : Prop :=
  Answer.isReadableReply exchange.1 exchange.2 = true ∧ exchange.2.list? ≠ none

/-- The items that an exchange adds. -/
def itemsIn (exchange : Request × Reply) : List Json :=
  exchange.2.list?.getD []

theorem isList_of_pageItems {request : Request} {reply : Reply} {items : List Json}
    (isItems : pageItems request reply = .ok items) :
    IsList (request, reply) ∧ itemsIn (request, reply) = items := by
  obtain ⟨readable, isList⟩ := pageItems_eq_ok_iff.1 isItems
  refine ⟨⟨readable, ?_⟩, ?_⟩
  · rw [isList]
    exact Option.some_ne_none items
  · rw [itemsIn, isList, Option.getD_some]

theorem not_isList_of_pageItems {request : Request} {reply : Reply} {fault : Fault}
    (stopped : pageItems request reply = .error fault) : ¬IsList (request, reply) := by
  rintro ⟨readable, isList⟩
  obtain ⟨items, found⟩ := Option.ne_none_iff_exists'.1 isList
  rw [pageItems_eq_ok_iff.2 ⟨readable, found⟩] at stopped
  cases stopped

namespace Fetching

variable {first : Request} {pages : List Int} {wire : Wire} {requests : List Request}
variable {result : Except Fault (List Json)}

/-- The pages are asked for in order, each at most once. -/
theorem inOrder (fetching : Fetching first pages wire result requests) :
    List.Forall₂ first.IsPage (pages.take requests.length) requests := by
  induction fetching with
  | done => exact .nil
  | unmade => exact .nil
  | refused rest isPage _ => exact .cons isPage .nil
  | joined isPage _ _ inductionHypothesis => exact .cons isPage inductionHypothesis

theorem exists_ok_iff (fetching : Fetching first pages wire result requests) :
    (∃ items, result = .ok items) ↔ requests.length = pages.length ∧
      ∀ exchange ∈ wire.exchanges requests, IsList exchange := by
  induction fetching with
  | done => simp
  | unmade => simp
  | refused rest isPage stopped => simp [not_isList_of_pageItems stopped]
  | @joined page rest wire request items result requests isPage isItems _ inductionHypothesis =>
      have sameSuccess : (∃ joined, result.map (items ++ ·) = .ok joined) ↔
          ∃ others, result = .ok others := by
        cases result <;> simp [Except.map]
      rw [sameSuccess, inductionHypothesis, Wire.exchanges_cons, List.forall_mem_cons,
        List.length_cons, List.length_cons, Nat.add_right_cancel_iff]
      simp [(isList_of_pageItems isItems).1]

/-- The items of all pages are joined in the order of the pages. -/
theorem eq_flatMap (fetching : Fetching first pages wire result requests) :
    ∀ items, result = .ok items → items = (wire.exchanges requests).flatMap itemsIn := by
  induction fetching with
  | done => exact fun items isNil => (Except.ok.inj isNil).symm
  | unmade => exact fun items impossible => by cases impossible
  | refused => exact fun items impossible => by cases impossible
  | @joined page rest wire request items result requests isPage isItems _ inductionHypothesis =>
      intro joined isJoined
      obtain ⟨others, isOthers, rfl⟩ := map_eq_ok_iff.1 isJoined
      rw [Wire.exchanges_cons, List.flatMap_cons, (isList_of_pageItems isItems).2,
        ← inductionHypothesis others isOthers]

/-- Nothing is requested after a reply that is no list, and that reply decides what is told. -/
theorem stopsAtOnce (fetching : Fetching first pages wire result requests) :
    ∀ fault, result = .error fault →
      (∀ exchange ∈ (wire.exchanges requests).dropLast, IsList exchange) ∧
      ((∃ failure, fault = .api failure) ↔
        ∃ exchange, (wire.exchanges requests).getLast? = some exchange ∧
          Answer.isReadableReply exchange.1 exchange.2 = true ∧ exchange.2.list? = none) := by
  induction fetching with
  | done => exact fun fault impossible => by cases impossible
  | unmade page rest wire =>
      intro fault isFault
      obtain rfl := Except.error.inj isFault
      simp
  | @refused page rest wire request fault isPage stopped =>
      intro other isFault
      obtain rfl := Except.error.inj isFault
      have noList := not_isList_of_pageItems stopped
      rw [pageItems_eq_error stopped]
      refine ⟨by simp, fun readable => ⟨_, rfl, readable, ?_⟩, ?_⟩
      · by_contra isList
        exact noList ⟨readable, isList⟩
      · rintro ⟨exchange, isLast, readable, -⟩
        obtain rfl := Option.some.inj isLast
        exact readable
  | @joined page rest wire request items result requests isPage isItems _ inductionHypothesis =>
      intro fault isFault
      have stopped : result = .error fault := map_eq_error_iff.1 isFault
      obtain ⟨earlier, told⟩ := inductionHypothesis fault stopped
      have isList := (isList_of_pageItems isItems).1
      rw [Wire.exchanges_cons, told]
      cases later : (wire.after request).exchanges requests with
      | nil =>
          refine ⟨by simp, ?_⟩
          simp [isList.2]
      | cons exchange others =>
          rw [later] at earlier
          rw [List.dropLast_cons_cons, List.forall_mem_cons, List.getLast?_cons_cons]
          exact ⟨⟨isList, earlier⟩, Iff.rfl⟩

/-- After lists only, nothing but the length of the next query stops the fetching. -/
theorem eq_partTooLong (fetching : Fetching first pages wire result requests) :
    ∀ fault, result = .error fault → (∀ exchange ∈ wire.exchanges requests, IsList exchange) →
      fault = .badAddress .partTooLong := by
  induction fetching with
  | done => exact fun fault impossible => by cases impossible
  | unmade page rest wire => exact fun fault isFault _ => (Except.error.inj isFault).symm
  | refused rest isPage stopped =>
      intro fault _ allLists
      exact absurd (List.forall_mem_cons.1 allLists).1 (not_isList_of_pageItems stopped)
  | @joined page rest wire request items result requests isPage isItems _ inductionHypothesis =>
      intro fault isFault allLists
      have stopped : result = .error fault := map_eq_error_iff.1 isFault
      rw [Wire.exchanges_cons, List.forall_mem_cons] at allLists
      exact inductionHypothesis fault stopped allLists.2

end Fetching

/-! ## All pages -/

/-- The number of the last page to be fetched. -/
def Paging.lastPage (paging : Paging) (pagination : Pagination) : Int :=
  match paging.maxPages with
  | some most => min most pagination.pageCount
  | none => pagination.pageCount

/-- The call that asks for the first page. -/
def Paging.firstCall (paging : Paging) (call : Call) : Call :=
  withQuery call [("page", paging.page), ("limit", paging.limit)]

theorem Paging.keys_firstCall_nodup {call : Call} (distinct : (Keyed.keys call.query).Nodup)
    (paging : Paging) : (Keyed.keys (paging.firstCall call).query).Nodup := by
  have kept {query : List (String × Json)} (distinct : (Keyed.keys query).Nodup) (name : String)
      (value? : Option Int) : (Keyed.keys (match value? with
        | some value => Keyed.put name (.int value) query
        | none => query)).Nodup := by
    cases value? with
    | none => exact distinct
    | some value => exact Keyed.keys_put_nodup distinct name _
  exact kept (kept distinct "page" paging.page) "limit" paging.limit

/-- Where all pages are asked for and the first one is a list, the others are fetched and joined. -/
theorem fetchPages_apply {call : Call} {paging : Paging} {wire : Wire} {first : Request}
    {items : List Json} {pagination : Pagination} (all : paging.all = true)
    (made : client.request token (paging.firstCall call) = .ok first)
    (answered : Answer.ofReply first wire.next = .ok ⟨.arr items, some pagination⟩) :
    client.fetchPages token call paging wire =
      (fun run : Except Fault (List Json) × Wire =>
        (run.1.map fun others =>
          ⟨.arr (items ++ others),
            some { pagination with pageCount := paging.lastPage pagination }⟩,
          run.2))
        (client.fetchItems token (paging.firstCall call)
          (paging.lastPage pagination - pagination.page).toNat (pagination.page + 1)
          (wire.after first)) := by
  rw [fetchPages, Talk.bind_apply, ← Paging.firstCall, fetch_apply made, answered, all]
  dsimp only
  rw [Talk.bind_apply, Talk.ofResult_apply, itemsOf]
  dsimp only
  rw [Talk.bind_apply, Paging.lastPage]
  generalize client.fetchItems token (paging.firstCall call) _ _ _ = further
  obtain ⟨result, after⟩ := further
  cases result <;> rfl

/-- What fetching all pages of a list comes to, where the first request was answered with some items
and further pages are to be fetched: what is requested, when it succeeds, and how it stops. -/
structure FetchesAll (first : Request) (items : List Json) (pages : List Int) (wire : Wire)
    (run : Except Fault Answer × Wire) (requests : List Request) : Prop where
  sent : run.2 = (wire.after first).afterAll requests
  inOrder : List.Forall₂ first.IsPage (pages.take requests.length) requests
  succeeds_iff : (∃ answer, run.1 = .ok answer) ↔ requests.length = pages.length ∧
    ∀ exchange ∈ (wire.after first).exchanges requests, IsList exchange
  data_eq : ∀ answer, run.1 = .ok answer →
    answer.data = .arr (items ++ ((wire.after first).exchanges requests).flatMap itemsIn)
  stopsAtOnce : ∀ fault, run.1 = .error fault →
    (∀ exchange ∈ ((wire.after first).exchanges requests).dropLast, IsList exchange) ∧
    ((∃ failure, fault = .api failure) ↔
      ∃ exchange, ((wire.after first).exchanges requests).getLast? = some exchange ∧
        Answer.isReadableReply exchange.1 exchange.2 = true ∧ exchange.2.list? = none)
  unmade : ∀ fault, run.1 = .error fault →
    (∀ exchange ∈ (wire.after first).exchanges requests, IsList exchange) →
      fault = .badAddress .partTooLong

/-- A page of two, each with one item. -/
def pageReply (page : Nat) (text : String) : Reply :=
  .response ⟨200, [("X-Pagination-Page", toString page), ("X-Pagination-Limit", "1"),
    ("X-Pagination-Page-Count", "2"), ("X-Pagination-Item-Count", "2")],
    [text.toList.map fun c => UInt8.ofNat c.toNat]⟩

/-- A redirection to an address with a scheme, but with neither a host nor a leading slash. -/
def strayRedirection : Reply :=
  .response ⟨302, [("Location", "simkl:next")], []⟩

/-- A call for all pages of the shows. -/
def showsCall : Call :=
  ⟨"/shows", "GET", [], none⟩

def allPages : Paging :=
  ⟨none, none, true, none⟩

end Client

end ApiTools
