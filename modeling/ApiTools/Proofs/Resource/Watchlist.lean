import ApiTools.Proofs.Pages
import ApiTools.Proofs.Resource.Reading
import Mathlib.Order.Bounds.Defs

/-!
# Reading the user's lists

The pages of a list are read in order. After every page the service may say anew how many there are,
and the reading ends with the first page that does not lie below the number said last. The contents
number the entries of all pages as they follow each other.
-/

namespace ApiTools.ResourceTemplate

open ApiTools.Binding
open ApiTools.Http

/-! ## What a reply holds -/

/-- The page count that a reply reports. -/
def reported? (exchange : Request × Reply) : Option Int :=
  (Answer.ofReply exchange.1 exchange.2).toOption.bind fun answer =>
    answer.pagination.map Pagination.pageCount

/-- The page count that was reported last, if one was reported at all. -/
def lastReported (before : Int) (exchanges : List (Request × Reply)) : Int :=
  (exchanges.filterMap reported?).getLastD before

/-- The items of a list; what is no list has none. -/
def itemsIfList : Json → List Json
  | .arr items => items
  | _ => []

/-- The list that a page holds under a kind. A page that is no object has none. -/
def listed (kind : String) : Json → List Json
  | .obj fields => ((Keyed.get? kind fields).map itemsIfList).getD []
  | _ => []

/-- The list that the page of a reply holds under a kind. -/
def listedIn (kind : String) (exchange : Request × Reply) : List Json :=
  match Answer.ofReply exchange.1 exchange.2 with
  | .ok answer => listed kind answer.data
  | .error _ => []

/-- The reply is a page that has entries of a kind to go through. -/
def HasPage (kind : String) (exchange : Request × Reply) : Prop :=
  ∃ answer entries, Answer.ofReply exchange.1 exchange.2 = .ok answer ∧
    pageEntries kind answer.data = .ok entries

/-- The reply is a page whose entries of a kind are a list, if there are any. -/
def HasList (kind : String) (exchange : Request × Reply) : Prop :=
  ∃ answer, Answer.ofReply exchange.1 exchange.2 = .ok answer ∧
    pageEntries kind answer.data = .ok (listedIn kind exchange)

theorem HasList.hasPage {kind : String} {exchange : Request × Reply}
    (hasList : HasList kind exchange) : HasPage kind exchange := by
  obtain ⟨answer, answered, entries⟩ := hasList
  exact ⟨answer, _, answered, entries⟩

theorem lastReported_cons (before : Int) (exchange : Request × Reply)
    (rest : List (Request × Reply)) :
    lastReported before (exchange :: rest) =
      lastReported ((reported? exchange).getD before) rest := by
  rw [lastReported, List.filterMap_cons]
  cases reported? exchange with
  | none => rfl
  | some count => exact List.getLastD_cons

theorem reported?_of_answered {request : Request} {reply : Reply} {answer : Answer}
    (answered : Answer.ofReply request reply = .ok answer) :
    reported? (request, reply) = answer.pagination.map Pagination.pageCount := by
  rw [reported?, answered]
  rfl

theorem listedIn_of_answered {kind : String} {request : Request} {reply : Reply} {answer : Answer}
    (answered : Answer.ofReply request reply = .ok answer) :
    listedIn kind (request, reply) = listed kind answer.data := by
  rw [listedIn, answered]

/-- Reports do not exceed a bound of the reported counts. -/
theorem lastReported_le {before most : Int} (fromBefore : before ≤ most) :
    ∀ {exchanges : List (Request × Reply)},
      (∀ exchange ∈ exchanges, ∀ count, reported? exchange = some count → count ≤ most) →
      lastReported before exchanges ≤ most := by
  intro exchanges
  induction exchanges generalizing before with
  | nil => exact fun _ => fromBefore
  | cons exchange rest inductionHypothesis =>
      intro bounded
      rw [List.forall_mem_cons] at bounded
      rw [lastReported_cons]
      apply inductionHypothesis _ bounded.2
      cases report : reported? exchange with
      | none => exact fromBefore
      | some count => exact bounded.1 count report

/-! ## Lines -/

/-- Only an object has a line, and the line begins with the number of the entry. -/
theorem watchlistLine_eq_ok {index : Nat} {entry : Json} {line : String}
    (done : watchlistLine index entry = .ok line) :
    (∃ fields, entry = .obj fields) ∧ (s!"{index}: ").toList <+: line.toList := by
  simp only [watchlistLine, bind_eq_ok_iff, pure_eq_ok, Except.ok.injEq] at done
  obtain ⟨work, isWork, ids, -, id, -, added, -, title, -, year, -, rfl⟩ := done
  constructor
  · simp only [workOf, bind_eq_ok_iff] at isWork
    obtain ⟨series, isSeries, -⟩ := isWork
    cases entry with
    | obj fields => exact ⟨fields, rfl⟩
    | _ => cases isSeries
  · simp [toString, String.toList_append]

/-- The parts of a text and of an object are texts. -/
theorem elements_eq_nil_or_of_not_arr {value : Json} {entries : List Json}
    (noList : ∀ items, value ≠ .arr items) (done : value.elements = .ok entries) :
    entries = [] ∨ ∃ text, .str text ∈ entries := by
  cases value with
  | arr items => exact absurd rfl (noList items)
  | str text =>
      obtain rfl := Except.ok.inj done
      cases text.toList with
      | nil => exact Or.inl rfl
      | cons c rest => exact Or.inr ⟨_, List.mem_cons_self⟩
  | obj fields =>
      obtain rfl := Except.ok.inj done
      cases fields with
      | nil => exact Or.inl rfl
      | cons field rest => exact Or.inr ⟨_, List.mem_cons_self⟩
  | _ => cases done

theorem elements_orElse_nil {value : Json} {entries : List Json}
    (done : (value.orElse (.arr [])).elements = .ok entries)
    (allObjects : ∀ entry ∈ entries, ∃ fields, entry = .obj fields) :
    entries = itemsIfList value := by
  by_cases filled : value.isFilled = true
  · rw [Json.orElse, if_pos filled] at done
    unfold itemsIfList
    split
    · exact (Except.ok.inj done).symm
    · next noList =>
        rcases elements_eq_nil_or_of_not_arr noList done with isNil | ⟨text, member⟩
        · exact isNil
        · obtain ⟨fields, impossible⟩ := allObjects _ member
          cases impossible
  · rw [Json.orElse, if_neg filled] at done
    rw [← Except.ok.inj done]
    unfold itemsIfList
    split
    · next items =>
        cases items with
        | nil => rfl
        | cons item rest => exact absurd rfl filled
    · rfl

/-- Where all entries of a page are objects, they are the list that the page holds. -/
theorem pageEntries_eq_listed {kind : String} {page : Json} {entries : List Json}
    (done : pageEntries kind page = .ok entries)
    (allObjects : ∀ entry ∈ entries, ∃ fields, entry = .obj fields) :
    entries = listed kind page := by
  cases page with
  | obj fields =>
      simp only [pageEntries, Json.memberOrElse, Json.member, Json.memberOr, bind_eq_ok_iff,
        pure_eq_ok, Except.ok.injEq] at done
      obtain ⟨value, ⟨found, rfl, rfl⟩, isElements⟩ := done
      rw [elements_orElse_nil isElements allObjects, listed]
      cases Keyed.get? kind fields <;> rfl
  | _ => exact (Except.ok.inj done).symm

/-! ## Pages in order -/

/-- The call for a page of a list. -/
def pageCall (call : Call) (page : Int) : Call :=
  Client.withQuery call [("page", some page), ("limit", some pageSize)]

/-- Reading pages in order: what it comes to and what is requested for it, where each request takes
the next reply. -/
inductive PageRun (client : Client) (token : Option String) (call : Call) (kind : String) :
    Int → Int → Wire → Except Fault (List Json) → List Request → Prop where
  | done {page pageCount : Int} (wire : Wire) :
      pageCount < page → PageRun client token call kind page pageCount wire (.ok []) []
  | unmade {page pageCount : Int} (wire : Wire) {fault : Fault} :
      page ≤ pageCount → client.request token (pageCall call page) = .error fault →
      PageRun client token call kind page pageCount wire (.error fault) []
  | refused {page pageCount : Int} {wire : Wire} {request : Request} (fault : Fault) :
      page ≤ pageCount → client.request token (pageCall call page) = .ok request →
      ¬HasPage kind (request, wire.next) →
      PageRun client token call kind page pageCount wire (.error fault) [request]
  | joined {page pageCount : Int} {wire : Wire} {request : Request} {answer : Answer}
      {entries : List Json} {result : Except Fault (List Json)} {requests : List Request} :
      page ≤ pageCount → client.request token (pageCall call page) = .ok request →
      Answer.ofReply request wire.next = .ok answer →
      pageEntries kind answer.data = .ok entries →
      PageRun client token call kind (page + 1)
        ((reported? (request, wire.next)).getD pageCount) (wire.after request) result requests →
      PageRun client token call kind page pageCount wire (result.map (entries ++ ·))
        (request :: requests)

variable {client : Client} {token : Option String} {call : Call} {kind : String}

theorem readPages_of_lt {page pageCount : Int} (behind : pageCount < page) (wire : Wire) :
    readPages client token call kind page pageCount wire = (.ok [], wire) := by
  rw [readPages, if_neg (not_le.2 behind)]

theorem readPages_of_error {page pageCount : Int} {fault : Fault} (inRange : page ≤ pageCount)
    (stopped : client.request token (pageCall call page) = .error fault) (wire : Wire) :
    readPages client token call kind page pageCount wire = (.error fault, wire) := by
  have stops := Client.fetch_apply_of_error stopped wire
  rw [readPages, if_pos inRange]
  dsimp only
  split
  · next other after isError =>
      rw [← pageCall, stops] at isError
      obtain ⟨isFault, rfl⟩ := Prod.mk.inj isError
      rw [Except.error.inj isFault]
  · next answer after isAnswer =>
      rw [← pageCall, stops] at isAnswer
      cases isAnswer

/-- Reading one page more: its entries come before those of the pages that follow. -/
theorem readPages_apply {page pageCount : Int} {request : Request} (inRange : page ≤ pageCount)
    (made : client.request token (pageCall call page) = .ok request) (wire : Wire) :
    readPages client token call kind page pageCount wire =
      match Answer.ofReply request wire.next with
      | .error fault => (.error fault, wire.after request)
      | .ok answer =>
        match pageEntries kind answer.data with
        | .error fault => (.error fault, wire.after request)
        | .ok entries =>
          (fun run : Except Fault (List Json) × Wire => (run.1.map (entries ++ ·), run.2))
            (readPages client token call kind (page + 1)
              ((answer.pagination.map Pagination.pageCount).getD pageCount)
              (wire.after request)) := by
  have answers := Client.fetch_apply made wire
  rw [readPages, if_pos inRange]
  dsimp only
  split
  · next fault after stopped =>
      rw [← pageCall, answers] at stopped
      obtain ⟨isFault, rfl⟩ := Prod.mk.inj stopped
      rw [isFault]
  · next answer after answered =>
      rw [← pageCall, answers] at answered
      obtain ⟨isAnswer, rfl⟩ := Prod.mk.inj answered
      rw [isAnswer]
      dsimp only
      cases pageEntries kind answer.data with
      | error fault => rfl
      | ok entries =>
          dsimp only
          generalize readPages client token call kind (page + 1) _ (wire.after request) = further
          obtain ⟨result, final⟩ := further
          cases result <;> rfl

theorem exists_pageRun (client : Client) (token : Option String) (call : Call) (kind : String)
    (wire : Wire) :
    ∀ page pageCount : Int, ∃ requests,
      (readPages client token call kind page pageCount wire).2 = wire.afterAll requests ∧
        PageRun client token call kind page pageCount wire
          (readPages client token call kind page pageCount wire).1 requests := by
  induction isSize : wire.replies.length using Nat.strongRecOn generalizing wire with
  | ind size inductionHypothesis =>
      intro page pageCount
      by_cases inRange : page ≤ pageCount
      · cases made : client.request token (pageCall call page) with
        | error fault =>
            rw [readPages_of_error inRange made]
            exact ⟨[], rfl, .unmade wire inRange made⟩
        | ok request =>
            rw [readPages_apply inRange made]
            cases answered : Answer.ofReply request wire.next with
            | error fault =>
                refine ⟨[request], rfl, .refused fault inRange made ?_⟩
                rintro ⟨answer, entries, impossible, -⟩
                rw [answered] at impossible
                cases impossible
            | ok answer =>
                dsimp only
                cases isEntries : pageEntries kind answer.data with
                | error fault =>
                    refine ⟨[request], rfl, .refused fault inRange made ?_⟩
                    rintro ⟨other, entries, isOther, impossible⟩
                    rw [answered] at isOther
                    obtain rfl := Except.ok.inj isOther
                    rw [isEntries] at impossible
                    cases impossible
                | ok entries =>
                    have used : (wire.after request).replies.length < size := by
                      rw [← isSize]
                      exact Client.fetch_replies_length
                        ((Client.fetch_apply made wire).trans (by rw [answered]))
                    obtain ⟨requests, sent, run⟩ := inductionHypothesis _ used
                      (wire.after request) rfl (page + 1)
                      ((answer.pagination.map Pagination.pageCount).getD pageCount)
                    rw [← reported?_of_answered answered] at sent run ⊢
                    exact ⟨request :: requests, sent, .joined inRange made answered isEntries run⟩
      · rw [readPages_of_lt (not_le.1 inRange)]
        exact ⟨[], rfl, .done wire (not_le.1 inRange)⟩

namespace PageRun

variable {page pageCount : Int} {wire : Wire} {requests : List Request}
variable {result : Except Fault (List Json)}

/-- The pages are asked for one after another, each once. -/
theorem inOrder (run : PageRun client token call kind page pageCount wire result requests) :
    List.Forall₂ (fun page request => client.request token (pageCall call page) = .ok request)
      (Int.range page (page + requests.length)) requests := by
  induction run with
  | done => simp [Int.range]
  | unmade => simp [Int.range]
  | @refused page pageCount wire request fault _ made _ =>
      have one : Int.range page (page + ([request].length : Nat)) = [page] := by simp [Int.range]
      rw [one]
      exact .cons made .nil
  | @joined page pageCount wire request answer entries result requests _ made _ _ _
      inductionHypothesis =>
      rw [List.length_cons, Client.range_succ]
      exact .cons made inductionHypothesis

/-- No page is asked for that lies behind the page count reported last. -/
theorem goesOn (run : PageRun client token call kind page pageCount wire result requests) :
    ∀ count < requests.length,
      page + count ≤ lastReported pageCount ((wire.exchanges requests).take count) := by
  induction run with
  | done => exact fun _ impossible => absurd impossible (Nat.not_lt_zero _)
  | unmade => exact fun _ impossible => absurd impossible (Nat.not_lt_zero _)
  | refused fault inRange _ _ =>
      intro count isFirst
      obtain rfl : count = 0 := Nat.lt_one_iff.1 isFirst
      simpa [lastReported] using inRange
  | joined inRange _ _ _ _ inductionHypothesis =>
      intro count isMade
      cases count with
      | zero => simpa [lastReported] using inRange
      | succ count =>
          have later := inductionHypothesis count (Nat.lt_of_succ_lt_succ isMade)
          rw [Wire.exchanges_cons, List.take_succ_cons, lastReported_cons]
          push_cast
          omega

/-- Nothing is asked for after a reply that is no page. -/
theorem stopsAtOnce (run : PageRun client token call kind page pageCount wire result requests) :
    ∀ exchange ∈ (wire.exchanges requests).dropLast, HasPage kind exchange := by
  induction run with
  | done => simp
  | unmade => simp
  | refused => simp
  | @joined page pageCount wire request answer entries result requests _ _ answered isEntries _
      inductionHypothesis =>
      rw [Wire.exchanges_cons]
      cases later : (wire.after request).exchanges requests with
      | nil => simp
      | cons exchange others =>
          rw [later] at inductionHypothesis
          rw [List.dropLast_cons_cons, List.forall_mem_cons]
          exact ⟨⟨answer, entries, answered, isEntries⟩, inductionHypothesis⟩

/-- After pages only the reading comes to an end, unless the next page cannot be asked for. -/
theorem ends (run : PageRun client token call kind page pageCount wire result requests)
    (allPages : ∀ exchange ∈ wire.exchanges requests, HasPage kind exchange) :
    (lastReported pageCount (wire.exchanges requests) < page + requests.length ∧
        ∃ entries, result = .ok entries) ∨
      (page + requests.length ≤ lastReported pageCount (wire.exchanges requests) ∧
        ∃ fault, result = .error fault ∧
          client.request token (pageCall call (page + requests.length)) = .error fault) := by
  induction run with
  | @done page pageCount wire behind =>
      refine Or.inl ⟨?_, [], rfl⟩
      simpa [lastReported] using behind
  | @unmade page pageCount wire fault inRange stopped =>
      refine Or.inr ⟨?_, fault, rfl, ?_⟩
      · simpa [lastReported] using inRange
      · simpa using stopped
  | refused fault _ _ noPage => exact absurd (allPages _ List.mem_cons_self) noPage
  | @joined page pageCount wire request answer entries result requests _ _ answered isEntries _
      inductionHypothesis =>
      rw [Wire.exchanges_cons, List.forall_mem_cons] at allPages
      have next : page + 1 + (requests.length : Int) = page + (request :: requests).length := by
        push_cast [List.length_cons]
        omega
      rw [Wire.exchanges_cons, lastReported_cons]
      rw [next] at inductionHypothesis
      rcases inductionHypothesis allPages.2 with
        ⟨isLast, others, rfl⟩ | ⟨goesOn, fault, rfl, stopped⟩
      · exact Or.inl ⟨isLast, _, rfl⟩
      · exact Or.inr ⟨goesOn, fault, rfl, stopped⟩

/-- The reading succeeds only where every reply is a page. -/
theorem hasPage_of_ok (run : PageRun client token call kind page pageCount wire result requests) :
    ∀ entries, result = .ok entries →
      ∀ exchange ∈ wire.exchanges requests, HasPage kind exchange := by
  induction run with
  | done => simp
  | unmade => simp
  | refused => simp
  | joined _ _ answered isEntries _ inductionHypothesis =>
      intro joined isJoined
      obtain ⟨others, isOthers, -⟩ := map_eq_ok_iff.1 isJoined
      rw [Wire.exchanges_cons, List.forall_mem_cons]
      exact ⟨⟨_, _, answered, isEntries⟩, inductionHypothesis others isOthers⟩

/-- Where all entries are objects, every reply is a page with a list. -/
theorem hasList_of_ok (run : PageRun client token call kind page pageCount wire result requests) :
    ∀ entries, result = .ok entries → (∀ entry ∈ entries, ∃ fields, entry = .obj fields) →
      ∀ exchange ∈ wire.exchanges requests, HasList kind exchange := by
  induction run with
  | done => simp
  | unmade => simp
  | refused => simp
  | @joined page pageCount wire request answer entries result requests _ _ answered isEntries _
      inductionHypothesis =>
      intro joined isJoined allObjects
      obtain ⟨others, isOthers, rfl⟩ := map_eq_ok_iff.1 isJoined
      rw [List.forall_mem_append] at allObjects
      have isList : entries = listedIn kind (request, wire.next) := by
        rw [listedIn_of_answered answered]
        exact pageEntries_eq_listed isEntries allObjects.1
      rw [Wire.exchanges_cons, List.forall_mem_cons, HasList, ← isList]
      exact ⟨⟨answer, answered, isEntries⟩, inductionHypothesis others isOthers allObjects.2⟩

/-- The entries of pages with lists are those of the lists, in the order of the pages. -/
theorem eq_flatMap (run : PageRun client token call kind page pageCount wire result requests) :
    ∀ entries, result = .ok entries →
      (∀ exchange ∈ wire.exchanges requests, HasList kind exchange) →
      entries = (wire.exchanges requests).flatMap (listedIn kind) := by
  induction run with
  | done =>
      intro entries isNil _
      exact (Except.ok.inj isNil).symm
  | unmade =>
      intro entries impossible
      cases impossible
  | refused =>
      intro entries impossible
      cases impossible
  | joined _ _ answered isEntries _ inductionHypothesis =>
      intro joined isJoined allLists
      obtain ⟨others, isOthers, rfl⟩ := map_eq_ok_iff.1 isJoined
      rw [Wire.exchanges_cons, List.forall_mem_cons] at allLists
      obtain ⟨answer, isAnswer, isList⟩ := allLists.1
      rw [answered] at isAnswer
      obtain rfl := Except.ok.inj isAnswer
      rw [isEntries] at isList
      rw [Wire.exchanges_cons, List.flatMap_cons, ← Except.ok.inj isList,
        ← inductionHypothesis others isOthers allLists.2]

end PageRun

/-! ## Requests -/

/-- The request asks for a page of a list, for a hundred entries at most and in the name of the user
whose access token it is. -/
structure AsksForPage (client : Client) (token : Option String) (kind status : String) (page : Int)
    (request : Request) : Prop where
  endpoint : client.IsFor (segments .watchlist kind.toList status.toList) request
  method : request.method = "GET"
  parameters : Text.Percent.readPairs request.query =
    [("client_id".toList, client.clientId.toList), ("extended".toList, "full".toList),
      ("page".toList, (toString page).toList), ("limit".toList, "100".toList)]
  signed : client.IsSigned (Client.bearerText token) request

theorem asksForPage_of_request {status : String} {page : Int} {request : Request}
    (isCall : watchlistCall kind status = .ok call)
    (made : client.request token (pageCall call page) = .ok request) :
    AsksForPage client token kind status page request := by
  obtain ⟨endpoint, method, query, -⟩ := watchlistCall_eq_ok isCall
  have sentQuery : (pageCall call page).query =
      [("extended", .str "full"), ("page", .int page), ("limit", .int pageSize)] := by
    simp [pageCall, Client.withQuery, query, Keyed.put]
  have sentArguments : client.arguments (pageCall call page).query =
      [("client_id", .str client.clientId), ("extended", .str "full"), ("page", .int page),
        ("limit", .int pageSize)] := by
    simp [sentQuery, Client.arguments, Keyed.put, Json.isNull]
  constructor
  · exact ⟨token, _, made, endpoint⟩
  · rw [(Client.method_of_request made).1, pageCall, Client.withQuery, method]
    decide
  · obtain ⟨-, -, -, isQuery, -⟩ := Client.request_eq_ok made
    rw [isQuery, sentArguments, Text.Percent.readPairs_encodePairs]
    · rfl
    · exact List.cons_ne_nil _ _
  · apply Client.isSigned_of_request _ made
    rw [sentQuery]
    simp [Field.clientParameter]

/-! ## Contents -/

/-- The contents for the entries of a list. -/
def contentsOf (uri kind status : String) (entries : List Json) :
    Except Fault (List ResourceContent) :=
  (entries.zipIdx.mapM fun (entry, index) => watchlistLine index entry).map fun lines =>
    ResourceContent.ofLines uri lines s!"no {kind} with status {status}"

/-- The content is that of an entry with a number. -/
def ShowsEntry (uri : String) (numbered : Json × Nat) (content : ResourceContent) : Prop :=
  ∃ line, watchlistLine numbered.2 numbered.1 = .ok line ∧
    content = ⟨s!"{uri}#{numbered.2}", line⟩ ∧ (s!"{numbered.2}: ").toList <+: line.toList

/-- There is one content for each entry, numbered from zero, and where there is no entry there is a
single content that says so. -/
structure ShowsEntries (uri kind status : String) (entries : List Json)
    (contents : List ResourceContent) : Prop where
  single_iff : contents = [⟨uri, s!"no {kind} with status {status}"⟩] ↔ entries = []
  numbered : entries ≠ [] → List.Forall₂ (ShowsEntry uri) entries.zipIdx contents

theorem numbered_ne (uri : String) (index : Nat) : s!"{uri}#{index}" ≠ uri := by
  intro same
  have sameLength := congrArg String.length same
  have one : "#".length = 1 := rfl
  simp only [toString, String.length_append, one] at sameLength
  omega

theorem forall₂_numbered (uri : String) {entries : List Json} :
    ∀ {start : Nat} {lines : List String},
      List.Forall₂ (fun (numbered : Json × Nat) line =>
        watchlistLine numbered.2 numbered.1 = .ok line) (entries.zipIdx start) lines →
      List.Forall₂ (ShowsEntry uri) (entries.zipIdx start)
        ((lines.zipIdx start).map fun (line, index) => ⟨s!"{uri}#{index}", line⟩) := by
  induction entries with
  | nil =>
      intro start lines made
      cases made
      exact .nil
  | cons entry rest inductionHypothesis =>
      intro start lines made
      rw [List.zipIdx_cons] at made ⊢
      cases made with
      | cons first others =>
          rw [List.zipIdx_cons, List.map_cons]
          exact .cons ⟨_, first, rfl, (watchlistLine_eq_ok first).2⟩ (inductionHypothesis others)

theorem exists_contentsOf_iff {uri kind status : String} {entries : List Json} :
    (∃ contents, contentsOf uri kind status entries = .ok contents) ↔
      ∀ numbered ∈ entries.zipIdx, ∃ line, watchlistLine numbered.2 numbered.1 = .ok line := by
  simp only [contentsOf, map_eq_ok_iff, mapM_eq_ok_iff]
  constructor
  · rintro ⟨contents, lines, made, -⟩ numbered member
    have flipped : List.Forall₂ (fun line (numbered : Json × Nat) =>
        watchlistLine numbered.2 numbered.1 = .ok line) lines entries.zipIdx := made.flip
    obtain ⟨line, -, isLine⟩ := exists_of_forall₂_right flipped numbered member
    exact ⟨line, isLine⟩
  · intro each
    obtain ⟨lines, made⟩ := exists_forall₂_of_forall_mem each
    exact ⟨_, lines, made, rfl⟩

/-- Contents are given for objects only. -/
theorem allObjects_of_contentsOf {uri kind status : String} {entries : List Json}
    {contents : List ResourceContent} (done : contentsOf uri kind status entries = .ok contents) :
    ∀ entry ∈ entries, ∃ fields, entry = .obj fields := by
  intro entry member
  obtain ⟨index, inRange, isEntry⟩ := List.mem_iff_getElem.1 member
  have isNumbered : (entry, index) ∈ entries.zipIdx := by
    rw [List.mem_zipIdx_iff_getElem?, List.getElem?_eq_getElem inRange, isEntry]
  obtain ⟨line, isLine⟩ := exists_contentsOf_iff.1 ⟨contents, done⟩ _ isNumbered
  exact (watchlistLine_eq_ok isLine).1

theorem showsEntries_of_contentsOf {uri kind status : String} {entries : List Json}
    {contents : List ResourceContent} (done : contentsOf uri kind status entries = .ok contents) :
    ShowsEntries uri kind status entries contents := by
  obtain ⟨lines, made, rfl⟩ := map_eq_ok_iff.1 done
  rw [mapM_eq_ok_iff] at made
  cases entries with
  | nil =>
      cases made
      exact ⟨iff_of_true rfl rfl, fun filled => absurd rfl filled⟩
  | cons entry rest =>
      have numbered := forall₂_numbered uri made
      rw [List.zipIdx_cons] at made
      cases made with
      | @cons _ line _ others first laterMade =>
          refine ⟨iff_of_false ?_ (List.cons_ne_nil _ _), fun _ => numbered⟩
          intro single
          have sameUri := congrArg ResourceContent.uri (List.cons.inj single).1
          exact numbered_ne uri 0 sameUri

theorem readWatchlist_apply {uri status : String} (isCall : watchlistCall kind status = .ok call)
    (wire : Wire) :
    readWatchlist client token uri kind status wire =
      ((readPages client token call kind 1 1 wire).1 >>= contentsOf uri kind status,
        (readPages client token call kind 1 1 wire).2) := by
  rw [readWatchlist, Talk.bind_apply, isCall, Talk.ofResult_apply]
  dsimp only
  rw [Talk.bind_apply]
  generalize readPages client token call kind 1 1 wire = run
  obtain ⟨result, after⟩ := run
  cases result with
  | error fault => rfl
  | ok entries =>
      dsimp only
      rw [Talk.bind_apply, Talk.ofResult_apply, ok_bind, contentsOf]
      generalize entries.zipIdx.mapM (m := Except Fault) _ = lines
      cases lines <;> rfl

theorem readWatchlist_of_error {uri status : String} {fault : Fault}
    (stopped : watchlistCall kind status = .error fault) (wire : Wire) :
    readWatchlist client token uri kind status wire = (.error fault, wire) := by
  rw [readWatchlist, Talk.bind_apply, stopped, Talk.ofResult_apply]

/-! ## A whole list -/

/-- The request for a page of a list. -/
def pageRequest (client : Client) (token : Option String) (kind status : String) (page : Int) :
    Except Fault Request :=
  watchlistCall kind status >>= fun call => client.request token (pageCall call page)

/-- The numbers of pages that do not lie below the page count reported last by then. -/
def reached (exchanges : List (Request × Reply)) : Set Nat :=
  {page | 1 ≤ page ∧ lastReported 1 (exchanges.take page) ≤ page}

/-- What reading a list of the user comes to: what is requested, where that ends, and what the list
shows. -/
structure ReadsWatchlist (client : Client) (token : Option String) (uri kind status : String)
    (wire : Wire) (run : Except Fault (List ResourceContent) × Wire) (requests : List Request) :
    Prop where
  sent : run.2 = wire.afterAll requests
  inOrder : List.Forall₂ (AsksForPage client token kind status)
    (Int.range 1 (1 + requests.length)) requests
  notBeyond : requests.length ∈ lowerBounds (reached (wire.exchanges requests))
  stopsAtOnce : ∀ exchange ∈ (wire.exchanges requests).dropLast, HasPage kind exchange
  isLast : (∀ exchange ∈ wire.exchanges requests, HasPage kind exchange) →
    IsLeast (reached (wire.exchanges requests)) requests.length ∨
      ∃ fault, run.1 = .error fault ∧
        pageRequest client token kind status (1 + requests.length) = .error fault
  fails : (∃ exchange ∈ wire.exchanges requests, ¬HasPage kind exchange) →
    ∃ fault, run.1 = .error fault
  returns_iff : (∃ contents, run.1 = .ok contents) ↔
    (∀ exchange ∈ wire.exchanges requests, HasList kind exchange) ∧
      IsLeast (reached (wire.exchanges requests)) requests.length ∧
      ∀ numbered ∈ ((wire.exchanges requests).flatMap (listedIn kind)).zipIdx,
        ∃ line, watchlistLine numbered.2 numbered.1 = .ok line
  shows : ∀ contents, run.1 = .ok contents → ShowsEntries uri kind status
    ((wire.exchanges requests).flatMap (listedIn kind)) contents
  bounded : ∀ most : Int,
    (∀ exchange ∈ wire.exchanges requests, ∀ count, reported? exchange = some count →
      count ≤ most) → (requests.length : Int) ≤ max 1 most

namespace PageRun

variable {wire : Wire} {requests : List Request} {result : Except Fault (List Json)}

theorem notBeyond (run : PageRun client token call kind 1 1 wire result requests) :
    requests.length ∈ lowerBounds (reached (wire.exchanges requests)) := by
  intro page isReached
  by_contra beyond
  have goesOn := run.goesOn page (not_le.1 beyond)
  have enough := isReached.2
  omega

theorem isLeast_reached_iff (run : PageRun client token call kind 1 1 wire result requests) :
    IsLeast (reached (wire.exchanges requests)) requests.length ↔
      lastReported 1 (wire.exchanges requests) < 1 + requests.length := by
  have whole : (wire.exchanges requests).take requests.length = wire.exchanges requests := by
    rw [← Wire.length_exchanges requests wire, List.take_length]
  constructor
  · intro isLeast
    have enough := isLeast.1.2
    rw [whole] at enough
    omega
  · intro enough
    refine ⟨⟨?_, ?_⟩, run.notBeyond⟩
    · cases requests with
      | nil => exact absurd enough (by simp [lastReported])
      | cons request rest => simp
    · rw [whole]
      omega

/-- Every request but the first is for a page that is not beyond a page count reported before. -/
theorem length_le (run : PageRun client token call kind 1 1 wire result requests) {most : Int}
    (bounded : ∀ exchange ∈ wire.exchanges requests, ∀ count, reported? exchange = some count →
      count ≤ most) : (requests.length : Int) ≤ max 1 most := by
  cases size : requests.length with
  | zero =>
      push_cast
      omega
  | succ count =>
      have goesOn := run.goesOn count (by omega)
      have within : lastReported 1 ((wire.exchanges requests).take count) ≤ max 1 most := by
        apply lastReported_le (le_max_left 1 most)
        intro exchange member reportedCount report
        exact le_max_of_le_right
          (bounded exchange (List.mem_of_mem_take member) reportedCount report)
      push_cast
      omega

end PageRun

/-- Where the values of the variables cannot be written in an address, nothing is requested. -/
theorem readsWatchlist_nil {wire : Wire} {uri status : String} {fault : Fault}
    (stopped : watchlistCall kind status = .error fault) :
    ReadsWatchlist client token uri kind status wire (.error fault, wire) [] := by
  have noLeast : ¬IsLeast (reached (wire.exchanges [])) ([] : List Request).length :=
    fun isLeast => Nat.not_succ_le_zero 0 isLeast.1.1
  constructor
  · rfl
  · exact .nil
  · exact fun page _ => Nat.zero_le page
  · exact fun exchange impossible => absurd impossible List.not_mem_nil
  · refine fun _ => Or.inr ⟨fault, rfl, ?_⟩
    rw [pageRequest, stopped]
    rfl
  · exact fun _ => ⟨fault, rfl⟩
  · refine iff_of_false ?_ fun returns => noLeast returns.2.1
    rintro ⟨contents, impossible⟩
    cases impossible
  · intro contents impossible
    cases impossible
  · exact fun most _ => le_max_of_le_left (by decide)

theorem readsWatchlist_of_pageRun {wire : Wire} {uri status : String} {requests : List Request}
    {result : Except Fault (List Json)} (isCall : watchlistCall kind status = .ok call)
    (run : PageRun client token call kind 1 1 wire result requests) :
    ReadsWatchlist client token uri kind status wire
      (result >>= contentsOf uri kind status, wire.afterAll requests) requests := by
  have ends := run.ends
  rw [← run.isLeast_reached_iff] at ends
  refine ⟨rfl, ?_, run.notBeyond, run.stopsAtOnce, ?_, ?_, ?_, ?_, fun _ => run.length_le⟩
  · exact run.inOrder.imp fun page request made => asksForPage_of_request isCall made
  · intro allPages
    rcases ends allPages with ⟨isLeast, -⟩ | ⟨-, fault, rfl, unmade⟩
    · exact Or.inl isLeast
    · refine Or.inr ⟨fault, rfl, ?_⟩
      rw [pageRequest, isCall]
      exact unmade
  · rintro ⟨exchange, member, noPage⟩
    cases result with
    | error fault => exact ⟨fault, rfl⟩
    | ok entries => exact absurd (run.hasPage_of_ok entries rfl exchange member) noPage
  · constructor
    · rintro ⟨contents, done⟩
      obtain ⟨entries, rfl, made⟩ := bind_eq_ok_iff.1 done
      have allLists := run.hasList_of_ok entries rfl (allObjects_of_contentsOf made)
      rw [← run.eq_flatMap entries rfl allLists]
      refine ⟨allLists, ?_, exists_contentsOf_iff.1 ⟨contents, made⟩⟩
      rcases ends (run.hasPage_of_ok entries rfl) with ⟨isLeast, -⟩ | ⟨-, fault, impossible, -⟩
      · exact isLeast
      · cases impossible
    · rintro ⟨allLists, isLeast, haveLines⟩
      rcases ends fun exchange member => (allLists exchange member).hasPage with
        ⟨-, entries, rfl⟩ | ⟨goesOn, -⟩
      · rw [← run.eq_flatMap entries rfl allLists] at haveLines
        exact exists_contentsOf_iff.2 haveLines
      · exact absurd (run.isLeast_reached_iff.1 isLeast) (not_lt.2 goesOn)
  · intro contents done
    obtain ⟨entries, rfl, made⟩ := bind_eq_ok_iff.1 done
    have allLists := run.hasList_of_ok entries rfl (allObjects_of_contentsOf made)
    rw [← run.eq_flatMap entries rfl allLists]
    exact showsEntries_of_contentsOf made

/-- A list of the user is read page by page up to the page count reported last, and its contents
number the entries of all pages. -/
theorem exists_readsWatchlist (client : Client) (token : Option String) (uri kind status : String)
    (wire : Wire) :
    ∃ requests, ReadsWatchlist client token uri kind status wire
      (readWatchlist client token uri kind status wire) requests := by
  cases isCall : watchlistCall kind status with
  | error fault =>
      rw [readWatchlist_of_error isCall]
      exact ⟨[], readsWatchlist_nil isCall⟩
  | ok call =>
      obtain ⟨requests, sent, run⟩ := exists_pageRun client token call kind wire 1 1
      rw [readWatchlist_apply isCall, sent]
      exact ⟨requests, readsWatchlist_of_pageRun isCall run⟩

end ApiTools.ResourceTemplate
