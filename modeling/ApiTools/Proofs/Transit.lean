import ApiTools.Proofs.ArgType.Printable
import ApiTools.Proofs.ArgumentModel
import ApiTools.Proofs.Catalog.Module
import ApiTools.Proofs.Flattening
import ApiTools.Proofs.Text.Utf8

/-!
# Data in transit

The body of a request denotes what the handler made of the arguments, and the text that a tool shows
denotes what the service answered: in both directions a value is written so that it is read back. A
response from which a tool cannot even take its pagination is the only one that gets lost.
-/

namespace ApiTools

open ApiTools.Binding
open ApiTools.Http
open ApiTools.Json (IsPrintable)

/-! ## Bodies -/

namespace ArgumentModel

theorem lists_ofFields {name : String} {fields : List Field} {model : ArgumentModel}
    (loaded : ofFields name fields = .ok model)
    (lists : ∀ field ∈ fields, field.type.Lists IsPrintable) :
    ∀ declared ∈ model.fields, declared.2.type.Lists IsPrintable := by
  intro declared member
  obtain ⟨field, fieldMember, declares⟩ := exists_field_of_mem loaded declared member
  exact ArgType.lists_load (lists field fieldMember) ArgType.isPrintable_unsigned declares.1

theorem isPrintable_of_check {model : ArgumentModel}
    (lists : ∀ declared ∈ model.fields, declared.2.type.Lists IsPrintable) {arguments : Json}
    {checked : Arguments} (printable : IsPrintable arguments)
    (accepted : model.check arguments = .ok checked) :
    ∀ argument ∈ checked, IsPrintable argument.2 := by
  obtain ⟨given, rfl, done⟩ := check_eq_ok_iff.1 accepted
  refine ArgType.isPrintable_of_checkProperties (fun property member => ?_)
    (Json.orderly_isPrintable.field printable) done
  obtain ⟨declared, declaredMember, rfl⟩ := List.mem_map.1 member
  exact ArgType.isPrintable_of_check (lists declared declaredMember)

end ArgumentModel

namespace Handler

variable {args : Arguments}

theorem isPrintable_foldl_addItem (printable : ∀ argument ∈ args, IsPrintable argument.2)
    (pairs : List (String × String)) {done : List (String × Json)}
    (sofar : IsPrintable (.obj done)) : IsPrintable (.obj (pairs.foldl (addItem args) done)) := by
  induction pairs generalizing done with
  | nil => exact sofar
  | cons pair rest inductionHypothesis =>
      apply inductionHypothesis
      unfold addItem
      split
      · next value given =>
          have item := printable _ (Keyed.mem_of_get? (Arguments.get?_of_given? given))
          refine .obj (Keyed.keys_put_nodup (Json.orderly_isPrintable.distinct sofar) _ _) ?_
          intro field member
          rcases Keyed.mem_of_mem_put member with rfl | before
          · exact .arr (List.forall_mem_singleton.2 item)
          · exact Json.orderly_isPrintable.field sofar field before
      · exact sofar

theorem isPrintable_body {handler : Handler}
    (printable : ∀ argument ∈ args, IsPrintable argument.2) :
    IsPrintable (handler.body args) := by
  by_cases flattens : handler.flatten = []
  · rw [body, if_pos (by simpa using flattens)]
    cases given : Keyed.get? "body" args with
    | none => exact .null
    | some value => exact printable _ (Keyed.mem_of_get? given)
  · rw [body_of_flatten flattens]
    exact isPrintable_foldl_addItem printable handler.flatten
      (.obj List.nodup_nil (List.forall_mem_nil _))

end Handler

/-! ## Requests -/

/-- The body of a request with a body is the line on which its value is written. -/
theorem Client.body_eq_toLine {client : Client} {token : Option String} {handler : Handler}
    {args : Arguments} {call : Call} {request : Request} (called : handler.call args = .ok call)
    (made : client.request token call = .ok request) (hasBody : handler.hasBody = true)
    (filled : handler.body args ≠ .null) : request.body = (handler.body args).toLine := by
  obtain ⟨isMethod, isBody⟩ := method_of_request made
  obtain ⟨endpoint, query, -, -, rfl⟩ := Handler.call_eq_ok_iff.1 called
  have otherMethod : ∀ verb ∈ ["POST", "PUT", "PATCH"],
      String.ofList (Text.upper verb.toList) ≠ "GET" := by decide
  have notGet := otherMethod handler.verb (List.contains_iff_mem.1 hasBody)
  rw [← isMethod] at notGet
  rw [isBody, if_pos hasBody]
  cases isValue : handler.body args with
  | null => exact absurd isValue filled
  | _ => exact if_neg notGet

/-! ## Responses -/

/-- The response is a success that brings a document of admissible size. -/
structure Http.Response.Brings (response : Response) (data : Json) : Prop where
  success : response.isSuccess = true
  filled : response.status ≠ 204
  fits : response.texts.flatten.length ≤ Answer.sizeLimit
  reads : Json.read response.texts.flatten = .ok data

/-- What such a response means is the document, as soon as its pagination is known. -/
theorem Answer.ofResponse_of_brings {response : Response} {data : Json}
    (brings : response.Brings data) :
    ofResponse response = (Pagination.ofResponse response).map fun pagination =>
      ⟨data, pagination⟩ := by
  obtain ⟨success, filled, fits, reads⟩ := brings
  have passes : checkLocation response = .ok () := by
    cases checked : checkLocation response with
    | ok passed => rfl
    | error fault =>
        rw [isSuccess_of_checkLocation_eq_error checked] at success
        cases success
  have notRedirection : response.status ≠ 302 := by
    intro isRedirection
    rw [Response.isSuccess, isRedirection] at success
    cases success
  have hasText : response.texts.flatten ≠ [] := by
    intro isNil
    rw [isNil] at reads
    cases reads
  have hasData : dataOf response response.texts.flatten = .ok data :=
    dataOf_eq_ok_iff.2 (Or.inr ⟨hasText, reads⟩)
  rw [ofResponse_of_read passes filled notRedirection, gather_eq_ok_iff.2 ⟨fits, rfl⟩]
  dsimp only
  rw [ofText, success, Bool.not_true, if_neg (by decide), hasData]
  cases Pagination.ofResponse response <;> rfl

/-! ## Calls -/

theorem Outcome.ofResult_eq_content_iff {tool : String} {result : Except Fault Content}
    {shown : Content} : ofResult tool result = .ok (.content shown) ↔ result = .ok shown := by
  cases result with
  | ok other => simp [ofResult]
  | error fault => cases fault <;> simp [ofResult]

/-- The arguments are accepted and become a request to the service. -/
structure ToolDefinition.Reaches (definition : ToolDefinition) (client : Client)
    (token : Option String) (arguments : Json) (checked : Arguments) (request : Request) :
    Prop where
  accepted : definition.arguments.check (arguments.orElse (.obj [])) = .ok checked
  makes : ∃ call, definition.handler.call checked = .ok call ∧
    client.request token call = .ok request
  absolute : request.address.isAbsolute = true

namespace Server

variable {description : Json} {whitelist : List WhitelistEntry} {catalog : Catalog}
  {client : Client} {server : Server}

/-- A call sends the request and shows what the reply to it means. -/
theorem call_of_reaches (started : start client (some catalog) = .ok server)
    {definition : ToolDefinition}
    (member : definition ∈ server.definitions) {token : Option String} {arguments : Json}
    {checked : Arguments} {request : Request}
    (reaches : definition.Reaches server.client token arguments checked request) (wire : Wire) :
    server.registry.call server.client token definition.name arguments wire =
      (Outcome.ofResult definition.name (Answer.ofReply request wire.next >>= fun answer =>
        definition.handler.format checked answer.data), wire.after request) := by
  obtain ⟨call, called, made⟩ := reaches.makes
  have registered := get?_of_mem_definitions started definition member
  have fetched := Client.fetch_apply made wire
  rw [Registry.call, registered]
  dsimp only
  rw [RegisteredTool.call]
  have accepted := reaches.accepted
  have run : Action.run (.operation definition.handler) server.client token checked wire =
      (Answer.ofReply request wire.next >>= fun answer =>
        definition.handler.format checked answer.data, wire.after request) := by
    rw [Action.run, Action.runOperation, Talk.bind_apply, called, Talk.ofResult_apply]
    dsimp only
    rw [Talk.bind_apply, fetched]
    cases answered : Answer.ofReply request wire.next with
    | error fault => rfl
    | ok answer => rfl
  simp only [ToolDefinition.registered, accepted, run]

/-- When the reply brings a document, the pagination alone decides whether it gets to the
formatter. -/
theorem call_of_brings (started : start client (some catalog) = .ok server)
    {definition : ToolDefinition}
    (member : definition ∈ server.definitions) {token : Option String} {arguments : Json}
    {checked : Arguments} {request : Request}
    (reaches : definition.Reaches server.client token arguments checked request) {wire : Wire}
    {response : Response} {data : Json} (replied : wire.next = .response response)
    (brings : response.Brings data) :
    (server.registry.call server.client token definition.name arguments wire).1 =
      Outcome.ofResult definition.name (Pagination.ofResponse response >>= fun _ =>
        definition.handler.format checked data) := by
  rw [call_of_reaches started member reaches wire, replied, Answer.ofReply,
    if_pos reaches.absolute, Answer.ofResponse_of_brings brings]
  cases Pagination.ofResponse response <;> rfl

/-- What the tools of the module take from an API description can be read back once it is written. -/
theorem lists_of_mem_definitions (isRead : ∃ document, Json.read document = .ok description)
    (compiled : Catalog.compile description whitelist = .ok catalog)
    (started : start client (some catalog) = .ok server) :
    ∀ definition ∈ server.definitions, ∀ declared ∈ definition.arguments.fields,
      declared.2.type.Lists IsPrintable := by
  intro definition member
  obtain ⟨document, read⟩ := isRead
  obtain ⟨tool, toolMember, registers⟩ :=
    Catalog.exists_registers_of_start compiled started definition member
  obtain ⟨entry, -, warnings, entryDone⟩ :=
    Catalog.exists_compileEntry_of_mem compiled tool toolMember
  obtain ⟨operation, parameters, set, compiles⟩ := Catalog.compiles_of_compileEntry entryDone
  refine ArgumentModel.lists_ofFields registers.arguments ?_
  rw [compiles.fields]
  exact FieldSet.lists_of_mem Json.orderly_isPrintable
    (compiles.holds_parameters Json.orderly_isPrintable.toHereditary
      (Json.isPrintable_of_read read)) compiles.collected

/-- For a call with accepted arguments that becomes a request, the bytes of its body denote what the
handler made of the arguments. A tool with JSON responses shows the document of a success as one
text that denotes the same data, unless a header for the pagination cannot be read. -/
theorem keepsData_iff (isRead : ∃ document, Json.read document = .ok description)
    (compiled : Catalog.compile description whitelist = .ok catalog)
    (started : start client (some catalog) = .ok server) :
    ∀ definition ∈ server.definitions, ∀ (token : Option String) (arguments : Json)
      (checked : Arguments) (request : Request),
      (∃ document, Json.read document = .ok arguments) →
      definition.Reaches server.client token arguments checked request →
      (definition.handler.hasBody = true → definition.handler.body checked ≠ .null →
        Json.read (Text.Utf8.decode (Text.Utf8.encode request.body.toList)) =
          .ok (definition.handler.body checked)) ∧
      ∀ wire,
        (server.registry.call server.client token definition.name arguments wire).2 =
          wire.after request ∧
        ∀ response data, definition.handler.responseFormat = "json" →
          wire.next = .response response → response.Brings data →
          ((∃ text, (server.registry.call server.client token definition.name arguments wire).1 =
              .ok (.content (.one text)) ∧ Json.read text.toList = .ok data) ↔
            Pagination.hasReadableHeaders response = true) := by
  intro definition member token arguments checked request argumentsRead reaches
  obtain ⟨document, read⟩ := argumentsRead
  obtain ⟨call, called, made⟩ := reaches.makes
  have lists := lists_of_mem_definitions isRead compiled started definition member
  have given : IsPrintable (arguments.orElse (.obj [])) :=
    Json.Hereditary.orElse (Json.isPrintable_of_read read)
      Json.orderly_isPrintable.toHereditary.emptyObj
  have checkedPrintable := ArgumentModel.isPrintable_of_check lists given reaches.accepted
  refine ⟨fun hasBody filled => ?_, fun wire => ?_⟩
  · rw [Text.Utf8.decode_encode, Client.body_eq_toLine called made hasBody filled]
    exact Json.read_toLine (Handler.isPrintable_body checkedPrintable)
  · refine ⟨congrArg Prod.snd (call_of_reaches started member reaches wire), ?_⟩
    intro response data isJson replied brings
    have notSimple : definition.handler.responseFormat ≠ "simple" := by
      rw [isJson]
      decide
    have shows : definition.handler.format checked data = .ok (.one (data.toLines false)) :=
      if_neg notSimple
    rw [call_of_brings started member reaches replied brings, shows,
      ← Pagination.isOk_ofResponse]
    cases Pagination.ofResponse response with
    | error fault =>
        refine iff_of_false ?_ Bool.false_ne_true
        rintro ⟨text, isShown, -⟩
        cases Outcome.ofResult_eq_content_iff.1 isShown
    | ok pagination =>
        exact iff_of_true ⟨data.toLines false, rfl,
          Json.read_toLines (Json.isPrintable_of_read brings.reads) false⟩ rfl

/-! ## A movie for the history -/

theorem isPrintable_member (name : String) {value : Json} (printable : IsPrintable value) :
    IsPrintable (.obj [(name, value)]) :=
  .obj (List.nodup_singleton name) (List.forall_mem_singleton.2 printable)

theorem isPrintable_historyDescription {names : List String} (distinct : names.Nodup) :
    IsPrintable (Catalog.historyDescription names) := by
  have items : IsPrintable (.obj [("type", .str "array"),
      ("items", .obj [("type", .str "object")])]) := by
    refine .obj (by decide) (List.forall_mem_cons.2 ⟨.str "array", ?_⟩)
    exact List.forall_mem_singleton.2 (isPrintable_member "type" (.str "object"))
  have members : IsPrintable (.obj (Field.bodyMembers names)) := by
    refine .obj ?_ (List.forall_mem_map.2 fun name _ => items)
    rw [Keyed.keys, Field.bodyMembers, List.map_map]
    exact (List.map_id names).symm ▸ distinct
  have otherKeys : (["type", "properties"] : List String).Nodup := by decide
  have schema : IsPrintable (Field.bodyOf names) :=
    .obj otherKeys
      (List.forall_mem_cons.2 ⟨.str "object", List.forall_mem_singleton.2 members⟩)
  unfold Catalog.historyDescription
  iterate 7 apply isPrintable_member
  exact schema

def movieArguments : Arguments :=
  [("movie", .obj [("title", .str "Amélie")])]

def movieBody : Json :=
  .obj [("movies", .arr [.obj [("title", .str "Amélie")]])]

def historyAnswer : Json :=
  .obj [("added", .arr [.int 1, .float (.finite false 6755399441055744 (-52)), .str "é"])]

def historyReply : Response :=
  ⟨200, [], [Text.Utf8.encode "\x7b\"added\": [1, 15e-1, \"\\u00e9\"]\x7d".toList]⟩

set_option maxRecDepth 20000 in
/-- A movie whose title is not in ASCII is sent, and an answer with numbers and escapes is shown. -/
theorem keepsData_of_movieArguments :
    ∃ catalog server request, ∃ definition ∈ server.definitions,
      Catalog.compile (Catalog.historyDescription ["shows", "movies"]) [Catalog.historyEntry] =
        .ok catalog ∧
      start (.make Client.defaultBaseUrl "id") (some catalog) = .ok server ∧
      definition.Reaches server.client none (.obj movieArguments) movieArguments request ∧
      Json.read (Text.Utf8.decode (Text.Utf8.encode request.body.toList)) = .ok movieBody ∧
      ∃ text, (server.registry.call server.client none definition.name (.obj movieArguments)
          ⟨[.response historyReply], []⟩).1 = .ok (.content (.one text)) ∧
        Json.read text.toList = .ok historyAnswer := by
  have starts : (ofDescription? (Catalog.historyDescription ["shows", "movies"])
      [Catalog.historyEntry] (.make Client.defaultBaseUrl "id")).any (fun server =>
        server.definitions.any fun definition =>
          decide (definition.handler.responseFormat = "json" ∧
            definition.handler.hasBody = true ∧
            definition.handler.body movieArguments = movieBody ∧
            definition.arguments.check (.obj movieArguments) = .ok movieArguments ∧
            definition.handler.call movieArguments =
              .ok ⟨"/sync/history", "POST", [], some movieBody⟩) &&
          (server.client.request none ⟨"/sync/history", "POST", [], some movieBody⟩).toOption.any
            fun request => request.address.isAbsolute) = true := by
    decide +kernel
  obtain ⟨catalog, server, compiled, started, holds⟩ := exists_of_any_ofDescription? starts
  obtain ⟨definition, member, holds⟩ := List.any_eq_true.1 holds
  obtain ⟨holds, sends⟩ := Bool.and_eq_true_iff.1 holds
  obtain ⟨isJson, hasBody, isBody, accepted, called⟩ := of_decide_eq_true holds
  obtain ⟨request, made, absolute⟩ := exists_eq_ok_of_any sends
  have reaches : definition.Reaches server.client none (.obj movieArguments) movieArguments
      request := ⟨accepted, ⟨_, called, made⟩, absolute⟩
  have descriptionRead : ∃ document, Json.read document =
      .ok (Catalog.historyDescription ["shows", "movies"]) :=
    ⟨_, Json.read_toLine (isPrintable_historyDescription (by decide))⟩
  have argumentsRead : ∃ document, Json.read document = .ok (.obj movieArguments) :=
    ⟨(Json.obj movieArguments).toLine.toList, by decide +kernel⟩
  have keeps := keepsData_iff descriptionRead compiled started definition member none _ _ _
    argumentsRead reaches
  have sent := keeps.1 hasBody (by rw [isBody]; decide)
  rw [isBody] at sent
  have brings : historyReply.Brings historyAnswer :=
    ⟨by decide, by decide, by decide +kernel, by decide +kernel⟩
  have shown := ((keeps.2 ⟨[.response historyReply], []⟩).2 historyReply historyAnswer isJson rfl
    brings).2 (by decide +kernel)
  exact ⟨catalog, server, request, definition, member, compiled, started, reaches, sent, shown⟩

/-! ## A page with a long number -/

/-- A response with an empty object and the number of a page. -/
def pageReply (page : String) : Response :=
  ⟨200, [("X-Pagination-Page", page)], [Text.Utf8.encode "\x7b\x7d".toList]⟩

theorem header?_pageReply (page : String) :
    (pageReply page).header? "x-pagination-page" = some page := by
  simp [Response.header?, pageReply]

theorem texts_pageReply (page : String) : (pageReply page).texts = [['{', '}'], []] := by
  have noCharset : (pageReply page).header? "content-type" = none := by
    simp [Response.header?, pageReply]
  rw [Response.texts, Charset.ofResponse, noCharset]
  rfl

theorem brings_pageReply (page : String) : (pageReply page).Brings (.obj []) := by
  refine ⟨rfl, by simp [pageReply], ?_, ?_⟩ <;> rw [texts_pageReply]
  · decide
  · decide

/-- A page number that is written with so many ones. -/
def ones (count : Nat) : String :=
  String.ofList (List.replicate count '1')

theorem length_leadingDigits_ones (count : Nat) :
    (Pagination.leadingDigits (ones count).toList).length = count := by
  have trimmed : Text.trimLeft (List.replicate count '1') = List.replicate count '1' := by
    cases count <;> rfl
  have noSign : Pagination.unsigned (List.replicate count '1') = List.replicate count '1' := by
    cases count <;> rfl
  have isDigit : Text.isDigit '1' = true := by decide
  rw [ones, String.toList_ofList, Pagination.leadingDigits, trimmed, noSign,
    List.takeWhile_replicate, if_pos isDigit, List.length_replicate]

theorem hasReadableHeaders_pageReply (page : String) :
    Pagination.hasReadableHeaders (pageReply page) =
      decide ((Pagination.leadingDigits page.toList).length ≤ Decimal.digitLimit) := by
  have otherHeader : ∀ name ∈ ["x-pagination-limit", "x-pagination-page-count",
      "x-pagination-item-count"], (pageReply page).header? name = none := by
    simp [Response.header?, pageReply]
  rw [Pagination.hasReadableHeaders, Pagination.headerNames, List.all_cons, header?_pageReply,
    List.all_eq_true.2 fun name member => by rw [otherHeader name member], Bool.and_true]

theorem ofResponse_pageReply {count : Nat} (tooLong : Decimal.digitLimit < count) :
    Pagination.ofResponse (pageReply (ones count)) = .error .badNumber := by
  have unreadable : Pagination.hasReadableHeaders (pageReply (ones count)) = false := by
    rw [hasReadableHeaders_pageReply, length_leadingDigits_ones, decide_eq_false (Nat.not_le.2 tooLong)]
  cases paged : Pagination.ofResponse (pageReply (ones count)) with
  | error fault => rw [Pagination.ofResponse_eq_error paged]
  | ok pagination =>
      rw [← Pagination.isOk_ofResponse, paged] at unreadable
      cases unreadable

/-- The reply brings a document, but the number of its page stops the call. -/
theorem call_eq_error_of_longPageNumber :
    ∃ catalog server, ∃ definition ∈ server.definitions, ∃ checked request,
      Catalog.compile (Catalog.showDescription []) [Catalog.showEntry] = .ok catalog ∧
      start (.make Client.defaultBaseUrl "id") (some catalog) = .ok server ∧
      definition.handler.responseFormat = "json" ∧
      definition.Reaches server.client none (.obj [("id", .str "1")]) checked request ∧
      (pageReply (ones 4301)).Brings (.obj []) ∧
      (server.registry.call server.client none definition.name (.obj [("id", .str "1")])
        ⟨[.response (pageReply (ones 4301))], []⟩).1 = .error .badNumber := by
  have starts : (ofDescription? (Catalog.showDescription []) [Catalog.showEntry]
      (.make Client.defaultBaseUrl "id")).any (fun server =>
        server.definitions.any fun definition =>
          decide (definition.handler.responseFormat = "json" ∧
            definition.arguments.check (.obj [("id", .str "1")]) = .ok [("id", .str "1")] ∧
            definition.handler.call [("id", .str "1")] = .ok ⟨"/tv/1", "GET", [], none⟩) &&
          (server.client.request none ⟨"/tv/1", "GET", [], none⟩).toOption.any
            fun request => request.address.isAbsolute) = true := by
    decide +kernel
  obtain ⟨catalog, server, compiled, started, holds⟩ := exists_of_any_ofDescription? starts
  obtain ⟨definition, member, holds⟩ := List.any_eq_true.1 holds
  obtain ⟨holds, sends⟩ := Bool.and_eq_true_iff.1 holds
  obtain ⟨isJson, accepted, called⟩ := of_decide_eq_true holds
  obtain ⟨request, made, absolute⟩ := exists_eq_ok_of_any sends
  have reaches : definition.Reaches server.client none (.obj [("id", .str "1")])
      [("id", .str "1")] request := ⟨accepted, ⟨_, called, made⟩, absolute⟩
  refine ⟨catalog, server, definition, member, _, request, compiled, started, isJson, reaches,
    brings_pageReply (ones 4301), ?_⟩
  rw [call_of_brings started member reaches rfl (brings_pageReply (ones 4301)),
    ofResponse_pageReply (by decide)]
  rfl

end Server

end ApiTools
