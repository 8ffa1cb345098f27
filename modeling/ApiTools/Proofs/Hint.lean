import ApiTools.Proofs.Credentials
import ApiTools.Proofs.Text.Case

/-!
# Hints and requests

The hints of a tool are derived from the method and the path of its whitelist entry, however the
method is spelled, and its requests carry that method in capitals. The two agree: a tool that is
listed as one that only reads sends nothing but `GET` without a body, and whatever sends `DELETE`,
or says in its path that it removes something, is listed as destructive.
-/

namespace ApiTools

open ApiTools.Http
open ApiTools.Text

/-! ## The hints of an operation -/

namespace Hint

variable {method path : String}

theorem mem_ofOperation {hint : Hint} :
    hint ∈ ofOperation method path ↔
      (lower method.toList = "get".toList ∧ hint = .readOnly ∨
        (lower method.toList = "delete".toList ∨ namesRemoval path = true) ∧ hint = .destructive) ∨
      ((lower method.toList = "get".toList ∨ lower method.toList = "delete".toList) ∨
        lower method.toList = "put".toList) ∧ hint = .idempotent := by
  have memIf {condition : Prop} [Decidable condition] {listed : Hint} :
      hint ∈ (if condition then [listed] else []) ↔ condition ∧ hint = listed := by
    split <;> simp [*]
  unfold ofOperation
  generalize lower method.toList = lowered
  simp only [List.mem_append, memIf, Bool.or_eq_true, decide_eq_true_eq]

theorem readOnly_mem_ofOperation :
    Hint.readOnly ∈ ofOperation method path ↔ lower method.toList = "get".toList := by
  simp only [mem_ofOperation, reduceCtorEq, and_true, and_false, or_false]

theorem destructive_mem_ofOperation :
    Hint.destructive ∈ ofOperation method path ↔
      lower method.toList = "delete".toList ∨ namesRemoval path = true := by
  simp only [mem_ofOperation, reduceCtorEq, and_true, and_false, or_false, false_or]

theorem idempotent_mem_ofOperation :
    Hint.idempotent ∈ ofOperation method path ↔
      lower method.toList = "get".toList ∨ lower method.toList = "delete".toList ∨
        lower method.toList = "put".toList := by
  simp only [mem_ofOperation, reduceCtorEq, and_true, and_false, false_or, or_assoc]

theorem namesRemoval_iff :
    namesRemoval path = true ↔
      "remove".toList <:+: path.toList ∨ "delete".toList <:+: path.toList := by
  have occurs : ∀ part whole : List Char, occursIn part whole = true ↔ part <:+: whole := by
    intro part whole
    rw [occursIn_iff]
    exact exists_congr fun left => exists_congr fun right => eq_comm
  rw [namesRemoval, Bool.or_eq_true, occurs, occurs]

theorem label_injective {first second : Hint} (same : first.label = second.label) :
    first = second := by
  cases first <;> cases second <;> first | rfl | exact absurd same (by decide)

end Hint

namespace ToolDefinition

theorem mem_annotations_iff {definition : ToolDefinition} {hint : Hint} :
    (hint.label, true) ∈ definition.registered.annotations ↔ hint ∈ definition.hints := by
  constructor
  · intro listed
    obtain ⟨other, member, same⟩ := List.mem_map.1 listed
    exact Hint.label_injective (Prod.mk.inj same).1 ▸ member
  · intro member
    exact List.mem_map.2 ⟨hint, member, rfl⟩

end ToolDefinition

/-! ## The method on the wire -/

/-- The method with which the client sends the requests of a handler. -/
def Handler.wireMethod (handler : Handler) : String :=
  String.ofList (upper handler.verb.toList)

/-- Capitals are taken three times on the way from the whitelist to the wire. -/
theorem Handler.wireMethod_eq_iff {handler : Handler} {method : String}
    (capitals : handler.method = String.ofList (upper method.toList)) (word : String)
    (plain : IsPlain word.toList) :
    handler.wireMethod = String.ofList (upper word.toList) ↔
      lower method.toList = lower word.toList := by
  rw [wireMethod, verb, capitals, String.ofList_inj, String.toList_ofList, String.toList_ofList,
    upper_upper_eq_iff plain, upper_upper_eq_iff plain, upper_eq_iff_lower_eq plain]

theorem Action.sendsOnly_runOperation_wireMethod {client : Client} {token : Option String}
    {handler : Handler} {arguments : Arguments} :
    Talk.SendsOnly (fun request => request.method = handler.wireMethod ∧
        (request.method = "GET" → request.body = ""))
      (runOperation handler client token arguments) := by
  refine Talk.sendsOnly_bind (Talk.sendsOnly_ofResult _) fun call gives => ?_
  refine Talk.sendsOnly_bind ?_ fun _ _ => Talk.sendsOnly_ofResult _
  obtain ⟨endpoint, query, -, -, isCall⟩ := Handler.call_eq_ok_iff.1 (Talk.eq_ok_of_gives gives)
  have callMethod : call.method = handler.verb := by rw [isCall]
  refine Talk.sendsOnly_mono (Client.sendsOnly_fetch call) fun request made => ?_
  obtain ⟨isMethod, isBody⟩ := Client.method_of_request made
  refine ⟨?_, fun reads => ?_⟩
  · rw [isMethod, callMethod]
    rfl
  · rw [isBody, reads]
    cases call.body with
    | none => rfl
    | some body => cases body <;> rfl

/-! ## Annotations -/

/-- The request is one that the annotations of a tool lead a client to expect. -/
structure Http.Request.Honours (annotations : List (String × Bool)) (request : Request) :
    Prop where
  reads : (Hint.readOnly.label, true) ∈ annotations →
    request.method = "GET" ∧ request.body = ""
  deletes : request.method = "DELETE" → (Hint.destructive.label, true) ∈ annotations
  writes : request.method = "POST" ∨ request.method = "PATCH" →
    (Hint.readOnly.label, true) ∉ annotations ∧ (Hint.idempotent.label, true) ∉ annotations

namespace ToolDefinition

variable {definition : ToolDefinition} {method path : String}

theorem readOnly_mem_annotations_iff (hints : definition.hints = Hint.ofOperation method path)
    (capitals : definition.handler.method = String.ofList (upper method.toList)) :
    (Hint.readOnly.label, true) ∈ definition.registered.annotations ↔
      definition.handler.wireMethod = "GET" := by
  have getIff := Handler.wireMethod_eq_iff capitals "GET" (by decide)
  rw [mem_annotations_iff, hints, Hint.readOnly_mem_ofOperation]
  exact getIff.symm

theorem destructive_mem_annotations_iff (hints : definition.hints = Hint.ofOperation method path)
    (capitals : definition.handler.method = String.ofList (upper method.toList)) :
    (Hint.destructive.label, true) ∈ definition.registered.annotations ↔
      definition.handler.wireMethod = "DELETE" ∨ Hint.namesRemoval path = true := by
  have deleteIff := Handler.wireMethod_eq_iff capitals "DELETE" (by decide)
  rw [mem_annotations_iff, hints, Hint.destructive_mem_ofOperation]
  exact or_congr_left deleteIff.symm

theorem idempotent_mem_annotations_iff (hints : definition.hints = Hint.ofOperation method path)
    (capitals : definition.handler.method = String.ofList (upper method.toList)) :
    (Hint.idempotent.label, true) ∈ definition.registered.annotations ↔
      definition.handler.wireMethod = "GET" ∨ definition.handler.wireMethod = "DELETE" ∨
        definition.handler.wireMethod = "PUT" := by
  have getIff := Handler.wireMethod_eq_iff capitals "GET" (by decide)
  have deleteIff := Handler.wireMethod_eq_iff capitals "DELETE" (by decide)
  have putIff := Handler.wireMethod_eq_iff capitals "PUT" (by decide)
  rw [mem_annotations_iff, hints, Hint.idempotent_mem_ofOperation]
  exact or_congr getIff.symm (or_congr deleteIff.symm putIff.symm)

theorem sendsOnly_call_honours (hints : definition.hints = Hint.ofOperation method path)
    (capitals : definition.handler.method = String.ofList (upper method.toList))
    (client : Client) (token : Option String) (arguments : Json) :
    Talk.SendsOnly (Request.Honours definition.registered.annotations)
      (definition.registered.call client token arguments) := by
  apply RegisteredTool.sendsOnly_call
  intro checked _
  refine Talk.sendsOnly_mono Action.sendsOnly_runOperation_wireMethod ?_
  rintro request ⟨isWireMethod, bodyless⟩
  constructor
  · rw [readOnly_mem_annotations_iff hints capitals, ← isWireMethod]
    exact fun isGet => ⟨isGet, bodyless isGet⟩
  · rw [destructive_mem_annotations_iff hints capitals, ← isWireMethod]
    exact Or.inl
  · rw [readOnly_mem_annotations_iff hints capitals, idempotent_mem_annotations_iff hints capitals,
      ← isWireMethod]
    rintro (isPost | isPatch)
    · rw [isPost]
      decide
    · rw [isPatch]
      decide

end ToolDefinition

/-! ## Compiled tools -/

theorem Catalog.hints_of_compileEntry {description : Json} {entry : WhitelistEntry}
    {compiled : Tool} {warnings : List Warning}
    (done : compileEntry description entry = .ok (some compiled, warnings)) :
    compiled.hints = Hint.ofOperation entry.method entry.path ∧
      compiled.handler.method = String.ofList (upper entry.method.toList) ∧
      compiled.handler.path = entry.path := by
  have fromEntry := done
  simp only [compileEntry, tool, Binding.bind_eq_ok_iff, Binding.pure_eq_ok] at fromEntry
  obtain ⟨operation, -, fromEntry⟩ := fromEntry
  split at fromEntry
  · simp at fromEntry
  simp only [Binding.bind_eq_ok_iff, Except.ok.injEq, Prod.mk.injEq, Option.some.injEq]
    at fromEntry
  obtain ⟨_, ⟨parameters, -, name, -, set, -, made, handled, _, -, rfl⟩, rfl, rfl⟩ := fromEntry
  obtain ⟨keys, -, isHandler⟩ := handler_eq_ok handled
  exact ⟨rfl, by rw [isHandler], by rw [isHandler]⟩

namespace Server

/-- Every tool of a server's module is listed with annotations that all requests of all its calls
honour, and as destructive where its path says that it removes something. -/
theorem annotations_honoured {description : Json} {whitelist : List WhitelistEntry}
    {catalog : Catalog} {client : Client} {server : Server}
    (compiled : Catalog.compile description whitelist = .ok catalog)
    (started : start client (some catalog) = .ok server) :
    ∀ definition ∈ server.definitions,
      server.registry.get? definition.name = some definition.registered ∧
      (∃ entry ∈ whitelist, definition.handler.path = entry.path ∧
        ("remove".toList <:+: entry.path.toList ∨ "delete".toList <:+: entry.path.toList →
          (Hint.destructive.label, true) ∈ definition.registered.annotations)) ∧
      ∀ token arguments, Talk.SendsOnly (Request.Honours definition.registered.annotations)
        (server.registry.call client token definition.name arguments) := by
  intro definition inModule
  have isRegistered := get?_of_mem_definitions started definition inModule
  obtain ⟨entry, listed, tool, warnings, models, done, rfl⟩ :=
    exists_compileEntry_of_mem_definitions compiled started definition inModule
  obtain ⟨hints, capitals, path⟩ := Catalog.hints_of_compileEntry done
  refine ⟨isRegistered, ⟨entry, listed, path, fun removes => ?_⟩, fun token arguments => ?_⟩
  · apply (ToolDefinition.destructive_mem_annotations_iff hints capitals).2
    exact Or.inr (Hint.namesRemoval_iff.2 removes)
  · rw [Registry.call, isRegistered]
    exact ToolDefinition.sendsOnly_call_honours hints capitals client token arguments

/-- A search that is spelled in mixed case and described with a request body. -/
def loudSearchEntry : WhitelistEntry := .json "/search/id" "GeT"

def bodySearchDescription : Json :=
  .obj [("paths", .obj [("/search/id", .obj [("get", .obj [("requestBody", .obj [])])])])]

set_option maxRecDepth 20000 in
/-- The search is listed as a tool that only reads, and a call with a body sends none. -/
theorem annotations_honoured_of_loudSearch :
    ∃ catalog server definition,
      Catalog.compile bodySearchDescription [loudSearchEntry] = .ok catalog ∧
      start (.make Client.defaultBaseUrl "id") (some catalog) = .ok server ∧
      definition ∈ server.definitions ∧
      definition.registered.annotations = [("readOnlyHint", true), ("idempotentHint", true)] ∧
      ((server.registry.call (.make Client.defaultBaseUrl "id") none definition.name
          (.obj [("body", .obj [("q", .int 1)])]) ⟨[], []⟩).2.sent.map
            fun request => (request.method, request.body)) = [("GET", "")] ∧
      ∀ token arguments, Talk.SendsOnly (Request.Honours definition.registered.annotations)
        (server.registry.call (.make Client.defaultBaseUrl "id") token definition.name
          arguments) := by
  have reads : (ofDescription? bodySearchDescription [loudSearchEntry]
      (.make Client.defaultBaseUrl "id")).any (fun server =>
        server.definitions.head?.any fun definition => decide (
          definition.registered.annotations =
              [("readOnlyHint", true), ("idempotentHint", true)] ∧
            ((server.registry.call (.make Client.defaultBaseUrl "id") none definition.name
              (.obj [("body", .obj [("q", .int 1)])]) ⟨[], []⟩).2.sent.map
                fun request => (request.method, request.body)) = [("GET", "")])) = true := by
    decide +kernel
  obtain ⟨catalog, server, compiled, started, holds⟩ := exists_of_any_ofDescription? reads
  obtain ⟨definition, isFirst, annotated⟩ := (Option.any_eq_true _ _).1 holds
  obtain ⟨annotations, sent⟩ := of_decide_eq_true annotated
  have inModule : definition ∈ server.definitions := List.mem_of_head? isFirst
  exact ⟨catalog, server, definition, compiled, started, inModule, annotations, sent,
    (annotations_honoured compiled started definition inModule).2.2⟩

end Server

end ApiTools
