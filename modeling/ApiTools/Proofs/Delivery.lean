import ApiTools.Proofs.Flattening

/-!
# Arguments on their way into requests

A handler takes the arguments whose names stand in its path, among its query keys or in the
flattening of its body, and no others: a call carries each value that is given under such a name,
and does not depend on the rest. Placeholders and parameters that name the query as their place are
always taken.
-/

namespace ApiTools

open Binding

namespace Field

/-- Every property stands behind its singular, so behind one name only. -/
theorem properties_flattenMap_nodup (arrays : List (String × ArgType)) :
    ((flattenMap arrays []).map Prod.snd).Nodup := by
  have singulars : ∀ before : List (String × String),
      (∀ pair ∈ before, pair.1 = Noun.singular pair.2) →
        ∀ pair ∈ flattenMap arrays before, pair.1 = Noun.singular pair.2 := by
    induction arrays with
    | nil => exact fun before each => each
    | cons array rest inductionHypothesis =>
        intro before each
        apply inductionHypothesis
        intro pair member
        rcases Keyed.mem_of_mem_put member with rfl | inBefore
        · rfl
        · exact each pair inBefore
  have sameKeys : ((flattenMap arrays []).map Prod.snd).map Noun.singular =
      Keyed.keys (flattenMap arrays []) := by
    rw [List.map_map, Keyed.keys]
    exact List.map_congr_left fun pair member => (singulars [] (by simp) pair member).symm
  have distinctNone : (Keyed.keys ([] : List (String × String))).Nodup := List.nodup_nil
  apply List.Nodup.of_map Noun.singular
  rw [sameKeys]
  exact keys_flattenMap_nodup distinctNone arrays

theorem singular_mem_keys_flattenMap {arrays : List (String × ArgType)}
    (before : List (String × String)) {array : String × ArgType} (member : array ∈ arrays) :
    Noun.singular array.1 ∈ Keyed.keys (flattenMap arrays before) := by
  obtain ⟨other, -, -, behind⟩ := exists_behind_singular before member
  apply Keyed.get?_isSome_iff.1
  rw [behind]
  rfl

/-- A body that is flattened adds no field for itself. -/
theorem eq_flattened_of_isFlattened {markers omitted : List String} {parameter : Json}
    {members : List (String × Json)} (flattens : IsFlattened omitted parameter members)
    {fields : List Field} {arrays : List (String × ArgType)}
    (alone : addedBy markers omitted parameter = .ok fields)
    (adds : Adds markers omitted parameter fields arrays) : fields = flattened arrays := by
  cases adds with
  | nothing => rfl
  | arrays => rfl
  | @alone schema location name field located _ _ _ _ read =>
      rw [flattens.located] at located
      obtain rfl := Except.ok.inj located
      obtain ⟨after, itsArrays, added, -, itsFields, -⟩ :=
        exists_addParameter_of_isFlattened markers ⟨[], [], []⟩ flattens
      have same : [field] = flattened itsArrays := by
        rw [addedBy, added] at alone
        exact (Except.ok.inj alone).symm.trans itsFields
      have isFlattened : field ∈ flattened itsArrays := same ▸ List.mem_singleton_self field
      obtain ⟨array, -, isField⟩ := List.mem_map.1 isFlattened
      have itsOrigin := (named_of_ofParameter read).2
      rw [← isField] at itsOrigin
      simp at itsOrigin

end Field

namespace Handler

/-- An argument of that name goes into the requests of the handler. -/
inductive Takes (handler : Handler) : Json → Prop where
  | placeholder {name : String} (member : name ∈ Path.placeholders handler.path.toList) :
      Takes handler (.str name)
  | query {name : Json} (member : name ∈ handler.queryKeys) : Takes handler name
  | item {name : String} (hasBody : handler.hasBody = true)
      (member : name ∈ Keyed.keys handler.flatten) : Takes handler (.str name)
  | body (hasBody : handler.hasBody = true) (unflattened : handler.flatten = []) :
      Takes handler (.str "body")

/-- A call holds the value of an argument where it belongs. -/
inductive Carries (handler : Handler) (call : Call) (name : String) (value : Json) : Prop where
  | path {text : String} (encoded : encodePathValue name value = .ok text)
      (within : text.toList <:+: call.endpoint.toList)
  | query (found : Keyed.get? name call.query = some value)
  | item {property : String} {fields : List (String × Json)}
      (behind : Keyed.get? name handler.flatten = some property)
      (whole : call.body = some (.obj fields))
      (found : Keyed.get? property fields = some (.arr [value]))
  | body (whole : call.body = some value)

/-- The place of a parameter is one from which its arguments are taken: expressly the query, or the
body of a method that sends one, flattened or as a whole. -/
inductive IsPlaced (handler : Handler) (omitted : List String) (parameter : Json) : Prop where
  | query (located : parameter.member "in" = .ok (.str "query"))
  | flattened {members : List (String × Json)} (hasBody : handler.hasBody = true)
      (flattens : Field.IsFlattened omitted parameter members)
  | whole (hasBody : handler.hasBody = true) (unflattened : handler.flatten = [])
      (located : parameter.memberOr "in" (.str "query") = .ok (.str "body"))

variable {handler : Handler} {args other : Arguments}

/-- Whatever is given under a name that is taken is in the call. -/
theorem carries_of_takes {call : Call} {name : String} {value : Json}
    (apart : (handler.flatten.map Prod.snd).Nodup) (takes : handler.Takes (.str name))
    (given : args.given? name = some value) (made : handler.call args = .ok call) :
    handler.Carries call name value := by
  obtain ⟨endpoint, query, endpointDone, queryDone, rfl⟩ := call_eq_ok_iff.1 made
  have queried : name ∈ Path.markers handler.path.toList ∨ .str name ∈ handler.queryKeys →
      Keyed.get? name query = some value := by
    intro isKey
    rw [get?_query name queryDone, if_pos isKey, given]
  cases takes with
  | placeholder member =>
      rw [Path.placeholders_eq_append, List.mem_append] at member
      rcases member with inRoute | isMarker
      · obtain ⟨text, encoded, within⟩ := exists_text_of_endpoint endpointDone inRoute given
        exact .path encoded within
      · exact .query (queried (Or.inl isMarker))
  | query member => exact .query (queried (Or.inr member))
  | item hasBody member =>
      obtain ⟨property, behind⟩ := Option.isSome_iff_exists.1 (Keyed.get?_isSome_iff.2 member)
      have filled : handler.flatten ≠ [] := List.ne_nil_of_mem (Keyed.mem_of_get? behind)
      have found : Keyed.get? property (handler.flatten.foldl (addItem args) []) =
          some (.arr [value]) := get?_foldl_addItem apart given (Keyed.mem_of_get? behind)
      refine .item behind ?_ found
      rw [if_pos hasBody, body_of_flatten filled]
  | body hasBody unflattened =>
      apply Carries.body
      rw [if_pos hasBody, body, unflattened, List.isEmpty_nil, if_pos rfl,
        Arguments.get?_of_given? given, Option.getD_some]

/-- A call depends on nothing but what is given under the names that are taken. -/
theorem call_congr
    (same : ∀ name, handler.Takes (.str name) → args.given? name = other.given? name) :
    handler.call args = handler.call other := by
  have samePlaceholders : ∀ name ∈ Path.placeholders handler.path.toList,
      args.given? name = other.given? name := fun name member => same name (.placeholder member)
  rw [Path.placeholders_eq_append, List.forall_mem_append] at samePlaceholders
  have sameEndpoint : handler.endpoint args = handler.endpoint other :=
    endpoint_congr samePlaceholders.1
  have sameQuery : handler.query args = handler.query other :=
    query_congr samePlaceholders.2 fun name member => same name (.query member)
  have sameBody : (if handler.hasBody then some (handler.body args) else none) =
      if handler.hasBody then some (handler.body other) else none := by
    by_cases hasBody : handler.hasBody = true
    · rw [if_pos hasBody, if_pos hasBody]
      congr 1
      apply body_congr
      · exact fun unflattened => same "body" (.body hasBody unflattened)
      · exact fun name member => same name (.item hasBody member)
    · rw [if_neg hasBody, if_neg hasBody]
  rw [call, call, sameEndpoint, sameQuery, sameBody]

/-- Whatever is given under a name that is not taken is ignored. -/
theorem call_eq_of_not_takes {name : String} (ignored : ¬ handler.Takes (.str name))
    (same : ∀ key, key ≠ name → args.given? key = other.given? key) :
    handler.call args = handler.call other := by
  apply call_congr
  intro key takes
  apply same
  rintro rfl
  exact ignored takes

end Handler

namespace Catalog

namespace Compiles

variable {description : Json} {entry : WhitelistEntry} {compiled : Tool} {operation : Json}
  {parameters : List Json} {set : FieldSet}

theorem takes_of_inQuery (compiles : Compiles description entry compiled operation parameters set)
    {parameter : Json} (member : parameter ∈ parameters)
    (inQuery : parameter.member "in" = .ok (.str "query"))
    {fields : List Field} {arrays : List (String × ArgType)}
    (adds : Field.Adds (Path.markers entry.path.toList) entry.omitted parameter fields arrays) :
    ∀ field ∈ fields, compiled.handler.Takes field.name := by
  have placed := Json.memberOr_of_member (by simp) inQuery (.str "query")
  cases adds with
  | nothing => simp
  | arrays located =>
      rw [placed] at located
      simp at located
  | @alone schema location name field located named notClient notMarker _ read =>
      rw [placed] at located
      obtain rfl := Except.ok.inj located
      have fieldName : field.name = name := by
        rw [(Field.named_of_ofParameter read).1, if_neg (by simp)]
      have isKey := mem_queryKeys_of_handler compiles.handled member inQuery named notClient
        (notMarker rfl)
      rw [List.forall_mem_singleton, fieldName]
      exact .query isKey

theorem takes_of_flattened (compiles : Compiles description entry compiled operation parameters set)
    (hasBody : compiled.handler.hasBody = true) {all arrays : List (String × ArgType)}
    (flatten : set.flatten = Field.flattenMap all []) (among : arrays ⊆ all) :
    ∀ field ∈ Field.flattened arrays, compiled.handler.Takes field.name := by
  intro field member
  obtain ⟨array, isArray, rfl⟩ := List.mem_map.1 member
  apply Handler.Takes.item hasBody
  rw [compiles.handler_flatten, flatten]
  exact Field.singular_mem_keys_flattenMap [] (among isArray)

theorem takes_of_isPlaced (compiles : Compiles description entry compiled operation parameters set)
    {parameter : Json} (member : parameter ∈ parameters)
    (placed : compiled.handler.IsPlaced entry.omitted parameter)
    {all arrays : List (String × ArgType)} {fields : List Field}
    (flatten : set.flatten = Field.flattenMap all []) (among : arrays ⊆ all)
    (alone : Field.addedBy (Path.markers entry.path.toList) entry.omitted parameter = .ok fields)
    (adds : Field.Adds (Path.markers entry.path.toList) entry.omitted parameter fields arrays) :
    ∀ field ∈ fields, compiled.handler.Takes field.name := by
  cases placed with
  | query located => exact compiles.takes_of_inQuery member located adds
  | flattened hasBody flattens =>
      rw [Field.eq_flattened_of_isFlattened flattens alone adds]
      exact compiles.takes_of_flattened hasBody flatten among
  | whole hasBody unflattened located =>
      cases adds with
      | nothing => simp
      | arrays => exact compiles.takes_of_flattened hasBody flatten among
      | @alone schema location name field placed _ _ _ _ read =>
          rw [located] at placed
          obtain rfl := Except.ok.inj placed
          rw [List.forall_mem_singleton, (Field.named_of_ofParameter read).1, if_pos rfl]
          exact .body hasBody unflattened

/-- All arguments of a tool are taken exactly when every parameter that is not in such a place adds
only names that are taken anyway. -/
theorem takesEvery_iff (compiles : Compiles description entry compiled operation parameters set) :
    (∀ field ∈ compiled.fields, compiled.handler.Takes field.name) ↔
      ∀ parameter ∈ parameters, compiled.handler.IsPlaced entry.omitted parameter ∨
        ∀ fields, Field.addedBy (Path.markers entry.path.toList) entry.omitted parameter =
          .ok fields → ∀ field ∈ fields, compiled.handler.Takes field.name := by
  obtain ⟨first, added, firstRelated, related, fields, flatten⟩ :=
    FieldSet.exists_adds_of_ofParameters compiles.collected
  rw [compiles.fields, fields, List.forall_mem_append]
  constructor
  · rintro ⟨-, each⟩ parameter member
    right
    intro parameterFields alone field inParameter
    obtain ⟨adds, isAdded, addsAlone, -⟩ := exists_of_forall₂_right related.flip parameter member
    obtain rfl : parameterFields = adds.1 := Except.ok.inj (alone.symm.trans addsAlone)
    exact each field (List.mem_flatMap.2 ⟨adds, isAdded, inParameter⟩)
  · intro each
    constructor
    · intro field isFirst
      obtain ⟨placeholder, isPlaceholder, fieldDone⟩ :=
        exists_of_forall₂_right firstRelated field isFirst
      rw [(Field.named_of_ofPlaceholder fieldDone).1]
      apply Handler.Takes.placeholder
      rw [compiles.handler_path]
      exact (List.mem_filter.1 isPlaceholder).1
    · intro field isAdded
      obtain ⟨adds, isAdds, inAdds⟩ := List.mem_flatMap.1 isAdded
      obtain ⟨parameter, isParameter, alone, parameterAdds⟩ :=
        exists_of_forall₂_right related adds isAdds
      have among : adds.2 ⊆ added.flatMap Prod.snd :=
        fun array isArray => List.mem_flatMap.2 ⟨adds, isAdds, isArray⟩
      rcases each parameter isParameter with placed | takes
      · exact compiles.takes_of_isPlaced isParameter placed flatten among alone parameterAdds field
          inAdds
      · exact takes adds.1 alone field inAdds

end Compiles

/-- An argument that is taken is carried by every call, and one that is not taken never matters. All
arguments of a tool are taken exactly when every parameter is in a place from which arguments are
taken, or adds only names that are taken anyway. -/
theorem dropsNoArgument_iff {description : Json} {entry : WhitelistEntry} {compiled : Tool}
    {warnings : List Warning} {found : Json} {listed : List Json}
    (done : compileEntry description entry = .ok (some compiled, warnings))
    (looked : operation description (String.ofList (Path.normalize entry.path.toList))
      entry.method = .ok found)
    (read : parameters found = .ok listed) :
    ((∀ field ∈ compiled.fields, compiled.handler.Takes field.name) ↔
      ∀ parameter ∈ listed, compiled.handler.IsPlaced entry.omitted parameter ∨
        ∀ fields, Field.addedBy (Path.markers entry.path.toList) entry.omitted parameter =
          .ok fields → ∀ field ∈ fields, compiled.handler.Takes field.name) ∧
    (∀ name, compiled.handler.Takes (.str name) → ∀ (args : Arguments) value call,
      args.given? name = some value → compiled.handler.call args = .ok call →
        compiled.handler.Carries call name value) ∧
    ∀ name, ¬ compiled.handler.Takes (.str name) → ∀ args other : Arguments,
      (∀ key, key ≠ name → args.given? key = other.given? key) →
        compiled.handler.call args = compiled.handler.call other := by
  obtain ⟨operation, parameters, set, compiles⟩ := compiles_of_compileEntry done
  obtain rfl : found = operation := Except.ok.inj (looked.symm.trans compiles.operationFound)
  obtain rfl : listed = parameters := Except.ok.inj (read.symm.trans compiles.parametersListed)
  obtain ⟨-, added, -, -, -, flatten⟩ := FieldSet.exists_adds_of_ofParameters compiles.collected
  have apart : (compiled.handler.flatten.map Prod.snd).Nodup := by
    rw [compiles.handler_flatten, flatten]
    exact Field.properties_flattenMap_nodup _
  refine ⟨compiles.takesEvery_iff, ?_, ?_⟩
  · intro name takes args value call given made
    exact Handler.carries_of_takes apart takes given made
  · intro name ignored args other same
    exact Handler.call_eq_of_not_takes ignored same

/-! ## A search by number -/

def searchEntry : WhitelistEntry := .json "/search/id" "get"

/-- A description in which that operation has some parameters. -/
def searchDescription (parameters : List Json) : Json :=
  .obj [("paths", .obj [("/search/id",
    .obj [("get", .obj [("parameters", .arr parameters)])])])]

theorem operation_searchDescription (listed : List Json) :
    operation (searchDescription listed)
      (String.ofList (Path.normalize searchEntry.path.toList)) searchEntry.method =
        .ok (.obj [("parameters", .arr listed)]) := by
  have samePath : String.ofList (Path.normalize searchEntry.path.toList) = "/search/id" := by
    decide +kernel
  rw [samePath]
  rfl

set_option maxRecDepth 20000 in
/-- A parameter in the query is taken. -/
theorem dropsNoArgument_of_queryParameter :
    ∃ compiled warnings,
      compileEntry (searchDescription [.obj [("name", .str "q"), ("in", .str "query")]])
        searchEntry = .ok (some compiled, warnings) ∧
      ∀ field ∈ compiled.fields, compiled.handler.Takes field.name := by
  have compilesAtAll : (toolWithModel?
      (searchDescription [.obj [("name", .str "q"), ("in", .str "query")]]) searchEntry).any
        (fun _ => true) = true := by
    decide +kernel
  obtain ⟨compiled, warnings, model, done, -, -⟩ := exists_of_any_toolWithModel? compilesAtAll
  have takesAll := (dropsNoArgument_iff done (operation_searchDescription _)
    (show parameters (.obj [("parameters", .arr [_])]) = .ok [_] from rfl)).1
  refine ⟨compiled, warnings, done, takesAll.2 fun parameter member => ?_⟩
  obtain rfl := List.mem_singleton.1 member
  exact Or.inl (.query rfl)

set_option maxRecDepth 20000 in
/-- A parameter that leaves its place open is an argument that no call carries. -/
theorem dropsArgument_of_unplacedParameter :
    ∃ compiled warnings model,
      compileEntry (searchDescription [.obj [("name", .str "q")]]) searchEntry =
        .ok (some compiled, warnings) ∧
      ArgumentModel.ofFields compiled.modelName compiled.fields = .ok model ∧
      model.check (.obj [("q", .str "dune")]) = .ok [("q", .str "dune")] ∧
      ¬ compiled.handler.Takes (.str "q") ∧
      compiled.handler.call [("q", .str "dune")] = .ok ⟨"/search/id", "GET", [], none⟩ := by
  have drops : (toolWithModel? (searchDescription [.obj [("name", .str "q")]]) searchEntry).any
      (fun both => decide (
        (both.2.check (.obj [("q", .str "dune")]) = .ok [("q", .str "dune")] ∧
          both.1.handler.call [("q", .str "dune")] = .ok ⟨"/search/id", "GET", [], none⟩) ∧
        Path.placeholders both.1.handler.path.toList = [] ∧ both.1.handler.queryKeys = [] ∧
          both.1.handler.hasBody = false)) = true := by
    decide +kernel
  obtain ⟨compiled, warnings, model, done, loaded, holds⟩ := exists_of_any_toolWithModel? drops
  obtain ⟨⟨accepted, made⟩, noPlaceholders, noKeys, noBody⟩ := of_decide_eq_true holds
  have takesNothing : ∀ name, ¬ compiled.handler.Takes name := by
    intro name takes
    cases takes with
    | placeholder member => exact List.not_mem_nil (noPlaceholders ▸ member)
    | query member => exact List.not_mem_nil (noKeys ▸ member)
    | item hasBody => exact Bool.false_ne_true (noBody.symm.trans hasBody)
    | body hasBody => exact Bool.false_ne_true (noBody.symm.trans hasBody)
  exact ⟨compiled, warnings, model, done, loaded, accepted, takesNothing _, made⟩

end Catalog

end ApiTools
