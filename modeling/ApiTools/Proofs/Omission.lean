import ApiTools.Proofs.Agreement

/-!
# Omitted parameters

An entry of the whitelist lists parameters that its tool does not take. They are told by the names
of the placeholders and parameters of the description, while two kinds of fields have names of their
own: the items of a flattened body, and a body as a whole. No other field has a name that is omitted,
and an argument whose name no field has is dropped before it comes to a request.
-/

namespace ApiTools

open Binding

namespace Field

variable {markers omitted : List String} {parameter : Json} {name : String}

/-! ## Names of fields -/

/-- A parameter adds a field under a name that is made up for it. -/
inductive Renames (markers omitted : List String) (parameter : Json) : String → Prop where
  /-- An item of an array in a body that is flattened has the singular. -/
  | item {members : List (String × Json)} {property : String}
      (flattens : IsFlattened omitted parameter members) (isArray : property ∈ arrayNames members) :
      Renames markers omitted parameter (Noun.singular property)
  /-- A body as a whole has a fixed name. -/
  | body {own schema : Json} (taken : IsTaken markers omitted parameter (.str "body") own schema)
      (whole : ∀ members, ¬ IsFlattened omitted parameter members) :
      Renames markers omitted parameter "body"

/-- A parameter that is taken and not flattened adds one field. -/
theorem exists_ofParameter_of_isTaken {before after : FieldSet} {location own schema : Json}
    (done : addParameter markers omitted before parameter = .ok after)
    (taken : IsTaken markers omitted parameter location own schema)
    (whole : ∀ members, ¬ IsFlattened omitted parameter members) :
    ∃ field, ofParameter parameter schema location own = .ok field ∧
      after.fields = before.fields ++ [field] := by
  obtain ⟨located, named, inPlace, notClient, notOmitted, notMarker, schemaLooked⟩ := taken
  simp only [addParameter, located, named, inPlace, notClient, notOmitted, notMarker, schemaLooked,
    ok_bind, or_self, if_false, Bool.false_eq_true, pure_eq_ok] at done
  have single : ∀ {result : Except Fault Field},
      (result >>= fun field => .ok { before with fields := before.fields ++ [field] }) =
        .ok after → ∃ field, result = .ok field ∧ after.fields = before.fields ++ [field] := by
    intro result added
    obtain ⟨field, read, isAfter⟩ := bind_eq_ok_iff.1 added
    exact ⟨field, read, (Except.ok.inj isAfter) ▸ rfl⟩
  split at done
  · next inBody =>
      subst inBody
      obtain ⟨isObject, objectLooked, done⟩ := bind_eq_ok_iff.1 done
      split at done
      · next withProperties =>
          rw [withProperties] at objectLooked
          simp only [bind_eq_ok_iff] at done
          obtain ⟨properties, propertiesLooked, members, membersLooked, ⟨arrays, others⟩,
            splitDone, done⟩ := done
          split at done
          · next filled =>
              have someArrays : arrayNames members ≠ [] := by
                rw [← names_of_splitProperties splitDone]
                simpa using filled
              exact absurd ⟨located, ⟨own, named, notClient, notOmitted⟩,
                ⟨schema, properties, schemaLooked, objectLooked, propertiesLooked, membersLooked⟩,
                ⟨arrays, others, splitDone⟩, someArrays⟩ (whole members)
          · exact single done
      · exact single done
  · exact single done

/-- A parameter adds a field of an omitted name only by making that name up. -/
theorem exists_named_iff_renames {fields : List Field}
    (added : addedBy markers omitted parameter = .ok fields) (omits : name ∈ omitted) :
    (∃ field ∈ fields, field.name = .str name) ↔ Renames markers omitted parameter name := by
  rw [addedBy, map_eq_ok_iff] at added
  obtain ⟨after, done, rfl⟩ := added
  constructor
  · rintro ⟨field, member, isNamed⟩
    rcases passedOver_or_isTaken done with passedOver | ⟨location, own, schema, taken⟩
    -- who is passed over adds nothing, a flattened body its items, and all others one field
    · rw [passedOver] at done
      rw [← Except.ok.inj done] at member
      cases member
    · by_cases flat : ∃ members, IsFlattened omitted parameter members
      · obtain ⟨members, flattens⟩ := flat
        obtain ⟨other, arrays, otherDone, names, otherFields, -⟩ :=
          exists_addParameter_of_isFlattened markers ⟨[], [], []⟩ flattens
        obtain rfl : after = other := Except.ok.inj (done.symm.trans otherDone)
        rw [otherFields, List.nil_append] at member
        obtain ⟨array, isArray, rfl⟩ := List.mem_map.1 member
        rw [← Json.str.inj isNamed]
        exact .item flattens (names ▸ List.mem_map_of_mem isArray)
      · rw [not_exists] at flat
        obtain ⟨only, read, afterFields⟩ := exists_ofParameter_of_isTaken done taken flat
        rw [afterFields, List.nil_append, List.mem_singleton] at member
        subst member
        rw [(named_of_ofParameter read).1] at isNamed
        split at isNamed
        · next inBody =>
            subst inBody
            rw [← Json.str.inj isNamed]
            exact .body taken flat
        -- outside of a body the field has the parameter's own name, which is not omitted
        · have notOmitted := taken.notOmitted
          rw [isNamed, Json.isAmong, Except.ok.injEq] at notOmitted
          simp [omits] at notOmitted
  · intro renames
    cases renames with
    | item flattens isArray =>
        obtain ⟨other, arrays, otherDone, names, otherFields, -⟩ :=
          exists_addParameter_of_isFlattened markers ⟨[], [], []⟩ flattens
        obtain rfl : after = other := Except.ok.inj (done.symm.trans otherDone)
        rw [← names] at isArray
        obtain ⟨array, member, rfl⟩ := List.mem_map.1 isArray
        refine ⟨⟨.str (Noun.singular array.1), array.2, false, "", .str "flattened"⟩, ?_, rfl⟩
        rw [otherFields, List.nil_append]
        exact List.mem_map_of_mem member
    | body taken whole =>
        obtain ⟨only, read, afterFields⟩ := exists_ofParameter_of_isTaken done taken whole
        refine ⟨only, ?_, ?_⟩
        · rw [afterFields]
          exact List.mem_singleton_self only
        · rw [(named_of_ofParameter read).1, if_pos rfl]

end Field

/-- The fields of a tool have an omitted name only where a parameter makes it up. -/
theorem FieldSet.exists_named_iff_renames {path : String} {parameters : List Json}
    {omitted : List String} {set : FieldSet}
    (done : ofParameters path parameters omitted = .ok set) {name : String}
    (omits : name ∈ omitted) :
    (∃ field ∈ set.fields, field.name = .str name) ↔
      ∃ parameter ∈ parameters,
        Field.Renames (Path.markers path.toList) omitted parameter name := by
  obtain ⟨first, added, firstRelated, related, fields, -⟩ := exists_adds_of_ofParameters done
  rw [fields]
  constructor
  · rintro ⟨field, member, isNamed⟩
    rcases List.mem_append.1 member with isFirst | isAdded
    · obtain ⟨placeholder, kept, fieldDone⟩ := exists_of_forall₂_right firstRelated field isFirst
      have sameName : Json.str placeholder = .str name :=
        (Field.named_of_ofPlaceholder fieldDone).1.symm.trans isNamed
      rw [Json.str.inj sameName] at kept
      simp [omits] at kept
    · obtain ⟨adds, isAdds, inAdds⟩ := List.mem_flatMap.1 isAdded
      obtain ⟨parameter, isParameter, alone, -⟩ := exists_of_forall₂_right related adds isAdds
      exact ⟨parameter, isParameter,
        (Field.exists_named_iff_renames alone omits).1 ⟨field, inAdds, isNamed⟩⟩
  · rintro ⟨parameter, isParameter, renames⟩
    obtain ⟨adds, isAdds, alone, -⟩ := exists_of_forall₂_right related.flip parameter isParameter
    obtain ⟨field, inAdds, isNamed⟩ := (Field.exists_named_iff_renames alone omits).2 renames
    exact ⟨field, List.mem_append_right _ (List.mem_flatMap.2 ⟨adds, isAdds, inAdds⟩), isNamed⟩

/-! ## Undeclared arguments -/

namespace ArgumentModel

variable {model : ArgumentModel} {name : String}

theorem notMem_keys_of_fields {modelName : String} {fields : List Field}
    (loaded : ofFields modelName fields = .ok model)
    (undeclared : ∀ field ∈ fields, field.name ≠ .str name) : name ∉ Keyed.keys model.fields := by
  have related := get?_ofFields loaded name
  cases isLast : Field.lastNamed? name fields with
  | none =>
      rw [isLast] at related
      rw [← Keyed.get?_eq_none_iff]
      cases found : Keyed.get? name model.fields with
      | none => rfl
      | some declared =>
          rw [found] at related
          cases related
  | some field =>
      rw [Field.lastNamed?] at isLast
      have isNamed := List.find?_some isLast
      exact absurd (by simpa using isNamed)
        (undeclared field (List.mem_reverse.1 (List.mem_of_find?_eq_some isLast)))

theorem get?_check_of_notMem (undeclared : name ∉ Keyed.keys model.fields) {arguments : Json}
    {checked : Arguments} (done : model.check arguments = .ok checked) :
    Keyed.get? name checked = none := by
  obtain ⟨given, -, propertiesDone⟩ := check_eq_ok_iff.1 done
  rw [Keyed.get?_eq_none_iff, ArgType.keys_of_checkProperties propertiesDone, map_fst_properties]
  exact fun member => undeclared (List.mem_filter.1 member).1

/-- Arguments that differ under an undeclared name only agree. -/
theorem agreeOn_of_notMem (undeclared : name ∉ Keyed.keys model.fields)
    {first second : Arguments}
    (same : ∀ key, key ≠ name → Keyed.get? key first = Keyed.get? key second) :
    model.AgreeOn first second := by
  intro declared member
  have sameHere : Keyed.get? declared.1 first = Keyed.get? declared.1 second := by
    apply same
    rintro rfl
    exact undeclared (List.mem_map_of_mem member)
  unfold ArgType.AgreeAt
  split
  · exact sameHere
  · rw [Arguments.given?, Arguments.given?, sameHere]

end ArgumentModel

/-! ## Tools -/

namespace Catalog

/-- No field has an omitted name exactly when no parameter makes that name up. Then an argument of
the name is dropped from every call: it is not among the arguments that requests are made of, and
makes no difference to what is sent and answered. -/
theorem omits_iff {description : Json} {entry : WhitelistEntry} {compiled : Tool}
    {warnings : List Warning} {found : Json} {listed : List Json}
    (done : compileEntry description entry = .ok (some compiled, warnings))
    (looked : operation description (String.ofList (Path.normalize entry.path.toList))
      entry.method = .ok found)
    (read : parameters found = .ok listed) :
    ∀ name ∈ entry.omitted,
      ((∀ field ∈ compiled.fields, field.name ≠ .str name) ↔
        ∀ parameter ∈ listed,
          ¬ Field.Renames (Path.markers entry.path.toList) entry.omitted parameter name) ∧
      ((∀ parameter ∈ listed,
          ¬ Field.Renames (Path.markers entry.path.toList) entry.omitted parameter name) →
        ∀ tool, Registers compiled tool →
          (∀ arguments checked, tool.arguments.check arguments = .ok checked →
            Keyed.get? name checked = none) ∧
          ∀ first second : Arguments,
            (∀ key, key ≠ name → Keyed.get? key first = Keyed.get? key second) →
            ∀ client token, tool.call client token (.obj first) =
              tool.call client token (.obj second)) := by
  intro name omits
  obtain ⟨operation, parameters, set, compiles⟩ := compiles_of_compileEntry done
  obtain rfl : found = operation := Except.ok.inj (looked.symm.trans compiles.operationFound)
  obtain rfl : listed = parameters := Except.ok.inj (read.symm.trans compiles.parametersListed)
  have named := FieldSet.exists_named_iff_renames compiles.collected omits
  rw [← compiles.fields] at named
  have honoured : (∀ field ∈ compiled.fields, field.name ≠ .str name) ↔
      ∀ parameter ∈ listed,
        ¬ Field.Renames (Path.markers entry.path.toList) entry.omitted parameter name := by
    have negated := not_congr named
    simpa only [not_exists, not_and] using negated
  refine ⟨honoured, fun noneRenames tool registers => ?_⟩
  have undeclared :=
    ArgumentModel.notMem_keys_of_fields registers.arguments (honoured.2 noneRenames)
  refine ⟨fun arguments checked accepted => ArgumentModel.get?_check_of_notMem undeclared accepted,
    fun first second same client token => ?_⟩
  exact RegisteredTool.call_congr registers.action
    (ArgumentModel.distinct_ofFields registers.arguments)
    (ArgumentModel.agreeOn_of_notMem undeclared same) client token

/-! ## A search without one of its parameters -/

/-- The tool with a model of its arguments, as it is registered. -/
def registeredWith (compiled : Tool) (model : ArgumentModel) : RegisteredTool :=
  { name := compiled.name
    description := compiled.description
    arguments := model
    annotations := compiled.hints.map fun hint => (hint.label, true)
    action := .operation compiled.handler }

theorem registers_registeredWith {compiled : Tool} {model : ArgumentModel}
    (loaded : ArgumentModel.ofFields compiled.modelName compiled.fields = .ok model) :
    Registers compiled (registeredWith compiled model) :=
  ⟨rfl, rfl, rfl, loaded, rfl⟩

/-- The entry for a search by numbers that takes only one of the two. -/
def narrowEntry : WhitelistEntry :=
  { searchEntry with omitted := ["tmdb"] }

def narrowParameters : List Json :=
  [.obj [("name", .str "imdb"), ("in", .str "query")],
    .obj [("name", .str "tmdb"), ("in", .str "query")]]

/-- No parameter of the search is part of a body. -/
theorem not_renames_narrowParameters {markers : List String} {name : String} :
    ∀ parameter ∈ narrowParameters,
      ¬ Field.Renames markers narrowEntry.omitted parameter name := by
  have inQuery : ∀ parameter ∈ narrowParameters,
      parameter.memberOr "in" (.str "query") = .ok (.str "query") := by
    decide
  intro parameter member renames
  have located : parameter.memberOr "in" (.str "query") = .ok (.str "body") := by
    cases renames with
    | item flattens => exact flattens.located
    | body taken => exact taken.located
  rw [inQuery parameter member] at located
  simp at located

set_option maxRecDepth 20000 in
/-- The other number makes no difference to a search. -/
theorem omits_iff_of_narrowEntry :
    ∃ compiled warnings tool,
      compileEntry (searchDescription narrowParameters) narrowEntry =
        .ok (some compiled, warnings) ∧
      Registers compiled tool ∧
      (∀ field ∈ compiled.fields, field.name ≠ .str "tmdb") ∧
      ∀ client token,
        tool.call client token (.obj [("imdb", .str "tt1"), ("tmdb", .str "7")]) =
          tool.call client token (.obj [("imdb", .str "tt1")]) := by
  have compiles :
      (toolWithModel? (searchDescription narrowParameters) narrowEntry).any (fun _ => true) =
        true := by
    decide +kernel
  obtain ⟨compiled, warnings, model, done, loaded, -⟩ := exists_of_any_toolWithModel? compiles
  have honoured := omits_iff done (operation_searchDescription narrowParameters)
    (show parameters (.obj [("parameters", .arr narrowParameters)]) = .ok narrowParameters from rfl)
    "tmdb" List.mem_cons_self
  have registers := registers_registeredWith loaded
  refine ⟨compiled, warnings, registeredWith compiled model, done, registers,
    honoured.1.2 not_renames_narrowParameters, ?_⟩
  apply (honoured.2 not_renames_narrowParameters _ registers).2
  intro key different
  rw [Keyed.get?_cons, Keyed.get?_cons, Keyed.get?_cons]
  simp [Ne.symm different]

/-! ## An omitted item -/

/-- The entry for the history without movies. -/
def movielessEntry : WhitelistEntry :=
  { historyEntry with omitted := ["movie"] }

set_option maxRecDepth 20000 in
/-- A movie is an argument all the same, and is sent. -/
theorem sendsOmitted_of_movielessEntry :
    ∃ compiled warnings model,
      compileEntry (historyDescription ["shows", "movies"]) movielessEntry =
        .ok (some compiled, warnings) ∧
      ArgumentModel.ofFields compiled.modelName compiled.fields = .ok model ∧
      "movie" ∈ movielessEntry.omitted ∧
      (∃ field ∈ compiled.fields, field.name = .str "movie") ∧
      model.check (.obj [("movie", .obj [("title", .str "Dune")])]) =
        .ok [("movie", .obj [("title", .str "Dune")])] ∧
      compiled.handler.call [("movie", .obj [("title", .str "Dune")])] =
        .ok ⟨"/sync/history", "POST", [],
          some (.obj [("movies", .arr [.obj [("title", .str "Dune")]])])⟩ := by
  have sends : (toolWithModel? (historyDescription ["shows", "movies"]) movielessEntry).any
      (fun both => decide ((∃ field ∈ both.1.fields, field.name = .str "movie") ∧
        both.2.check (.obj [("movie", .obj [("title", .str "Dune")])]) =
          .ok [("movie", .obj [("title", .str "Dune")])] ∧
        both.1.handler.call [("movie", .obj [("title", .str "Dune")])] =
          .ok ⟨"/sync/history", "POST", [],
            some (.obj [("movies", .arr [.obj [("title", .str "Dune")]])])⟩)) = true := by
    decide +kernel
  obtain ⟨compiled, warnings, model, done, loaded, sent⟩ := exists_of_any_toolWithModel? sends
  exact ⟨compiled, warnings, model, done, loaded, by decide, of_decide_eq_true sent⟩

end Catalog

end ApiTools
