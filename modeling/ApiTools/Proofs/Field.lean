import ApiTools.Proofs.ArgType.OfSchema

/-!
# The fields of a tool

The fields of the placeholders come first, in the order of the path, and are required. Parameters
only add fields after them, and every field has a proper type.
-/

namespace ApiTools

open Binding

namespace Field

variable {holds : Json → Prop}

/-! ## Placeholders -/

theorem mem_of_descriptorOf {placeholder location : String} {parameters : List Json}
    {parameter : Json}
    (found : descriptorOf placeholder location parameters = .ok (some parameter)) :
    parameter ∈ parameters := by
  induction parameters with
  | nil => simp [descriptorOf] at found
  | cons first rest inductionHypothesis =>
      simp only [descriptorOf, bind_eq_ok_iff, pure_eq_ok] at found
      obtain ⟨name, -, found⟩ := found
      split at found
      · simp only [bind_eq_ok_iff] at found
        obtain ⟨place, -, found⟩ := found
        split at found
        · obtain rfl : first = parameter := by simpa using found
          exact List.mem_cons_self
        · exact List.mem_cons_of_mem first (inductionHypothesis found)
      · exact List.mem_cons_of_mem first (inductionHypothesis found)

theorem named_of_ofPlaceholder {markers : List String} {parameters : List Json}
    {placeholder : String} {field : Field}
    (done : ofPlaceholder markers parameters placeholder = .ok field) :
    field.name = .str placeholder ∧ field.required = true := by
  simp only [ofPlaceholder, bind_eq_ok_iff, pure_eq_ok] at done
  obtain ⟨found, -, done⟩ := done
  cases found with
  | none => exact Except.ok.inj done ▸ ⟨rfl, rfl⟩
  | some parameter =>
      simp only [bind_eq_ok_iff, Except.ok.injEq] at done
      obtain ⟨_, -, _, -, _, -, _, -, rfl⟩ := done
      exact ⟨rfl, rfl⟩

theorem lists_of_ofPlaceholder (hereditary : Json.Hereditary holds) {markers : List String}
    {parameters : List Json} {placeholder : String} {field : Field}
    (whole : ∀ parameter ∈ parameters, holds parameter)
    (done : ofPlaceholder markers parameters placeholder = .ok field) : field.type.Lists holds := by
  simp only [ofPlaceholder, bind_eq_ok_iff, pure_eq_ok] at done
  obtain ⟨found, descriptorDone, done⟩ := done
  cases found with
  | none => exact Except.ok.inj done ▸ .text
  | some parameter =>
      simp only [bind_eq_ok_iff, Except.ok.injEq] at done
      obtain ⟨schema, schemaLooked, type, typeDone, _, -, _, -, rfl⟩ := done
      have inParameter := whole parameter (mem_of_descriptorOf descriptorDone)
      exact lists_placeholderType hereditary (hereditary.part inParameter schemaLooked) typeDone

/-! ## Parameters -/

theorem lists_ofParameter (orderly : Json.Orderly holds)
    {parameter schema location name : Json} {field : Field} (whole : holds schema)
    (done : ofParameter parameter schema location name = .ok field) : field.type.Lists holds := by
  simp only [ofParameter, bind_eq_ok_iff, pure_eq_ok] at done
  obtain ⟨_, -, _, -, done⟩ := done
  split at done
  · simp only [bind_eq_ok_iff, Except.ok.injEq] at done
    obtain ⟨_, -, type, typeDone, _, -, _, -, rfl⟩ := done
    exact ArgType.lists_ofSchema orderly whole typeDone
  · simp only [bind_eq_ok_iff, Except.ok.injEq] at done
    obtain ⟨type, typeDone, _, -, _, -, rfl⟩ := done
    exact lists_parameterType orderly whole typeDone

/-- The field has the name of the parameter, and that of a body is always the same. -/
theorem named_of_ofParameter {parameter schema location name : Json} {field : Field}
    (done : ofParameter parameter schema location name = .ok field) :
    field.name = (if location = .str "body" then .str "body" else name) ∧
      field.origin = location := by
  simp only [ofParameter, bind_eq_ok_iff, pure_eq_ok] at done
  obtain ⟨_, -, _, -, done⟩ := done
  split at done
  · simp only [bind_eq_ok_iff, Except.ok.injEq] at done
    obtain ⟨_, -, _, -, _, -, _, -, rfl⟩ := done
    exact ⟨rfl, rfl⟩
  · simp only [bind_eq_ok_iff, Except.ok.injEq] at done
    obtain ⟨_, -, _, -, _, -, rfl⟩ := done
    exact ⟨rfl, rfl⟩

theorem lists_splitProperties (orderly : Json.Orderly holds) {properties : List (String × Json)} :
    ∀ {arrays : List (String × ArgType)} {others : List String},
      (∀ property ∈ properties, holds property.2) →
      splitProperties properties = .ok (arrays, others) →
      ∀ array ∈ arrays, array.2.Lists holds := by
  induction properties with
  | nil =>
      intro arrays others _ done
      obtain ⟨rfl, rfl⟩ : [] = arrays ∧ [] = others := by simpa [splitProperties] using done
      simp
  | cons property rest inductionHypothesis =>
      intro arrays others whole done
      obtain ⟨name, schema⟩ := property
      rw [List.forall_mem_cons] at whole
      simp only [splitProperties, bind_eq_ok_iff, pure_eq_ok] at done
      obtain ⟨isArray, -, done⟩ := done
      split at done
      · simp only [bind_eq_ok_iff, Except.ok.injEq, Prod.mk.injEq] at done
        obtain ⟨items, itemsLooked, item, itemDone, ⟨laterArrays, later⟩, laterDone, rfl, -⟩ := done
        have inItems := orderly.memberThere whole.1 itemsLooked
        exact List.forall_mem_cons.2
          ⟨ArgType.lists_ofSchema orderly inItems itemDone, inductionHypothesis whole.2 laterDone⟩
      · simp only [bind_eq_ok_iff, Except.ok.injEq, Prod.mk.injEq] at done
        obtain ⟨⟨laterArrays, later⟩, laterDone, rfl, -⟩ := done
        exact inductionHypothesis whole.2 laterDone

/-- What a parameter adds: its fields, and the arrays of a body that is flattened. -/
inductive Adds (markers omitted : List String) (parameter : Json) :
    List Field → List (String × ArgType) → Prop where
  | nothing : Adds markers omitted parameter [] []
  | arrays {schema properties : Json} {members : List (String × Json)}
      {arrays : List (String × ArgType)} {others : List String}
      (located : parameter.memberOr "in" (.str "query") = .ok (.str "body"))
      (schemaLooked : parameter.part "schema" = .ok schema)
      (propertiesLooked : schema.memberThere "properties" = .ok properties)
      (membersLooked : properties.members = .ok members)
      (split : splitProperties members = .ok (arrays, others)) :
      Adds markers omitted parameter (flattened arrays) arrays
  | alone {schema location name : Json} {field : Field}
      (located : parameter.memberOr "in" (.str "query") = .ok location)
      (named : parameter.memberOr "name" (.str "") = .ok name)
      (notClient : name ≠ .str clientParameter)
      (notMarker : location = .str "query" → name.isAmong markers = .ok false)
      (schemaLooked : parameter.part "schema" = .ok schema)
      (read : ofParameter parameter schema location name = .ok field) :
      Adds markers omitted parameter [field] []

/-- The fields that a parameter adds. -/
def addedBy (markers omitted : List String) (parameter : Json) : Except Fault (List Field) :=
  (addParameter markers omitted ⟨[], [], []⟩ parameter).map FieldSet.fields

/-- The parameter is not passed over: it has a place of its own, and it is neither the client's nor
left out nor a marker. -/
structure IsTaken (markers omitted : List String) (parameter location name schema : Json) :
    Prop where
  located : parameter.memberOr "in" (.str "query") = .ok location
  named : parameter.memberOr "name" (.str "") = .ok name
  inPlace : location ≠ .str "header" ∧ location ≠ .str "path"
  notClient : name ≠ .str clientParameter
  notOmitted : name.isAmong omitted = .ok false
  notMarker : (if location = .str "query" then name.isAmong markers else .ok false) = .ok false
  schemaLooked : parameter.part "schema" = .ok schema

theorem passedOver_or_isTaken {markers omitted : List String} {before after : FieldSet}
    {parameter : Json} (done : addParameter markers omitted before parameter = .ok after) :
    (∀ set, addParameter markers omitted set parameter = .ok set) ∨
      ∃ location name schema, IsTaken markers omitted parameter location name schema := by
  simp only [addParameter, bind_eq_ok_iff, pure_eq_ok] at done
  obtain ⟨location, located, name, named, done⟩ := done
  split at done
  · next elsewhere =>
      left
      simp [addParameter, located, named, elsewhere]
  next inPlace =>
  simp only [bind_eq_ok_iff] at done
  obtain ⟨isOmitted, omittedLooked, done⟩ := done
  split at done
  · next isTrue =>
      left
      simp [addParameter, located, named, omittedLooked, isTrue]
  next isFalse =>
  simp only [bind_eq_ok_iff] at done
  obtain ⟨isMarker, markerLooked, done⟩ := done
  rw [eq_false_of_ne_true isFalse] at omittedLooked
  rw [not_or, not_or] at inPlace
  split at done
  · next isTrue =>
      left
      simp [addParameter, located, named, inPlace, omittedLooked, markerLooked, isTrue]
  next isFalse =>
  simp only [bind_eq_ok_iff] at done
  obtain ⟨schema, schemaLooked, done⟩ := done
  rw [eq_false_of_ne_true isFalse] at markerLooked
  right
  exact ⟨location, name, schema, located, named, ⟨inPlace.1, inPlace.2.1⟩, inPlace.2.2,
    omittedLooked, markerLooked, schemaLooked⟩

/-- What a parameter adds does not depend on what was there before. -/
theorem exists_addParameter_eq {markers omitted : List String} {before after : FieldSet}
    {parameter : Json} (done : addParameter markers omitted before parameter = .ok after) :
    ∃ fields arrays warnings, Adds markers omitted parameter fields arrays ∧
      ∀ set, addParameter markers omitted set parameter = .ok ⟨set.fields ++ fields,
        flattenMap arrays set.flatten, set.warnings ++ warnings⟩ := by
  rcases passedOver_or_isTaken done with passedOver | ⟨location, name, schema, taken⟩
  · refine ⟨[], [], [], .nothing, fun set => ?_⟩
    rw [passedOver]
    simp [flattenMap]
  obtain ⟨located, named, inPlace, notClient, notOmitted, notMarker, schemaLooked⟩ := taken
  have fromAlone : ∀ field, ofParameter parameter schema location name = .ok field →
      (∀ set, addParameter markers omitted set parameter =
        .ok { set with fields := set.fields ++ [field] }) →
      ∃ fields arrays warnings, Adds markers omitted parameter fields arrays ∧
        ∀ set, addParameter markers omitted set parameter = .ok ⟨set.fields ++ fields,
          flattenMap arrays set.flatten, set.warnings ++ warnings⟩ := by
    intro field read fromAny
    have notAmong : location = .str "query" → name.isAmong markers = .ok false := by
      intro inQuery
      rwa [if_pos inQuery] at notMarker
    refine ⟨[field], [], [],
      .alone located named notClient notAmong schemaLooked read, fun set => ?_⟩
    rw [fromAny, List.append_nil]
    rfl
  simp only [addParameter, located, named, inPlace, notClient, notOmitted, notMarker, schemaLooked,
    ok_bind, or_self, if_false, Bool.false_eq_true, pure_eq_ok] at done
  split at done
  · next inBody =>
      subst inBody
      simp only [bind_eq_ok_iff] at done
      obtain ⟨isObject, objectLooked, done⟩ := done
      split at done
      · next withProperties =>
          simp only [bind_eq_ok_iff] at done
          obtain ⟨properties, propertiesLooked, members, membersLooked, ⟨arrays, others⟩,
            splitDone, done⟩ := done
          split at done
          · next filled =>
              rw [Bool.not_eq_true', List.isEmpty_eq_false_iff] at filled
              refine ⟨flattened arrays, arrays, if others.isEmpty then []
                else [.propertiesDropped others (arrays.map Prod.fst)],
                .arrays located schemaLooked propertiesLooked membersLooked splitDone,
                fun set => ?_⟩
              simp [addParameter, located, named, notClient, notOmitted, schemaLooked,
                objectLooked, withProperties, propertiesLooked, membersLooked, splitDone, filled]
          · next notFilled =>
              have isNil : arrays = [] := by simpa using notFilled
              obtain ⟨field, read, -⟩ := bind_eq_ok_iff.1 done
              apply fromAlone field read
              simp [addParameter, located, named, notClient, notOmitted, schemaLooked,
                objectLooked, withProperties, propertiesLooked, membersLooked, splitDone, isNil,
                read]
      · next withoutProperties =>
          obtain ⟨field, read, -⟩ := bind_eq_ok_iff.1 done
          apply fromAlone field read
          simp [addParameter, located, named, notClient, notOmitted, schemaLooked, objectLooked,
            withoutProperties, read]
  · next notInBody =>
      obtain ⟨field, read, -⟩ := bind_eq_ok_iff.1 done
      apply fromAlone field read
      simp [addParameter, located, named, inPlace, notClient, notOmitted, notMarker, schemaLooked,
        notInBody, read]

theorem adds_of_addParameter {markers omitted : List String} {before after : FieldSet}
    {parameter : Json} (done : addParameter markers omitted before parameter = .ok after) :
    ∃ fields arrays, addedBy markers omitted parameter = .ok fields ∧
      Adds markers omitted parameter fields arrays ∧
      after.fields = before.fields ++ fields ∧ after.flatten = flattenMap arrays before.flatten := by
  obtain ⟨fields, arrays, warnings, adds, fromAny⟩ := exists_addParameter_eq done
  have alone : addedBy markers omitted parameter = .ok fields := by
    rw [addedBy, fromAny]
    rfl
  rw [fromAny before] at done
  obtain rfl := Except.ok.inj done
  exact ⟨fields, arrays, alone, adds, rfl, rfl⟩

theorem lists_of_adds (orderly : Json.Orderly holds) {markers omitted : List String}
    {parameter : Json} {fields : List Field} {arrays : List (String × ArgType)}
    (whole : holds parameter) (adds : Adds markers omitted parameter fields arrays) :
    ∀ field ∈ fields, field.type.Lists holds := by
  cases adds with
  | nothing => simp
  | arrays _ schemaLooked propertiesLooked membersLooked split =>
      obtain rfl := Json.eq_obj_of_members membersLooked
      have inMembers := orderly.memberThere (orderly.part whole schemaLooked) propertiesLooked
      intro field member
      obtain ⟨array, arrayMember, rfl⟩ := List.mem_map.1 member
      exact lists_splitProperties orderly (orderly.field inMembers) split array arrayMember
  | alone _ _ _ _ schemaLooked read =>
      exact List.forall_mem_singleton.2
        (lists_ofParameter orderly (orderly.part whole schemaLooked) read)

theorem holds_name_of_adds (hereditary : Json.Hereditary holds)
    {markers omitted : List String} {parameter : Json} {fields : List Field}
    {arrays : List (String × ArgType)} (whole : holds parameter)
    (adds : Adds markers omitted parameter fields arrays) :
    ∀ field ∈ fields, holds field.name := by
  cases adds with
  | nothing => exact List.forall_mem_nil _
  | arrays _ _ _ _ _ =>
      intro field member
      obtain ⟨array, -, rfl⟩ := List.mem_map.1 member
      exact hereditary.str _
  | alone _ named _ _ _ read =>
      rw [List.forall_mem_singleton, (named_of_ofParameter read).1]
      split
      · exact hereditary.str _
      · exact hereditary.memberOr whole (hereditary.str _) named

end Field

namespace FieldSet

/-- What the parameters add, one after the other. -/
theorem exists_adds_of_foldlM {markers omitted : List String} {parameters : List Json} :
    ∀ {before after : FieldSet},
      parameters.foldlM (Field.addParameter markers omitted) before = .ok after →
      ∃ added : List (List Field × List (String × ArgType)),
        List.Forall₂ (fun parameter adds =>
            Field.addedBy markers omitted parameter = .ok adds.1 ∧
              Field.Adds markers omitted parameter adds.1 adds.2) parameters added ∧
        after.fields = before.fields ++ added.flatMap Prod.fst ∧
        after.flatten = Field.flattenMap (added.flatMap Prod.snd) before.flatten := by
  induction parameters with
  | nil =>
      intro before after done
      obtain rfl : before = after := Except.ok.inj done
      exact ⟨[], .nil, by simp, rfl⟩
  | cons parameter rest inductionHypothesis =>
      intro before after done
      rw [List.foldlM_cons, bind_eq_ok_iff] at done
      obtain ⟨middle, firstDone, restDone⟩ := done
      obtain ⟨fields, arrays, alone, adds, middleFields, middleFlatten⟩ :=
        Field.adds_of_addParameter firstDone
      obtain ⟨added, related, afterFields, afterFlatten⟩ := inductionHypothesis restDone
      refine ⟨(fields, arrays) :: added, .cons ⟨alone, adds⟩ related, ?_, ?_⟩
      · rw [afterFields, middleFields, List.append_assoc, List.flatMap_cons]
      · rw [afterFlatten, middleFlatten, List.flatMap_cons, Field.flattenMap, Field.flattenMap,
          Field.flattenMap, List.foldl_append]

/-- A tool has the fields of its placeholders, in their order, and then those that the parameters
add. -/
theorem exists_adds_of_ofParameters {path : String} {parameters : List Json}
    {omitted : List String} {set : FieldSet}
    (done : ofParameters path parameters omitted = .ok set) :
    ∃ first, ∃ added : List (List Field × List (String × ArgType)),
      List.Forall₂ (fun placeholder field =>
          Field.ofPlaceholder (Path.markers path.toList) parameters placeholder = .ok field)
        ((Path.placeholders path.toList).filter fun name => !omitted.contains name) first ∧
      List.Forall₂ (fun parameter adds =>
          Field.addedBy (Path.markers path.toList) omitted parameter = .ok adds.1 ∧
            Field.Adds (Path.markers path.toList) omitted parameter adds.1 adds.2)
        parameters added ∧
      set.fields = first ++ added.flatMap Prod.fst ∧
      set.flatten = Field.flattenMap (added.flatMap Prod.snd) [] := by
  simp only [ofParameters, bind_eq_ok_iff] at done
  obtain ⟨first, firstDone, done⟩ := done
  obtain ⟨added, related, fields, flatten⟩ := exists_adds_of_foldlM done
  exact ⟨first, added, mapM_eq_ok_iff.1 firstDone, related, fields, flatten⟩

/-- The fields of placeholders are required, and the types of all fields list parts of the
parameters. -/
theorem exists_fields_of_ofParameters {holds : Json → Prop} (orderly : Json.Orderly holds)
    {path : String} {parameters : List Json} {omitted : List String} {set : FieldSet}
    (whole : ∀ parameter ∈ parameters, holds parameter)
    (done : ofParameters path parameters omitted = .ok set) :
    ∃ first added, set.fields = first ++ added ∧
      List.Forall₂ (fun placeholder field =>
          field.name = .str placeholder ∧ field.required = true ∧ field.type.Lists holds)
        ((Path.placeholders path.toList).filter fun name => !omitted.contains name) first ∧
      ∀ field ∈ added, field.type.Lists holds := by
  obtain ⟨first, added, firstRelated, related, fields, -⟩ := exists_adds_of_ofParameters done
  refine ⟨first, added.flatMap Prod.fst, fields, ?_, fun field member => ?_⟩
  · refine firstRelated.imp fun placeholder field fieldDone => ?_
    obtain ⟨isNamed, required⟩ := Field.named_of_ofPlaceholder fieldDone
    exact ⟨isNamed, required, Field.lists_of_ofPlaceholder orderly.toHereditary whole fieldDone⟩
  · obtain ⟨adds, isAdded, inFields⟩ := List.mem_flatMap.1 member
    obtain ⟨parameter, isParameter, -, parameterAdds⟩ :=
      exists_of_forall₂_right related adds isAdded
    exact Field.lists_of_adds orderly (whole parameter isParameter) parameterAdds field inFields

theorem lists_of_mem {holds : Json → Prop} (orderly : Json.Orderly holds) {path : String}
    {parameters : List Json} {omitted : List String} {set : FieldSet}
    (whole : ∀ parameter ∈ parameters, holds parameter)
    (done : ofParameters path parameters omitted = .ok set) :
    ∀ field ∈ set.fields, field.type.Lists holds := by
  obtain ⟨first, added, fields, placeholderFields, addedLists⟩ :=
    exists_fields_of_ofParameters orderly whole done
  rw [fields]
  refine List.forall_mem_append.2 ⟨fun field member => ?_, addedLists⟩
  obtain ⟨name, -, -, -, lists⟩ := exists_of_forall₂_right placeholderFields field member
  exact lists

/-- A name is a placeholder of the path or stands in its parameter. -/
theorem holds_names {holds : Json → Prop} (hereditary : Json.Hereditary holds) {path : String}
    {parameters : List Json} {omitted : List String} {set : FieldSet}
    (whole : ∀ parameter ∈ parameters, holds parameter)
    (done : ofParameters path parameters omitted = .ok set) :
    ∀ field ∈ set.fields, holds field.name := by
  obtain ⟨first, added, firstRelated, related, fields, -⟩ := exists_adds_of_ofParameters done
  rw [fields]
  refine List.forall_mem_append.2 ⟨fun field member => ?_, fun field member => ?_⟩
  · obtain ⟨placeholder, -, fieldDone⟩ := exists_of_forall₂_right firstRelated field member
    rw [(Field.named_of_ofPlaceholder fieldDone).1]
    exact hereditary.str placeholder
  · obtain ⟨adds, isAdded, inFields⟩ := List.mem_flatMap.1 member
    obtain ⟨parameter, isParameter, -, parameterAdds⟩ :=
      exists_of_forall₂_right related adds isAdded
    exact Field.holds_name_of_adds hereditary (whole parameter isParameter) parameterAdds field
      inFields

end FieldSet

end ApiTools
