import ApiTools.Proofs.PathArguments

/-!
# Flattened bodies

A body whose properties are arrays of objects becomes one field for each of them, named by the
singular. Nothing is lost exactly when the singulars are distinct: then every array has its own
field, and an item that is given there is sent as the only one of that array.
-/

namespace ApiTools

open Binding

namespace Field

/-! ## The property behind a field -/

/-- The body property that a field stands for. -/
def behind? (flatten : List (String × String)) (field : Field) : Option String :=
  match field.name with
  | .str name => Keyed.get? name flatten
  | _ => none

theorem keys_flattenMap_nodup {before : List (String × String)}
    (distinct : (Keyed.keys before).Nodup) (arrays : List (String × ArgType)) :
    (Keyed.keys (flattenMap arrays before)).Nodup := by
  induction arrays generalizing before with
  | nil => exact distinct
  | cons array rest inductionHypothesis =>
      exact inductionHypothesis (Keyed.keys_put_nodup distinct _ _)

/-- Behind a name is the last of the arrays with that singular. -/
theorem get?_flattenMap (name : String) (arrays : List (String × ArgType)) :
    ∀ before : List (String × String), Keyed.get? name (flattenMap arrays before) =
      ((arrays.reverse.find? fun array => Noun.singular array.1 = name).map Prod.fst).or
        (Keyed.get? name before) := by
  induction arrays with
  | nil => exact fun before => rfl
  | cons array rest inductionHypothesis =>
      intro before
      have restMap := inductionHypothesis (Keyed.put (Noun.singular array.1) array.1 before)
      rw [flattenMap, List.foldl_cons, ← flattenMap, restMap, List.reverse_cons, List.find?_append,
        Option.map_or, Option.or_assoc]
      congr 1
      by_cases same : Noun.singular array.1 = name
      · rw [same, Keyed.get?_put_self]
        simp [same]
      · rw [Keyed.get?_put_of_ne (Ne.symm same)]
        simp [same]

theorem exists_behind_singular {arrays : List (String × ArgType)}
    (before : List (String × String)) {array : String × ArgType} (member : array ∈ arrays) :
    ∃ other ∈ arrays, Noun.singular other.1 = Noun.singular array.1 ∧
      Keyed.get? (Noun.singular array.1) (flattenMap arrays before) = some other.1 := by
  have isFound : (arrays.reverse.find? fun other =>
      Noun.singular other.1 = Noun.singular array.1).isSome = true :=
    List.find?_isSome.2 ⟨array, List.mem_reverse.2 member, by simp⟩
  obtain ⟨other, found⟩ := Option.isSome_iff_exists.1 isFound
  have isOther : other ∈ arrays := List.mem_reverse.1 (List.mem_of_find?_eq_some found)
  have sameSingular := List.find?_some found
  refine ⟨other, isOther, by simpa using sameSingular, ?_⟩
  rw [get?_flattenMap, found, Option.map_some, Option.some_or]

theorem get?_flattenMap_of_nodup {arrays : List (String × ArgType)}
    (before : List (String × String))
    (distinct : (arrays.map fun array => Noun.singular array.1).Nodup)
    {array : String × ArgType} (member : array ∈ arrays) :
    Keyed.get? (Noun.singular array.1) (flattenMap arrays before) = some array.1 := by
  obtain ⟨other, isOther, sameSingular, behind⟩ := exists_behind_singular before member
  have same : other = array := List.inj_on_of_nodup_map distinct isOther member sameSingular
  rw [behind, same]

theorem countP_flattened (arrays : List (String × ArgType)) (flatten : List (String × String))
    (name : String) :
    ((flattened arrays).countP fun field => field.behind? flatten = some name) =
      arrays.countP fun array => Keyed.get? (Noun.singular array.1) flatten = some name := by
  rw [flattened, List.countP_map]
  rfl

/-- Each array has exactly one field when the singulars are distinct, and only then. -/
theorem countP_flattened_eq_one_iff (arrays : List (String × ArgType))
    (before : List (String × String)) :
    (∀ array ∈ arrays, ((flattened arrays).countP fun field =>
        field.behind? (flattenMap arrays before) = some array.1) = 1) ↔
      (arrays.map fun array => Noun.singular array.1).Nodup := by
  constructor
  · intro each
    rw [List.Nodup, List.pairwise_map, List.pairwise_iff_forall_sublist]
    intro first second inOrder same
    -- whichever array the common singular stands for, both fields stand for it
    have member : first ∈ arrays := inOrder.subset List.mem_cons_self
    obtain ⟨other, isOther, -, behind⟩ := exists_behind_singular before member
    have once := each other isOther
    rw [countP_flattened] at once
    have twice := inOrder.countP_le (p := fun array => decide
      (Keyed.get? (Noun.singular array.1) (flattenMap arrays before) = some other.1))
    rw [once] at twice
    simp [← same, behind] at twice
  · intro distinct array member
    have onlyOwn : ∀ other ∈ arrays,
        (Keyed.get? (Noun.singular other.1) (flattenMap arrays before) = some array.1) ↔
          other.1 = array.1 := by
      intro other isOther
      rw [get?_flattenMap_of_nodup before distinct isOther, Option.some.injEq]
    have distinctNames : (arrays.map Prod.fst).Nodup := by
      apply List.Nodup.of_map Noun.singular
      rw [List.map_map]
      exact distinct
    calc
      ((flattened arrays).countP fun field =>
          field.behind? (flattenMap arrays before) = some array.1)
          = arrays.countP fun other => other.1 = array.1 := by
            rw [countP_flattened]
            exact List.countP_congr fun other isOther => by simpa using onlyOwn other isOther
      _ = (arrays.map Prod.fst).count array.1 := by
            rw [List.count, List.countP_map]
            rfl
      _ = 1 := List.count_eq_one_of_mem distinctNames (List.mem_map_of_mem member)

/-! ## The arrays of a body -/

/-- The names of the properties that are arrays of objects. -/
def arrayNames (members : List (String × Json)) : List String :=
  Keyed.keys (members.filter fun member => isObjectArray member.2 = .ok true)

theorem names_of_splitProperties {members : List (String × Json)} :
    ∀ {arrays : List (String × ArgType)} {others : List String},
      splitProperties members = .ok (arrays, others) →
      arrays.map Prod.fst = arrayNames members := by
  induction members with
  | nil =>
      intro arrays others done
      obtain ⟨rfl, rfl⟩ : [] = arrays ∧ [] = others := by simpa [splitProperties] using done
      rfl
  | cons member rest inductionHypothesis =>
      intro arrays others done
      obtain ⟨name, schema⟩ := member
      simp only [splitProperties, bind_eq_ok_iff, pure_eq_ok] at done
      obtain ⟨isArray, arrayLooked, done⟩ := done
      split at done
      · next is =>
          simp only [bind_eq_ok_iff, Except.ok.injEq, Prod.mk.injEq] at done
          obtain ⟨_, -, item, -, ⟨later, _⟩, laterDone, rfl, -⟩ := done
          have kept : isObjectArray schema = .ok true := by rw [arrayLooked, is]
          rw [List.map_cons, inductionHypothesis laterDone, arrayNames, arrayNames,
            List.filter_cons_of_pos (by simpa using kept), Keyed.keys_cons]
      · next isNot =>
          simp only [bind_eq_ok_iff, Except.ok.injEq, Prod.mk.injEq] at done
          obtain ⟨⟨later, _⟩, laterDone, rfl, -⟩ := done
          have passedOver : isObjectArray schema ≠ .ok true := by
            rw [arrayLooked, eq_false_of_ne_true isNot]
            simp
          rw [inductionHypothesis laterDone, arrayNames, arrayNames,
            List.filter_cons_of_neg (by simpa using passedOver)]

/-- The parameter is a body whose properties are these, and it is flattened. -/
structure IsFlattened (omitted : List String) (parameter : Json)
    (members : List (String × Json)) : Prop where
  located : parameter.memberOr "in" (.str "query") = .ok (.str "body")
  taken : ∃ name, parameter.memberOr "name" (.str "") = .ok name ∧
    name ≠ .str clientParameter ∧ name.isAmong omitted = .ok false
  described : ∃ schema properties, parameter.part "schema" = .ok schema ∧
    isObjectWithProperties schema = .ok true ∧
    schema.memberThere "properties" = .ok properties ∧ properties.members = .ok members
  split : ∃ arrays others, splitProperties members = .ok (arrays, others)
  filled : arrayNames members ≠ []

theorem exists_addParameter_of_isFlattened (markers : List String) {omitted : List String}
    (before : FieldSet) {parameter : Json} {members : List (String × Json)}
    (flattens : IsFlattened omitted parameter members) :
    ∃ after arrays, addParameter markers omitted before parameter = .ok after ∧
      arrays.map Prod.fst = arrayNames members ∧
      after.fields = before.fields ++ flattened arrays ∧
      after.flatten = flattenMap arrays before.flatten := by
  obtain ⟨name, named, notClient, notOmitted⟩ := flattens.taken
  obtain ⟨schema, properties, schemaLooked, isObject, propertiesLooked, membersLooked⟩ :=
    flattens.described
  obtain ⟨arrays, others, splitDone⟩ := flattens.split
  have names := names_of_splitProperties splitDone
  have filled : arrays ≠ [] := by
    rintro rfl
    exact flattens.filled names.symm
  refine ⟨⟨before.fields ++ flattened arrays, flattenMap arrays before.flatten, before.warnings ++
    if others.isEmpty then [] else [.propertiesDropped others (arrays.map Prod.fst)]⟩, arrays, ?_,
    names, rfl, rfl⟩
  simp [addParameter, flattens.located, named, notOmitted, schemaLooked, isObject,
    propertiesLooked, membersLooked, splitDone, filled, notClient]

/-! ## Lossless flattening -/

/-- A call gives one item under a name and nothing under the other flattened names. -/
structure GivesOnly (flatten : List (String × String)) (name : String) (item : Json)
    (args : Arguments) : Prop where
  given : args.given? name = some item
  alone : ∀ other ∈ Keyed.keys flatten, other ≠ name → args.given? other = none

/-- Each of some properties has a field of its own, under which an item that is given alone is sent
as the only item of the property. -/
structure FlattensEach (properties : List String) (fields : List Field)
    (flatten : List (String × String)) : Prop where
  one : ∀ property ∈ properties,
    (fields.countP fun field => field.behind? flatten = some property) = 1
  apart : (fields.map Field.name).Nodup
  sent : ∀ name property, Keyed.get? name flatten = some property →
    ∀ (handler : Handler) (args : Arguments) (item : Json),
      handler.flatten = flatten → handler.hasBody = true →
      (∀ key ∈ handler.queryKeys, key.isAtomic = true) →
      (∀ placeholder ∈ Path.placeholders handler.path.toList, args.given? placeholder ≠ none) →
      GivesOnly flatten name item args →
      ∃ call, handler.call args = .ok call ∧ call.body = some (.obj [(property, .arr [item])])

theorem flattensEach_of_nodup {arrays : List (String × ArgType)} {before : List (String × String)}
    (distinctBefore : (Keyed.keys before).Nodup)
    (distinct : (arrays.map fun array => Noun.singular array.1).Nodup) :
    FlattensEach (arrays.map Prod.fst) (flattened arrays) (flattenMap arrays before) := by
  refine ⟨?_, ?_, ?_⟩
  · rw [List.forall_mem_map]
    exact (countP_flattened_eq_one_iff arrays before).2 distinct
  · have textsApart := distinct.map (f := Json.str) fun _ _ same => Json.str.inj same
    rw [List.map_map] at textsApart
    rw [flattened, List.map_map]
    exact textsApart
  · intro name property behind handler args item sameMap hasBody atomic allGiven only
    obtain ⟨call, made⟩ := Handler.exists_call_of_given allGiven atomic
    have distinctKeys := keys_flattenMap_nodup distinctBefore arrays
    rw [← sameMap] at distinctKeys behind only
    have body := Handler.body_of_single distinctKeys behind only.given only.alone
    refine ⟨call, made, ?_⟩
    rw [Handler.body_of_call made, if_pos hasBody, body]

/-- Flattening a body gives each of its arrays a field of its own, under which it is sent, exactly
when their names have distinct singulars. -/
theorem flattensEach_iff (markers : List String) {omitted : List String} (before : FieldSet)
    {parameter : Json} {members : List (String × Json)}
    (flattens : IsFlattened omitted parameter members)
    (distinct : (Keyed.keys before.flatten).Nodup) :
    ∃ after emitted, addParameter markers omitted before parameter = .ok after ∧
      after.fields = before.fields ++ emitted ∧
      (FlattensEach (arrayNames members) emitted after.flatten ↔
        ((arrayNames members).map Noun.singular).Nodup) := by
  obtain ⟨after, arrays, added, names, fields, flatten⟩ :=
    exists_addParameter_of_isFlattened markers before flattens
  refine ⟨after, flattened arrays, added, fields, ?_⟩
  rw [flatten, ← names, List.map_map]
  constructor
  · intro each
    exact (countP_flattened_eq_one_iff arrays before.flatten).1 (List.forall_mem_map.1 each.one)
  · exact flattensEach_of_nodup distinct

/-- Properties of the given names, all of which are arrays of objects. -/
def bodyMembers (names : List String) : List (String × Json) :=
  names.map fun name =>
    (name, .obj [("type", .str "array"), ("items", .obj [("type", .str "object")])])

/-- A body with these properties. -/
def bodyOf (names : List String) : Json :=
  .obj [("type", .str "object"), ("properties", .obj (bodyMembers names))]

def bodyParameter (names : List String) : Json :=
  .obj [("name", .str "body"), ("in", .str "body"), ("schema", bodyOf names)]

theorem isFlattened_showsAndMovies :
    IsFlattened [] (bodyParameter ["shows", "movies"]) (bodyMembers ["shows", "movies"]) where
  located := rfl
  taken := ⟨.str "body", rfl, by decide, rfl⟩
  described := ⟨_, _, rfl, rfl, rfl, rfl⟩
  split := ⟨_, _, rfl⟩
  filled := by decide

theorem flattensEach_showsAndMovies :
    ∃ after emitted, addParameter [] [] ⟨[], [], []⟩ (bodyParameter ["shows", "movies"]) =
        .ok after ∧ after.fields = emitted ∧
      FlattensEach ["shows", "movies"] emitted after.flatten := by
  obtain ⟨after, emitted, added, fields, lossless⟩ :=
    flattensEach_iff [] ⟨[], [], []⟩ isFlattened_showsAndMovies List.nodup_nil
  exact ⟨after, emitted, added, fields, lossless.2 (by decide +kernel)⟩

end Field

namespace Catalog

def historyEntry : WhitelistEntry := .json "/sync/history" "post"

/-- A description in which that operation has a body with arrays of the given names. -/
def historyDescription (names : List String) : Json :=
  .obj [("paths", .obj [("/sync/history", .obj [("post", .obj [("requestBody", .obj [("content",
    .obj [("application/json", .obj [("schema", Field.bodyOf names)])])])])])])]

set_option maxRecDepth 20000 in
/-- Where a body has both movies and a movie, both fields have the same name. The movies cannot be
sent: a movie is always sent as the other property. -/
theorem losesArray_of_sameSingular :
    ∃ compiled warnings model,
      compileEntry (historyDescription ["movies", "movie"]) historyEntry =
        .ok (some compiled, warnings) ∧
      ArgumentModel.ofFields compiled.modelName compiled.fields = .ok model ∧
      (compiled.fields.countP fun field =>
        field.behind? compiled.handler.flatten = some "movies") = 0 ∧
      model.check (.obj [("movie", .obj [])]) = .ok [("movie", .obj [])] ∧
      compiled.handler.call [("movie", .obj [])] = .ok ⟨"/sync/history", "POST", [],
        some (.obj [("movie", .arr [.obj []])])⟩ := by
  have loses : (toolWithModel? (historyDescription ["movies", "movie"]) historyEntry).any
      (fun both => decide ((both.1.fields.countP fun field =>
          field.behind? both.1.handler.flatten = some "movies") = 0 ∧
        both.2.check (.obj [("movie", .obj [])]) = .ok [("movie", .obj [])] ∧
        both.1.handler.call [("movie", .obj [])] = .ok ⟨"/sync/history", "POST", [],
          some (.obj [("movie", .arr [.obj []])])⟩)) = true := by
    decide +kernel
  obtain ⟨compiled, warnings, model, done, loaded, lost⟩ := exists_of_any_toolWithModel? loses
  exact ⟨compiled, warnings, model, done, loaded, of_decide_eq_true lost⟩

end Catalog

end ApiTools
