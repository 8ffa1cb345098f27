import ApiTools.Proofs.ArgType.Conformance
import ApiTools.Proofs.Json.Alike

/-!
# Conforming values pass through

The type for a fragment of a schema accepts every value that conforms to the fragment, and the
accepted value is the given one up to the order of keys.
-/

namespace ApiTools.ArgType

open Binding

/-! ## Choices -/

/-- Among literals a literal is equal to itself only, unless it is found as it is. -/
theorem eq_of_same_literal {value other : Json} (literal : isLiteral value = true)
    (otherLiteral : isLiteral other = true) (notExact : isExact value = false)
    (same : value.same other = true) : other = value := by
  cases value with
  | null => simpa [Json.same_null] using same
  | int size =>
      have isBig : isWord size = false := notExact
      rw [Json.same, Json.sameScalar] at same
      cases other with
      | int otherSize =>
          have sameSize : size = otherSize := by simpa [Json.wholeValue?] using same
          rw [sameSize]
      | bool flag =>
          have isSmall : size = if flag then 1 else 0 := by simpa [Json.wholeValue?] using same
          rw [isSmall] at isBig
          cases flag <;> exact absurd isBig (by decide)
      | null | str _ => simp [Json.wholeValue?] at same
      | float _ | arr _ | obj _ => cases otherLiteral
  | bool _ | str _ => cases notExact
  | float _ | arr _ | obj _ => cases literal

theorem chosen?_of_mem_literals {choices : List Json} {value : Json}
    (literals : ∀ choice ∈ choices, isLiteral choice = true) (member : value ∈ choices) :
    chosen? choices value = some value := by
  have literal := literals value member
  unfold chosen?
  dsimp only
  cases exact : isExact value with
  | true => rw [if_pos ⟨rfl, member⟩]
  | false =>
      rw [if_neg (by simp)]
      have isFound : (choices.reverse.find? fun choice =>
          value.isAtomic && isLoose choice && value.same choice).isSome = true := by
        refine List.find?_isSome.2 ⟨value, List.mem_reverse.2 member, ?_⟩
        cases value with
        | null => rfl
        | int size =>
            have isBig : isWord size = false := exact
            simp [Json.isAtomic, isLoose, isBig, Json.same, Json.sameScalar, Json.wholeValue?]
        | bool _ | str _ => cases exact
        | float _ | arr _ | obj _ => cases literal
      obtain ⟨loose, isLoose⟩ := Option.isSome_iff_exists.1 isFound
      have isSame : value.same loose = true := (Bool.and_eq_true _ _ ▸ List.find?_some isLoose).2
      have isMember : loose ∈ choices := List.mem_reverse.1 (List.mem_of_find?_eq_some isLoose)
      rw [isLoose, eq_of_same_literal literal (literals loose isMember) exact isSame]
      rfl

/-- Literals are listed as they are. -/
theorem settled_of_isLiteral {value : Json} (literal : isLiteral value = true) :
    value.isFinite = true ∧ value.isAtomic = true ∧ unsigned value = value := by
  cases value with
  | null | bool _ | int _ | str _ => exact ⟨rfl, rfl, rfl⟩
  | float _ | arr _ | obj _ => cases literal

theorem mem_listed_of_literals {optional : Bool} {values : List Json} {value : Json}
    (literals : ∀ choice ∈ values, isLiteral choice = true) :
    value ∈ listed optional values ↔ value ∈ values := by
  rw [mem_listed]
  constructor
  · rintro ⟨given, member, rfl⟩
    rw [(settled_of_isLiteral (literals given member)).2.2]
    exact member
  · exact fun member => ⟨value, member, (settled_of_isLiteral (literals value member)).2.2⟩

theorem loadChoice_of_literals (optional : Bool) {values : List Json}
    (literals : ∀ choice ∈ values, isLiteral choice = true) :
    loadChoice optional values = .ok (.choice (listed optional values)) := by
  have finite : values.all Json.isFinite = true :=
    List.all_eq_true.2 fun value member => (settled_of_isLiteral (literals value member)).1
  have atomic : values.all Json.isAtomic = true :=
    List.all_eq_true.2 fun value member => (settled_of_isLiteral (literals value member)).2.1
  simp [loadChoice, finite, atomic]

/-! ## Objects -/

/-- The members of an object at some names, in the order of the names. -/
def membersAt (names : List String) (fields : List (String × Json)) : List (String × Json) :=
  names.filterMap fun name => (Keyed.get? name fields).map fun value => (name, value)

theorem membersAt_cons (name : String) (rest : List String) (fields : List (String × Json)) :
    membersAt (name :: rest) fields =
      match Keyed.get? name fields with
      | some value => (name, value) :: membersAt rest fields
      | none => membersAt rest fields := by
  rw [membersAt, List.filterMap_cons]
  cases Keyed.get? name fields <;> rfl

theorem mem_membersAt {names : List String} {fields : List (String × Json)}
    {field : String × Json} : field ∈ membersAt names fields ↔
      field.1 ∈ names ∧ Keyed.get? field.1 fields = some field.2 := by
  obtain ⟨key, value⟩ := field
  simp only [membersAt, List.mem_filterMap, Option.map_eq_some_iff, Prod.mk.injEq]
  constructor
  · rintro ⟨name, member, given, found, rfl, rfl⟩
    exact ⟨member, found⟩
  · rintro ⟨member, found⟩
    exact ⟨key, member, value, found, rfl, rfl⟩

theorem keys_membersAt (names : List String) (fields : List (String × Json)) :
    Keyed.keys (membersAt names fields) =
      names.filter fun name => (Keyed.get? name fields).isSome := by
  induction names with
  | nil => rfl
  | cons name rest inductionHypothesis =>
      rw [membersAt_cons, List.filter_cons]
      cases Keyed.get? name fields with
      | none => simpa using inductionHypothesis
      | some value => simpa using inductionHypothesis

/-- An object holds what it has at the declared names, and its undeclared members. -/
theorem perm_membersAt_append_undeclared {names : List String} {fields : List (String × Json)}
    (distinctNames : names.Nodup) (distinct : (Keyed.keys fields).Nodup) :
    fields.Perm (membersAt names fields ++ undeclared names fields) := by
  have declaredPart : (fields.filter fun field => names.contains field.1).Perm
      (membersAt names fields) := by
    have nodupMembers : (membersAt names fields).Nodup := by
      have distinctKeys : (Keyed.keys (membersAt names fields)).Nodup := by
        rw [keys_membersAt]
        exact distinctNames.filter _
      exact distinctKeys.of_map
    have nodupFields : fields.Nodup := distinct.of_map
    rw [List.perm_ext_iff_of_nodup (nodupFields.filter _) nodupMembers]
    rintro ⟨key, value⟩
    rw [List.mem_filter, mem_membersAt, List.contains_iff_mem]
    constructor
    · rintro ⟨member, declared⟩
      exact ⟨declared, Keyed.get?_of_mem distinct member⟩
    · rintro ⟨declared, found⟩
      exact ⟨Keyed.mem_of_get? found, declared⟩
  have parts := List.filter_append_perm (fun field => names.contains field.1) fields
  exact parts.symm.trans (declaredPart.append_right _)

/-- The checked members are alike those that an object has at the declared names. -/
theorem exists_checkProperties_alike {properties : List (String × Bool × ArgType)}
    {fields : List (String × Json)}
    (fits : ∀ property ∈ properties,
      (Keyed.get? property.1 fields = none ∧ property.2.1 = false) ∨
        ∃ value checked, Keyed.get? property.1 fields = some value ∧
          checkPresent property.2.1 property.2.2.check value = .ok checked ∧
          value.Alike checked) :
    ∃ accepted, checkProperties properties fields = .ok accepted ∧
      List.Forall₂ Json.MemberAlike (membersAt (properties.map Prod.fst) fields) accepted := by
  induction properties with
  | nil => exact ⟨[], rfl, .nil⟩
  | cons property rest inductionHypothesis =>
      obtain ⟨name, required, type⟩ := property
      rw [List.forall_mem_cons] at fits
      obtain ⟨others, othersDone, othersAlike⟩ := inductionHypothesis fits.2
      rw [List.map_cons, membersAt_cons]
      rcases fits.1 with ⟨absent, optional⟩ | ⟨value, checked, present, accepts, alike⟩
      · have firstDone : checkProperty name required type.check fields = .ok [] :=
          checkProperty_eq_ok_iff.2 (Or.inl ⟨absent, optional, rfl⟩)
        refine ⟨_, checkProperties_cons_eq_ok_iff.2 ⟨_, _, firstDone, othersDone, rfl⟩, ?_⟩
        simp only [absent, List.nil_append]
        exact othersAlike
      · have firstDone : checkProperty name required type.check fields = .ok [(name, checked)] :=
          checkProperty_eq_ok_iff.2 (Or.inr ⟨value, checked, present, accepts, rfl⟩)
        refine ⟨_, checkProperties_cons_eq_ok_iff.2 ⟨_, _, firstDone, othersDone, rfl⟩, ?_⟩
        simp only [present, List.singleton_append]
        exact .cons ⟨rfl, alike⟩ othersAlike

/-! ## Schemas -/

/-- The type accepts every value that conforms to a schema and leaves it as it is, up to the order
of keys. -/
def Passes (levels : Nat) (schema : Json) (type : ArgType) : Prop :=
  ∀ value, value.isWellKeyed = true → conforms levels schema value = true →
    ∃ checked, type.check value = .ok checked ∧ value.Alike checked

theorem passes_any (levels : Nat) (schema : Json) : Passes levels schema .any :=
  fun value _ _ => ⟨value, rfl, Json.alike_refl value⟩

theorem passes_list {levels : Nat} {schema item : Json} {type : ArgType}
    (read : Shape.ofSchema? schema = some (.list item)) (passes : Passes levels item type) :
    Passes (levels + 1) schema (.list type) := by
  intro value keyed conforming
  rw [conforms_of_shape read] at conforming
  obtain ⟨values, rfl, conformEach⟩ := Shape.admits_list_iff.1 conforming
  have each : ∀ part ∈ values, ∃ checked, type.check part = .ok checked ∧ part.Alike checked :=
    fun part member =>
      passes part (Json.isWellKeyed_arr.1 keyed part member) (conformEach part member)
  obtain ⟨results, related⟩ := exists_forall₂_of_forall_mem each
  have accepted : Checked.items type.check 0 values = .ok results :=
    Checked.items_eq_ok_iff.2 (related.imp fun _ _ both => both.1)
  refine ⟨.arr results, ?_, .arr (related.imp fun _ _ both => both.2)⟩
  rw [check, accepted]
  rfl

theorem passes_choice {levels : Nat} {schema : Json} {values : List Json} (optional : Bool)
    (read : Shape.ofSchema? schema = some (.choice values))
    (literals : ∀ choice ∈ values, isLiteral choice = true) :
    Passes (levels + 1) schema (.choice (listed optional values)) := by
  intro value keyed conforming
  rw [conforms_of_shape read, Shape.admits_choice_iff] at conforming
  have listedLiterals : ∀ choice ∈ listed optional values, isLiteral choice = true :=
    fun choice member => literals choice ((mem_listed_of_literals literals).1 member)
  have member : value ∈ listed optional values := (mem_listed_of_literals literals).2 conforming
  refine ⟨value, ?_, Json.alike_refl value⟩
  rw [check, checkChoice_eq_ok_iff]
  exact chosen?_of_mem_literals listedLiterals member

/-- A type that gives every value of a shape back as it is. -/
theorem passes_of_unchanged {levels : Nat} {schema : Json} {shape : Shape} {type : ArgType}
    (read : Shape.ofSchema? schema = some shape)
    (unchanged : ∀ value, shape.admits (conforms levels) value = true →
      type.check value = .ok value) :
    Passes (levels + 1) schema type := by
  intro value keyed conforming
  rw [conforms_of_shape read] at conforming
  exact ⟨value, unchanged value conforming, Json.alike_refl value⟩

theorem exists_checkPresent_alike {required : Bool} {type : ArgType} {value : Json}
    (fits : (required = false ∧ value.isNull = true) ∨
      ∃ checked, type.check value = .ok checked ∧ value.Alike checked) :
    ∃ checked, checkPresent required type.check value = .ok checked ∧ value.Alike checked := by
  unfold checkPresent
  by_cases isNothing : (!required && value.isNull) = true
  · rw [if_pos isNothing]
    have isNull : value = .null := by
      cases value <;> simp [Json.isNull] at isNothing ⊢
    exact ⟨.null, rfl, isNull ▸ Json.alike_refl .null⟩
  · rw [if_neg isNothing]
    rcases fits with ⟨notRequired, isNull⟩ | accepted
    · exact absurd (by simp [notRequired, isNull]) isNothing
    · exact accepted

theorem passes_model {levels : Nat} {schema : Json} {required : List String}
    {members : List (String × Json)} {properties : List (String × Bool × ArgType)} (name : String)
    (read : Shape.ofSchema? schema = some (.object required members))
    (distinct : (Keyed.keys members).Nodup)
    (related : List.Forall₂ (fun member property => property.1 = member.1 ∧
      property.2.1 = required.contains member.1 ∧ Passes levels member.2 property.2.2)
      members properties) :
    Passes (levels + 1) schema
      (.model name (properties.filter fun property => !isHidden property.1)) := by
  intro value keyed conforming
  rw [conforms_of_shape read] at conforming
  obtain ⟨fields, rfl, conformEach⟩ := Shape.admits_object_iff.1 conforming
  have fits : ∀ property ∈ properties.filter fun property => !isHidden property.1,
      (Keyed.get? property.1 fields = none ∧ property.2.1 = false) ∨
        ∃ part checked, Keyed.get? property.1 fields = some part ∧
          checkPresent property.2.1 property.2.2.check part = .ok checked ∧
          part.Alike checked := by
    intro property member
    obtain ⟨origin, originMember, sameName, sameRequired, passes⟩ :=
      exists_of_forall₂_right related property (List.mem_filter.1 member).1
    rw [sameName, sameRequired]
    rcases conformEach origin originMember with absent | ⟨part, present, fitsPart⟩
    · exact Or.inl absent
    · have partKeyed := Json.hereditary_isWellKeyed.get? keyed present
      obtain ⟨checked, accepts, alike⟩ :=
        exists_checkPresent_alike (fitsPart.imp_right (passes part partKeyed))
      exact Or.inr ⟨part, checked, present, accepts, alike⟩
  obtain ⟨accepted, acceptedDone, acceptedAlike⟩ := exists_checkProperties_alike fits
  refine ⟨_, map_eq_ok_iff.2 ⟨accepted, acceptedDone, rfl⟩, ?_⟩
  -- hidden names are not declared, so their members are among the undeclared ones
  have distinctNames :
      ((properties.filter fun property => !isHidden property.1).map Prod.fst).Nodup := by
    rw [← keys_of_forall₂_members (related.imp fun _ _ same => same.1)] at distinct
    exact distinct.sublist (List.filter_sublist.map Prod.fst)
  have sameMembers :=
    perm_membersAt_append_undeclared distinctNames (Json.isWellKeyed_obj.1 keyed).1
  refine Json.alike_obj sameMembers (List.rel_append acceptedAlike ?_)
  exact List.forall₂_same.2 fun field _ => ⟨rfl, Json.alike_refl field.2⟩

theorem refuseReserved_eq_ok {names : List String}
    (free : ∀ name ∈ names, reservedNames.contains name = false) :
    refuseReserved names = .ok () := by
  have noneFound : names.find? reservedNames.contains = none := by
    rw [List.find?_eq_none]
    intro name member isReserved
    rw [free name member] at isReserved
    cases isReserved
  rw [refuseReserved, noneFound]

/-- A property of an object type, before and after it is loaded, for a member of the properties in a
schema. -/
structure IsLoaded (levels : Nat) (name : String) (required : List String)
    (member : String × Json) (pair : (String × Bool × ArgType) × (String × Bool × ArgType)) :
    Prop where
  before : pair.1.1 = member.1 ∧ pair.1.2.1 = required.contains member.1 ∧
    ofSchema levels (name ++ nameOf member.1) member.2 = .ok pair.1.2.2
  load : pair.2.1 = pair.1.1 ∧ pair.2.2.1 = pair.1.2.1 ∧
    pair.1.2.2.load (!pair.1.2.1) = .ok pair.2.2.2
  after : pair.2.1 = member.1 ∧ pair.2.2.1 = required.contains member.1 ∧
    Passes levels member.2 pair.2.2.2

/-- What holds of the types for the properties of an object holds of the type for the object. -/
theorem exists_load_model {levels : Nat} {schema : Json} {required : List String}
    {members : List (String × Json)} (name : String)
    (read : Shape.ofSchema? schema = some (.object required members))
    (distinct : (Keyed.keys members).Nodup)
    (free : ∀ key ∈ Keyed.keys members, reservedNames.contains key = false)
    (each : ∀ member ∈ members, ∀ optional, ∃ type loaded,
      ofSchema levels (name ++ nameOf member.1) member.2 = .ok type ∧
        type.load optional = .ok loaded ∧ Passes levels member.2 loaded) (optional : Bool) :
    ∃ type loaded, (Shape.object required members).type levels name = .ok type ∧
      type.load optional = .ok loaded ∧ Passes (levels + 1) schema loaded := by
  have eachPair : ∀ member ∈ members, ∃ pair, IsLoaded levels name required member pair := by
    intro member isMember
    obtain ⟨type, loaded, done, loadDone, passes⟩ :=
      each member isMember (!required.contains member.1)
    exact ⟨((member.1, required.contains member.1, type), member.1, required.contains member.1,
      loaded), ⟨rfl, rfl, done⟩, ⟨rfl, rfl, loadDone⟩, ⟨rfl, rfl, passes⟩⟩
  obtain ⟨pairs, related⟩ := exists_forall₂_of_forall_mem eachPair
  have before : List.Forall₂ (fun member property => property.1 = member.1 ∧
      property.2.1 = required.contains member.1 ∧
      ofSchema levels (name ++ nameOf member.1) member.2 = .ok property.2.2)
      members (pairs.map Prod.fst) :=
    List.forall₂_map_right_iff.2 (related.imp fun _ _ isLoaded => isLoaded.before)
  have after : List.Forall₂ (fun member property => property.1 = member.1 ∧
      property.2.1 = required.contains member.1 ∧ Passes levels member.2 property.2.2)
      members (pairs.map Prod.snd) :=
    List.forall₂_map_right_iff.2 (related.imp fun _ _ isLoaded => isLoaded.after)
  have loadDone : loadProperties (pairs.map Prod.fst) = .ok (pairs.map Prod.snd) := by
    rw [loadProperties_eq_ok_iff, List.forall₂_map_left_iff, List.forall₂_map_right_iff,
      List.forall₂_same]
    intro pair isPair
    obtain ⟨member, -, isLoaded⟩ := exists_of_forall₂_right related pair isPair
    exact isLoaded.load
  have sameNames : (pairs.map Prod.fst).map Prod.fst = Keyed.keys members :=
    keys_of_forall₂_members (before.imp fun _ _ same => same.1)
  refine ⟨.model name (pairs.map Prod.fst), _, ?_, ?_, passes_model name read distinct after⟩
  · exact map_eq_ok_iff.2 ⟨_, mapM_properties_eq_ok_iff.2 before, rfl⟩
  · rw [ArgType.load, loadDone, ok_bind, sameNames, refuseReserved_eq_ok free]
    rfl

/-- The type for a fragment of a schema can be loaded, and values that conform pass through it. -/
theorem exists_load_ofSchema {levels : Nat} : ∀ {name : String} {schema : Json} (optional : Bool),
    isFragment levels schema = true →
      ∃ type loaded, ofSchema levels name schema = .ok type ∧ type.load optional = .ok loaded ∧
        Passes levels schema loaded := by
  -- on the levels that are left, which items and properties have one less of
  induction levels with
  | zero => exact fun {_ schema} _ _ => ⟨.any, .any, rfl, rfl, passes_any 0 schema⟩
  | succ levels inductionHypothesis =>
      intro name schema optional fragment
      rw [isFragment] at fragment
      cases read : Shape.ofSchema? schema with
      | none => simp [read] at fragment
      | some shape =>
      rw [read] at fragment
      rw [ofSchema_of_shape read]
      cases shape with
      | anything => exact ⟨.any, .any, rfl, rfl, passes_any (levels + 1) schema⟩
      | list item =>
          obtain ⟨type, loaded, done, loadDone, passes⟩ :=
            inductionHypothesis optional fragment
          refine ⟨.list type, .list loaded, ?_, ?_, passes_list read passes⟩
          · rw [Shape.type, done]
            rfl
          · rw [load, loadDone]
            rfl
      | object required properties =>
          simp only [Bool.and_eq_true, decide_eq_true_eq, List.all_eq_true,
            Bool.not_eq_true'] at fragment
          obtain ⟨distinct, each⟩ := fragment
          have free : ∀ key ∈ Keyed.keys properties, reservedNames.contains key = false := by
            intro key member
            obtain ⟨property, isProperty, rfl⟩ := List.mem_map.1 member
            exact (each property isProperty).1
          exact exists_load_model name read distinct free
            (fun property member optional => inductionHypothesis optional (each property member).2)
            optional
      | choice values =>
          have literals : ∀ choice ∈ values, isLiteral choice = true := by simpa using fragment
          exact ⟨.choice values, _, rfl, loadChoice_of_literals optional literals,
            passes_choice optional read literals⟩
      | text =>
          refine ⟨.text, .text, rfl, rfl, passes_of_unchanged read fun value admitted => ?_⟩
          cases value <;> simp [Shape.admits, check] at admitted ⊢
      | number =>
          refine ⟨.number, .number, rfl, rfl, passes_of_unchanged read fun value admitted => ?_⟩
          cases value <;> simp [Shape.admits, check, checkNumber] at admitted ⊢
      | flag =>
          refine ⟨.flag, .flag, rfl, rfl, passes_of_unchanged read fun value admitted => ?_⟩
          cases value <;> simp [Shape.admits, check, checkFlag, flagOf] at admitted ⊢
      | record =>
          refine ⟨.record, .record, rfl, rfl, passes_of_unchanged read fun value admitted => ?_⟩
          cases value <;> simp [Shape.admits, check] at admitted ⊢

/-- A schema for a list of films in an object. -/
def filmList : Json :=
  .obj [("type", .str "object"), ("required", .ofTexts ["movies"]),
    ("properties", .obj [
      ("note", .obj [("type", .str "string")]),
      ("movies", .obj [("type", .str "array"), ("items", .obj [
        ("type", .str "object"),
        ("properties", .obj [
          ("title", .obj [("type", .str "string")]),
          ("year", .obj [("type", .str "integer")]),
          ("rating", .obj [("enum", .arr [.int 1, .bool true, .null])])])])])])]

/-- One film, with members that the schema does not know and in another order. -/
def films : Json :=
  .obj [("to", .str "watchlist"),
    ("movies", .arr [.obj [("ids", .obj []), ("rating", .bool true), ("year", .null),
      ("title", .str "Dune")]])]

end ApiTools.ArgType
