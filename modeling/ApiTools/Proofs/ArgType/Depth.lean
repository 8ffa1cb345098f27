import ApiTools.Proofs.ArgType.Conformance

/-!
# How deep a schema is read

A schema is read level by level: from one level follows the shape, and the types of the schemas one
level below fill it. So two schemas that say the same on the levels that are read become the same
type, whatever stands further down, and a schema that contains itself is read like one of its
unfoldings.
-/

namespace ApiTools.ArgType

open Binding

namespace Shape

/-- Reads one level of a schema. -/
def read (schema : Json) : Except Fault Shape := do
  if !schema.isFilled then return .anything
  if ← schema.mentions "$ref" then return .anything
  let kind ← schema.member "type"
  if kind = .str "array" then return .list (← schema.member "items")
  let properties ← schema.member "properties"
  if kind = .str "object" ∧ properties.isFilled then
    let required ← ((← schema.member "required").orElse (.arr [])).textSet
    return .object required (← properties.members)
  let choices ← schema.member "enum"
  if choices.isFilled then return .choice (← choices.elements)
  return ofKind kind

/-- The type for a shape, where `inner` gives the types of the schemas one level below. -/
def typeBy (inner : String → Json → Except Fault ArgType) (name : String) :
    Shape → Except Fault ArgType
  | .anything => .ok .any
  | .list item => (inner (name ++ "Item") item).map .list
  | .object required properties =>
    (properties.mapM fun (key, property) => do
      let type ← inner (name ++ nameOf key) property
      return (key, required.contains key, type)).map (.model name)
  | .choice values => .ok (.choice values)
  | .text => .ok .text
  | .number => .ok .number
  | .flag => .ok .flag
  | .record => .ok .record

end Shape

/-- A schema is read level by level. -/
theorem ofSchema_succ (levels : Nat) (name : String) (schema : Json) :
    ofSchema (levels + 1) name schema =
      Shape.read schema >>= Shape.typeBy (ofSchema levels) name := by
  rw [ofSchema, Shape.read]
  split
  · rfl
  rw [bind_assoc]
  refine bind_congr fun isReference => ?_
  split
  · rfl
  rw [bind_assoc]
  refine bind_congr fun kind => ?_
  split
  · rw [bind_assoc]
    exact bind_congr fun items => (type_list levels name items).symm
  rw [bind_assoc]
  refine bind_congr fun properties => ?_
  split
  · rw [bind_assoc]
    refine bind_congr fun required => ?_
    rw [bind_assoc]
    refine bind_congr fun required => ?_
    rw [bind_assoc]
    exact bind_congr fun members => bind_ok_eq_map
  rw [bind_assoc]
  refine bind_congr fun choices => ?_
  split
  · rw [bind_assoc]
    rfl
  · exact (type_ofKind levels name kind).symm

/-! ## Schemas that agree -/

/-- Two objects have the same keys in the same order, and their values are related. What is no
object is only related to itself. -/
def RelatedProperties (Below : Json → Json → Prop) : Json → Json → Prop
  | .obj properties, .obj others =>
    List.Forall₂ (fun property other => property.1 = other.1 ∧ Below property.2 other.2)
      properties others
  | value, other => value = other

/-- Two members of schemas under one key are the same, but for schemas one level below, which are
related. -/
def RelatedMembers (Below : Json → Json → Prop) (key : String) (value other : Json) : Prop :=
  if key = "items" then Below value other
  else if key = "properties" then RelatedProperties Below value other
  else value = other

/-- Two values say the same at the level of a schema, and the schemas one level below are
related. -/
def SameLevel (Below : Json → Json → Prop) : Json → Json → Prop
  | .obj fields, .obj others =>
    ∀ key, Option.Rel (RelatedMembers Below key) (Keyed.get? key fields) (Keyed.get? key others)
  | value, other => value = other

/-- Two schemas agree on a number of levels. -/
def AgreeTo : (levels : Nat) → Json → Json → Prop
  | 0 => fun _ _ => True
  | levels + 1 => SameLevel (AgreeTo levels)

variable {Below : Json → Json → Prop} {schema other : Json}

section

variable {inner outer : String → Json → Except Fault ArgType}

theorem isFilled_of_relatedProperties (related : RelatedProperties Below schema other) :
    schema.isFilled = other.isFilled := by
  unfold RelatedProperties at related
  split at related
  · cases related <;> rfl
  · rw [related]

/-- Properties with related schemas become the same properties. -/
theorem typeBy_object_congr (alike : ∀ name first second, Below first second →
      inner name first = outer name second)
    (related : RelatedProperties Below schema other) (name : String) (required : List String) :
    (schema.members >>= fun properties =>
        Shape.typeBy inner name (.object required properties)) =
      other.members >>= fun properties =>
        Shape.typeBy outer name (.object required properties) := by
  unfold RelatedProperties at related
  split at related
  · next properties others =>
      have same : (Shape.object required properties).typeBy inner name =
          (Shape.object required others).typeBy outer name := by
        rw [Shape.typeBy, Shape.typeBy]
        congr 1
        refine mapM_eq_of_forall₂ (related.imp ?_)
        rintro ⟨key, property⟩ ⟨_, otherProperty⟩ ⟨rfl, below⟩
        dsimp only
        rw [alike _ _ _ below]
      exact same
  · next notBoth =>
      subst related
      cases schema with
      | obj properties => exact absurd rfl (notBoth properties properties rfl)
      | null | bool _ | int _ | float _ | str _ | arr _ => rfl

theorem typeBy_ofKind_congr (name : String) (kind : Json) :
    (Shape.ofKind kind).typeBy inner name = (Shape.ofKind kind).typeBy outer name := by
  rw [Shape.ofKind]
  repeat' split
  all_goals rfl

/-- What no object says as a schema does not depend on other schemas. -/
theorem read_bind_of_not_object (notObject : ∀ fields, schema ≠ .obj fields) (name : String) :
    Shape.read schema >>= Shape.typeBy inner name =
      Shape.read schema >>= Shape.typeBy outer name := by
  rw [Shape.read]
  split
  · rfl
  refine bind_bind_congr fun isReference => ?_
  split
  · rfl
  cases schema with
  | obj fields => exact absurd rfl (notObject fields)
  | null | bool _ | int _ | float _ | str _ | arr _ => rfl

/-! ### Members of schemas with the same level -/

section

variable {fields others : List (String × Json)}

theorem get?_eq_of_sameLevel (same : SameLevel Below (.obj fields) (.obj others)) {key : String}
    (noItems : key ≠ "items") (noProperties : key ≠ "properties") :
    Keyed.get? key fields = Keyed.get? key others := by
  have related := same key
  generalize Keyed.get? key fields = found, Keyed.get? key others = other at related ⊢
  cases related with
  | none => rfl
  | some isSame =>
      rw [RelatedMembers, if_neg noItems, if_neg noProperties] at isSame
      rw [isSame]

theorem member_eq_of_sameLevel (same : SameLevel Below (.obj fields) (.obj others)) {key : String}
    (noItems : key ≠ "items") (noProperties : key ≠ "properties") :
    (Json.obj fields).member key = (Json.obj others).member key := by
  rw [Json.member, Json.memberOr, get?_eq_of_sameLevel same noItems noProperties]
  rfl

theorem isFilled_eq_of_sameLevel (same : SameLevel Below (.obj fields) (.obj others)) :
    (Json.obj fields).isFilled = (Json.obj others).isFilled := by
  cases fields with
  | nil =>
      cases others with
      | nil => rfl
      | cons other rest =>
          have related := same other.1
          rw [Keyed.get?_cons, if_pos rfl] at related
          cases related
  | cons field rest =>
      cases others with
      | nil =>
          have related := same field.1
          rw [Keyed.get?_cons, if_pos rfl] at related
          cases related
      | cons other others => rfl

theorem items_of_sameLevel (same : SameLevel Below (.obj fields) (.obj others))
    (nothing : ∀ name, inner name .null = outer name .null)
    (alike : ∀ name first second, Below first second → inner name first = outer name second)
    (name : String) :
    inner name ((Keyed.get? "items" fields).getD .null) =
      outer name ((Keyed.get? "items" others).getD .null) := by
  have related := same "items"
  generalize Keyed.get? "items" fields = found, Keyed.get? "items" others = other at related ⊢
  cases related with
  | none => exact nothing name
  | some below => exact alike name _ _ below

theorem properties_of_sameLevel (same : SameLevel Below (.obj fields) (.obj others)) :
    RelatedProperties Below ((Keyed.get? "properties" fields).getD .null)
      ((Keyed.get? "properties" others).getD .null) := by
  have related := same "properties"
  generalize Keyed.get? "properties" fields = found, Keyed.get? "properties" others = other
    at related ⊢
  cases related with
  | none => rfl
  | some isRelated => exact isRelated

/-- Where the schemas below become the same types, so do the schemas. -/
theorem read_bind_object_congr (same : SameLevel Below (.obj fields) (.obj others))
    (nothing : ∀ name, inner name .null = outer name .null)
    (alike : ∀ name first second, Below first second → inner name first = outer name second)
    (name : String) :
    Shape.read (.obj fields) >>= Shape.typeBy inner name =
      Shape.read (.obj others) >>= Shape.typeBy outer name := by
  have sameMentions : (Json.obj fields).mentions "$ref" = (Json.obj others).mentions "$ref" := by
    rw [Json.mentions, get?_eq_of_sameLevel same (by decide) (by decide)]
    rfl
  have sameKind : (Json.obj fields).member "type" = (Json.obj others).member "type" :=
    member_eq_of_sameLevel same (by decide) (by decide)
  have sameRequired : (Json.obj fields).member "required" = (Json.obj others).member "required" :=
    member_eq_of_sameLevel same (by decide) (by decide)
  have sameChoices : (Json.obj fields).member "enum" = (Json.obj others).member "enum" :=
    member_eq_of_sameLevel same (by decide) (by decide)
  have found (key : String) (members : List (String × Json)) :
      (Json.obj members).member key = .ok ((Keyed.get? key members).getD .null) := rfl
  have related := properties_of_sameLevel same
  rw [Shape.read, Shape.read, isFilled_eq_of_sameLevel same, sameMentions, sameKind, sameRequired,
    sameChoices, found "items" fields, found "items" others, found "properties" fields,
    found "properties" others]
  split
  · rfl
  refine bind_bind_congr fun isReference => ?_
  split
  · rfl
  refine bind_bind_congr fun kind => ?_
  split
  · exact congrArg (Except.map ArgType.list)
      (items_of_sameLevel same nothing alike (name ++ "Item"))
  rw [ok_bind, ok_bind, isFilled_of_relatedProperties related]
  split
  · refine bind_bind_congr fun required => ?_
    refine bind_bind_congr fun required => ?_
    rw [bind_assoc, bind_assoc]
    exact typeBy_object_congr alike related name required
  refine bind_bind_congr fun choices => ?_
  split
  · rw [bind_assoc, bind_assoc]
    rfl
  · exact typeBy_ofKind_congr name kind

end

theorem read_bind_congr (same : SameLevel Below schema other)
    (nothing : ∀ name, inner name .null = outer name .null)
    (alike : ∀ name first second, Below first second → inner name first = outer name second)
    (name : String) :
    Shape.read schema >>= Shape.typeBy inner name =
      Shape.read other >>= Shape.typeBy outer name := by
  unfold SameLevel at same
  split at same
  · exact read_bind_object_congr same nothing alike name
  · next notBoth =>
      subst same
      exact read_bind_of_not_object
        (fun fields isObject => notBoth fields fields isObject isObject) name

end

/-! ## Types of schemas that agree -/

/-- The type at a number of levels depends on these levels only. -/
theorem ofSchema_eq_of_agreeTo {levels : Nat} :
    ∀ {schema other : Json}, AgreeTo levels schema other → ∀ name,
      ofSchema levels name schema = ofSchema levels name other := by
  induction levels with
  | zero => exact fun _ _ => rfl
  | succ levels inductionHypothesis =>
      intro schema other agree name
      rw [ofSchema_succ, ofSchema_succ]
      exact read_bind_congr agree (fun _ => rfl)
        (fun name _ _ below => inductionHypothesis below name) name

/-! ## Changes below a level -/

/-- An object with other values under its keys. -/
def mapMembers (change : String → Json → Json) : Json → Json
  | .obj fields => .obj (fields.map fun field => (field.1, change field.1 field.2))
  | value => value

/-- The step from a schema to one that is one level below. -/
inductive Descent where
  | items
  | property (name : String)

/-- The schema with another one at the end of a step. -/
def Descent.change : Descent → (Json → Json) → Json → Json
  | .items, replace => mapMembers fun key value => if key = "items" then replace value else value
  | .property name, replace => mapMembers fun key value =>
      if key = "properties" then
        mapMembers (fun property schema => if property = name then replace schema else schema) value
      else value

/-- The schema with another value in a place. -/
def replace (value : Json) : List Descent → Json → Json
  | [] => fun _ => value
  | descent :: place => descent.change (replace value place)

theorem get?_map (change : String → Json → Json) (key : String) (fields : List (String × Json)) :
    Keyed.get? key (fields.map fun field => (field.1, change field.1 field.2)) =
      (Keyed.get? key fields).map (change key) := by
  induction fields with
  | nil => rfl
  | cons field rest inductionHypothesis =>
      rw [List.map_cons, Keyed.get?_cons, Keyed.get?_cons, inductionHypothesis]
      split
      · next same => rw [← same, Option.map_some]
      · rfl

theorem sameLevel_mapMembers {change : String → Json → Json}
    (related : ∀ key value, RelatedMembers Below key value (change key value)) (schema : Json) :
    SameLevel Below schema (mapMembers change schema) := by
  cases schema with
  | obj fields =>
      intro key
      rw [get?_map]
      cases Keyed.get? key fields with
      | none => exact .none
      | some value => exact .some (related key value)
  | null | bool _ | int _ | float _ | str _ | arr _ => rfl

theorem relatedProperties_mapMembers {change : String → Json → Json}
    (related : ∀ name schema, Below schema (change name schema)) (value : Json) :
    RelatedProperties Below value (mapMembers change value) := by
  cases value with
  | obj properties =>
      rw [mapMembers, RelatedProperties, List.forall₂_map_right_iff, List.forall₂_same]
      exact fun property _ => ⟨rfl, related property.1 property.2⟩
  | null | bool _ | int _ | float _ | str _ | arr _ => rfl

theorem mapMembers_id (value : Json) : mapMembers (fun _ member => member) value = value := by
  cases value with
  | obj fields => simp [mapMembers]
  | null | bool _ | int _ | float _ | str _ | arr _ => rfl

theorem relatedMembers_refl (reflexive : ∀ schema, Below schema schema) (key : String)
    (value : Json) : RelatedMembers Below key value value := by
  unfold RelatedMembers
  split
  · exact reflexive value
  split
  · have related : RelatedProperties Below value (mapMembers (fun _ schema => schema) value) :=
      relatedProperties_mapMembers (fun _ schema => reflexive schema) value
    rwa [mapMembers_id] at related
  · rfl

theorem agreeTo_refl (levels : Nat) : ∀ schema, AgreeTo levels schema schema := by
  induction levels with
  | zero => exact fun _ => trivial
  | succ levels inductionHypothesis =>
      intro schema
      have same : SameLevel (AgreeTo levels) schema (mapMembers (fun _ value => value) schema) :=
        sameLevel_mapMembers (relatedMembers_refl inductionHypothesis) schema
      rwa [mapMembers_id] at same

/-- A change below some levels is not seen on them. -/
theorem agreeTo_replace (value : Json) {place : List Descent} :
    ∀ {levels : Nat}, levels ≤ place.length → ∀ schema,
      AgreeTo levels schema (replace value place schema) := by
  induction place with
  | nil =>
      intro levels below schema
      obtain rfl : levels = 0 := Nat.le_zero.1 below
      trivial
  | cons descent place inductionHypothesis =>
      intro levels below schema
      cases levels with
      | zero => trivial
      | succ levels =>
          have agree := inductionHypothesis (Nat.le_of_succ_le_succ below)
          cases descent with
          | items =>
              rw [AgreeTo, replace, Descent.change]
              refine sameLevel_mapMembers (fun key value => ?_) schema
              split
              · next isItems =>
                  rw [RelatedMembers, if_pos isItems]
                  exact agree value
              · exact relatedMembers_refl (agreeTo_refl levels) key value
          | property name =>
              rw [AgreeTo, replace, Descent.change]
              refine sameLevel_mapMembers (fun key value => ?_) schema
              split
              · next isProperties =>
                  rw [RelatedMembers, if_neg (by simp [isProperties]), if_pos isProperties]
                  refine relatedProperties_mapMembers (fun property schema => ?_) value
                  split
                  · exact agree schema
                  · exact agreeTo_refl levels schema
              · exact relatedMembers_refl (agreeTo_refl levels) key value

/-! ## Schemas without end -/

/-- The schema with other ones in the places one level below. -/
def mapSchemas (change : Json → Json) : Json → Json :=
  mapMembers fun key value =>
    if key = "items" then change value
    else if key = "properties" then mapMembers (fun _ => change) value
    else value

/-- What stands in a place of a schema. A text is the name of a schema, which may contain places
with its own name. -/
def follow (define : String → Json) : Json → Json
  | .str name => define name
  | schema => schema

/-- The first levels of a schema whose places hold names, with something else instead of what is
below. -/
def unfolding (define : String → Json) (cut : Json → Json) : (levels : Nat) → Json → Json
  | 0 => cut
  | levels + 1 => fun place => mapSchemas (unfolding define cut levels) (follow define place)

/-- The type of a schema whose places hold names, which are followed wherever a schema is read. -/
def ofNamed (define : String → Json) : (levels : Nat) → String → Json → Except Fault ArgType
  | 0, _, _ => .ok .any
  | levels + 1, name, place =>
    Shape.read (follow define place) >>= Shape.typeBy (ofNamed define levels) name

theorem sameLevel_mapSchemas (change : Json → Json) (schema : Json) :
    SameLevel (fun place schema => change place = schema) schema (mapSchemas change schema) := by
  refine sameLevel_mapMembers (fun key value => ?_) schema
  unfold RelatedMembers
  split
  · rfl
  split
  · exact relatedProperties_mapMembers (fun _ schema => (rfl : change schema = change schema)) value
  · rfl

theorem ofNamed_null (define : String → Json) (levels : Nat) (name : String) :
    ofNamed define levels name .null = .ok .any := by
  cases levels <;> rfl

/-- A schema without end has the type of each of its unfoldings that have enough levels. -/
theorem ofNamed_eq_ofSchema {define : String → Json} {cut : Json → Json} {levels : Nat} :
    ∀ {depth : Nat}, levels ≤ depth → ∀ name place,
      ofNamed define levels name place =
        ofSchema levels name (unfolding define cut depth place) := by
  -- on the levels that are read, of which the unfolding has at least as many
  induction levels with
  | zero => exact fun _ _ _ => rfl
  | succ levels inductionHypothesis =>
      intro depth enough name place
      cases depth with
      | zero => exact absurd enough (Nat.not_succ_le_zero levels)
      | succ depth =>
          have below := inductionHypothesis (Nat.le_of_succ_le_succ enough)
          rw [ofNamed, ofSchema_succ]
          refine read_bind_congr (sameLevel_mapSchemas _ _) (fun name => ?_) ?_ name
          · rw [ofNamed_null, ofSchema_of_not_isFilled levels name rfl]
          · rintro name place _ rfl
            exact below name place

/-- Where every name stands for itself, there is nothing to follow. -/
theorem ofNamed_str (levels : Nat) : ofNamed .str levels = ofSchema levels := by
  induction levels with
  | zero => rfl
  | succ levels inductionHypothesis =>
      funext name schema
      have stays : follow .str schema = schema := by cases schema <;> rfl
      rw [ofNamed, ofSchema_succ, stays, inductionHypothesis]

/-! ## Nesting -/

mutual

/-- How many object and list types are nested in the type. -/
def nesting : ArgType → Nat
  | .any | .text | .number | .flag | .record | .choice _ => 0
  | .list item => nesting item + 1
  | .model _ properties => nestingOfAll properties + 1
termination_by structural type => type

/-- How many object and list types are nested in the types of some properties. -/
def nestingOfAll : List (String × Bool × ArgType) → Nat
  | [] => 0
  | (_, _, type) :: rest => max (nesting type) (nestingOfAll rest)
termination_by structural properties => properties

end

theorem nestingOfAll_le {most : Nat} {properties : List (String × Bool × ArgType)}
    (each : ∀ property ∈ properties, property.2.2.nesting ≤ most) :
    nestingOfAll properties ≤ most := by
  induction properties with
  | nil => exact Nat.zero_le most
  | cons property rest inductionHypothesis =>
      rw [List.forall_mem_cons] at each
      exact Nat.max_le.2 ⟨each.1, inductionHypothesis each.2⟩

/-- The type of a shape nests one level more than the types of the schemas below. -/
theorem nesting_typeBy_le {inner : String → Json → Except Fault ArgType} {most : Nat}
    (below : ∀ {name schema type}, inner name schema = .ok type → type.nesting ≤ most)
    {shape : Shape} {name : String} {type : ArgType} (done : shape.typeBy inner name = .ok type) :
    type.nesting ≤ most + 1 := by
  cases shape with
  | list item =>
      obtain ⟨itemType, itemDone, rfl⟩ := map_eq_ok_iff.1 done
      exact Nat.succ_le_succ (below itemDone)
  | object required properties =>
      obtain ⟨declared, declaredDone, rfl⟩ := map_eq_ok_iff.1 done
      refine Nat.succ_le_succ (nestingOfAll_le fun property member => ?_)
      obtain ⟨origin, -, read⟩ :=
        exists_of_forall₂_right (mapM_eq_ok_iff.1 declaredDone) property member
      obtain ⟨propertyType, propertyDone, isProperty⟩ := bind_eq_ok_iff.1 read
      rw [← Except.ok.inj isProperty]
      exact below propertyDone
  | anything | choice _ | text | number | flag | record =>
      rw [← Except.ok.inj done]
      exact Nat.zero_le _

theorem nesting_ofSchema_le {levels : Nat} :
    ∀ {name : String} {schema : Json} {type : ArgType},
      ofSchema levels name schema = .ok type → type.nesting ≤ levels := by
  induction levels with
  | zero =>
      intro name schema type done
      rw [← Except.ok.inj done]
      exact Nat.zero_le _
  | succ levels inductionHypothesis =>
      intro name schema type done
      rw [ofSchema_succ] at done
      obtain ⟨shape, -, typed⟩ := bind_eq_ok_iff.1 done
      exact nesting_typeBy_le inductionHypothesis typed

/-- A schema is only read as deep as levels are left at its depth. Schemas that agree on these
levels become the same type or fail alike, and nothing that is put in a deeper place makes a
difference. The type nests no deeper than that. So a schema without end becomes a type as well,
which is that of each of its unfoldings that have enough levels, whatever stands where they end. -/
theorem ofSchema_local (depth : Int) (name : String) :
    (∀ schema other, AgreeTo (levelsAt depth) schema other →
      ofSchema (levelsAt depth) name schema = ofSchema (levelsAt depth) name other) ∧
    (∀ schema value (place : List Descent), (maxDepth : Int) < depth + place.length →
      ofSchema (levelsAt depth) name (replace value place schema) =
        ofSchema (levelsAt depth) name schema) ∧
    (depth ≤ maxDepth → ∀ schema type, ofSchema (levelsAt depth) name schema = .ok type →
      (type.nesting : Int) ≤ maxDepth + 1 - depth) ∧
    (∀ define place cut (levels : Nat), maxDepth + 1 ≤ depth + levels →
      ofNamed define (levelsAt depth) name place =
        ofSchema (levelsAt depth) name (unfolding define cut levels place)) ∧
    ∀ schema,
      ofNamed .str (levelsAt depth) name schema = ofSchema (levelsAt depth) name schema := by
  refine ⟨fun schema other agree => ofSchema_eq_of_agreeTo agree name, ?_, ?_, ?_, ?_⟩
  · intro schema value place deep
    have below : levelsAt depth ≤ place.length := by
      unfold levelsAt
      omega
    exact (ofSchema_eq_of_agreeTo (agreeTo_replace value below schema) name).symm
  · intro inRange schema type done
    have bound := nesting_ofSchema_le done
    unfold levelsAt at bound
    omega
  · intro define place cut levels enough
    have enoughLevels : levelsAt depth ≤ levels := by
      unfold levelsAt
      omega
    exact ofNamed_eq_ofSchema enoughLevels name place
  · exact fun schema => congrFun (congrFun (ofNamed_str (levelsAt depth)) name) schema

/-- The schema of a node that contains a node. -/
def selfContaining (_ : String) : Json :=
  .obj [("type", .str "object"), ("properties", .obj [("child", .str "node")])]

set_option maxRecDepth 20000 in
/-- A node that contains itself becomes six object types within each other, as do its unfoldings
with something in the seventh place that is no schema. -/
theorem ofSchema_local_of_selfContaining :
    ∃ type, ofSchema (levelsAt 0) "Node" (unfolding selfContaining id 6 (.str "node")) = .ok type ∧
      (type.nesting : Int) ≤ 6 ∧
      ofNamed selfContaining (levelsAt 0) "Node" (.str "node") = .ok type ∧
      ofSchema (levelsAt 0) "Node" (unfolding selfContaining id 9 (.str "node")) = .ok type ∧
      ofSchema (levelsAt 0) "Node" (replace (.int 7) (.replicate 6 (.property "child"))
        (unfolding selfContaining id 9 (.str "node"))) = .ok type := by
  obtain ⟨-, deeper, nests, unfolds, -⟩ := ofSchema_local 0 "Node"
  obtain ⟨type, done⟩ : ∃ type,
      ofNamed selfContaining (levelsAt 0) "Node" (.str "node") = .ok type :=
    exists_eq_ok_of_isOk (by decide +kernel)
  have six := unfolds selfContaining (.str "node") id 6 (by decide)
  have nine := unfolds selfContaining (.str "node") id 9 (by decide)
  rw [done] at six nine
  refine ⟨type, six.symm, nests (by decide) _ type six.symm, done, nine.symm, ?_⟩
  rw [deeper _ _ _ (by decide), ← nine]

end ApiTools.ArgType
