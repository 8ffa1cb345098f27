import ApiTools.Proofs.ArgType.OfSchema

/-!
# What a schema says

One level of a schema has one of a few shapes; where several apply their order decides. From the
shapes follow which values conform to a schema and which type it becomes.
-/

namespace ApiTools.ArgType

open Binding

/-- What one level of a schema says. -/
inductive Shape where
  | anything
  /-- Arrays, whose items conform to a schema. -/
  | list (item : Json)
  /-- Objects with properties, of which some are required. -/
  | object (required : List String) (properties : List (String × Json))
  | choice (values : List Json)
  | text
  | number
  | flag
  | record

namespace Shape

/-- The shape of a schema that says what kind of value it is about, and no more. -/
def ofKind (kind : Json) : Shape :=
  if kind = .str "string" then .text
  else if kind = .str "number" ∨ kind = .str "integer" then .number
  else if kind = .str "boolean" then .flag
  else if kind = .str "object" then .record
  else .anything

/-- The shape of a schema, of which the fields are read in this order. What is no schema has no
shape. -/
def ofSchema? : Json → Option Shape
  | .obj fields =>
    let field (key : String) : Json := (Keyed.get? key fields).getD .null
    if fields.isEmpty ∨ (Keyed.get? "$ref" fields).isSome then some .anything
    else if field "type" = .str "array" then some (.list (field "items"))
    else if field "type" = .str "object" ∧ (field "properties").isFilled then
      match field "properties", ((field "required").orElse (.arr [])).textSet with
      | .obj properties, .ok required => some (.object required properties)
      | _, _ => none
    else if (field "enum").isFilled then
      match field "enum" with
      | .arr values => some (.choice values)
      | _ => none
    else some (ofKind (field "type"))
  | schema => if schema.isFilled then none else some .anything

/-- The type for a shape, where `levels` levels are left below it. -/
def type (levels : Nat) (name : String) : Shape → Except Fault ArgType
  | .anything => .ok .any
  | .list item => (ofSchema levels (name ++ "Item") item).map .list
  | .object required properties =>
    (properties.mapM fun (key, property) => do
      let type ← ofSchema levels (name ++ nameOf key) property
      return (key, required.contains key, type)).map (.model name)
  | .choice values => .ok (.choice values)
  | .text => .ok .text
  | .number => .ok .number
  | .flag => .ok .flag
  | .record => .ok .record

end Shape

theorem ofSchema_of_not_isFilled (levels : Nat) (name : String) {schema : Json}
    (notFilled : schema.isFilled = false) : ofSchema levels name schema = .ok .any := by
  cases levels with
  | zero => rfl
  | succ levels => rw [ofSchema, if_pos (by simp [notFilled]), pure_eq_ok]

/-- Items that say nothing become the type of all values. -/
theorem type_list (levels : Nat) (name : String) (item : Json) :
    (Shape.list item).type levels name =
      if item.isFilled then (ofSchema levels (name ++ "Item") item >>= fun type => .ok (.list type))
      else .ok (.list .any) := by
  rw [Shape.type]
  cases filled : item.isFilled with
  | true => exact bind_ok_eq_map.symm
  | false =>
      rw [ofSchema_of_not_isFilled levels (name ++ "Item") filled]
      rfl

theorem type_ofKind (levels : Nat) (name : String) (kind : Json) :
    (Shape.ofKind kind).type levels name =
      if kind = .str "string" then .ok .text
      else if kind = .str "number" ∨ kind = .str "integer" then .ok .number
      else if kind = .str "boolean" then .ok .flag
      else if kind = .str "object" then .ok .record
      else .ok .any := by
  rw [Shape.ofKind]
  repeat' split
  all_goals rfl

/-- A schema becomes the type for its shape. -/
theorem ofSchema_of_shape {levels : Nat} {name : String} {schema : Json} {shape : Shape}
    (read : Shape.ofSchema? schema = some shape) :
    ofSchema (levels + 1) name schema = shape.type levels name := by
  cases schema with
  | obj fields =>
      have mentions : (Json.obj fields).mentions "$ref" =
          .ok (Keyed.get? "$ref" fields).isSome := rfl
      have field (key : String) : (Json.obj fields).member key =
          .ok ((Keyed.get? key fields).getD .null) := rfl
      have isFilled : (Json.obj fields).isFilled = !fields.isEmpty := rfl
      simp only [ofSchema, mentions, field, isFilled, ok_bind, pure_eq_ok]
      unfold Shape.ofSchema? at read
      dsimp only at read
      split at read
      · next isTrivial =>
          rw [← Option.some.inj read, Shape.type]
          rcases isTrivial with isEmpty | isReference
          · rw [if_pos (by simp [isEmpty])]
          · rw [if_pos isReference, ite_self]
      next notTrivial =>
      rw [not_or] at notTrivial
      rw [if_neg (by simpa using notTrivial.1), if_neg notTrivial.2]
      split at read
      · next isArray =>
          rw [← Option.some.inj read, if_pos isArray, type_list]
      next notArray =>
      rw [if_neg notArray]
      split at read
      · next isObject =>
          rw [if_pos isObject]
          split at read
          · next properties required isProperties areRequired =>
              have members : (Json.obj properties).members = .ok properties := rfl
              rw [← Option.some.inj read, Shape.type, isProperties, areRequired, ok_bind, members,
                ok_bind]
              exact bind_ok_eq_map
          · cases read
      next notObject =>
      rw [if_neg notObject]
      split at read
      · next hasChoices =>
          rw [if_pos hasChoices]
          split at read
          · next values areValues =>
              rw [← Option.some.inj read, Shape.type, areValues]
              rfl
          · cases read
      next noChoices =>
      rw [← Option.some.inj read, if_neg noChoices, type_ofKind]
  | null | bool _ | int _ | float _ | str _ | arr _ =>
      unfold Shape.ofSchema? at read
      dsimp only at read
      split at read
      · cases read
      · next notFilled =>
          rw [Bool.not_eq_true] at notFilled
          rw [ofSchema_of_not_isFilled (levels + 1) name notFilled, ← Option.some.inj read]
          rfl

/-! ## Conforming values -/

/-- A value that a fragment may list as a choice. -/
def isLiteral : Json → Bool
  | .null | .bool _ | .int _ | .str _ => true
  | .float _ | .arr _ | .obj _ => false

/-- At each of its levels the schema has a shape. Its choices list literals, and its properties have
distinct names that can be declared. -/
def isFragment : (levels : Nat) → Json → Bool
  | 0, _ => true
  | levels + 1, schema =>
    match Shape.ofSchema? schema with
    | some (.list item) => isFragment levels item
    | some (.object _ properties) =>
      decide (Keyed.keys properties).Nodup && properties.all fun (name, property) =>
        !reservedNames.contains name && isFragment levels property
    | some (.choice values) => values.all isLiteral
    | some _ => true
    | none => false

namespace Shape

/-- The value has the shape, where `inner` says whether a value conforms to a schema within it. A
property is there if it is required, and may be null if it is not. -/
def admits (inner : Json → Json → Bool) : Shape → Json → Bool
  | .anything, _ => true
  | .list item, .arr values => values.all (inner item)
  | .object required properties, .obj fields =>
    properties.all fun (name, property) =>
      match Keyed.get? name fields with
      | some value => !required.contains name && value.isNull || inner property value
      | none => !required.contains name
  | .choice values, value => values.contains value
  | .text, .str _ | .number, .int _ | .number, .float _ | .flag, .bool _ | .record, .obj _ => true
  | _, _ => false

variable {inner : Json → Json → Bool} {value : Json}

theorem admits_list_iff {item : Json} :
    (list item).admits inner value = true ↔
      ∃ values, value = .arr values ∧ ∀ part ∈ values, inner item part = true := by
  cases value <;> simp [admits]

theorem admits_choice_iff {values : List Json} :
    (choice values).admits inner value = true ↔ value ∈ values := by
  cases value <;> simp [admits]

/-- What stands at a property of an admitted object. -/
theorem admits_object_iff {required : List String} {properties : List (String × Json)} :
    (object required properties).admits inner value = true ↔
      ∃ fields, value = .obj fields ∧ ∀ property ∈ properties,
        (Keyed.get? property.1 fields = none ∧ required.contains property.1 = false) ∨
          ∃ part, Keyed.get? property.1 fields = some part ∧
            ((required.contains property.1 = false ∧ part.isNull = true) ∨
              inner property.2 part = true) := by
  cases value with
  | obj fields =>
      simp only [admits, List.all_eq_true, Json.obj.injEq, exists_eq_left']
      refine forall₂_congr fun property _ => ?_
      cases Keyed.get? property.1 fields with
      | none => simp
      | some part => simp
  | null | bool _ | int _ | float _ | str _ | arr _ => simp [admits]

end Shape

/-- The value conforms to a schema, of which `levels` levels are read. -/
def conforms : (levels : Nat) → (schema value : Json) → Bool
  | 0, _, _ => true
  | levels + 1, schema, value =>
    match Shape.ofSchema? schema with
    | some shape => shape.admits (conforms levels) value
    | none => false

theorem conforms_of_shape {levels : Nat} {schema : Json} {shape : Shape}
    (read : Shape.ofSchema? schema = some shape) (value : Json) :
    conforms (levels + 1) schema value = shape.admits (conforms levels) value := by
  rw [conforms, read]

end ApiTools.ArgType
