import ApiTools.ArgType.Basic
import ApiTools.Text.Blank
import ApiTools.Text.Case

/-!
# Schemas of types

The parts of the JSON schema that a tool listing shows: for the types, and for the properties of an
object with their titles and defaults.
-/

namespace ApiTools.ArgType

/-- The title of a property: its name in title case, with blanks for underscores. -/
def titleOf (name : String) : String :=
  String.ofList (Text.trim ((Text.titleCase name.toList).map fun c => if c = '_' then ' ' else c))

/-- The schema's word for the kind of a value; there is none for objects among listed values. -/
def kindWord? : Json → Option String
  | .null => some "null"
  | .bool _ => some "boolean"
  | .int _ => some "integer"
  | .float _ => some "number"
  | .str _ => some "string"
  | .arr _ => some "array"
  | .obj _ => none

/-- The kind of a list of values, if all are of one kind. -/
def sharedKind (values : List Json) : List (String × Json) :=
  match (values.map kindWord?).eraseDups with
  | [some kind] => [("type", .str kind)]
  | _ => []

/-- The schema of a choice. -/
def choiceSchema (values : List Json) : Json :=
  match values with
  | [value] => .obj (("const", value) :: sharedKind [value])
  | values => .obj (("enum", .arr values) :: sharedKind values)

/-- The schema of the numbers. -/
def numberSchema : Json :=
  .obj [("anyOf", .arr [.obj [("type", .str "integer")], .obj [("type", .str "number")]])]

/-- The schema of the objects without known properties. -/
def recordSchema : Json :=
  .obj [("additionalProperties", .bool true), ("type", .str "object")]

/-- The schema of the arrays whose items have a schema. -/
def listSchema (items : Json) : Json :=
  .obj [("items", items), ("type", .str "array")]

/-- The schema that admits null besides what another one admits. -/
def orNull (schema : Json) : Json :=
  let nothing := Json.obj [("type", .str "null")]
  match schema with
  | .obj [("anyOf", .arr alternatives)] => .obj [("anyOf", .arr (alternatives ++ [nothing]))]
  | schema => .obj [("anyOf", .arr [schema, nothing])]

/-- The type is an object type with a name of its own. -/
def isModel : ArgType → Bool
  | .model _ _ => true
  | _ => false

/-- The schema of a property: that of its type, null by default if it is not required, with a
description and, unless the type has a name of its own, a title. -/
def propertySchema (name description : String) (required : Bool) (type : ArgType) (schema : Json) :
    Json :=
  let parts :=
    match if required then schema else orNull schema with
    | .obj parts => parts
    | _ => []
  .obj (parts ++
    (if required then [] else [("default", .null)]) ++
    (if description = "" then [] else [("description", .str description)]) ++
    (if type.isModel then [] else [("title", .str (titleOf name))]))

/-- The schema of an object from the schemas of its properties. -/
def objectSchema (name : String) (properties : List (String × Bool × Json)) :
    List (String × Json) :=
  let required := (properties.filter fun property => property.2.1).map Prod.fst
  [("properties", .obj (properties.map fun property => (property.1, property.2.2)))] ++
    (if required.isEmpty then [] else [("required", Json.ofTexts required)]) ++
    [("title", .str name), ("type", .str "object")]

end ApiTools.ArgType
