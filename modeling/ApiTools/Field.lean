import ApiTools.ArgType.OfSchema
import ApiTools.Description
import ApiTools.Noun
import ApiTools.Path

/-!
# Argument fields

The arguments of a tool, from the path of its operation and the parameters that the API description
lists. Placeholders of the path come first and are always required; a request body whose properties
are arrays of objects is flattened into one optional field for a single item of each.
-/

namespace ApiTools

/-- One argument of a tool. In a well-formed description the name and the origin are texts. -/
structure Field where
  name : Json
  type : ArgType
  required : Bool
  description : String
  origin : Json

/-- What the compiler tells its user. -/
inductive Warning where
  /-- A listed operation is not in the API description. -/
  | operationNotFound (method path : String)
  /-- Flattening a body leaves out the properties that are no arrays of objects. -/
  | propertiesDropped (dropped kept : List String)
  deriving DecidableEq

/-- The text of a warning. -/
def Warning.text : Warning → String
  | .operationNotFound method path => s!"{method} {path} not found in API description, skipping"
  | .propertiesDropped dropped kept =>
    let dropped := ", ".intercalate dropped
    let kept := ", ".intercalate kept
    s!"Body flattening drops non-array fields {dropped} (flattened: {kept})"

/-- The fields of a tool, the body properties behind its flattened fields, and the warnings. -/
structure FieldSet where
  fields : List Field
  flatten : List (String × String)
  warnings : List Warning

namespace Field

/-- The parameter that the client adds to every request by itself. -/
def clientParameter : String := "client_id"

/-- The type expression of a field in the argument model. -/
def annotation (field : Field) : List Char :=
  if field.required then field.type.source
  else "Optional[".toList ++ field.type.source ++ [']']

/-- The default of a field in the argument model; required ones have none. -/
def default (field : Field) : String :=
  if field.required then "..." else "None"

/-! ## Types of parameters -/

/-- The type of a placeholder: listed values, a number, or a text. -/
def placeholderType (schema : Json) : Except Fault ArgType := do
  let choices ← schema.member "enum"
  if choices.isFilled then ArgType.ofChoices choices
  else if (← schema.member "type") = .str "number" then return .number
  else return .text

/-- The type of a parameter that is not part of the body. -/
def parameterType (schema name : Json) : Except Fault ArgType := do
  let choices ← schema.member "enum"
  if choices.isFilled then return (← ArgType.ofChoices choices)
  let kind ← schema.member "type"
  if kind = .str "integer" ∨ kind = .str "number" then return .number
  if kind = .str "boolean" then return .flag
  if kind = .str "string" then return .text
  if kind = .str "array" then
    let items ← schema.member "items"
    if items.isFilled then
      let name := ArgType.nameOf (← name.asText) ++ "Item"
      return .list (← ArgType.ofSchema (ArgType.levelsAt 0) name items)
    return .list .any
  return .any

/-- The schema describes an object with known properties. -/
def isObjectWithProperties (schema : Json) : Except Fault Bool := do
  let kind ← schema.member "type"
  let properties ← schema.member "properties"
  return kind = .str "object" ∧ properties.isFilled

/-! ## Placeholders -/

/-- The description of a placeholder among the parameters: the first one with its name and place. -/
def descriptorOf (placeholder location : String) : List Json → Except Fault (Option Json)
  | [] => .ok none
  | parameter :: rest => do
    if (← parameter.member "name") = .str placeholder then
      if (← parameter.member "in") = .str location then return some parameter
    descriptorOf placeholder location rest

/-- The field of a placeholder. -/
def ofPlaceholder (markers : List String) (parameters : List Json) (placeholder : String) :
    Except Fault Field := do
  let location := if markers.contains placeholder then "query" else "path"
  match ← descriptorOf placeholder location parameters with
  | none => return ⟨.str placeholder, .text, true, "", .str location⟩
  | some parameter =>
    let type ← placeholderType (← parameter.part "schema")
    let description ← Description.ofParameter (← parameter.member "description")
    return ⟨.str placeholder, type, true, description, .str location⟩

/-! ## Flattening -/

/-- The schema describes an array of objects. -/
def isObjectArray (schema : Json) : Except Fault Bool := do
  if (← schema.member "type") = .str "array" then
    let items ← schema.part "items"
    return (← items.member "type") = .str "object"
  return false

/-- The body properties that are arrays of objects, each with the type of its items, and the names
of the others. -/
def splitProperties : List (String × Json) → Except Fault (List (String × ArgType) × List String)
  | [] => .ok ([], [])
  | (name, schema) :: rest => do
    if ← isObjectArray schema then
      let item ← ArgType.ofSchema (ArgType.levelsAt 1)
        (ArgType.nameOf (Noun.singular name)) (← schema.memberThere "items")
      let (arrays, others) ← splitProperties rest
      return ((name, item) :: arrays, others)
    else
      let (arrays, others) ← splitProperties rest
      return (arrays, name :: others)

/-- The fields of a flattened body. -/
def flattened (arrays : List (String × ArgType)) : List Field :=
  arrays.map fun (name, item) =>
    ⟨.str (Noun.singular name), item, false, "", .str "flattened"⟩

/-- The property behind each flattened field; of two with one singular the later one counts. -/
def flattenMap (arrays : List (String × ArgType)) (before : List (String × String)) :
    List (String × String) :=
  arrays.foldl (fun done array => Keyed.put (Noun.singular array.1) array.1 done) before

/-! ## Parameters -/

/-- The field of a parameter that is not flattened. -/
def ofParameter (parameter schema location name : Json) : Except Fault Field := do
  let inBody := location = .str "body"
  let name := if inBody then .str "body" else name
  let required := (← parameter.member "required") ≠ .bool false ∧ location ≠ .str "query"
  let type ←
    if ← (if inBody then pure true else isObjectWithProperties schema) then
      ArgType.ofSchema (ArgType.levelsAt 0) (ArgType.nameOf (← name.asText)) schema
    else parameterType schema name
  let description ← Description.ofParameter (← parameter.member "description")
  return ⟨name, type, required, description, location⟩

/-- Adds the fields of a parameter: none if it is sent otherwise or left out, several if it is a
body that can be flattened. -/
def addParameter (markers omitted : List String) (done : FieldSet) (parameter : Json) :
    Except Fault FieldSet := do
  let location ← parameter.memberOr "in" (.str "query")
  let name ← parameter.memberOr "name" (.str "")
  if location = .str "header" ∨ location = .str "path" ∨ name = .str clientParameter then
    return done
  if ← name.isAmong omitted then return done
  if ← (if location = .str "query" then name.isAmong markers else pure false) then return done
  let schema ← parameter.part "schema"
  if location = .str "body" then
    if ← isObjectWithProperties schema then
      let (arrays, others) ← splitProperties (← (← schema.memberThere "properties").members)
      if !arrays.isEmpty then
        return {
          fields := done.fields ++ flattened arrays
          flatten := flattenMap arrays done.flatten
          warnings := done.warnings ++
            if others.isEmpty then [] else [.propertiesDropped others (arrays.map Prod.fst)] }
  let field ← ofParameter parameter schema location name
  return { done with fields := done.fields ++ [field] }

end Field

/-- The arguments of a tool: the placeholders of its path, then the other parameters in the order of
the API description. -/
def FieldSet.ofParameters (path : String) (parameters : List Json) (omitted : List String) :
    Except Fault FieldSet := do
  let path := path.toList
  let markers := Path.markers path
  let placeholders := (Path.placeholders path).filter fun name => !omitted.contains name
  let first ← placeholders.mapM (Field.ofPlaceholder markers parameters)
  parameters.foldlM (Field.addParameter markers omitted) ⟨first, [], []⟩

end ApiTools
