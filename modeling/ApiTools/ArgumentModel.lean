import ApiTools.ArgType.Check
import ApiTools.ArgType.Definition
import ApiTools.ArgType.Loading
import ApiTools.Catalog

/-!
# Argument models

The arguments that a tool takes, as its calls are checked against them and as a listing describes
them. Arguments that no field declares are dropped.
-/

namespace ApiTools

/-- A declared argument. -/
structure ArgumentField where
  type : ArgType
  required : Bool
  description : String

/-- The declared arguments of a tool, by their names. -/
structure ArgumentModel where
  name : String
  fields : List (String × ArgumentField)

namespace ArgumentModel

/-- A model without arguments. -/
def empty (name : String) : ArgumentModel :=
  ⟨name, []⟩

/-- The declared type of a field, once the literals in the declaration have been read. -/
def loadType (field : Field) : Except Fault ArgType :=
  if field.name.isFinite then field.type.load (!field.required) else .error .infiniteLiteral

/-- Refuses names that cannot be declared: that of the settings of a model, names that start with an
underscore, and the names of its operations. -/
def refuseNames (names : List String) : Except Fault Unit :=
  if names.contains "model_config" then .error .wrongKind
  else
    match names.find? ArgType.isHidden with
    | some name => .error (.underscoredName name)
    | none => ArgType.refuseReserved names

/-- The model with the given fields, whose names have to be texts. A name that is declared again
changes its declaration and not its place. -/
def ofFields (name : String) (fields : List Field) : Except Fault ArgumentModel := do
  let types ← fields.mapM loadType
  let names ← fields.mapM fun field => field.name.asText
  refuseNames names
  let declared := List.zipWith (fun field type =>
    (⟨type, field.required, field.description⟩ : ArgumentField)) fields types
  return ⟨name, Keyed.ofPairs (names.zip declared)⟩

/-! ## Checking -/

/-- The fields as properties of an object. -/
def properties (model : ArgumentModel) : List (String × Bool × ArgType) :=
  model.fields.map fun (name, field) => (name, field.required, field.type)

/-- Checks the arguments of a call, which have to be an object. -/
def check (model : ArgumentModel) (arguments : Json) : Checked (List (String × Json)) :=
  match arguments with
  | .obj given => ArgType.checkProperties model.properties given
  | _ => .complain (.notModel model.name)

/-! ## Listing -/

/-- The names of the arguments, in the order of their declaration. -/
def propertyOrder (model : ArgumentModel) : List String :=
  Keyed.keys model.fields

/-- The schemas of the fields, and the definitions so far with those of their object types. -/
def describe (definitions : List Definition) :
    List (String × ArgumentField) → List (String × Bool × (Naming → Json)) × List Definition
  | [] => ([], definitions)
  | (name, field) :: rest =>
    let (schema, definitions) := field.type.describe definitions
    let (others, definitions) := describe definitions rest
    ((name, field.required, fun naming =>
      ArgType.propertySchema name field.description field.required field.type (schema naming)) ::
      others, definitions)

/-- The schema of the arguments. -/
def schema (model : ArgumentModel) : Json :=
  let (properties, definitions) := describe [] model.fields
  let naming := Naming.ofDefinitions definitions
  let properties := properties.map fun property =>
    (property.1, property.2.1, property.2.2 naming)
  .obj (ArgType.objectSchema model.name properties ++
    if definitions.isEmpty then [] else [("$defs", .obj (naming.definitionsByName definitions))])

end ArgumentModel

end ApiTools
