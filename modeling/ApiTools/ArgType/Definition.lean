import ApiTools.ArgType.Schema
import ApiTools.Json.Equality

/-!
# Definitions of object types

A schema refers to the object types in it by names, under which it defines them. Every object type
has a definition of its own, those within it before it. Definitions of one name share it if all of
them say the same; otherwise each gets a long name with its number among them.
-/

namespace ApiTools

/-- The names of definitions, in their order. -/
abbrev Naming := List String

namespace Naming

/-- A reference to the definition at a place. -/
def reference (naming : Naming) (place : Nat) : Json :=
  .obj [("$ref", .str ("#/$defs/" ++ naming.getD place ""))]

end Naming

/-- The definition of an object type. Its schema depends on how the definitions before it are
named. -/
structure Definition where
  name : String
  schema : Naming → Json

namespace ArgType

/-- The schema of an object type from the schemas of its properties. -/
def modelSchema (name : String) (properties : List (String × Bool × (Naming → Json)))
    (naming : Naming) : Json :=
  let properties := properties.map fun property =>
    (property.1, property.2.1, property.2.2 naming)
  .obj (("additionalProperties", .bool true) :: objectSchema name properties)

mutual

/-- The schema of a type, and the definitions so far with those of its object types. -/
def describe (definitions : List Definition) : ArgType → (Naming → Json) × List Definition
  | .any => (fun _ => .obj [], definitions)
  | .text => (fun _ => .obj [("type", .str "string")], definitions)
  | .number => (fun _ => numberSchema, definitions)
  | .flag => (fun _ => .obj [("type", .str "boolean")], definitions)
  | .record => (fun _ => recordSchema, definitions)
  | .choice values => (fun _ => choiceSchema values, definitions)
  | .list item =>
    let (schema, definitions) := describe definitions item
    (fun naming => listSchema (schema naming), definitions)
  | .model name properties =>
    let (properties, definitions) := describeProperties definitions properties
    (fun naming => naming.reference definitions.length,
      definitions ++ [⟨name, modelSchema name properties⟩])
termination_by structural type => type

/-- The schemas of properties, and the definitions so far with those of their object types. -/
def describeProperties (definitions : List Definition) :
    List (String × Bool × ArgType) → List (String × Bool × (Naming → Json)) × List Definition
  | [] => ([], definitions)
  | (name, required, type) :: rest =>
    let (schema, definitions) := describe definitions type
    let (others, definitions) := describeProperties definitions rest
    ((name, required, fun naming => propertySchema name "" required type (schema naming)) ::
      others, definitions)
termination_by structural properties => properties

end

end ArgType

namespace Naming

/-- The long names of definitions: where they stand, their name and their number among those of that
name. -/
def long (definitions : List Definition) : Naming :=
  let names := definitions.map Definition.name
  names.mapIdx fun place name =>
    let number := (names.take (place + 1)).count name
    s!"simkl_mcp__generated__tools__{name}__{number}"

/-- The names of definitions whose schemas are compared under a naming: short where all definitions
of a name have the same schema, and long elsewhere. -/
def shortened (definitions : List Definition) (naming : Naming) : Naming :=
  let schemas := definitions.map fun definition => (definition.name, definition.schema naming)
  List.zipWith (fun definition long =>
    let schema := definition.schema naming
    if schemas.all fun other => other.1 ≠ definition.name || other.2.same schema then
      definition.name
    else long) definitions (Naming.long definitions)

/-- The names that definitions are shown under. Once references are shortened, more definitions may
turn out to be the same. -/
def ofDefinitions (definitions : List Definition) : Naming :=
  shortened definitions (shortened definitions (long definitions))

/-- The named definitions, where those of one name become one. -/
def definitionsByName (naming : Naming) (definitions : List Definition) : List (String × Json) :=
  Keyed.ofPairs (List.zipWith (fun name definition => (name, definition.schema naming)) naming
    definitions)

end Naming

end ApiTools
