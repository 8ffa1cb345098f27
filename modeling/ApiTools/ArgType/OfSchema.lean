import ApiTools.ArgType.Basic
import ApiTools.Json.Access

/-!
# Types from schemas

A fragment of a JSON schema becomes a type. References, and everything nested too deeply, become the
type of all values, so that a schema that contains itself has a finite type.
-/

namespace ApiTools.ArgType

/-- How many levels of a schema are read. -/
def maxDepth : Nat := 5

/-- The levels that are left at a depth. -/
def levelsAt (depth : Int) : Nat :=
  (maxDepth + 1 - depth).toNat

/-- A part of a name with its first letter in upper case. -/
def raise : List Char → List Char
  | [] => []
  | c :: rest => c.toUpper :: rest

/-- The name of an object type after a property: the runs of ASCII letters and digits in it, each
raised. -/
def nameOf (word : String) : String :=
  match (word.toList.splitOnP fun c => !c.isAlphanum).flatMap raise with
  | [] => "Object"
  | name => String.ofList name

/-- The type that lists the elements of a value. -/
def ofChoices (values : Json) : Except Fault ArgType := do
  return .choice (← values.elements)

/-- The type of a schema fragment, of which `levels` levels are read. Object types get names that
start with `name`. -/
def ofSchema : (levels : Nat) → (name : String) → Json → Except Fault ArgType
  | 0, _, _ => .ok .any
  | levels + 1, name, schema => do
    if !schema.isFilled then return .any
    if ← schema.mentions "$ref" then return .any
    let kind ← schema.member "type"
    if kind = .str "array" then
      let items ← schema.member "items"
      if items.isFilled then
        return .list (← ofSchema levels (name ++ "Item") items)
      else
        return .list .any
    let properties ← schema.member "properties"
    if kind = .str "object" ∧ properties.isFilled then
      let required ← ((← schema.member "required").orElse (.arr [])).textSet
      let members ← properties.members
      return .model name (← members.mapM fun (key, property) => do
        let type ← ofSchema levels (name ++ nameOf key) property
        return (key, required.contains key, type))
    let choices ← schema.member "enum"
    if choices.isFilled then return (← ofChoices choices)
    if kind = .str "string" then return .text
    if kind = .str "number" ∨ kind = .str "integer" then return .number
    if kind = .str "boolean" then return .flag
    if kind = .str "object" then return .record
    return .any

end ApiTools.ArgType
