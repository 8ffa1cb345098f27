import ApiTools.ArgType.Basic
import ApiTools.ArgType.Choice
import ApiTools.Fault

/-!
# Loading types

The type that an expression of the compiled module denotes once the module is loaded. Choices are
listed in their settled form, and names that cannot be declared are refused or passed over. Types
are loaded from the inside out and from left to right, so the first fault in that order counts.
-/

namespace ApiTools.ArgType

/-- The names of the operations that every argument model has. -/
def reservedNames : List String :=
  ["model_validate", "model_validate_json", "model_validate_strings", "model_dump",
    "model_dump_json"]

/-- Refuses names of operations. -/
def refuseReserved (names : List String) : Except Fault Unit :=
  match names.find? reservedNames.contains with
  | some name => .error (.reservedName name)
  | none => .ok ()

/-- The name is private or that of the settings of an object type. Such a property is not declared,
so it is passed through like every undeclared one. -/
def isHidden (name : String) : Bool :=
  name = "model_config" || name.toList.head? = some '_'

/-- The choice of some values. Where null may stand for them, they are looked up as a whole, so they
have to be atomic. -/
def loadChoice (optional : Bool) (values : List Json) : Except Fault ArgType :=
  if !values.all Json.isFinite then .error .infiniteLiteral
  else if optional && !values.all Json.isAtomic then .error .wrongKind
  else .ok (.choice (listed optional values))

mutual

/-- The loaded type. `optional` says that null may stand for a value of it. -/
def load (optional : Bool) : ArgType → Except Fault ArgType
  | .any => .ok .any
  | .text => .ok .text
  | .number => .ok .number
  | .flag => .ok .flag
  | .record => .ok .record
  | .choice values => loadChoice optional values
  | .list item => (load optional item).map .list
  | .model name properties => do
    let loaded ← loadProperties properties
    refuseReserved (properties.map Prod.fst)
    return .model name (loaded.filter fun property => !isHidden property.1)
termination_by structural type => type

/-- The properties with their types loaded. -/
def loadProperties :
    List (String × Bool × ArgType) → Except Fault (List (String × Bool × ArgType))
  | [] => .ok []
  | (name, required, type) :: rest => do
    let loaded ← load (!required) type
    return (name, required, loaded) :: (← loadProperties rest)
termination_by structural properties => properties

end

end ApiTools.ArgType
