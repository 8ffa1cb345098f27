import ApiTools.ArgType.Number
import ApiTools.Json.Access
import ApiTools.Json.Equality

/-!
# Choices

The values that a choice lists, and which of them a value chooses. Values need not be written alike
to choose each other: the listed value is the one that is used.
-/

namespace ApiTools.ArgType

/-! ## Listing -/

/-- A choice as it is listed: zero has no sign. -/
def unsigned : Json → Json
  | .float value => .float (if value.isZero then .zero false else value)
  | value => value

/-- The value is an integer. -/
def isInteger : Json → Bool
  | .int _ => true
  | _ => false

/-- Adds a choice at the end, or an integer before the first choice that it is equal to. -/
def insertChoice (value : Json) : List Json → List Json
  | [] => [value]
  | first :: rest =>
    if isInteger value && value.same first then value :: first :: rest
    else first :: insertChoice value rest

/-- The listed values. Values without parts are listed once each; where null may stand for them,
integers come before the other numbers that they are equal to. -/
def listed (optional : Bool) (values : List Json) : List Json :=
  let values := values.map unsigned
  if values.all Json.isAtomic then
    let distinct := values.eraseDups
    if optional then distinct.foldl (fun done value => insertChoice value done) [] else distinct
  else values

/-! ## Choosing -/

/-- The value is chosen by what is written like it. -/
def isExact : Json → Bool
  | .bool _ | .str _ => true
  | .int value => isWord value
  | _ => false

/-- The value is chosen by every value without parts that is equal to it. -/
def isLoose : Json → Bool
  | .bool _ | .float _ | .null => true
  | .int value => !isWord value
  | _ => false

/-- The listed value that a value chooses: itself, else the last one that any equal value chooses,
else the first one that is equal to it. -/
def chosen? (choices : List Json) (value : Json) : Option Json :=
  if isExact value ∧ value ∈ choices then some value
  else
    let loose := choices.reverse.find? fun choice =>
      value.isAtomic && isLoose choice && value.same choice
    loose <|> choices.find? fun choice => value.same choice

end ApiTools.ArgType
