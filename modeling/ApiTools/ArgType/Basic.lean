import ApiTools.Json.Literal

/-!
# Types of arguments

The type language of a tool's arguments, and its source form in the compiled module. Objects with
known properties accept further ones.
-/

namespace ApiTools

/-- The type of an argument. -/
inductive ArgType where
  /-- Every value. -/
  | any
  /-- Texts. -/
  | text
  /-- Integers and floating-point numbers. -/
  | number
  /-- Truth values. -/
  | flag
  /-- Objects without known properties. -/
  | record
  /-- The listed values. -/
  | choice (values : List Json)
  /-- Arrays. -/
  | list (item : ArgType)
  /-- Objects with known properties: for each its name, whether it is required, and its type. -/
  | model (name : String) (properties : List (String × Bool × ArgType))
  deriving Inhabited

namespace ArgType

mutual

/-- The type as an expression of the compiled module. -/
def source : ArgType → List Char
  | .any => "Any".toList
  | .text => "str".toList
  | .number => "Union[int, float]".toList
  | .flag => "bool".toList
  | .record => "dict[str, Any]".toList
  | .choice values =>
    "Literal[".toList ++ ", ".toList.intercalate (values.map Json.literal) ++ [']']
  | .list item => "list[".toList ++ source item ++ [']']
  | .model name properties =>
    "create_model(".toList ++ Json.textLiteral name ++ ", __config__=PASSTHROUGH, **\x7b".toList ++
      sourceProperties properties ++ "\x7d)".toList
termination_by structural type => type

/-- The properties of an object type as members of a mapping: a required one has no default. -/
def sourceProperties : List (String × Bool × ArgType) → List Char
  | [] => []
  | (name, required, type) :: rest =>
    Json.textLiteral name ++ ": (".toList ++
      (if required then source type ++ ", ...)".toList
        else "Optional[".toList ++ source type ++ "], None)".toList) ++
      (if rest.isEmpty then [] else ", ".toList ++ sourceProperties rest)
termination_by structural properties => properties

end

end ArgType

end ApiTools
