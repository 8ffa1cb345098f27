import ApiTools.Http.Url.Flaw

/-!
# Faults

Everything that can stop the compiler or a call, by its cause, with the text that is shown for it.
Causes without a text of their own are those of malformed data.
-/

namespace ApiTools

/-- A request that the service did not answer with data. The status is zero and there is no body
when no answer arrived or the answer's shape, not its status, was wrong for the request. -/
structure ApiFailure where
  message : String
  status : Int
  body : Option String
  deriving DecidableEq, Repr

/-- Why compiling, starting or calling stopped. -/
inductive Fault where
  /-- No tool name is known for a path. -/
  | unnamedPath (path : String)
  /-- A placeholder of a path had no value. -/
  | missingPathValue (placeholder : String)
  /-- The service failed. -/
  | api (failure : ApiFailure)
  /-- No template covers a resource address. -/
  | unknownResource (uri : String)
  /-- The server was started before the tools were compiled. -/
  | toolsNotCompiled
  /-- A response format is neither of the two known ones. -/
  | unknownFormat (name : String)
  /-- A formatted response needs a formatter to say how. -/
  | templateMissing
  /-- A tool with formatted responses has no formatter. -/
  | formatterMissing (tool : String)
  /-- A formatter cannot be named in the compiled module. -/
  | formatterUnnamed
  /-- Two tools have one name. -/
  | duplicateTool (name : String)
  /-- A text is no number, or has too many digits for one. -/
  | badNumber
  /-- A line of the version of the description stands in the module outside of its comment. -/
  | strayLine
  /-- A line of the version stands there with blanks before it. -/
  | strayIndent
  /-- The module names a number that is not finite, for which there is no word. -/
  | infiniteLiteral
  /-- An argument's name starts with an underscore. -/
  | underscoredName (name : String)
  /-- An argument's name is that of an operation of every argument model. -/
  | reservedName (name : String)
  /-- A member was sought in a value that has none. -/
  | noMembers
  /-- A value is of a kind that the operation cannot use. -/
  | wrongKind
  /-- A member or tool that must be there is absent. -/
  | absentKey
  /-- The description's file does not exist. -/
  | fileNotFound
  /-- A text is no JSON document. -/
  | malformedJson
  /-- An access token holds characters that a header cannot carry. -/
  | tokenNotAscii
  /-- A request has no address. -/
  | badAddress (flaw : Http.Url.Flaw)
  /-- A response came from an address that does not say where it is. -/
  | relativeAddress
  deriving DecidableEq, Repr

namespace Fault

/-- The text shown for a fault, where it has one. -/
def message? : Fault → Option String
  | .unnamedPath path => some s!"No name mapping found for path: {path}"
  | .missingPathValue placeholder => some s!"missing required path parameter: {placeholder}"
  | .api failure => some failure.message
  | .unknownResource uri => some s!"Unknown resource: {uri}"
  | .toolsNotCompiled =>
    some "simkl_mcp/generated/tools.py is missing; run `python -m generator` first"
  | .unknownFormat name => some s!"Unknown response format: {name}"
  | .templateMissing => some "simple response format needs a template"
  | .formatterMissing tool => some s!"{tool}: simple response format needs a formatter"
  | .duplicateTool name => some s!"Duplicate tool name: {name}"
  | .formatterUnnamed | .badNumber | .strayLine | .strayIndent | .infiniteLiteral
  | .underscoredName _ | .reservedName _ | .noMembers | .wrongKind | .absentKey | .fileNotFound
  | .malformedJson | .tokenNotAscii | .badAddress _ | .relativeAddress => none

end Fault

end ApiTools
