import ApiTools.ArgumentModel
import ApiTools.Catalog.Source

/-!
# Loading the compiled module

What the server finds when it loads the module of a catalog. The module refers to argument models
and formatters by name, so of several definitions of one name the last one is found.
-/

namespace ApiTools

/-- A tool as the compiled module defines it. -/
structure ToolDefinition where
  name : String
  description : String
  arguments : ArgumentModel
  hints : List Hint
  handler : Handler

namespace Catalog

/-- A line outside of all comments is nothing that a module can start with; blank lines and comments
are passed over. -/
def checkLine (line : List Char) : Except Fault Unit :=
  match line.dropWhile fun c => c = ' ' || c = '\t' || c = '\x0c' with
  | [] | '#' :: _ => .ok ()
  | _ =>
    if line.head? = some ' ' ∨ line.head? = some '\t' then .error .strayIndent
    else .error .strayLine

/-- The version of the description stands in a comment of the module, which ends with the first line
of it. A bracket follows the last one. -/
def checkVersion (version : Json) : Except Fault Unit :=
  let text := version.shown ++ [')']
  if text.contains '\x00' then .error .strayLine
  else ((text.splitOnP fun c => c = '\n' || c = '\r').drop 1).forM checkLine

/-- The argument models that the module defines, by their names. -/
def models (catalog : Catalog) : Except Fault (List (String × ArgumentModel)) := do
  let models ← catalog.tools.mapM fun tool => ArgumentModel.ofFields tool.modelName tool.fields
  return Keyed.ofPairs (models.map fun model => (model.name, model))

/-- The definition of a tool, with what the module holds under the names that it refers to. -/
def definition (catalog : Catalog) (models : List (String × ArgumentModel)) (tool : Tool) :
    ToolDefinition :=
  { name := tool.name
    description := tool.description
    arguments := (Keyed.get? tool.modelName models).getD (.empty tool.modelName)
    hints := tool.hints
    handler := {
      tool.handler with
      formatter :=
        tool.handler.formatter.bind fun _ => Keyed.get? tool.name catalog.formatters } }

/-- The tools that the module defines; a catalog that cannot be written has no module. -/
def toolDefinitions (catalog : Catalog) : Except Fault (List ToolDefinition) := do
  let _ ← catalog.sourceLines
  checkVersion catalog.version
  let models ← catalog.models
  return catalog.tools.map (catalog.definition models)

end Catalog

end ApiTools
