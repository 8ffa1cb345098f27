import ApiTools.Catalog

/-!
# The compiled module

A catalog as the source of the module that the server loads: a table of formatters, an argument
model for every tool, the table of tools, and a function that registers them. Texts of the API
description stand in it as literals.
-/

namespace ApiTools.Catalog

/-! ## Lines -/

/-- Lines, each with its end. -/
def unlines (lines : List (List Char)) : List Char :=
  lines.flatMap fun line => line ++ ['\n']

/-- A line that is indented by a number of blanks. -/
def line (indent : Nat) (parts : List (List Char)) : List Char :=
  List.replicate indent ' ' ++ parts.flatten

/-- Values as a tuple; one of a single value has a comma of its own. -/
def tupleLiteral : List Json → List Char
  | [value] => '(' :: (value.literal ++ [',', ')'])
  | values => '(' :: (", ".toList.intercalate (values.map Json.literal) ++ [')'])

/-! ## Parts -/

/-- The lines before the table of formatters. -/
def headerLines (version : Json) : List (List Char) :=
  ["# AUTOGENERATED - DO NOT EDIT".toList,
    "# Generated by `python -m generator` from the Simkl API description".toList,
    "# (version ".toList ++ version.shown ++ ") and simkl_mcp/tools_config.py.".toList,
    [],
    "from typing import Any, Literal, Optional, Union".toList,
    [],
    "from pydantic import ConfigDict, Field, create_model".toList,
    [],
    "from simkl_mcp import tools_config".toList,
    "from simkl_mcp.dispatch import ToolHandler".toList,
    [],
    "# Nested objects accept keys the API description does not list".toList,
    "PASSTHROUGH = ConfigDict(extra=\"allow\")".toList,
    []]

/-- The line of a tool's formatter, which has to have a name. -/
def formatterLine (entry : String × Formatter) : Except Fault (List Char) :=
  match entry.2.name? with
  | some name =>
    .ok (line 4 [Json.textLiteral entry.1, ": tools_config.".toList, name.toList, [',']])
  | none => .error .formatterUnnamed

/-- The line of a field in an argument model. -/
def fieldLine (field : Field) : List Char :=
  let described :=
    if field.description = "" then []
    else ", description=".toList ++ Json.textLiteral field.description
  line 8 [field.name.literal, ": (".toList, field.annotation, ", Field(".toList,
    field.default.toList, described, ")),".toList]

/-- The lines of a tool's argument model. -/
def modelLines (tool : Tool) : List (List Char) :=
  [[],
    line 0 [tool.modelName.toList, " = create_model(".toList],
    line 4 [Json.textLiteral tool.modelName, [',']],
    line 4 ["**\x7b".toList]] ++
    tool.fields.map fieldLine ++
    [line 4 ["\x7d,".toList], [')']]

/-- A line that gives a member of a handler. -/
def handlerMember (name : String) (value : List Char) : List Char :=
  line 12 [name.toList, ['='], value, [',']]

/-- The lines of a handler, which refers to the formatter of the tool it belongs to. -/
def handlerLines (tool : String) (handler : Handler) : List (List Char) :=
  let flatten := Json.obj (handler.flatten.map fun pair => (pair.1, .str pair.2))
  [handlerMember "tool_name" (Json.textLiteral handler.toolName),
    handlerMember "method" (Json.textLiteral handler.method),
    handlerMember "path" (Json.textLiteral handler.path),
    handlerMember "query_keys" (tupleLiteral handler.queryKeys),
    handlerMember "flatten" flatten.literal,
    handlerMember "response_type" (Json.textLiteral handler.responseFormat)] ++
    if handler.formatter.isSome then
      [handlerMember "formatter" ("FORMATTERS[".toList ++ Json.textLiteral tool ++ [']'])]
    else []

/-- A line that gives a member of a tool. -/
def toolMember (name : String) (value : List Char) : List Char :=
  line 8 [['"'], name.toList, "\": ".toList, value, [',']]

/-- The lines of a tool. -/
def toolLines (tool : Tool) : List (List Char) :=
  let hints := Json.obj (tool.hints.map fun hint => (hint.label, .bool true))
  [line 4 [['\x7b']],
    toolMember "name" (Json.textLiteral tool.name),
    toolMember "description" (Json.textLiteral tool.description),
    toolMember "arguments" tool.modelName.toList,
    toolMember "annotations" hints.literal,
    line 8 ["\"handler\": ToolHandler(".toList]] ++
    handlerLines tool.name tool.handler ++
    [line 8 ["),".toList], line 4 ["\x7d,".toList]]

/-- The lines of the function that registers the tools. -/
def registrationLines : List (List Char) :=
  [[],
    [],
    line 0 ["def register_tools(registry, client, get_token):".toList],
    line 4 ["\"\"\"Install every generated tool into the registry.".toList],
    [],
    line 4 ["get_token is called on every tool call, never cached.".toList],
    line 4 ["\"\"\"".toList],
    line 4 ["for tool in TOOLS:".toList],
    line 8 ["registry.register_tool(".toList],
    line 12 ["tool[\"name\"],".toList],
    line 12 ["description=tool[\"description\"],".toList],
    line 12 ["arguments=tool[\"arguments\"],".toList],
    line 12 ["annotations=tool[\"annotations\"],".toList],
    line 12 ["handler=tool[\"handler\"].bind(client, get_token),".toList],
    line 8 [[')']]]

/-! ## The whole -/

/-- The lines of the module. -/
def sourceLines (catalog : Catalog) : Except Fault (List (List Char)) := do
  let formatters ← catalog.formatters.mapM formatterLine
  return headerLines catalog.version ++
    ["FORMATTERS = \x7b".toList] ++ formatters ++ [['\x7d'], []] ++
    catalog.tools.flatMap modelLines ++
    [[], [], "TOOLS = [".toList] ++ catalog.tools.flatMap toolLines ++ [[']']] ++
    registrationLines

/-- The source of the module. -/
def source (catalog : Catalog) : Except Fault String := do
  return String.ofList (unlines (← catalog.sourceLines))

end ApiTools.Catalog
