import ApiTools.Json.Access
import ApiTools.Text.Markup

/-!
# Descriptions

The texts that tools and arguments show, made from those of the API description: without markup and
cut to a fixed length.
-/

namespace ApiTools.Description

open ApiTools.Text

/-- The greatest number of characters of a description. -/
def limit : Nat := 200

/-- The description of an operation: without tags, then without numeric entities, then without
blanks at the ends. -/
def cleanOperation (text : List Char) : List Char :=
  (trim (removeAll entityLength (removeAll tagLength text))).take limit

/-- The description of a parameter: without tags, and with single spaces between its words. -/
def cleanParameter (text : List Char) : List Char :=
  (trim (collapseBlanks (removeAll filledTagLength text))).take limit

/-- The description of an operation: its summary, or else the first line of its description. -/
def ofOperation (operation : Json) : Except Fault String := do
  let summary := (← operation.member "summary").orElse (.str "")
  let description := (← operation.member "description").orElse (.str "")
  let text ←
    if summary.isFilled then summary.asText
    else
      match description with
      | .str text => pure (String.ofList (before '\n' text.toList))
      | _ => throw .noMembers
  return String.ofList (cleanOperation text.toList)

/-- The description of a parameter, empty where there is none. -/
def ofParameter (text : Json) : Except Fault String :=
  if text.isFilled then do
    return String.ofList (cleanParameter (← text.asText).toList)
  else
    return ""

end ApiTools.Description
