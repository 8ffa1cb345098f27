import ApiTools.Json.Access
import ApiTools.Json.Literal

/-!
# Resources

What the server offers for reading: lists of the service, each at an address of its own. The
addresses of a family follow a template with two variables, and the values of both can be read off
an address.
-/

namespace ApiTools

/-- A family of resources. -/
inductive ResourceTemplate where
  /-- The user's lists. -/
  | watchlist
  /-- The titles that are watched most. -/
  | trending
  deriving DecidableEq, Repr

/-- A resource as a listing shows it. -/
structure ResourceEntry where
  uri : String
  name : String
  description : String
  deriving DecidableEq, Repr

namespace ResourceTemplate

/-- The families. -/
def all : List ResourceTemplate :=
  [.watchlist, .trending]

/-- The name of a family, with which its addresses begin. -/
def name : ResourceTemplate → String
  | .watchlist => "watchlist"
  | .trending => "trending"

/-- What a listing says of a family. -/
def description : ResourceTemplate → String
  | .watchlist => "user watchlist by type and status"
  | .trending => "trending content by type and interval"

/-- The first variable and the values that are listed for it. -/
def first : ResourceTemplate → String × List String
  | .watchlist => ("type", ["shows", "movies", "anime"])
  | .trending => ("type", ["tv", "movies", "anime"])

/-- The second variable and the values that are listed for it. -/
def second : ResourceTemplate → String × List String
  | .watchlist => ("status", ["watching", "plantowatch", "hold", "completed", "dropped"])
  | .trending => ("interval", ["daily", "weekly", "monthly"])

/-! ## Addresses -/

/-- The beginning of every address of a family. -/
def start (template : ResourceTemplate) : List Char :=
  "simkl://".toList ++ template.name.toList ++ ['/']

/-- The address for values of the variables. -/
def address (template : ResourceTemplate) (first second : List Char) : List Char :=
  template.start ++ first ++ '/' :: second

/-- The template of a family's addresses: a variable in braces stands for its value. -/
def uriTemplate (template : ResourceTemplate) : String :=
  String.ofList (template.address ('\x7b' :: (template.first.1.toList ++ ['\x7d']))
    ('\x7b' :: (template.second.1.toList ++ ['\x7d'])))

/-- The family with a template. -/
def ofUriTemplate? (uriTemplate : String) : Option ResourceTemplate :=
  all.find? fun template => template.uriTemplate = uriTemplate

/-- A character that the value of a variable may have. -/
def isValueChar (c : Char) : Bool :=
  c != '/' && c != '#' && c != '?'

/-- The values of the variables in the part of an address that follows its beginning. -/
def valuesOf? (rest : List Char) : Option (List Char × List Char) :=
  let first := rest.takeWhile isValueChar
  match rest.dropWhile isValueChar with
  | '/' :: second =>
    if first ≠ [] ∧ second ≠ [] ∧ second.all isValueChar then some (first, second) else none
  | _ => none

/-- The values of the variables in an address, if it is one of the family. -/
def match? (template : ResourceTemplate) (uri : List Char) : Option (List Char × List Char) :=
  if template.start.isPrefixOf uri then valuesOf? (uri.drop template.start.length) else none

/-- The address for values of any kind, which are looked up by the names of the variables. -/
def expand (template : ResourceTemplate) (values : List (String × Json)) : Except Fault String := do
  let first ← (Json.obj values).memberThere template.first.1
  let second ← (Json.obj values).memberThere template.second.1
  return String.ofList (template.address first.shown second.shown)

/-! ## Listing -/

/-- The resources of a family. -/
def resources (template : ResourceTemplate) : List ResourceEntry :=
  template.first.2.flatMap fun first =>
    template.second.2.map fun second =>
      { uri := String.ofList (template.address first.toList second.toList)
        name := s!"{template.name} {first} {second}"
        description := s!"{template.name}: {first} {second}" }

/-- The listed values of a variable that begin with a text. -/
def complete (template : ResourceTemplate) (name start : String) : List String :=
  (([template.first, template.second].lookup name).getD []).filter fun value =>
    start.toList.isPrefixOf value.toList

end ResourceTemplate

end ApiTools
