import ApiTools.Fault
import ApiTools.Json.Basic
import ApiTools.Text.Search

/-!
# Access to values of unknown shape

Descriptions and responses come from outside, so any part of them may be of any kind. These
operations say what each use of a value needs and which fault it is to lack it.
-/

namespace ApiTools.Json

/-- The member of an object at a key, or a default where it is absent. -/
def memberOr (value : Json) (key : String) (default : Json) : Except Fault Json :=
  match value with
  | .obj fields => .ok ((Keyed.get? key fields).getD default)
  | _ => .error .noMembers

/-- The member of an object at a key, or null where it is absent. -/
def member (value : Json) (key : String) : Except Fault Json :=
  value.memberOr key .null

/-- The member of an object at a key, or another value where it says nothing. -/
def memberOrElse (value : Json) (key : String) (other : Json) : Except Fault Json := do
  return (← value.member key).orElse other

/-- The member of an object that is an object itself, where nothing counts as an empty one. -/
def part (value : Json) (key : String) : Except Fault Json :=
  value.memberOrElse key (.obj [])

/-- The member of an object at a key that must be there. -/
def memberThere (value : Json) (key : String) : Except Fault Json :=
  match value with
  | .obj fields =>
    match Keyed.get? key fields with
    | some found => .ok found
    | none => .error .absentKey
  | _ => .error .wrongKind

/-- All members of an object. -/
def members (value : Json) : Except Fault (List (String × Json)) :=
  match value with
  | .obj fields => .ok fields
  | _ => .error .noMembers

/-- The values that a value consists of: an array's items, a text's characters, an object's keys. -/
def elements (value : Json) : Except Fault (List Json) :=
  match value with
  | .arr items => .ok items
  | .str text => .ok (text.toList.map fun c => .str (String.ofList [c]))
  | .obj fields => .ok (fields.map fun field => .str field.1)
  | _ => .error .wrongKind

/-- The value is not made of parts that could change, so that it can be looked up in a set. -/
def isAtomic : Json → Bool
  | .arr _ | .obj _ => false
  | _ => true

/-- Whether a text is in a set of texts; only an atomic value can be looked up. -/
def isAmong (value : Json) (texts : List String) : Except Fault Bool :=
  match value with
  | .str text => .ok (texts.contains text)
  | .arr _ | .obj _ => .error .wrongKind
  | _ => .ok false

/-- Whether a text occurs in a value: as an item, as part of a text, or as a key. -/
def mentions (value : Json) (text : String) : Except Fault Bool :=
  match value with
  | .arr items => .ok (items.contains (.str text))
  | .str whole => .ok (Text.occursIn text.toList whole.toList)
  | .obj fields => .ok ((Keyed.get? text fields).isSome)
  | _ => .error .wrongKind

/-- The texts of a set given as a value, for looking up texts in it. All its elements must be
atomic; the others than texts equal no text. -/
def textSet (value : Json) : Except Fault (List String) := do
  let elements ← value.elements
  if elements.all isAtomic then
    return elements.filterMap fun
      | .str text => some text
      | _ => none
  else
    throw .wrongKind

/-- The text of a value that has to be one. -/
def asText (value : Json) : Except Fault String :=
  match value with
  | .str text => .ok text
  | _ => .error .wrongKind

end ApiTools.Json
