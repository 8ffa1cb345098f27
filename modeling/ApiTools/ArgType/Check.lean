import ApiTools.ArgType.Basic
import ApiTools.ArgType.Choice
import ApiTools.ArgType.Issue
import ApiTools.ArgType.Number

/-!
# Checking arguments

A type accepts a value or says everything that is wrong with it. An accepted value comes back in the
form in which it is used: texts that denote numbers or truth values as such, and the members of an
object in the order of its declared properties, followed by the undeclared ones as they are.
-/

namespace ApiTools

/-- An accepted value, or everything that is wrong. -/
abbrev Checked (α : Type) := Except (List Issue) α

namespace Checked

/-- One complaint about the value itself. -/
def complain {α : Type} (complaint : Complaint) : Checked α :=
  .error [⟨[], complaint⟩]

/-- The result for a part of a value. -/
def within {α : Type} (step : Step) : Checked α → Checked α
  | .ok value => .ok value
  | .error issues => .error (issues.map (Issue.within step))

/-- Two results together; what is wrong with either is kept. -/
def both {α β γ : Type} (combine : α → β → γ) : Checked α → Checked β → Checked γ
  | .ok first, .ok second => .ok (combine first second)
  | .error issues, .ok _ => .error issues
  | .ok _, .error issues => .error issues
  | .error first, .error second => .error (first ++ second)

/-- The results for the items of an array, of which the first has the given index. -/
def items {α β : Type} (check : α → Checked β) : Nat → List α → Checked (List β)
  | _, [] => .ok []
  | index, item :: rest =>
    both List.cons (within (.item index) (check item)) (items check (index + 1) rest)

end Checked

namespace ArgType

/-- The number that a value stands for. -/
def checkNumber : Json → Checked Json
  | .int value => .ok (.int value)
  | .float value => .ok (.float value)
  | .bool value => .ok (.int (if value then 1 else 0))
  | .str value =>
    match numberOfText value.toList with
    | .ok meant => .ok meant
    | .error complaint =>
      .error [⟨[.member "int"], complaint⟩, ⟨[.member "float"], .unreadableFloat⟩]
  | _ => .error [⟨[.member "int"], .notInteger⟩, ⟨[.member "float"], .notFloat⟩]

/-- The truth value that a value stands for. Numbers are read as integers, from which those beyond
64 bits are too far off. -/
def flagOf : Json → Except Complaint Bool
  | .bool value => .ok value
  | .int value => if isWord value then flagOfInt value else .error .notFlag
  | .float value =>
    match value.toInt? with
    | some whole => if whole.natAbs < Nat.pow 2 63 then flagOfInt whole else .error .notFlag
    | none => .error .notFlag
  | .str value =>
    match flagOfText? value.toList with
    | some meant => .ok meant
    | none => .error .unreadableFlag
  | _ => .error .notFlag

/-- Checks a truth value. -/
def checkFlag (value : Json) : Checked Json :=
  match flagOf value with
  | .ok meant => .ok (.bool meant)
  | .error complaint => .complain complaint

/-- The listed value that a value chooses. -/
def checkChoice (choices : List Json) (value : Json) : Checked Json :=
  match chosen? choices value with
  | some listed => .ok listed
  | none => .complain (.notAmong choices)

/-- The members of an object that no property declares. -/
def undeclared (names : List String) (fields : List (String × Json)) : List (String × Json) :=
  fields.filter fun field => !names.contains field.1

/-- A property's value, where null stands for nothing if the property is not required. -/
def checkPresent (required : Bool) (check : Json → Checked Json) (value : Json) : Checked Json :=
  if !required && value.isNull then .ok .null else check value

/-- A declared property of an object, with its name, if it is there. -/
def checkProperty (name : String) (required : Bool) (check : Json → Checked Json)
    (fields : List (String × Json)) : Checked (List (String × Json)) :=
  match Keyed.get? name fields with
  | some value =>
    (Checked.within (.member name) (checkPresent required check value)).map fun checked =>
      [(name, checked)]
  | none => if required then .error [⟨[.member name], .missing⟩] else .ok []

mutual

/-- Checks a value. -/
def check : ArgType → Json → Checked Json
  | .any, value => .ok value
  | .text, .str value => .ok (.str value)
  | .text, _ => .complain .notText
  | .number, value => checkNumber value
  | .flag, value => checkFlag value
  | .record, .obj fields => .ok (.obj fields)
  | .record, _ => .complain .notRecord
  | .choice values, value => checkChoice values value
  | .list item, .arr values => (Checked.items (check item) 0 values).map .arr
  | .list _, _ => .complain .notList
  | .model _ properties, .obj fields =>
    (checkProperties properties fields).map fun declared =>
      .obj (declared ++ undeclared (properties.map Prod.fst) fields)
  | .model name _, _ => .complain (.notModel name)
termination_by structural type => type

/-- Checks the declared properties of an object, in the order of their declaration. -/
def checkProperties :
    List (String × Bool × ArgType) → List (String × Json) → Checked (List (String × Json))
  | [], _ => .ok []
  | (name, required, type) :: rest, fields =>
    Checked.both (· ++ ·) (checkProperty name required (check type) fields)
      (checkProperties rest fields)
termination_by structural properties => properties

end

end ArgType

end ApiTools
