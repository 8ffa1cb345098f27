import ApiTools.Json.Basic

/-!
# Equality as data

Two values can be equal as data without being written alike: a number is equal to every number of
its value, whatever its form, a truth value counts as one or zero, and the order of the members of
an object is of no account. Not-a-number equals nothing.
-/

namespace ApiTools.Json

/-- The integer that a number or truth value is equal to, if there is one. -/
def wholeValue? : Json → Option Int
  | .bool value => some (if value then 1 else 0)
  | .int value => some value
  | .float value => value.toInt?
  | _ => none

/-- Two values without parts are equal as data. -/
def sameScalar (left right : Json) : Bool :=
  match left.wholeValue?, right.wholeValue? with
  | some first, some second => first = second
  | none, none => left = right ∧ left ≠ .float .nan
  | _, _ => false

mutual

/-- Two values are equal as data. -/
def same : Json → Json → Bool
  | .arr left, .arr right => sameItems left right
  | .obj left, .obj right => left.length = right.length && sameMembers left right
  | .null, right => sameScalar .null right
  | .bool value, right => sameScalar (.bool value) right
  | .int value, right => sameScalar (.int value) right
  | .float value, right => sameScalar (.float value) right
  | .str value, right => sameScalar (.str value) right
  | .arr _, _ | .obj _, _ => false
termination_by structural left => left

/-- The items of two arrays are equal one by one. -/
def sameItems : List Json → List Json → Bool
  | [], [] => true
  | first :: left, second :: right => same first second && sameItems left right
  | _, _ => false
termination_by structural left => left

/-- Every member of the first object is equal to the one of its name in the second. -/
def sameMembers : List (String × Json) → List (String × Json) → Bool
  | [], _ => true
  | (key, value) :: left, right =>
    (match Keyed.get? key right with
      | some other => same value other
      | none => false) && sameMembers left right
termination_by structural left => left

end

end ApiTools.Json
