import ApiTools.Decimal.Binary64
import ApiTools.Keyed

/-!
# Values

The values that descriptions, arguments and responses are made of. Integers of any size and
floating-point numbers are kept apart, as they are written, and the members of an object keep their
order.
-/

namespace ApiTools

/-- A data value. -/
inductive Json where
  | null
  | bool (value : Bool)
  | int (value : Int)
  | float (value : Binary64)
  | str (value : String)
  | arr (items : List Json)
  | obj (fields : List (String × Json))
  deriving Inhabited

namespace Json

/-! ## Equality -/

mutual

/-- Decides whether two values are the same: the same kind, text, order and form of number. -/
def decEq : (a b : Json) → Decidable (a = b)
  | .null, .null => .isTrue rfl
  | .bool a, .bool b =>
    if same : a = b then .isTrue (by rw [same]) else .isFalse (by simpa using same)
  | .int a, .int b =>
    if same : a = b then .isTrue (by rw [same]) else .isFalse (by simpa using same)
  | .float a, .float b =>
    if same : a = b then .isTrue (by rw [same]) else .isFalse (by simpa using same)
  | .str a, .str b =>
    if same : a = b then .isTrue (by rw [same]) else .isFalse (by simpa using same)
  | .arr a, .arr b =>
    match decEqItems a b with
    | .isTrue same => .isTrue (by rw [same])
    | .isFalse different => .isFalse (by simpa using different)
  | .obj a, .obj b =>
    match decEqFields a b with
    | .isTrue same => .isTrue (by rw [same])
    | .isFalse different => .isFalse (by simpa using different)
  | .null, .bool _ | .null, .int _ | .null, .float _ | .null, .str _ | .null, .arr _
  | .null, .obj _ | .bool _, .null | .bool _, .int _ | .bool _, .float _ | .bool _, .str _
  | .bool _, .arr _ | .bool _, .obj _ | .int _, .null | .int _, .bool _ | .int _, .float _
  | .int _, .str _ | .int _, .arr _ | .int _, .obj _ | .float _, .null | .float _, .bool _
  | .float _, .int _ | .float _, .str _ | .float _, .arr _ | .float _, .obj _ | .str _, .null
  | .str _, .bool _ | .str _, .int _ | .str _, .float _ | .str _, .arr _ | .str _, .obj _
  | .arr _, .null | .arr _, .bool _ | .arr _, .int _ | .arr _, .float _ | .arr _, .str _
  | .arr _, .obj _ | .obj _, .null | .obj _, .bool _ | .obj _, .int _ | .obj _, .float _
  | .obj _, .str _ | .obj _, .arr _ => .isFalse (by simp)

/-- Decides whether two lists of values are the same. -/
def decEqItems : (a b : List Json) → Decidable (a = b)
  | [], [] => .isTrue rfl
  | [], _ :: _ | _ :: _, [] => .isFalse (by simp)
  | x :: xs, y :: ys =>
    match decEq x y, decEqItems xs ys with
    | .isTrue first, .isTrue others => .isTrue (by rw [first, others])
    | .isFalse first, _ => .isFalse (by simp [first])
    | _, .isFalse others => .isFalse (by simp [others])

/-- Decides whether two lists of members are the same. -/
def decEqFields : (a b : List (String × Json)) → Decidable (a = b)
  | [], [] => .isTrue rfl
  | [], _ :: _ | _ :: _, [] => .isFalse (by simp)
  | (k, x) :: xs, (l, y) :: ys =>
    if key : k = l then
      match decEq x y, decEqFields xs ys with
      | .isTrue first, .isTrue others => .isTrue (by rw [key, first, others])
      | .isFalse first, _ => .isFalse (by simp [first])
      | _, .isFalse others => .isFalse (by simp [others])
    else .isFalse (by simp [key])

end

instance : DecidableEq Json := decEq

/-! ## Reading a value -/

/-- The value says something: it is not null, false, zero or empty. -/
def isFilled : Json → Bool
  | .null => false
  | .bool value => value
  | .int value => value != 0
  | .float value => !value.isZero
  | .str value => value != ""
  | .arr items => !items.isEmpty
  | .obj fields => !fields.isEmpty

/-- The value, or another one where it says nothing. -/
def orElse (value other : Json) : Json :=
  if value.isFilled then value else other

/-- The value is null. -/
def isNull : Json → Bool
  | .null => true
  | _ => false

/-- Texts in a list. -/
def ofTexts (texts : List String) : Json :=
  .arr (texts.map .str)

end Json

end ApiTools
