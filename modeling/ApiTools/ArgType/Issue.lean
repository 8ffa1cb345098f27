import ApiTools.Json.Literal

/-!
# Issues

What can be wrong with arguments, where it is, and the report of everything that is wrong with one
call's arguments.
-/

namespace ApiTools

/-- What is wrong with a value. -/
inductive Complaint where
  /-- A required member is absent. -/
  | missing
  | notText
  | notFlag
  /-- A text or integer that denotes no truth value. -/
  | unreadableFlag
  | notInteger
  | notFloat
  /-- A text that denotes no integer. -/
  | unreadableInteger
  /-- A text with more digits than an integer may have. -/
  | overlongInteger
  /-- A text that denotes no floating-point number. -/
  | unreadableFloat
  | notList
  | notRecord
  /-- No object, where the named object type is due. -/
  | notModel (name : String)
  /-- None of the values to choose from. -/
  | notAmong (values : List Json)
  deriving DecidableEq

/-- A step into a value: to a member or to an item. -/
inductive Step where
  | member (key : String)
  | item (index : Nat)
  deriving DecidableEq

/-- A complaint and the way to the value it is about, outermost step first. -/
structure Issue where
  place : List Step
  complaint : Complaint
  deriving DecidableEq

namespace Complaint

/-- The choices in one phrase, the last two joined by `or`. -/
def phrase : List (List Char) → List Char
  | [] => []
  | [last] => last
  | [first, last] => first ++ " or ".toList ++ last
  | first :: rest => first ++ ", ".toList ++ phrase rest

/-- The short name of a complaint. -/
def label : Complaint → String
  | .missing => "missing"
  | .notText => "string_type"
  | .notFlag => "bool_type"
  | .unreadableFlag => "bool_parsing"
  | .notInteger => "int_type"
  | .notFloat => "float_type"
  | .unreadableInteger => "int_parsing"
  | .overlongInteger => "int_parsing_size"
  | .unreadableFloat => "float_parsing"
  | .notList => "list_type"
  | .notRecord => "dict_type"
  | .notModel _ => "model_type"
  | .notAmong _ => "literal_error"

/-- The sentence of a complaint. -/
def text : Complaint → List Char
  | .missing => "Field required".toList
  | .notText => "Input should be a valid string".toList
  | .notFlag => "Input should be a valid boolean".toList
  | .unreadableFlag => "Input should be a valid boolean, unable to interpret input".toList
  | .notInteger => "Input should be a valid integer".toList
  | .notFloat => "Input should be a valid number".toList
  | .unreadableInteger =>
    "Input should be a valid integer, unable to parse string as an integer".toList
  | .overlongInteger =>
    "Unable to parse input string as an integer, exceeded maximum size".toList
  | .unreadableFloat => "Input should be a valid number, unable to parse string as a number".toList
  | .notList => "Input should be a valid list".toList
  | .notRecord => "Input should be a valid dictionary".toList
  | .notModel name => "Input should be a valid dictionary or instance of ".toList ++ name.toList
  | .notAmong values => "Input should be ".toList ++ phrase (values.map Json.literal)

end Complaint

/-- A step in a report; a key with a point in it is marked off. -/
def Step.text : Step → List Char
  | .member key => if key.toList.contains '.' then '`' :: (key.toList ++ ['`']) else key.toList
  | .item index => Nat.toDigits 10 index

namespace Issue

/-- An issue one step further in. -/
def within (step : Step) (issue : Issue) : Issue :=
  ⟨step :: issue.place, issue.complaint⟩

/-- The lines of an issue in a report: its place, unless it is about the whole, and its sentence. -/
def lines (issue : Issue) : List (List Char) :=
  let sentence :=
    "  ".toList ++ issue.complaint.text ++ " [type=".toList ++ issue.complaint.label.toList ++ [']']
  if issue.place.isEmpty then [sentence]
  else [['.'].intercalate (issue.place.map Step.text), sentence]

/-- The report on the arguments of a model. -/
def report (model : String) (issues : List Issue) : String :=
  let count :=
    if issues.length = 1 then "1 validation error for ".toList
    else Nat.toDigits 10 issues.length ++ " validation errors for ".toList
  String.ofList (['\n'].intercalate ((count ++ model.toList) :: issues.flatMap lines))

end Issue

end ApiTools
