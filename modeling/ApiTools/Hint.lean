import ApiTools.Text.Case
import ApiTools.Text.Search

/-!
# Hints

What a client may assume of a tool, from the method and the path of its operation.
-/

namespace ApiTools

/-- A property of a tool that a client may rely on. -/
inductive Hint where
  | readOnly
  | destructive
  | idempotent
  deriving DecidableEq, Repr

namespace Hint

/-- The name under which a tool listing shows the hint. -/
def label : Hint → String
  | .readOnly => "readOnlyHint"
  | .destructive => "destructiveHint"
  | .idempotent => "idempotentHint"

/-- A part of the path says that the operation takes something away. -/
def namesRemoval (path : String) : Bool :=
  Text.occursIn "remove".toList path.toList || Text.occursIn "delete".toList path.toList

/-- The hints for an operation: reading changes nothing; deleting, and whatever a path says to
remove, destroys; repeating a read, a replacement or a deletion has no further effect. -/
def ofOperation (method path : String) : List Hint :=
  let method := Text.lower method.toList
  let reads := method = "get".toList
  let deletes := method = "delete".toList
  (if reads then [.readOnly] else []) ++
    (if deletes || namesRemoval path then [.destructive] else []) ++
    (if reads || deletes || method = "put".toList then [.idempotent] else [])

end Hint

end ApiTools
