import ApiTools.Decimal.Reader
import ApiTools.Fault
import ApiTools.Http.Message

/-!
# Pagination

The service says with four headers which page of a list a response holds. A header is read by the
integer that it begins with; the information counts only if all four can be read.
-/

namespace ApiTools.Http

/-- Where a page stands in its list. -/
structure Pagination where
  page : Int
  limit : Int
  pageCount : Int
  itemCount : Int
  deriving DecidableEq, Repr

namespace Pagination

open ApiTools.Text

/-- The number that a text starts with: decimal digits of any script, not more than there may be. -/
def leadingNumber (text : List Char) : Except Fault (Option Int) :=
  let digits := text.takeWhile isDigit
  if digits.isEmpty then .ok none
  else if Decimal.digitLimit < digits.length then .error .badNumber
  else .ok (some (numberOfDigits digits))

/-- The integer that a text starts with, after blanks: a sign, if there is one, and digits. -/
def leadingInteger (text : List Char) : Except Fault (Option Int) :=
  match trimLeft text with
  | '-' :: rest => (leadingNumber rest).map fun value => value.map fun size => -size
  | '+' :: rest => leadingNumber rest
  | rest => leadingNumber rest

/-- The integer that a header starts with. -/
def headerInteger (response : Response) (name : String) : Except Fault (Option Int) :=
  match response.header? name with
  | some value => leadingInteger value.toList
  | none => .ok none

/-- The pagination of a response. All headers are read, whatever the others say. -/
def ofResponse (response : Response) : Except Fault (Option Pagination) := do
  let page ← headerInteger response "x-pagination-page"
  let limit ← headerInteger response "x-pagination-limit"
  let pageCount ← headerInteger response "x-pagination-page-count"
  let itemCount ← headerInteger response "x-pagination-item-count"
  return match page, limit, pageCount, itemCount with
    | some page, some limit, some pageCount, some itemCount =>
      some ⟨page, limit, pageCount, itemCount⟩
    | _, _, _, _ => none

end Pagination

end ApiTools.Http
