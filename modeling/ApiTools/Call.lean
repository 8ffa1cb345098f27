import ApiTools.Json.Basic

/-!
# Calls

What is asked of the service in one request, before the client makes an HTTP request of it.
-/

namespace ApiTools

/-- A call of an operation of the service. -/
structure Call where
  /-- The path of the operation, with all values filled in. -/
  endpoint : String
  method : String
  /-- The query in the order in which it is sent. Members that are null are not sent. -/
  query : List (String × Json)
  /-- The body; neither an absent nor a null one is sent. -/
  body : Option Json
  deriving DecidableEq

end ApiTools
