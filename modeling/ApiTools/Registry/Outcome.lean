import ApiTools.ArgType.Issue
import ApiTools.Formatter
import ApiTools.Json.Printer

/-!
# Outcomes of calls

What a call of a tool comes to: the content that the tool shows, or a report on the failure. A
report says where the call failed: before it reached a tool, at the check of its arguments, or at
the service.
-/

namespace ApiTools

/-- Why a call of a tool failed. -/
inductive CallFailure where
  /-- There is no tool of the name. -/
  | unknownTool
  /-- The arguments do not fit the model of the given name. -/
  | invalidArguments (model : String) (issues : List Issue)
  /-- A placeholder of the path has no value. -/
  | missingPathValue (placeholder : String)
  /-- The service failed. -/
  | service (failure : ApiFailure)
  deriving DecidableEq

/-- What a call of a tool comes to. -/
inductive Outcome where
  | content (content : Content)
  | failure (tool : String) (cause : CallFailure)
  deriving DecidableEq

namespace CallFailure

/-- The status that the service gave, else zero. -/
def status : CallFailure → Int
  | .service failure => failure.status
  | .unknownTool | .invalidArguments _ _ | .missingPathValue _ => 0

/-- Where the call failed. -/
def source : CallFailure → String
  | .unknownTool => "simkl_mcp"
  | .invalidArguments _ _ | .missingPathValue _ => "validation"
  | .service _ => "simkl_api"

/-- What is said about the failure of a call of a tool. A failure of the service is followed by the
text that came with it. -/
def message (tool : String) : CallFailure → String
  | .unknownTool => s!"Unknown tool: {tool}"
  | .invalidArguments model issues => Issue.report model issues
  | .missingPathValue placeholder => ((Fault.missingPathValue placeholder).message?).getD ""
  | .service failure =>
    match failure.body with
    | none => failure.message
    | some body =>
      if body.isEmpty then failure.message else s!"{failure.message}: {body}"

/-- The report on the failure of a call of a tool. -/
def report (tool : String) (cause : CallFailure) : Json :=
  .obj [("error", .bool true), ("status", .int cause.status),
    ("message", .str (cause.message tool)), ("tool", .str tool), ("source", .str cause.source)]

end CallFailure

namespace Outcome

/-- The call failed. -/
def isFailure : Outcome → Bool
  | .content _ => false
  | .failure _ _ => true

/-- The texts that the caller gets. -/
def texts : Outcome → List String
  | .content shown => shown.texts
  | .failure tool cause => [(cause.report tool).toLines true]

/-- What the server's log says: failures of the service. -/
def warnings : Outcome → List String
  | .failure tool (.service reported) => [s!"{tool} failed: {reported.message}"]
  | .content _ | .failure _ _ => []

end Outcome

end ApiTools
