import ApiTools.Client
import ApiTools.Registry
import ApiTools.Registry.Outcome

/-!
# Calling tools

A call names a tool and gives arguments. These are checked before the tool does anything; what goes
wrong then, or later at the service, becomes a report to the caller.
-/

namespace ApiTools

open ApiTools.Http

namespace Action

/-- The call of an endpoint with the method POST and nothing else. -/
def post (endpoint : String) : Call :=
  ⟨endpoint, "POST", [], none⟩

/-- Makes the call that a handler says and shows the answer. -/
def runOperation (handler : Handler) (client : Client) (token : Option String)
    (arguments : Arguments) : Talk Content := do
  let call ← Talk.ofResult (handler.call arguments)
  let answer ← client.fetch token call
  Talk.ofResult (handler.format arguments answer.data)

/-- The user's number in the settings of the account; null where it says nothing. -/
def accountId (settings : Json) : Except Fault Json := do
  (← (settings.orElse (.obj [])).part "account").member "id"

/-- Asks for the user's number and then for the statistics of that user. -/
def runOwnStatistics (client : Client) (token : Option String) : Talk Content := do
  let settings ← client.fetch token (post "/users/settings")
  let id ← Talk.ofResult (accountId settings.data)
  if id.isFilled then
    let statistics ← client.fetch token (post s!"/users/{id.toText}/stats")
    return .one (statistics.data.toLines false)
  else
    return .one "failed to get current user id"

/-- Does what a tool does with checked arguments. -/
def run (action : Action) (client : Client) (token : Option String) (arguments : Arguments) :
    Talk Content :=
  match action with
  | .operation handler => runOperation handler client token arguments
  | .ownStatistics => runOwnStatistics client token
  | .custom answer => Talk.ofResult (answer arguments)

end Action

/-- The outcome of an activity of a tool. Faults that are no one's to report go on. -/
def Outcome.ofResult (tool : String) : Except Fault Content → Except Fault Outcome
  | .ok shown => .ok (.content shown)
  | .error (.missingPathValue placeholder) => .ok (.failure tool (.missingPathValue placeholder))
  | .error (.api reported) => .ok (.failure tool (.service reported))
  | .error fault => .error fault

namespace RegisteredTool

/-- Calls a tool. Arguments that say nothing count as none. -/
def call (tool : RegisteredTool) (client : Client) (token : Option String) (arguments : Json) :
    Talk Outcome := fun wire =>
  match tool.arguments.check (arguments.orElse (.obj [])) with
  | .error issues => (.ok (.failure tool.name (.invalidArguments tool.arguments.name issues)), wire)
  | .ok checked =>
    let (result, after) := tool.action.run client token checked wire
    (Outcome.ofResult tool.name result, after)

end RegisteredTool

namespace Registry

/-- Calls the tool with a name. -/
def call (registry : Registry) (client : Client) (token : Option String) (name : String)
    (arguments : Json) : Talk Outcome :=
  match registry.get? name with
  | some tool => tool.call client token arguments
  | none => Talk.ofResult (.ok (.failure name .unknownTool))

end Registry

end ApiTools
