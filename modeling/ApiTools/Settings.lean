import ApiTools.Client
import ApiTools.Decimal.Reader

/-!
# Settings

What a server reads from its environment: where the service is, the client's identifier, how long to
wait for an answer, and the user's access token.
-/

namespace ApiTools

/-- The settings of a server. -/
structure Settings where
  baseUrl : String
  clientId : String
  /-- The time to wait, in seconds. -/
  timeout : Binary64
  deriving DecidableEq

namespace Settings

/-- The variables of an environment that have a value, which may be empty. -/
abbrev Environment := List (String × String)

/-- The text of a variable, unless it is absent or empty. -/
def filled? (environment : Environment) (name : String) : Option String :=
  (Keyed.get? name environment).filter fun value => !value.isEmpty

/-- The settings that an environment says. An empty address is none, but an empty timeout is not a
number. -/
def ofEnvironment (environment : Environment) : Except Fault Settings :=
  match Decimal.readLoose? ((Keyed.get? "SIMKL_TIMEOUT" environment).getD "30").toList with
  | some timeout =>
    .ok {
      baseUrl := (filled? environment "SIMKL_API_BASE_URL").getD Client.defaultBaseUrl
      clientId := (Keyed.get? "SIMKL_CLIENT_ID" environment).getD ""
      timeout := timeout }
  | none => .error .badNumber

/-- The access token that an environment holds. -/
def token (environment : Environment) : Option String :=
  filled? environment "SIMKL_ACCESS_TOKEN"

end Settings

end ApiTools
