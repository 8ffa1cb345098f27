import ApiTools.Formatter

/-!
# The whitelist

The operations of the service that become tools, each with the way in which its responses are shown.
An operation that is not on the list is no tool.
-/

namespace ApiTools

/-- How the responses of a tool are shown: as JSON, or in the words of a formatter. -/
inductive ResponseFormat where
  /-- JSON; a formatter may be named, but is not used. -/
  | json (unused : Option Formatter)
  | simple (formatter : Formatter)
  deriving DecidableEq, Repr

namespace ResponseFormat

/-- The name of a format. -/
def name : ResponseFormat → String
  | .json _ => "json"
  | .simple _ => "simple"

/-- The formatter given with a format. -/
def template : ResponseFormat → Option Formatter
  | .json unused => unused
  | .simple formatter => some formatter

/-- The format with a name and perhaps a formatter. -/
def ofName (name : String) (template : Option Formatter) : Except Fault ResponseFormat :=
  if name = "json" then .ok (.json template)
  else if name = "simple" then
    match template with
    | some formatter => .ok (.simple formatter)
    | none => .error .templateMissing
  else .error (.unknownFormat name)

end ResponseFormat

/-- An operation that is to be a tool. -/
structure WhitelistEntry where
  /-- The path with its placeholders. -/
  path : String
  method : String
  /-- Without a format, responses are shown as JSON. -/
  format : Option ResponseFormat
  /-- The parameters that the tool does not take. -/
  omitted : List String
  deriving DecidableEq, Repr

namespace WhitelistEntry

/-- An entry whose responses are shown as JSON. -/
def json (path method : String) : WhitelistEntry :=
  ⟨path, method, some (.json none), []⟩

/-- An entry whose responses are put into words. -/
def simple (path method : String) (formatter : Formatter) : WhitelistEntry :=
  ⟨path, method, some (.simple formatter), []⟩

/-- The name of the response format. -/
def formatName (entry : WhitelistEntry) : String :=
  match entry.format with
  | some format => format.name
  | none => "json"

/-- The formatter that shows the responses. -/
def formatter (entry : WhitelistEntry) : Option Formatter :=
  match entry.format with
  | some (.simple formatter) => some formatter
  | _ => none

end WhitelistEntry

/-- The operations that the server offers. -/
def standardWhitelist : List WhitelistEntry := [
  .simple "/search/:type" "get" .searchResults,
  .json "/search/id" "get",
  .simple "/scrobble/start" "post" .scrobbleStart,
  .simple "/scrobble/pause" "post" .scrobblePause,
  .simple "/scrobble/stop" "post" .scrobbleStop,
  .simple "/sync/add-to-list" "post" .addedToWatchlist,
  .json "/sync/history" "post",
  .json "/sync/history/remove" "post",
  .json "/sync/ratings" "post",
  .json "/sync/ratings/remove" "post",
  .simple "/tv/trending/:interval" "get" .titleList,
  .simple "/movies/trending/:interval" "get" .titleList,
  .simple "/anime/trending/:interval" "get" .titleList,
  .json "/tv/:id" "get",
  .json "/movies/:id" "get",
  .json "/anime/:id" "get",
  .json "/tv/episodes/:id" "get",
  .json "/anime/episodes/:id" "get",
  .simple "/tv/best/:filter" "get" .bestList,
  .simple "/anime/best/:filter" "get" .bestList,
  .simple "/tv/airing?:date" "get" .airingList,
  .simple "/anime/airing?:date" "get" .airingList,
  .simple "/tv/genres/:genre/:type/:country/:network/:year/:sort" "get" .titleList,
  .simple "/anime/genres/:genre/:type/:network/:year/:sort" "get" .titleList,
  .simple "/movies/genres/:genre/:type/:country/:year/:sort" "get" .titleList,
  .json "/users/:user_id/stats" "post",
  .simple "/sync/all-items/:type/:status" "get" .watchlist]

end ApiTools
