import ApiTools.Json.Access
import ApiTools.Json.Literal

/-!
# Formatters

How responses are put into words. A formatter takes the response and the arguments of the call and
gives one text, or one text for each item. What a response lacks is shown as unknown or not
available; a response of the wrong shape is a fault.
-/

namespace ApiTools

/-- A way to put responses into words. The unnamed ones are not known to the compiled module. -/
inductive Formatter where
  | searchResults
  | scrobbleStart
  | scrobblePause
  | scrobbleStop
  | addedToWatchlist
  | titleList
  | bestList
  | airingList
  | watchlist
  /-- The same text for every response, under no name. -/
  | unnamed (text : String)
  deriving DecidableEq, Repr

/-- The text content of a response: one text, or one for each item. -/
inductive Content where
  | one (text : String)
  | many (texts : List String)
  deriving DecidableEq, Repr

namespace Content

/-- The texts, in order. -/
def texts : Content → List String
  | .one text => [text]
  | .many texts => texts

end Content

namespace Formatter

/-- The name of a formatter in the compiled module. -/
def name? : Formatter → Option String
  | .searchResults => some "format_search_results"
  | .scrobbleStart => some "format_scrobble_start"
  | .scrobblePause => some "format_scrobble_pause"
  | .scrobbleStop => some "format_scrobble_stop"
  | .addedToWatchlist => some "format_added_to_watchlist"
  | .titleList => some "format_title_list"
  | .bestList => some "format_best_list"
  | .airingList => some "format_airing_list"
  | .watchlist => some "format_watchlist"
  | .unnamed _ => none

/-- The named formatters. -/
def named : List Formatter :=
  [.searchResults, .scrobbleStart, .scrobblePause, .scrobbleStop, .addedToWatchlist, .titleList,
    .bestList, .airingList, .watchlist]

/-- The formatter with a name. -/
def ofName? (name : String) : Option Formatter :=
  named.find? fun formatter => formatter.name? = some name

/-! ## Parts of items -/

/-- The number under which the service knows an item: `simkl_id`, or else `simkl`. -/
def itemId (item : Json) : Except Fault Json := do
  let ids ← item.part "ids"
  return (← ids.member "simkl_id").orElse (← ids.member "simkl")

/-- The rating of an item by the service's users. -/
def rating (item : Json) : Except Fault Json := do
  let ratings ← item.part "ratings"
  let own ← ratings.part "simkl"
  own.memberOrElse "rating" (.str "N/A")

/-- The year of an item. -/
def year (item : Json) : Except Fault Json :=
  item.memberOrElse "year" (.str "N/A")

/-- The work that an entry of a list is about. -/
def work (entry : Json) : Except Fault Json := do
  let first := (← entry.member "show").orElse (← entry.member "movie")
  return (first.orElse (← entry.member "anime")).orElse (.obj [])

/-- The work, its title and year as every list of the user's entries shows them. -/
def workLine (index : Nat) (entry : Json) : Except Fault String := do
  let work ← work entry
  let title ← work.memberOrElse "title" (.str "unknown")
  let year ← year work
  let id ← (← work.part "ids").memberOrElse "simkl" (.str "unknown")
  return s!"{index}: [SIMKL #{id.toText}] - {title.toText} ({year.toText})"

/-- The title of the work that the arguments name, under one of the kinds, either as an argument or
in the body. -/
def argumentTitle (args body : Json) : List String → Except Fault Json
  | [] => .ok (.str "unknown")
  | kind :: rest => do
    let given ← args.member kind
    let work ← if given.isFilled then pure given else body.member kind
    if work.isFilled then
      let title ← work.member "title"
      if title.isFilled then return title
    argumentTitle args body rest

/-- The title of the work that the arguments name. -/
def titleOf (args : Json) (kinds : List String) : Except Fault Json := do
  argumentTitle args (← args.part "body") kinds

/-- The first items of a list. Only lists and texts can be cut. -/
def firstItems (count : Nat) (value : Json) : Except Fault (List Json) :=
  match value with
  | .arr items => .ok (items.take count)
  | .str _ => do return (← value.elements).take count
  | _ => .error .wrongKind

/-- One line for every item, with its index. -/
def numbered (line : Nat → Json → Except Fault String) (items : List Json) :
    Except Fault (List String) :=
  items.zipIdx.mapM fun (item, index) => line index item

/-! ## Lines -/

/-- A search result. -/
def searchLine (index : Nat) (item : Json) : Except Fault String := do
  let ids ← item.part "ids"
  let id ← ids.member "simkl_id"
  let title ← item.member "title"
  let year ← year item
  let imdb ← ids.memberOrElse "imdb" (.str "N/A")
  return s!"{index}: [SIMKL #{id.toText}] - {title.toText} ({year.toText}) - imdb:{imdb.toText}"

/-- A title. -/
def titleLine (index : Nat) (item : Json) : Except Fault String := do
  let id ← itemId item
  let title ← item.member "title"
  let year ← year item
  return s!"{index}: [SIMKL #{id.toText}] - {title.toText} ({year.toText})"

/-- A title with its rating. -/
def bestLine (index : Nat) (item : Json) : Except Fault String := do
  let rating ← rating item
  let line ← titleLine index item
  return s!"{line} - rating: {rating.toText}"

/-- An episode that is about to be shown. -/
def airingLine (index : Nat) (item : Json) : Except Fault String := do
  let episode ← (← item.part "episode").memberOrElse "episode" (.str "?")
  let id ← itemId item
  let title ← item.member "title"
  let date ← item.memberOrElse "date" (.str "TBA")
  let number := episode.toText
  return s!"{index}: [SIMKL #{id.toText}] - {title.toText} - ep {number} at {date.toText}"

/-- The value is a number above zero. Only numbers and truth values can be compared. -/
def isPositive : Json → Except Fault Bool
  | .int value => .ok (0 < value)
  | .float value => .ok value.isPositive
  | .bool value => .ok value
  | _ => .error .wrongKind

/-- An entry of the user's list, with the progress where the number of episodes is known. -/
def entryLine (index : Nat) (entry : Json) : Except Fault String := do
  let line ← workLine index entry
  let watched ← entry.memberOrElse "watched_episodes_count" (.int 0)
  let total ← entry.memberOrElse "total_episodes_count" (.int 0)
  if ← isPositive total then
    return s!"{line} - {watched.toText}/{total.toText} episodes"
  else
    return line

/-! ## Responses -/

/-- The entries of a kind in a page of the user's list. -/
def entriesOf (page kind : Json) : Except Fault Json :=
  match page, kind with
  | .obj _, .arr _ | .obj _, .obj _ => .error .wrongKind
  | .obj _, .str kind => page.memberOrElse kind (.arr [])
  | _, _ => .ok (.arr [])

/-- Search results, at most ten. -/
def searchContent (response args : Json) : Except Fault Content := do
  if response.isFilled then
    return .many (← numbered searchLine (← firstItems 10 response))
  else
    let sought ← args.member "q"
    return .many [s!"no results for \"{sought.toText}\""]

/-- A list of items, at most twenty. -/
def listContent (line : Nat → Json → Except Fault String) (response : Json) :
    Except Fault Content := do
  return .many (← numbered line (← firstItems 20 (response.orElse (.arr []))))

/-- The state of playback, with the title. -/
def playbackContent (state : String) (args : Json) : Except Fault Content := do
  let title ← titleOf args ["movie", "show"]
  return .one s!"{state}: {title.toText}"

/-- A pause, with the progress. -/
def pauseContent (args : Json) : Except Fault Content := do
  let given ← args.member "progress"
  let progress ← if given.isNull then (← args.part "body").member "progress" else pure given
  playbackContent s!"paused at {progress.toText}%" args

/-- A page of the user's list, at most twenty entries. -/
def watchlistContent (response args : Json) : Except Fault Content := do
  let kind ← args.member "type"
  let entries ← entriesOf response kind
  if entries.isFilled then
    return .many (← numbered entryLine (← firstItems 20 entries))
  else
    let status ← args.member "status"
    return .many [s!"no {kind.toText} with status {status.toText}"]

/-- A response to a call with the given arguments, in words. -/
def apply (formatter : Formatter) (response args : Json) : Except Fault Content :=
  match formatter with
  | .searchResults => searchContent response args
  | .scrobbleStart => playbackContent "started" args
  | .scrobblePause => pauseContent args
  | .scrobbleStop => playbackContent "stopped" args
  | .addedToWatchlist => do
    let title ← titleOf args ["movie", "show", "anime"]
    return .one s!"added to watchlist: {title.toText}"
  | .titleList => listContent titleLine response
  | .bestList => listContent bestLine response
  | .airingList => listContent airingLine response
  | .watchlist => watchlistContent response args
  | .unnamed text => .ok (.one text)

end Formatter

end ApiTools
