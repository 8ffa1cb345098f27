import ApiTools.Client
import ApiTools.Handler
import ApiTools.Resource

/-!
# Reading resources

A resource is read from the service and given out in words, one content for each of its items. The
user's lists come in pages, all of which are read.
-/

namespace ApiTools

open ApiTools.Http

/-- A part of what a resource holds. -/
structure ResourceContent where
  uri : String
  text : String
  deriving DecidableEq, Repr

namespace ResourceContent

/-- The type of the content of every resource. -/
def mimeType : String := "text/plain"

/-- The contents of a resource: one for each line, numbered from zero, or a single one that says
that there are none. -/
def ofLines (uri : String) (lines : List String) (nothing : String) : List ResourceContent :=
  if lines.isEmpty then [⟨uri, nothing⟩]
  else lines.zipIdx.map fun (line, index) => ⟨s!"{uri}#{index}", line⟩

end ResourceContent

namespace Client

/-- An answered call has used up a reply. -/
theorem fetch_replies_length {client : Client} {token : Option String} {call : Call}
    {answer : Answer} {wire after : Wire}
    (answered : client.fetch token call wire = (.ok answer, after)) :
    after.replies.length < wire.replies.length := by
  unfold fetch at answered
  rw [Talk.bind_apply] at answered
  cases made : client.request token call with
  | error fault => simp [made] at answered
  | ok request =>
      simp only [made, Talk.ofResult_apply] at answered
      rw [Talk.bind_apply] at answered
      obtain ⟨replies, sent⟩ := wire
      cases replies with
      | nil => simp [Talk.exchange_nil, Answer.ofReply] at answered
      | cons reply rest =>
          simp only [Talk.exchange_cons, Talk.ofResult_apply, Prod.mk.injEq] at answered
          simp [← answered.2]

end Client

namespace ResourceTemplate

/-! ## The user's lists -/

/-- The number of entries of a page. -/
def pageSize : Int := 100

/-- The call for all entries of a kind and a status. -/
def watchlistCall (kind status : String) : Except Fault Call := do
  let kind ← encodePathValue "type" (.str kind)
  let status ← encodePathValue "status" (.str status)
  return ⟨s!"/sync/all-items/{kind}/{status}", "GET", [("extended", .str "full")], none⟩

/-- The entries of a kind on a page; what is no object has none. -/
def pageEntries (kind : String) (page : Json) : Except Fault (List Json) :=
  match page with
  | .obj fields => do ((← (Json.obj fields).memberOrElse kind (.arr []))).elements
  | _ => .ok []

/-- Reads the pages of a list from a given one on, up to the last one that the service speaks of.
Every page uses up a reply, so the reading comes to an end. -/
def readPages (client : Client) (token : Option String) (call : Call) (kind : String)
    (page pageCount : Int) : Talk (List Json) := fun wire =>
  if page ≤ pageCount then
    let pageCall := Client.withQuery call [("page", some page), ("limit", some pageSize)]
    match _answered : client.fetch token pageCall wire with
    | (.error fault, after) => (.error fault, after)
    | (.ok answer, after) =>
      match pageEntries kind answer.data with
      | .error fault => (.error fault, after)
      | .ok entries =>
        let known := (answer.pagination.map Pagination.pageCount).getD pageCount
        match readPages client token call kind (page + 1) known after with
        | (.error fault, final) => (.error fault, final)
        | (.ok others, final) => (.ok (entries ++ others), final)
  else
    (.ok [], wire)
termination_by wire => wire.replies.length
decreasing_by exact Client.fetch_replies_length _answered

/-- The day on which an entry was added. -/
def addedOn (entry : Json) : Except Fault String := do
  match ← entry.memberOrElse "added_to_watchlist_at" (.str "") with
  | .str time =>
    let day := String.ofList (Text.before 'T' time.toList)
    return if day.isEmpty then "unknown" else day
  | _ => throw .noMembers

/-- The work that an entry is about: a show, a movie or an anime. -/
def workOf (entry : Json) : Except Fault Json := do
  let series ← entry.member "show"
  let movie ← entry.member "movie"
  let anime ← entry.member "anime"
  return ((series.orElse movie).orElse anime).orElse (.obj [])

/-- The line of an entry of the user's list. -/
def watchlistLine (index : Nat) (entry : Json) : Except Fault String := do
  let work ← workOf entry
  let id ← (← work.part "ids").memberOrElse "simkl" (.str "unknown")
  let added ← addedOn entry
  let title ← work.memberOrElse "title" (.str "unknown")
  let year ← work.memberOrElse "year" (.str "N/A")
  return s!"{index}: [SIMKL #{id.toText}] - {title.toText} ({year.toText}) - added on {added}"

/-- Reads a list of the user. -/
def readWatchlist (client : Client) (token : Option String) (uri kind status : String) :
    Talk (List ResourceContent) := do
  let call ← Talk.ofResult (watchlistCall kind status)
  let entries ← readPages client token call kind 1 1
  let lines ← Talk.ofResult (entries.zipIdx.mapM fun (entry, index) => watchlistLine index entry)
  return ResourceContent.ofLines uri lines s!"no {kind} with status {status}"

/-! ## Titles that are watched most -/

/-- The call for the titles of a kind that are watched most in an interval. -/
def trendingCall (kind interval : String) : Except Fault Call := do
  let kind ← encodePathValue "type" (.str kind)
  let interval ← encodePathValue "interval" (.str interval)
  return ⟨s!"/{kind}/trending/{interval}", "GET", [("extended", .str "full")], none⟩

/-- The line of a title. -/
def trendingLine (index : Nat) (item : Json) : Except Fault String := do
  let ids ← item.part "ids"
  let rating ← (← (← item.part "ratings").part "simkl").memberOrElse "rating" (.str "N/A")
  let id := ((← ids.member "simkl").orElse (← ids.member "simkl_id")).orElse (.str "unknown")
  let title ← item.memberOrElse "title" (.str "unknown")
  let year ← item.memberOrElse "year" (.str "N/A")
  let known := s!"[SIMKL #{id.toText}] - {title.toText} ({year.toText})"
  return s!"{index}: {known} - rating: {rating.toText}"

/-- Reads the titles of a kind that are watched most in an interval. They are the same for everyone,
so no access token is sent. -/
def readTrending (client : Client) (uri kind interval : String) : Talk (List ResourceContent) := do
  let call ← Talk.ofResult (trendingCall kind interval)
  let answer ← client.fetch none call
  let items ← Talk.ofResult (answer.data.orElse (.arr [])).elements
  let lines ← Talk.ofResult (items.zipIdx.mapM fun (item, index) => trendingLine index item)
  return ResourceContent.ofLines uri lines s!"no trending {kind} for {interval}"

/-! ## Reading by address -/

/-- Reads the resource of a family for values of its variables. -/
def read (template : ResourceTemplate) (client : Client) (token : Option String)
    (uri first second : String) : Talk (List ResourceContent) :=
  match template with
  | .watchlist => readWatchlist client token uri first second
  | .trending => readTrending client uri first second

end ResourceTemplate

/-- Reads the resource at an address. Its family is the first one that the address belongs to. -/
def readResource (client : Client) (token : Option String) (uri : String) :
    Talk (List ResourceContent) :=
  let found := ResourceTemplate.all.findSome? fun template =>
    (template.match? uri.toList).map fun values => (template, values)
  match found with
  | some (template, first, second) =>
    template.read client token uri (String.ofList first) (String.ofList second)
  | none => Talk.ofResult (.error (.unknownResource uri))

end ApiTools
