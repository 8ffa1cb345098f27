import ApiTools.Fault
import ApiTools.Text.Case

/-!
# Tool names

Every operation that can be a tool has its name in a fixed table. A path that is not in it has no
name: a new operation is named by a person.
-/

namespace ApiTools.ToolName

/-- The paths of the service's operations with the names of their tools. -/
def table : List (String × String) := [
  ("/search/:type", "simkl_search_by_text"),
  ("/search/id", "simkl_search_by_id"),
  ("/scrobble/start", "simkl_start_watching"),
  ("/scrobble/pause", "simkl_pause_watching"),
  ("/scrobble/stop", "simkl_stop_watching"),
  ("/sync/add-to-list", "simkl_add_to_watchlist"),
  ("/sync/history", "simkl_mark_watched"),
  ("/sync/history/remove", "simkl_remove_from_history"),
  ("/sync/ratings", "simkl_add_rating"),
  ("/sync/ratings/remove", "simkl_remove_rating"),
  ("/sync/all-items/:type/:status", "simkl_get_watchlist"),
  ("/tv/trending/:interval", "simkl_get_trending_shows"),
  ("/movies/trending/:interval", "simkl_get_trending_movies"),
  ("/anime/trending/:interval", "simkl_get_trending_anime"),
  ("/tv/:id", "simkl_get_show_by_id"),
  ("/movies/:id", "simkl_get_movie_by_id"),
  ("/anime/:id", "simkl_get_anime_by_id"),
  ("/tv/episodes/:id", "simkl_get_show_episodes"),
  ("/anime/episodes/:id", "simkl_get_anime_episodes"),
  ("/tv/best/:filter", "simkl_get_best_shows"),
  ("/anime/best/:filter", "simkl_get_best_anime"),
  ("/tv/airing?:date", "simkl_get_airing_shows"),
  ("/anime/airing?:date", "simkl_get_airing_anime"),
  ("/tv/genres/:genre/:type/:country/:network/:year/:sort", "simkl_get_shows_by_genre"),
  ("/anime/genres/:genre/:type/:network/:year/:sort", "simkl_get_anime_by_genre"),
  ("/movies/genres/:genre/:type/:country/:year/:sort", "simkl_get_movies_by_genre"),
  ("/users/:user_id/stats", "simkl_get_user_stats")]

/-- The name of the tool for a path. -/
def ofPath (path : String) : Except Fault String :=
  match table.lookup path with
  | some name => .ok name
  | none => .error (.unnamedPath path)

/-- The name of a tool's argument model: the parts between underscores, each capitalised. -/
def modelName (name : String) : String :=
  String.ofList ((name.toList.splitOn '_').flatMap Text.capitalize) ++ "Arguments"

end ApiTools.ToolName
