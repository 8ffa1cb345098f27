import ApiTools.Proofs.Formatter
import ApiTools.Proofs.Resource.Watchlist

/-!
# Headings of entries

The tool and the resource put the entries of the user's list into words each in its own way. In
both, the line of an entry begins with the same heading, which says the place of the entry in the
list and the id, title and year of the work that the entry is about, as far as they are known.
-/

namespace ApiTools

open Binding

namespace Json

/-- What a value says under a key; null, where it says nothing. -/
def told (value : Json) (key : String) : Json :=
  match value with
  | .obj fields => (Keyed.get? key fields).getD .null
  | _ => .null

theorem orElse_assoc (first second third : Json) :
    (first.orElse second).orElse third = first.orElse (second.orElse third) := by
  cases filled : first.isFilled <;> simp [orElse, filled]

theorem orElse_nil_of_arr (items : List Json) : (arr items).orElse (.arr []) = .arr items := by
  cases items <;> rfl

variable {value other found : Json} {key : String}

theorem eq_told_of_member (done : value.member key = .ok found) : found = value.told key := by
  cases value with
  | obj fields => exact (Except.ok.inj done).symm
  | null | bool _ | int _ | float _ | str _ | arr _ => cases done

theorem eq_told_of_memberOrElse (done : value.memberOrElse key other = .ok found) :
    found = (value.told key).orElse other := by
  obtain ⟨member, isMember, isFound⟩ := bind_eq_ok_iff.1 done
  rw [← Except.ok.inj isFound, eq_told_of_member isMember]

end Json

/-! ## One heading -/

/-- The work that an entry tells of: a show, a movie or an anime. -/
def workTold (entry : Json) : Json :=
  ((entry.told "show").orElse ((entry.told "movie").orElse (entry.told "anime"))).orElse (.obj [])

/-- How the line of an entry begins. -/
def heading (index : Nat) (entry : Json) : String :=
  let work := workTold entry
  let id := (((work.told "ids").orElse (.obj [])).told "simkl").orElse (.str "unknown")
  let title := (work.told "title").orElse (.str "unknown")
  let year := (work.told "year").orElse (.str "N/A")
  s!"{index}: [SIMKL #{id.toText}] - {title.toText} ({year.toText})"

namespace Formatter

variable {index : Nat} {entry : Json} {line : String}

theorem eq_workTold_of_work {done : Json} (isWork : work entry = .ok done) :
    done = workTold entry := by
  simp only [work, bind_eq_ok_iff, pure_eq_ok, Except.ok.injEq] at isWork
  obtain ⟨series, isSeries, movie, isMovie, anime, isAnime, rfl⟩ := isWork
  rw [Json.eq_told_of_member isSeries, Json.eq_told_of_member isMovie,
    Json.eq_told_of_member isAnime, Json.orElse_assoc (entry.told "show"), workTold]

theorem eq_heading_of_workLine (done : workLine index entry = .ok line) :
    line = heading index entry := by
  simp only [workLine, bind_eq_ok_iff, pure_eq_ok, Except.ok.injEq] at done
  obtain ⟨work, isWork, title, isTitle, year, isYear, ids, isIds, id, isId, rfl⟩ := done
  obtain rfl := eq_workTold_of_work isWork
  rw [Json.eq_told_of_memberOrElse isTitle, Json.eq_told_of_memberOrElse isYear,
    Json.eq_told_of_memberOrElse isId, Json.eq_told_of_memberOrElse isIds, heading]

/-- After the heading, the tool says how many episodes have been watched, if that is known. -/
theorem exists_eq_heading_of_entryLine (done : entryLine index entry = .ok line) :
    line = heading index entry ∨
      ∃ watched total : Json,
        line = heading index entry ++ s!" - {watched.toText}/{total.toText} episodes" := by
  simp only [entryLine, bind_eq_ok_iff] at done
  obtain ⟨start, isStart, watched, -, total, -, positive, -, isLine⟩ := done
  obtain rfl := eq_heading_of_workLine isStart
  split at isLine
  · refine Or.inr ⟨watched, total, ?_⟩
    rw [← Except.ok.inj isLine]
    simp [toString, String.append_assoc]
  · exact Or.inl (Except.ok.inj isLine).symm

end Formatter

namespace ResourceTemplate

variable {index : Nat} {entry : Json} {line : String}

theorem eq_workTold_of_workOf {done : Json} (isWork : workOf entry = .ok done) :
    done = workTold entry := by
  simp only [workOf, bind_eq_ok_iff, pure_eq_ok, Except.ok.injEq] at isWork
  obtain ⟨series, isSeries, movie, isMovie, anime, isAnime, rfl⟩ := isWork
  rw [Json.eq_told_of_member isSeries, Json.eq_told_of_member isMovie,
    Json.eq_told_of_member isAnime, Json.orElse_assoc (entry.told "show"), workTold]

/-- After the heading, the resource says when the entry was added. -/
theorem exists_eq_heading_of_watchlistLine (done : watchlistLine index entry = .ok line) :
    ∃ day : String, line = heading index entry ++ s!" - added on {day}" := by
  simp only [watchlistLine, bind_eq_ok_iff, pure_eq_ok, Except.ok.injEq] at done
  obtain ⟨work, isWork, ids, isIds, id, isId, day, -, title, isTitle, year, isYear, rfl⟩ := done
  obtain rfl := eq_workTold_of_workOf isWork
  refine ⟨day, ?_⟩
  rw [Json.eq_told_of_memberOrElse isTitle, Json.eq_told_of_memberOrElse isYear,
    Json.eq_told_of_memberOrElse isId, Json.eq_told_of_memberOrElse isIds, heading]
  -- the source writes the end of the heading and what follows it in one piece
  have parted : ") - added on " = ")" ++ " - added on " := by decide
  simp only [toString, String.append_assoc]
  rw [parted, String.append_assoc]

end ResourceTemplate

/-! ## All headings -/

/-- Lines that are made one by one stand at the places of their items. -/
theorem exists_getElem?_of_numbered {line : Nat → Json → Except Fault String} {items : List Json}
    {lines : List String}
    (made : items.zipIdx.mapM (fun (item, index) => line index item) = .ok lines) :
    lines.length = items.length ∧
      ∀ place item, items[place]? = some item →
        ∃ text, lines[place]? = some text ∧ line place item = .ok text := by
  have each := mapM_eq_ok_iff.1 made
  have sameLength := each.length_eq
  rw [List.length_zipIdx] at sameLength
  refine ⟨sameLength.symm, fun place item isItem => ?_⟩
  obtain ⟨inRange, rfl⟩ := List.getElem?_eq_some_iff.1 isItem
  have isLine := each.get (i := place) (by rwa [List.length_zipIdx]) (by rwa [← sameLength])
  refine ⟨_, List.getElem?_eq_getElem (by rwa [← sameLength]), ?_⟩
  simpa using isLine

namespace Formatter

variable {fields : List (String × Json)} {items : List Json} {args : Json} {kind status : String}

/-- The tool puts the first twenty entries of a page into words. -/
theorem apply_watchlist_of_ne_nil (isList : Keyed.get? kind fields = some (.arr items))
    (givenKind : args.member "type" = .ok (.str kind)) (nonempty : items ≠ []) :
    Formatter.apply .watchlist (.obj fields) args =
      (numbered entryLine (items.take 20)).map .many := by
  have isFilled : (Json.arr items).isFilled = true := by
    cases items with
    | nil => exact absurd rfl nonempty
    | cons item rest => rfl
  rw [Formatter.apply, watchlistContent, givenKind, ok_bind, entriesOf, Json.memberOrElse_obj,
    isList, Option.getD_some, Json.orElse_nil_of_arr, ok_bind, if_pos isFilled]
  exact bind_ok_eq_map

/-- Of no entries the tool says that there are none. -/
theorem apply_watchlist_of_nil (isList : Keyed.get? kind fields = some (.arr []))
    (givenKind : args.member "type" = .ok (.str kind))
    (givenStatus : args.member "status" = .ok (.str status)) :
    Formatter.apply .watchlist (.obj fields) args =
      .ok (.many [s!"no {kind} with status {status}"]) := by
  have same (text : String) : (Json.str text).toText = text := String.ofList_toList
  rw [Formatter.apply, watchlistContent, givenKind, ok_bind, entriesOf, Json.memberOrElse_obj,
    isList, Option.getD_some, Json.orElse_nil_of_arr, ok_bind, if_neg (by decide), givenStatus,
    ok_bind, same, same]
  rfl

end Formatter

namespace ResourceTemplate

open Http

/-- Asking for a list of the user gives one page with what the service says, which speaks of no
further pages. -/
def IsSinglePage (client : Client) (token : Option String) (kind status : String) (wire : Wire)
    (page : Json) : Prop :=
  ∃ call answer after, watchlistCall kind status = .ok call ∧
    client.fetch token (pageCall call 1) wire = (.ok answer, after) ∧ answer.data = page ∧
    ∀ pagination, answer.pagination = some pagination → pagination.pageCount ≤ 1

variable {client : Client} {token : Option String} {uri kind status : String} {wire : Wire}
  {fields : List (String × Json)} {items : List Json}

/-- The resource puts the entries of a single page into words. -/
theorem readWatchlist_of_isSinglePage
    (single : IsSinglePage client token kind status wire (.obj fields))
    (isList : Keyed.get? kind fields = some (.arr items)) :
    (readWatchlist client token uri kind status wire).1 = contentsOf uri kind status items := by
  obtain ⟨call, answer, after, isCall, fetched, isPage, noMore⟩ := single
  cases made : client.request token (pageCall call 1) with
  | error fault =>
      rw [Client.fetch_apply_of_error made] at fetched
      cases (Prod.mk.inj fetched).1
  | ok request =>
      rw [Client.fetch_apply made] at fetched
      have answered := (Prod.mk.inj fetched).1
      have entries : pageEntries kind answer.data = .ok items := by
        rw [isPage, pageEntries, Json.memberOrElse_obj, isList, Option.getD_some,
          Json.orElse_nil_of_arr, ok_bind, Json.elements]
      have behind : (answer.pagination.map Pagination.pageCount).getD 1 < 1 + 1 := by
        cases isPagination : answer.pagination with
        | none => decide
        | some pagination => exact Int.lt_add_one_of_le (noMore pagination isPagination)
      rw [readWatchlist_apply isCall, readPages_apply le_rfl made, answered]
      dsimp only
      rw [entries]
      dsimp only
      rw [readPages_of_lt behind]
      simp [Except.map, ok_bind]

theorem contentsOf_nil (uri kind status : String) :
    contentsOf uri kind status [] = .ok [⟨uri, s!"no {kind} with status {status}"⟩] := rfl

/-- The resource has a content for every entry, at its place. -/
theorem exists_getElem?_of_contentsOf {contents : List ResourceContent} (nonempty : items ≠ [])
    (done : contentsOf uri kind status items = .ok contents) :
    contents.length = items.length ∧
      ∀ place item, items[place]? = some item →
        ∃ line, contents[place]? = some ⟨s!"{uri}#{place}", line⟩ ∧
          watchlistLine place item = .ok line := by
  obtain ⟨lines, made, rfl⟩ := map_eq_ok_iff.1 done
  obtain ⟨sameLength, each⟩ := exists_getElem?_of_numbered made
  have notEmpty : lines.isEmpty = false := by
    rw [List.isEmpty_eq_false_iff, ← List.length_pos_iff, sameLength]
    exact List.length_pos_iff.2 nonempty
  rw [ResourceContent.ofLines, if_neg (by simp [notEmpty])]
  refine ⟨by simpa using sameLength, fun place item isItem => ?_⟩
  obtain ⟨line, isLine, made⟩ := each place item isItem
  exact ⟨line, by simp [isLine], made⟩

end ResourceTemplate

/-- The tool and the resource say the same of an empty list. Of any other the tool shows the first
twenty entries and the resource all of them, and their lines for an entry begin with the same
heading: after it the tool speaks of the episodes watched, and the resource of the day on which the
entry was added. -/
theorem headings_agree {client : Client} {token : Option String} {uri kind status : String}
    {wire : Http.Wire} {fields : List (String × Json)} {items : List Json} {args : Json}
    {content : Content} {contents : List ResourceContent}
    (isList : Keyed.get? kind fields = some (.arr items))
    (givenKind : args.member "type" = .ok (.str kind))
    (givenStatus : args.member "status" = .ok (.str status))
    (single : ResourceTemplate.IsSinglePage client token kind status wire (.obj fields))
    (formatted : Formatter.apply .watchlist (.obj fields) args = .ok content)
    (wasRead : (ResourceTemplate.readWatchlist client token uri kind status wire).1 =
      .ok contents) :
    (items = [] → ∃ text, content = .many [text] ∧ contents = [⟨uri, text⟩]) ∧
      (items ≠ [] → ∃ lines, content = .many lines ∧ lines.length = min 20 items.length ∧
        contents.length = items.length ∧
        ∀ place item, place < 20 → items[place]? = some item →
          ∃ line shown tail, ∃ day : String, lines[place]? = some line ∧
            contents[place]? = some shown ∧ line = heading place item ++ tail ∧
            shown.text = heading place item ++ s!" - added on {day}" ∧
            (tail = "" ∨ ∃ watched total : Json,
              tail = s!" - {watched.toText}/{total.toText} episodes")) := by
  rw [ResourceTemplate.readWatchlist_of_isSinglePage single isList] at wasRead
  constructor
  · rintro rfl
    rw [Formatter.apply_watchlist_of_nil isList givenKind givenStatus] at formatted
    rw [ResourceTemplate.contentsOf_nil] at wasRead
    exact ⟨_, (Except.ok.inj formatted).symm, (Except.ok.inj wasRead).symm⟩
  · intro nonempty
    rw [Formatter.apply_watchlist_of_ne_nil isList givenKind nonempty] at formatted
    obtain ⟨lines, made, rfl⟩ := map_eq_ok_iff.1 formatted
    obtain ⟨sameLength, each⟩ := exists_getElem?_of_numbered made
    obtain ⟨allShown, eachShown⟩ := ResourceTemplate.exists_getElem?_of_contentsOf nonempty wasRead
    refine ⟨lines, rfl, by rw [sameLength, List.length_take], allShown, ?_⟩
    intro place item early isItem
    obtain ⟨line, isLine, lineMade⟩ := each place item (by rwa [List.getElem?_take_of_lt early])
    obtain ⟨shown, isShown, shownMade⟩ := eachShown place item isItem
    obtain ⟨day, rfl⟩ := ResourceTemplate.exists_eq_heading_of_watchlistLine shownMade
    rcases Formatter.exists_eq_heading_of_entryLine lineMade with rfl | ⟨watched, total, rfl⟩
    · exact ⟨_, _, "", day, isLine, isShown, String.append_empty.symm, rfl, Or.inl rfl⟩
    · exact ⟨_, _, _, day, isLine, isShown, rfl, rfl, Or.inr ⟨watched, total, rfl⟩⟩

/-- A movie under an empty show, of which only the year is known. -/
def untitledEntry : Json :=
  .obj [("show", .obj []), ("movie", .obj [("title", .arr []), ("year", .int 1999)])]

/-- A title and a year that are no texts. -/
def numberedEntry : Json :=
  .obj [("movie", .null), ("anime", .obj [("title", .int 300), ("year", .bool true),
    ("ids", .obj [("simkl", .int 7)])]), ("total_episodes_count", .int 12)]

/-- A page with both entries. -/
def oddPage : Http.Reply :=
  let text :=
    "\x7b\"movies\": [\x7b\"show\": \x7b\x7d, \"movie\": \x7b\"title\": [], \"year\": 1999\x7d\x7d,"
      ++ " \x7b\"movie\": null, \"anime\": \x7b\"title\": 300, \"year\": true,"
      ++ " \"ids\": \x7b\"simkl\": 7\x7d\x7d, \"total_episodes_count\": 12\x7d]\x7d"
  .response ⟨200, [], [text.toList.map fun c => UInt8.ofNat c.toNat]⟩

set_option maxRecDepth 20000 in
/-- The tool and the resource begin the line of each of these entries alike. -/
theorem headings_agree_of_oddPage :
    ∃ lines contents,
      Formatter.apply .watchlist (.obj [("movies", .arr [untitledEntry, numberedEntry])])
        (.obj [("type", .str "movies"), ("status", .str "hold")]) = .ok (.many lines) ∧
      (ResourceTemplate.readWatchlist ⟨"https://host", "id"⟩ none "uri" "movies" "hold"
        ⟨[oddPage], []⟩).1 = .ok contents ∧
      lines.length = 2 ∧ contents.length = 2 ∧
      heading 0 untitledEntry = "0: [SIMKL #unknown] - unknown (1999)" ∧
      heading 1 numberedEntry = "1: [SIMKL #7] - 300 (True)" ∧
      ∃ line shown tail, ∃ day : String, lines[1]? = some line ∧ contents[1]? = some shown ∧
        line = heading 1 numberedEntry ++ tail ∧
        shown.text = heading 1 numberedEntry ++ s!" - added on {day}" := by
  have asked : ((ResourceTemplate.watchlistCall "movies" "hold").toOption.any fun call =>
      decide ((Client.fetch ⟨"https://host", "id"⟩ none (ResourceTemplate.pageCall call 1)
        ⟨[oddPage], []⟩).1 =
          .ok ⟨.obj [("movies", .arr [untitledEntry, numberedEntry])], none⟩)) = true := by
    decide +kernel
  obtain ⟨call, isCall, fetched⟩ := exists_eq_ok_of_any asked
  have single : ResourceTemplate.IsSinglePage ⟨"https://host", "id"⟩ none "movies" "hold"
      ⟨[oddPage], []⟩ (.obj [("movies", .arr [untitledEntry, numberedEntry])]) :=
    ⟨call, _, _, isCall, Prod.ext (of_decide_eq_true fetched) rfl, rfl, by simp⟩
  obtain ⟨content, formatted⟩ : ∃ content, Formatter.apply .watchlist
      (.obj [("movies", .arr [untitledEntry, numberedEntry])])
      (.obj [("type", .str "movies"), ("status", .str "hold")]) = .ok content :=
    exists_eq_ok_of_isOk (by decide +kernel)
  obtain ⟨contents, wasRead⟩ : ∃ contents, (ResourceTemplate.readWatchlist ⟨"https://host", "id"⟩
      none "uri" "movies" "hold" ⟨[oddPage], []⟩).1 = .ok contents := by
    rw [ResourceTemplate.readWatchlist_of_isSinglePage single rfl]
    exact exists_eq_ok_of_isOk (by decide +kernel)
  obtain ⟨lines, rfl, countLines, countContents, each⟩ :=
    (headings_agree rfl rfl rfl single formatted wasRead).2 (List.cons_ne_nil _ _)
  obtain ⟨line, shown, tail, day, isLine, isShown, lineBegins, shownBegins, -⟩ :=
    each 1 numberedEntry (by decide) rfl
  exact ⟨lines, contents, formatted, wasRead, countLines, countContents, by decide +kernel,
    by decide +kernel, line, shown, tail, day, isLine, isShown, lineBegins, shownBegins⟩

end ApiTools
