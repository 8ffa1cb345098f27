import ApiTools.Formatter
import ApiTools.Proofs.Fault

/-!
# What formatters accept

Every formatter expects responses of a certain shape, or arguments of one. What does not have this
shape stops it; all else is put into words.
-/

namespace ApiTools

open ApiTools.Binding

namespace Json

/-- An object. -/
def isObject : Json → Bool
  | .obj _ => true
  | _ => false

/-- An object whose member at a key is an object too, or says nothing. -/
def hasPart (value : Json) (key : String) : Bool :=
  match value.part key with
  | .ok part => part.isObject
  | .error _ => false

/-- A list in which the first items fit, or a value that says nothing. -/
def isListOf (count : Nat) (fits : Json → Bool) : Json → Bool
  | .arr items => (items.take count).all fits
  | value => !value.isFilled

/-! ## Members -/

theorem isOk_memberOr (value : Json) (key : String) (default : Json) :
    (value.memberOr key default).isOk = value.isObject := by
  cases value <;> rfl

theorem isOk_member (value : Json) (key : String) : (value.member key).isOk = value.isObject :=
  isOk_memberOr value key .null

theorem isOk_memberOrElse (value : Json) (key : String) (other : Json) :
    (value.memberOrElse key other).isOk = value.isObject := by
  rw [memberOrElse, isOk_bind_pure, isOk_member]

theorem isOk_part (value : Json) (key : String) : (value.part key).isOk = value.isObject :=
  isOk_memberOrElse value key (.obj [])

theorem memberOrElse_obj (fields : List (String × Json)) (key : String) (other : Json) :
    (Json.obj fields).memberOrElse key other =
      .ok (((Keyed.get? key fields).getD .null).orElse other) := rfl

theorem isListOf_of_not_isFilled {count : Nat} {fits : Json → Bool} {value : Json}
    (notFilled : value.isFilled = false) : value.isListOf count fits = true := by
  cases value with
  | arr items =>
      have noItems : items = [] := by simpa [isFilled] using notFilled
      rw [noItems, isListOf, List.take_nil, List.all_nil]
  | null | bool _ | int _ | float _ | str _ | obj _ => simp [isListOf, notFilled]

theorem isListOf_orElse_nil (count : Nat) (fits : Json → Bool) (value : Json) :
    (value.orElse (.arr [])).isListOf count fits = value.isListOf count fits := by
  cases filled : value.isFilled with
  | true => rw [orElse, if_pos filled]
  | false =>
      rw [orElse, if_neg (by simp [filled]), isListOf_of_not_isFilled filled, isListOf,
        List.take_nil, List.all_nil]

theorem isObject_of_hasPart {value : Json} {key : String} (has : value.hasPart key = true) :
    value.isObject = true := by
  rw [← isOk_part value key]
  unfold hasPart at has
  split at has
  · next found => rw [found, isOk_ok]
  · cases has

/-- What needs a part to be an object, and nothing else that may lack. -/
theorem isOk_bind_part {α : Type} {value : Json} {key : String} {next : Json → Except Fault α}
    (after : Bool) (follows : ∀ part, (next part).isOk = (part.isObject && after)) :
    (value.part key >>= next).isOk = (value.hasPart key && after) := by
  rw [hasPart]
  cases found : value.part key with
  | ok part => rw [ok_bind, follows]
  | error fault => rfl

end Json

namespace Formatter

open Json

/-! ## Lines -/

theorem isOk_year (item : Json) : (year item).isOk = item.isObject :=
  isOk_memberOrElse item "year" (.str "N/A")

theorem isOk_itemId (item : Json) : (itemId item).isOk = item.hasPart "ids" := by
  rw [itemId, isOk_bind_part true fun ids => ?_, Bool.and_true]
  rw [isOk_bind _ fun _ _ => isOk_bind_pure, isOk_member, isOk_member, Bool.and_self,
    Bool.and_true]

theorem hasPart_and_isObject (item : Json) (key : String) :
    (item.hasPart key && item.isObject) = item.hasPart key := by
  rw [Bool.and_eq_left_iff_imp]
  exact isObject_of_hasPart

theorem isOk_titleLine (index : Nat) (item : Json) :
    (titleLine index item).isOk = item.hasPart "ids" := by
  rw [titleLine, isOk_bind item.isObject fun id _ => ?_, isOk_itemId, hasPart_and_isObject]
  rw [isOk_bind item.isObject fun title _ => ?_, isOk_member, Bool.and_self]
  rw [isOk_bind_pure, isOk_year]

theorem isOk_searchLine (index : Nat) (item : Json) :
    (searchLine index item).isOk = item.hasPart "ids" := by
  rw [searchLine, isOk_bind_part item.isObject fun ids => ?_, hasPart_and_isObject]
  rw [isOk_bind (item.isObject && ids.isObject) fun id _ => ?_, isOk_member]
  · rw [Bool.and_comm item.isObject, Bool.and_self_left]
  · rw [isOk_bind (item.isObject && ids.isObject) fun title _ => ?_, isOk_member,
      Bool.and_self_left]
    rw [isOk_bind ids.isObject fun year _ => ?_, isOk_year]
    rw [isOk_bind_pure, isOk_memberOrElse]

/-- The item has room for the rating by the service's users. -/
def hasRating (item : Json) : Bool :=
  match item.part "ratings" with
  | .ok ratings => ratings.hasPart "simkl"
  | .error _ => false

theorem isOk_rating (item : Json) : (rating item).isOk = hasRating item := by
  rw [rating, hasRating]
  cases item.part "ratings" with
  | ok ratings =>
      rw [ok_bind, isOk_bind_part true fun own => ?_, Bool.and_true]
      rw [isOk_memberOrElse, Bool.and_true]
  | error fault => rfl

theorem isOk_bestLine (index : Nat) (item : Json) :
    (bestLine index item).isOk = (hasRating item && item.hasPart "ids") := by
  rw [bestLine, isOk_bind (item.hasPart "ids") fun rating _ => ?_, isOk_rating]
  rw [isOk_bind_pure, isOk_titleLine]

theorem isOk_airingLine (index : Nat) (item : Json) :
    (airingLine index item).isOk = (item.hasPart "episode" && item.hasPart "ids") := by
  rw [airingLine, isOk_bind_part (item.hasPart "ids") fun episode => ?_]
  rw [isOk_bind (item.hasPart "ids") fun number _ => ?_, isOk_memberOrElse]
  rw [isOk_bind item.isObject fun id _ => ?_, isOk_itemId, hasPart_and_isObject]
  rw [isOk_bind item.isObject fun title _ => ?_, isOk_member, Bool.and_self]
  rw [isOk_bind_pure, isOk_memberOrElse]

/-- A value that can be compared with zero. -/
def isComparable : Json → Bool
  | .int _ | .float _ | .bool _ => true
  | _ => false

theorem isOk_isPositive (value : Json) : (isPositive value).isOk = isComparable value := by
  cases value <;> rfl

/-- An entry of the user's list, about a work that is an object. The number of its episodes, where
it is given, can be compared with zero. -/
def isEntry (entry : Json) : Bool :=
  match work entry, entry.memberOrElse "total_episodes_count" (.int 0) with
  | .ok work, .ok total => work.hasPart "ids" && isComparable total
  | _, _ => false

theorem isOk_workLine (index : Nat) {entry about : Json} (found : work entry = .ok about) :
    (workLine index entry).isOk = about.hasPart "ids" := by
  rw [workLine, found, ok_bind, isOk_bind (about.hasPart "ids") fun title _ => ?_,
    isOk_memberOrElse, Bool.and_comm, hasPart_and_isObject]
  rw [isOk_bind (about.hasPart "ids") fun year _ => ?_, isOk_year, Bool.and_comm,
    hasPart_and_isObject]
  rw [isOk_bind_part true fun ids => ?_, Bool.and_true]
  rw [isOk_bind_pure, isOk_memberOrElse, Bool.and_true]

theorem exists_fields_of_work {entry about : Json} (found : work entry = .ok about) :
    ∃ fields, entry = .obj fields := by
  cases entry with
  | obj fields => exact ⟨fields, rfl⟩
  | null | bool _ | int _ | float _ | str _ | arr _ => cases found

theorem isOk_entryLine (index : Nat) (entry : Json) :
    (entryLine index entry).isOk = isEntry entry := by
  rw [isEntry]
  cases found : work entry with
  | error fault =>
      have stopped : workLine index entry = .error fault := by rw [workLine, found, error_bind]
      rw [entryLine, stopped]
      rfl
  | ok about =>
      obtain ⟨fields, rfl⟩ := exists_fields_of_work found
      rw [entryLine, isOk_bind (isComparable (((Keyed.get? "total_episodes_count" fields).getD
        .null).orElse (.int 0))) fun line _ => ?_, isOk_workLine index found]
      · rfl
      · rw [memberOrElse_obj, ok_bind, memberOrElse_obj, ok_bind,
          isOk_bind true fun positive _ => ?_, isOk_isPositive, Bool.and_true]
        cases positive <;> rfl

/-! ## Lists -/

theorem isOk_numbered {line : Nat → Json → Except Fault String} {fits : Json → Bool}
    (isOk_line : ∀ index item, (line index item).isOk = fits item) (items : List Json) :
    (numbered line items).isOk = items.all fits := by
  rw [numbered, isOk_mapM]
  have sameItems : (items.zipIdx.all fun indexed => fits indexed.1) = items.all fits := by
    rw [← Function.comp_def fits, ← List.all_map, List.zipIdx_map_fst]
  rw [← sameItems]
  exact congrArg _ (funext fun indexed => isOk_line indexed.2 indexed.1)

section

variable {line : Nat → Json → Except Fault String} {fits : Json → Bool}
  (isOk_line : ∀ index item, (line index item).isOk = fits item)
  (noText : ∀ text, fits (.str text) = false)

include isOk_line noText

/-- The items of a list are put into words. So would be the characters of a text, but they fit no
line. -/
theorem isOk_numbered_firstItems {count : Nat} (positive : 0 < count) {value : Json}
    (filled : value.isFilled = true) :
    (do return Content.many (← numbered line (← firstItems count value)) :
      Except Fault Content).isOk = value.isListOf count fits := by
  cases value with
  | arr items =>
      rw [firstItems, ok_bind, isOk_bind_pure, isOk_numbered isOk_line]
      rfl
  | str text =>
      have notEmpty : text.toList ≠ [] := by
        simpa [isFilled] using filled
      obtain ⟨c, rest, characters⟩ := List.exists_cons_of_ne_nil notEmpty
      obtain ⟨more, rfl⟩ := Nat.exists_eq_add_one.2 positive
      have firsts : firstItems (more + 1) (.str text) = .ok (.str (String.ofList [c]) ::
          (rest.map fun c => .str (String.ofList [c])).take more) := by
        rw [firstItems, elements, characters]
        rfl
      rw [firsts, ok_bind, isOk_bind_pure, isOk_numbered isOk_line, List.all_cons, noText,
        Bool.false_and, isListOf, filled]
      · rfl
      · simp
  | null | bool _ | int _ | float _ | obj _ => simp [firstItems, isListOf, filled]

/-- Where there is something it is put into words as a list; otherwise something else is said. -/
theorem isOk_listOr {count : Nat} (positive : 0 < count) {otherwise : Except Fault Content}
    (otherwiseOk : otherwise.isOk = true) (value : Json) :
    (if value.isFilled then do
      return Content.many (← numbered line (← firstItems count value))
    else otherwise).isOk = value.isListOf count fits := by
  split
  · next filled => exact isOk_numbered_firstItems isOk_line noText positive filled
  · next notFilled =>
      rw [Bool.not_eq_true] at notFilled
      rw [otherwiseOk, isListOf_of_not_isFilled notFilled]

theorem isOk_listContent (response : Json) :
    (listContent line response).isOk = response.isListOf 20 fits := by
  have whole : listContent line response = if response.isFilled then do
      return Content.many (← numbered line (← firstItems 20 response))
    else .ok (.many []) := by
    rw [listContent, orElse]
    split
    · next filled => rfl
    · next notFilled => rfl
  rw [whole]
  exact isOk_listOr isOk_line noText (by decide) rfl response

end

/-! ## Responses -/

/-- The work of a kind that the arguments name, either as an argument or in the body. -/
def workNamed (args : List (String × Json)) (body : Json) (kind : String) : Except Fault Json :=
  let given := (Keyed.get? kind args).getD .null
  if given.isFilled then .ok given else body.member kind

/-- The works that the arguments name are objects, up to the first one with a title. -/
def haveTitle (args : List (String × Json)) (body : Json) : List String → Bool
  | [] => true
  | kind :: rest =>
    match workNamed args body kind with
    | .ok (.obj work) =>
      ((Keyed.get? "title" work).getD .null).isFilled || haveTitle args body rest
    | .ok work => !work.isFilled && haveTitle args body rest
    | .error _ => false

theorem argumentTitle_cons (args : List (String × Json)) (body : Json) (kind : String)
    (rest : List String) : argumentTitle (.obj args) body (kind :: rest) = (do
      let work ← workNamed args body kind
      if work.isFilled then
        let title ← work.member "title"
        if title.isFilled then return title
      argumentTitle (.obj args) body rest) := by
  have isGiven : (Json.obj args).member kind = .ok ((Keyed.get? kind args).getD .null) := rfl
  rw [argumentTitle, workNamed, isGiven, ok_bind]
  dsimp only
  split
  · next filled => rfl
  · next notFilled => rfl

theorem isOk_argumentTitle (args : List (String × Json)) (body : Json) (kinds : List String) :
    (argumentTitle (.obj args) body kinds).isOk = haveTitle args body kinds := by
  induction kinds with
  | nil => rfl
  | cons kind rest inductionHypothesis =>
      rw [argumentTitle_cons, haveTitle]
      cases workNamed args body kind with
      | error fault => rfl
      | ok work =>
          cases filled : work.isFilled with
          | false =>
              rw [ok_bind, if_neg (by simp [filled]), inductionHypothesis]
              cases work with
              | obj fields =>
                  have noFields : fields = [] := by simpa [isFilled] using filled
                  rw [noFields]
                  rfl
              | null | bool _ | int _ | float _ | str _ | arr _ => simp [filled]
          | true =>
              rw [ok_bind, if_pos filled]
              cases work with
              | obj fields =>
                  have isThere : (Json.obj fields).member "title" =
                      .ok ((Keyed.get? "title" fields).getD .null) := rfl
                  rw [isThere, ok_bind]
                  split
                  · next titled => simp [titled]
                  · next notTitled => simp [notTitled, inductionHypothesis]
              | null | bool _ | int _ | float _ | str _ | arr _ =>
                  simp [filled, member, memberOr]

/-- The body that the arguments give. -/
def bodyOf (args : List (String × Json)) : Json :=
  ((Keyed.get? "body" args).getD .null).orElse (.obj [])

theorem isOk_titleOf (args : List (String × Json)) (kinds : List String) :
    (titleOf (.obj args) kinds).isOk = haveTitle args (bodyOf args) kinds :=
  isOk_argumentTitle args (bodyOf args) kinds

theorem isOk_playbackContent (state : String) (args : List (String × Json)) :
    (playbackContent state (.obj args)).isOk = haveTitle args (bodyOf args) ["movie", "show"] := by
  rw [playbackContent, isOk_bind_pure, isOk_titleOf]

/-- The arguments say how far playback has come, or have a place where to look for it. -/
def hasProgress (args : List (String × Json)) : Bool :=
  !((Keyed.get? "progress" args).getD .null).isNull || (bodyOf args).isObject

theorem isOk_pauseContent (args : List (String × Json)) :
    (pauseContent (.obj args)).isOk =
      (hasProgress args && haveTitle args (bodyOf args) ["movie", "show"]) := by
  have isGiven : (Json.obj args).member "progress" =
      .ok ((Keyed.get? "progress" args).getD .null) := rfl
  rw [pauseContent, isGiven, ok_bind, hasProgress]
  dsimp only
  split
  · next isNull =>
      have hasBody : (Json.obj args).part "body" = .ok (bodyOf args) := rfl
      rw [hasBody, ok_bind, isOk_bind _ fun progress _ => isOk_playbackContent _ args, isOk_member,
        isNull, Bool.not_true, Bool.false_or]
  · next notNull =>
      rw [Bool.not_eq_true] at notNull
      rw [notNull, Bool.not_false, Bool.true_or, Bool.true_and]
      exact isOk_playbackContent _ args

/-- A page in which the entries of a kind can be shown. In a page that is no object, or under what
is no name of a kind, there are no entries. -/
def isPageOf (kind : Json) : Json → Bool
  | .obj page =>
    match kind with
    | .str kind => ((Keyed.get? kind page).getD .null).isListOf 20 isEntry
    | .arr _ | .obj _ => false
    | _ => true
  | _ => true

theorem isPageOf_eq (kind page : Json) : isPageOf kind page =
    match entriesOf page kind with
    | .ok entries => entries.isListOf 20 isEntry
    | .error _ => false := by
  cases page with
  | obj fields =>
      cases kind with
      | str kind =>
          rw [isPageOf, entriesOf, memberOrElse_obj]
          exact (isListOf_orElse_nil 20 isEntry _).symm
      | null | bool _ | int _ | float _ | arr _ | obj _ => rfl
  | null | bool _ | int _ | float _ | str _ | arr _ => rfl

theorem isOk_watchlistContent (response : Json) (args : List (String × Json)) :
    (watchlistContent response (.obj args)).isOk =
      isPageOf ((Keyed.get? "type" args).getD .null) response := by
  have isGiven : (Json.obj args).member "type" = .ok ((Keyed.get? "type" args).getD .null) := rfl
  rw [watchlistContent, isGiven, ok_bind, isPageOf_eq]
  cases entriesOf response ((Keyed.get? "type" args).getD .null) with
  | error fault => rfl
  | ok entries => exact isOk_listOr isOk_entryLine (fun _ => rfl) (by decide) rfl entries

theorem isOk_searchContent (response : Json) (args : List (String × Json)) :
    (searchContent response (.obj args)).isOk = response.isListOf 10 (·.hasPart "ids") := by
  exact isOk_listOr isOk_searchLine (fun _ => rfl) (by decide) rfl response

/-- The formatter accepts a response to a call with the given arguments. -/
def accepts (formatter : Formatter) (response : Json) (args : List (String × Json)) : Bool :=
  match formatter with
  | .searchResults => response.isListOf 10 (·.hasPart "ids")
  | .scrobbleStart | .scrobbleStop => haveTitle args (bodyOf args) ["movie", "show"]
  | .scrobblePause => hasProgress args && haveTitle args (bodyOf args) ["movie", "show"]
  | .addedToWatchlist => haveTitle args (bodyOf args) ["movie", "show", "anime"]
  | .titleList => response.isListOf 20 (·.hasPart "ids")
  | .bestList => response.isListOf 20 fun item => hasRating item && item.hasPart "ids"
  | .airingList => response.isListOf 20 fun item => item.hasPart "episode" && item.hasPart "ids"
  | .watchlist => isPageOf ((Keyed.get? "type" args).getD .null) response
  | .unnamed _ => true

/-- A formatter puts into words what it accepts, and stops at all else. -/
theorem isOk_apply (formatter : Formatter) (response : Json) (args : List (String × Json)) :
    (formatter.apply response (.obj args)).isOk = formatter.accepts response args := by
  cases formatter with
  | searchResults => exact isOk_searchContent response args
  | scrobbleStart => exact isOk_playbackContent "started" args
  | scrobblePause => exact isOk_pauseContent args
  | scrobbleStop => exact isOk_playbackContent "stopped" args
  | addedToWatchlist =>
      rw [apply, accepts, isOk_bind_pure, isOk_titleOf]
  | titleList => exact isOk_listContent isOk_titleLine (fun _ => rfl) response
  | bestList => exact isOk_listContent isOk_bestLine (fun _ => rfl) response
  | airingList => exact isOk_listContent isOk_airingLine (fun _ => rfl) response
  | watchlist => exact isOk_watchlistContent response args
  | unnamed text => rfl

/-! ## Faults -/

theorem isSilent_memberOr (value : Json) (key : String) (default : Json) :
    IsSilent (value.memberOr key default) := by
  cases value with
  | obj fields => exact isSilent_ok _
  | null | bool _ | int _ | float _ | str _ | arr _ => exact isSilent_error rfl

theorem isSilent_memberOrElse (value : Json) (key : String) (other : Json) :
    IsSilent (value.memberOrElse key other) :=
  isSilent_bind (isSilent_memberOr value key .null) fun _ => isSilent_ok _

theorem isSilent_itemId (item : Json) : IsSilent (itemId item) := by
  refine isSilent_bind (isSilent_memberOrElse item _ _) fun ids => ?_
  refine isSilent_bind (isSilent_memberOr ids _ _) fun _ => ?_
  exact isSilent_bind (isSilent_memberOr ids _ _) fun _ => isSilent_ok _

theorem isSilent_titleLine (index : Nat) (item : Json) : IsSilent (titleLine index item) := by
  refine isSilent_bind (isSilent_itemId item) fun _ => ?_
  refine isSilent_bind (isSilent_memberOr item _ _) fun _ => ?_
  exact isSilent_bind (isSilent_memberOrElse item _ _) fun _ => isSilent_ok _

theorem isSilent_searchLine (index : Nat) (item : Json) : IsSilent (searchLine index item) := by
  refine isSilent_bind (isSilent_memberOrElse item _ _) fun ids => ?_
  refine isSilent_bind (isSilent_memberOr ids _ _) fun _ => ?_
  refine isSilent_bind (isSilent_memberOr item _ _) fun _ => ?_
  refine isSilent_bind (isSilent_memberOrElse item _ _) fun _ => ?_
  exact isSilent_bind (isSilent_memberOrElse ids _ _) fun _ => isSilent_ok _

theorem isSilent_bestLine (index : Nat) (item : Json) : IsSilent (bestLine index item) := by
  have ratingSilent : IsSilent (rating item) := by
    refine isSilent_bind (isSilent_memberOrElse item _ _) fun ratings => ?_
    refine isSilent_bind (isSilent_memberOrElse ratings _ _) fun own => ?_
    exact isSilent_memberOrElse own _ _
  refine isSilent_bind ratingSilent fun _ => ?_
  exact isSilent_bind (isSilent_titleLine index item) fun _ => isSilent_ok _

theorem isSilent_airingLine (index : Nat) (item : Json) : IsSilent (airingLine index item) := by
  refine isSilent_bind (isSilent_memberOrElse item _ _) fun episode => ?_
  refine isSilent_bind (isSilent_memberOrElse episode _ _) fun _ => ?_
  refine isSilent_bind (isSilent_itemId item) fun _ => ?_
  refine isSilent_bind (isSilent_memberOr item _ _) fun _ => ?_
  exact isSilent_bind (isSilent_memberOrElse item _ _) fun _ => isSilent_ok _

theorem isSilent_workLine (index : Nat) (entry : Json) : IsSilent (workLine index entry) := by
  have workSilent : IsSilent (work entry) := by
    refine isSilent_bind (isSilent_memberOr entry _ _) fun _ => ?_
    refine isSilent_bind (isSilent_memberOr entry _ _) fun _ => ?_
    exact isSilent_bind (isSilent_memberOr entry _ _) fun _ => isSilent_ok _
  refine isSilent_bind workSilent fun about => ?_
  refine isSilent_bind (isSilent_memberOrElse about _ _) fun _ => ?_
  refine isSilent_bind (isSilent_memberOrElse about _ _) fun _ => ?_
  refine isSilent_bind (isSilent_memberOrElse about _ _) fun ids => ?_
  exact isSilent_bind (isSilent_memberOrElse ids _ _) fun _ => isSilent_ok _

theorem isSilent_entryLine (index : Nat) (entry : Json) : IsSilent (entryLine index entry) := by
  have comparisonSilent (value : Json) : IsSilent (isPositive value) := by
    cases value with
    | int _ | float _ | bool _ => exact isSilent_ok _
    | null | str _ | arr _ | obj _ => exact isSilent_error rfl
  refine isSilent_bind (isSilent_workLine index entry) fun _ => ?_
  refine isSilent_bind (isSilent_memberOrElse entry _ _) fun _ => ?_
  refine isSilent_bind (isSilent_memberOrElse entry _ _) fun total => ?_
  refine isSilent_bind (comparisonSilent total) fun positive => ?_
  cases positive <;> exact isSilent_ok _

theorem isSilent_titleOf (args : Json) (kinds : List String) : IsSilent (titleOf args kinds) := by
  refine isSilent_bind (isSilent_memberOrElse args _ _) fun body => ?_
  induction kinds with
  | nil => exact isSilent_ok _
  | cons kind rest inductionHypothesis =>
      have titleSilent (work : Json) : IsSilent (do
          if work.isFilled then
            let title ← work.member "title"
            if title.isFilled then return title
          argumentTitle args body rest) := by
        dsimp only
        split
        · refine isSilent_bind (isSilent_memberOr work _ _) fun title => ?_
          split
          · exact isSilent_ok _
          · exact inductionHypothesis
        · exact inductionHypothesis
      refine isSilent_bind (isSilent_memberOr args _ _) fun given => ?_
      dsimp only
      split
      · exact isSilent_bind (isSilent_ok given) titleSilent
      · exact isSilent_bind (isSilent_memberOr body _ _) titleSilent

theorem isSilent_numbered {line : Nat → Json → Except Fault String}
    (lineSilent : ∀ index item, IsSilent (line index item)) (count : Nat) (value : Json) :
    IsSilent (do
      return Content.many (← numbered line (← firstItems count value)) : Except Fault Content) := by
  have itemsSilent : IsSilent (firstItems count value) := by
    cases value with
    | arr _ | str _ => exact isSilent_ok _
    | null | bool _ | int _ | float _ | obj _ => exact isSilent_error rfl
  refine isSilent_bind itemsSilent fun items => ?_
  refine isSilent_bind (isSilent_mapM (fun indexed => ?_) items.zipIdx) fun _ => isSilent_ok _
  exact lineSilent indexed.2 indexed.1

theorem isSilent_watchlistContent (response args : Json) :
    IsSilent (watchlistContent response args) := by
  have entriesSilent (kind : Json) : IsSilent (entriesOf response kind) := by
    unfold entriesOf
    split
    · exact isSilent_error rfl
    · exact isSilent_error rfl
    · exact isSilent_memberOrElse _ _ _
    · exact isSilent_ok _
  refine isSilent_bind (isSilent_memberOr args _ _) fun kind => ?_
  refine isSilent_bind (entriesSilent kind) fun entries => ?_
  split
  · exact isSilent_numbered isSilent_entryLine 20 entries
  · exact isSilent_bind (isSilent_memberOr args _ _) fun _ => isSilent_ok _

/-- What a formatter does not accept ends the call without a report. -/
theorem isSilent_apply (formatter : Formatter) (response args : Json) :
    IsSilent (formatter.apply response args) := by
  have playbackSilent (state : String) : IsSilent (playbackContent state args) :=
    isSilent_bind (isSilent_titleOf args _) fun _ => isSilent_ok _
  cases formatter with
  | searchResults =>
      rw [apply, searchContent]
      split
      · exact isSilent_numbered isSilent_searchLine 10 response
      · exact isSilent_bind (isSilent_memberOr args _ _) fun _ => isSilent_ok _
  | scrobbleStart => exact playbackSilent "started"
  | scrobblePause =>
      refine isSilent_bind (isSilent_memberOr args _ _) fun given => ?_
      dsimp only
      split
      · refine isSilent_bind (isSilent_memberOrElse args _ _) fun body => ?_
        exact isSilent_bind (isSilent_memberOr body _ _) fun _ => playbackSilent _
      · exact isSilent_bind (isSilent_ok given) fun _ => playbackSilent _
  | scrobbleStop => exact playbackSilent "stopped"
  | addedToWatchlist => exact isSilent_bind (isSilent_titleOf args _) fun _ => isSilent_ok _
  | titleList => exact isSilent_numbered isSilent_titleLine 20 _
  | bestList => exact isSilent_numbered isSilent_bestLine 20 _
  | airingList => exact isSilent_numbered isSilent_airingLine 20 _
  | watchlist => exact isSilent_watchlistContent response args
  | unnamed text => exact isSilent_ok _

end Formatter

end ApiTools
