import ApiTools.Handler
import ApiTools.Proofs.Binding
import ApiTools.Proofs.Keyed
import ApiTools.Proofs.Path

/-!
# Requests and their arguments

A request can be made from the arguments of a call exactly when every placeholder of the path has a
value. If one is missing, that is what the call stops with, before any other argument is looked at.
The query and the body hold what is given under the names that the handler lists, and nothing else
matters to a request.
-/

namespace ApiTools

open Binding

theorem encodePathValue_eq_error_iff {name : String} {value : Json} {fault : Fault} :
    encodePathValue name value = .error fault ↔
      value = .null ∧ fault = .missingPathValue name := by
  cases value with
  | null => simp [encodePathValue, eq_comm]
  | bool value => cases value <;> simp [encodePathValue]
  | _ => simp [encodePathValue]

namespace Arguments

theorem given?_eq_none_iff {args : Arguments} {name : String} :
    args.given? name = none ↔ (Keyed.get? name args).getD .null = .null := by
  unfold given?
  cases Keyed.get? name args with
  | none => simp
  | some value => cases value <;> simp [Json.isNull]

/-- Null and nothing count alike. -/
theorem getD_given? (args : Arguments) (name : String) :
    (args.given? name).getD .null = (Keyed.get? name args).getD .null := by
  unfold given?
  cases Keyed.get? name args with
  | none => rfl
  | some value => cases value <;> rfl

theorem get?_of_given? {args : Arguments} {name : String} {value : Json}
    (given : args.given? name = some value) : Keyed.get? name args = some value :=
  (Option.filter_eq_some_iff.1 given).1

end Arguments

namespace Handler

variable {args : Arguments} {fault : Fault}

/-! ## The path -/

theorem fillPiece_eq_error {piece : Path.Piece} (stopped : fillPiece args piece = .error fault) :
    ∃ name, piece.name? = some name ∧ args.given? name = none ∧
      fault = .missingPathValue name := by
  cases piece with
  | char c => simp [fillPiece] at stopped
  | placeholder name =>
      rw [fillPiece, map_eq_error_iff, encodePathValue_eq_error_iff] at stopped
      exact ⟨name, rfl, Arguments.given?_eq_none_iff.2 stopped.1, stopped.2⟩

theorem given?_of_fillPiece_eq_ok {piece : Path.Piece} {text : List Char} {name : String}
    (filled : fillPiece args piece = .ok text) (isNamed : piece.name? = some name) :
    args.given? name ≠ none := by
  cases piece with
  | char c => cases isNamed
  | placeholder other =>
      obtain rfl : other = name := by simpa [Path.Piece.name?] using isNamed
      rw [fillPiece, map_eq_ok_iff] at filled
      obtain ⟨encoded, encodedDone, -⟩ := filled
      intro absent
      rw [Arguments.given?_eq_none_iff.1 absent] at encodedDone
      cases encodedDone

theorem endpoint_eq_error {handler : Handler} (stopped : handler.endpoint args = .error fault) :
    ∃ name ∈ Path.placeholders (Path.route handler.path.toList), args.given? name = none ∧
      fault = .missingPathValue name := by
  rw [endpoint, bind_eq_error_iff] at stopped
  rcases stopped with unfilled | ⟨texts, -, impossible⟩
  · obtain ⟨piece, member, pieceStopped⟩ := mapM_eq_error unfilled
    obtain ⟨name, isNamed, absent, isMissing⟩ := fillPiece_eq_error pieceStopped
    exact ⟨name, List.mem_filterMap.2 ⟨piece, member, isNamed⟩, absent, isMissing⟩
  · cases impossible

theorem given?_of_endpoint_eq_ok {handler : Handler} {endpoint : String}
    (filled : handler.endpoint args = .ok endpoint) :
    ∀ name ∈ Path.placeholders (Path.route handler.path.toList), args.given? name ≠ none := by
  intro name member
  rw [Handler.endpoint, bind_eq_ok_iff] at filled
  obtain ⟨texts, textsDone, -⟩ := filled
  obtain ⟨piece, pieceMember, isNamed⟩ := List.mem_filterMap.1 member
  obtain ⟨text, -, pieceFilled⟩ :=
    exists_of_forall₂_right (mapM_eq_ok_iff.1 textsDone).flip piece pieceMember
  exact given?_of_fillPiece_eq_ok pieceFilled isNamed

/-- The endpoint has the encoded value of every placeholder in it. -/
theorem exists_text_of_endpoint {handler : Handler} {endpoint : String}
    (filled : handler.endpoint args = .ok endpoint) {name : String}
    (member : name ∈ Path.placeholders (Path.route handler.path.toList)) {value : Json}
    (given : args.given? name = some value) :
    ∃ text, encodePathValue name value = .ok text ∧ text.toList <:+: endpoint.toList := by
  rw [Handler.endpoint, bind_eq_ok_iff] at filled
  obtain ⟨texts, textsDone, done⟩ := filled
  obtain rfl := Except.ok.inj done
  obtain ⟨piece, pieceMember, isNamed⟩ := List.mem_filterMap.1 member
  obtain ⟨text, isText, pieceFilled⟩ :=
    exists_of_forall₂_right (mapM_eq_ok_iff.1 textsDone).flip piece pieceMember
  cases piece with
  | char c => cases isNamed
  | placeholder other =>
      obtain rfl : other = name := by simpa [Path.Piece.name?] using isNamed
      rw [fillPiece, Arguments.get?_of_given? given, Option.getD_some, map_eq_ok_iff] at pieceFilled
      obtain ⟨encoded, encodedDone, rfl⟩ := pieceFilled
      refine ⟨encoded, encodedDone, ?_⟩
      rw [String.toList_ofList]
      exact List.infix_of_mem_flatten isText

/-! ## The query -/

theorem markerQuery_eq_error {markers : List String} :
    ∀ {query : List (String × Json)}, markerQuery args markers query = .error fault →
      ∃ name ∈ markers, args.given? name = none ∧ fault = .missingPathValue name := by
  induction markers with
  | nil =>
      intro query stopped
      cases stopped
  | cons marker rest inductionHypothesis =>
      intro query stopped
      cases given : args.given? marker with
      | none =>
          simp only [markerQuery, given, Except.error.injEq] at stopped
          exact ⟨marker, List.mem_cons_self, given, stopped.symm⟩
      | some value =>
          simp only [markerQuery, given] at stopped
          obtain ⟨name, member, absent, isMissing⟩ := inductionHypothesis stopped
          exact ⟨name, List.mem_cons_of_mem marker member, absent, isMissing⟩

theorem given?_of_markerQuery_eq_ok {markers : List String} {result : List (String × Json)} :
    ∀ {query : List (String × Json)}, markerQuery args markers query = .ok result →
      ∀ name ∈ markers, args.given? name ≠ none := by
  induction markers with
  | nil => simp
  | cons marker rest inductionHypothesis =>
      intro query done
      cases given : args.given? marker with
      | none => simp [markerQuery, given] at done
      | some value =>
          simp only [markerQuery, given] at done
          exact List.forall_mem_cons.2 ⟨by simp [given], inductionHypothesis done⟩

theorem addQuery_eq_error {query : List (String × Json)} {key : Json}
    (stopped : addQuery args query key = .error fault) :
    fault = .wrongKind ∧ key.isAtomic = false := by
  cases key with
  | str key => cases given : args.given? key <;> simp [addQuery, given] at stopped
  | arr items => exact ⟨(Except.error.inj stopped).symm, rfl⟩
  | obj fields => exact ⟨(Except.error.inj stopped).symm, rfl⟩
  | _ => simp [addQuery] at stopped

theorem foldlM_addQuery_eq_error {keys : List Json} :
    ∀ {query : List (String × Json)}, keys.foldlM (addQuery args) query = .error fault →
      fault = .wrongKind ∧ ∃ key ∈ keys, key.isAtomic = false := by
  induction keys with
  | nil =>
      intro query stopped
      cases stopped
  | cons key rest inductionHypothesis =>
      intro query stopped
      rw [List.foldlM_cons, bind_eq_error_iff] at stopped
      rcases stopped with atFirst | ⟨next, -, later⟩
      · obtain ⟨isWrongKind, compound⟩ := addQuery_eq_error atFirst
        exact ⟨isWrongKind, key, List.mem_cons_self, compound⟩
      · obtain ⟨isWrongKind, other, member, compound⟩ := inductionHypothesis later
        exact ⟨isWrongKind, other, List.mem_cons_of_mem key member, compound⟩

theorem get?_markerQuery {markers : List String} (name : String) :
    ∀ {query result : List (String × Json)}, markerQuery args markers query = .ok result →
      Keyed.get? name result =
        if name ∈ markers then args.given? name else Keyed.get? name query := by
  induction markers with
  | nil =>
      intro query result done
      obtain rfl : query = result := Except.ok.inj done
      simp
  | cons marker rest inductionHypothesis =>
      intro query result done
      cases given : args.given? marker with
      | none => simp [markerQuery, given] at done
      | some value =>
          simp only [markerQuery, given] at done
          rw [inductionHypothesis done]
          by_cases later : name ∈ rest
          · rw [if_pos later, if_pos (List.mem_cons_of_mem marker later)]
          · rw [if_neg later]
            by_cases same : name = marker
            · rw [same, Keyed.get?_put_self, if_pos List.mem_cons_self, given]
            · rw [Keyed.get?_put_of_ne same, if_neg (by simp [same, later])]

theorem get?_addQuery {query result : List (String × Json)} {key : Json} (name : String)
    (done : addQuery args query key = .ok result) :
    Keyed.get? name result =
      if key = .str name then (args.given? name).or (Keyed.get? name query)
      else Keyed.get? name query := by
  cases key with
  | str key =>
      cases given : args.given? key with
      | none =>
          obtain rfl : query = result := by simpa [addQuery, given] using done
          by_cases same : key = name
          · subst same
            simp [given]
          · rw [if_neg (by simpa using same)]
      | some value =>
          obtain rfl : Keyed.put key value query = result := by simpa [addQuery, given] using done
          by_cases same : key = name
          · subst same
            simp [given]
          · rw [if_neg (by simpa using same), Keyed.get?_put_of_ne (Ne.symm same)]
  | null | bool _ | int _ | float _ =>
      obtain rfl : query = result := Except.ok.inj done
      rw [if_neg Json.noConfusion]
  | arr _ | obj _ => cases done

theorem get?_foldlM_addQuery {keys : List Json} (name : String) :
    ∀ {query result : List (String × Json)}, keys.foldlM (addQuery args) query = .ok result →
      Keyed.get? name result =
        if .str name ∈ keys then (args.given? name).or (Keyed.get? name query)
        else Keyed.get? name query := by
  induction keys with
  | nil =>
      intro query result done
      obtain rfl : query = result := Except.ok.inj done
      simp
  | cons key rest inductionHypothesis =>
      intro query result done
      rw [List.foldlM_cons, bind_eq_ok_iff] at done
      obtain ⟨middle, firstDone, restDone⟩ := done
      rw [inductionHypothesis restDone, get?_addQuery name firstDone]
      by_cases later : .str name ∈ rest
      · rw [if_pos later, if_pos (List.mem_cons_of_mem key later)]
        split
        · rw [← Option.or_assoc, Option.or_self]
        · rfl
      · rw [if_neg later]
        by_cases same : key = .str name
        · rw [if_pos same, if_pos (by simp [same])]
        · rw [if_neg same, if_neg (by simp [later, Ne.symm same])]

/-- The query holds what is given under the markers and query keys, and nothing else. -/
theorem get?_query {handler : Handler} {query : List (String × Json)} (name : String)
    (done : handler.query args = .ok query) :
    Keyed.get? name query =
      if name ∈ Path.markers handler.path.toList ∨ .str name ∈ handler.queryKeys
      then args.given? name else none := by
  rw [Handler.query, bind_eq_ok_iff] at done
  obtain ⟨first, firstDone, done⟩ := done
  rw [get?_foldlM_addQuery name done, get?_markerQuery name firstDone, Keyed.get?_nil]
  by_cases isMarker : name ∈ Path.markers handler.path.toList
  · simp [isMarker]
  · simp [isMarker]

/-! ## The body -/

/-- One step of making the body of flattened arguments. -/
def addItem (args : Arguments) (done : List (String × Json)) (pair : String × String) :
    List (String × Json) :=
  match args.given? pair.1 with
  | some value => Keyed.put pair.2 (.arr [value]) done
  | none => done

theorem body_of_flatten {handler : Handler} (filled : handler.flatten ≠ []) :
    handler.body args = .obj (handler.flatten.foldl (addItem args) []) := by
  rw [body, if_neg (by simpa using filled)]
  rfl

theorem foldl_addItem_of_none {pairs : List (String × String)} {done : List (String × Json)}
    (absent : ∀ pair ∈ pairs, args.given? pair.1 = none) :
    pairs.foldl (addItem args) done = done := by
  induction pairs with
  | nil => rfl
  | cons pair rest inductionHypothesis =>
      rw [List.forall_mem_cons] at absent
      rw [List.foldl_cons, addItem, absent.1, inductionHypothesis absent.2]

/-- A flattened argument that is given alone is the only item of the only property. -/
theorem body_of_single {handler : Handler} {name property : String} {item : Json}
    (distinct : (Keyed.keys handler.flatten).Nodup)
    (behind : Keyed.get? name handler.flatten = some property)
    (given : args.given? name = some item)
    (alone : ∀ other ∈ Keyed.keys handler.flatten, other ≠ name → args.given? other = none) :
    handler.body args = .obj [(property, .arr [item])] := by
  have member := Keyed.mem_of_get? behind
  obtain ⟨before, after, inPlace⟩ := List.append_of_mem member
  rw [inPlace, Keyed.keys_append, Keyed.keys_cons, List.nodup_middle, List.nodup_cons] at distinct
  have absent : ∀ pair ∈ before ++ after, args.given? pair.1 = none := by
    intro pair isOther
    have different : pair.1 ≠ name := by
      rintro rfl
      apply distinct.1
      rw [← Keyed.keys_append]
      exact List.mem_map.2 ⟨pair, isOther, rfl⟩
    refine alone pair.1 (List.mem_map.2 ⟨pair, ?_, rfl⟩) different
    rw [inPlace]
    rcases List.mem_append.1 isOther with inBefore | inAfter
    · exact List.mem_append_left _ inBefore
    · exact List.mem_append_right _ (List.mem_cons_of_mem _ inAfter)
  rw [List.forall_mem_append] at absent
  have filled : handler.flatten ≠ [] := List.ne_nil_of_mem member
  rw [body_of_flatten filled, inPlace, List.foldl_append, foldl_addItem_of_none absent.1,
    List.foldl_cons, foldl_addItem_of_none absent.2, addItem, given]
  rfl

theorem get?_foldl_addItem_of_not_mem {pairs : List (String × String)} {property : String} :
    ∀ {done : List (String × Json)}, property ∉ pairs.map Prod.snd →
      Keyed.get? property (pairs.foldl (addItem args) done) = Keyed.get? property done := by
  induction pairs with
  | nil => exact fun _ => rfl
  | cons pair rest inductionHypothesis =>
      intro done notThere
      rw [List.map_cons, List.mem_cons, not_or] at notThere
      rw [List.foldl_cons, inductionHypothesis notThere.2, addItem]
      split
      · rw [Keyed.get?_put_of_ne notThere.1]
      · rfl

/-- Where no property stands behind two arguments, each given one is an item of its property. -/
theorem get?_foldl_addItem {pairs : List (String × String)} {name property : String} {item : Json}
    (distinct : (pairs.map Prod.snd).Nodup) (given : args.given? name = some item) :
    ∀ {done : List (String × Json)}, (name, property) ∈ pairs →
      Keyed.get? property (pairs.foldl (addItem args) done) = some (.arr [item]) := by
  induction pairs with
  | nil =>
      intro done member
      cases member
  | cons pair rest inductionHypothesis =>
      intro done member
      rw [List.map_cons, List.nodup_cons] at distinct
      rw [List.foldl_cons]
      rcases List.mem_cons.1 member with same | inRest
      · rw [← same] at distinct
        rw [get?_foldl_addItem_of_not_mem distinct.1, ← same, addItem, given, Keyed.get?_put_self]
      · exact inductionHypothesis distinct.2 inRest

/-! ## The request -/

theorem call_eq_ok_iff {handler : Handler} {call : Call} :
    handler.call args = .ok call ↔
      ∃ endpoint query, handler.endpoint args = .ok endpoint ∧ handler.query args = .ok query ∧
        call = ⟨endpoint, handler.verb, query,
          if handler.hasBody then some (handler.body args) else none⟩ := by
  simp only [Handler.call, bind_eq_ok_iff, pure_eq_ok, Except.ok.injEq]
  constructor
  · rintro ⟨endpoint, endpointDone, query, queryDone, rfl⟩
    exact ⟨endpoint, query, endpointDone, queryDone, rfl⟩
  · rintro ⟨endpoint, query, endpointDone, queryDone, rfl⟩
    exact ⟨endpoint, endpointDone, query, queryDone, rfl⟩

theorem body_of_call {handler : Handler} {call : Call} (made : handler.call args = .ok call) :
    call.body = if handler.hasBody then some (handler.body args) else none := by
  obtain ⟨endpoint, query, -, -, rfl⟩ := call_eq_ok_iff.1 made
  rfl

/-- A call makes a request where every placeholder has a value. Otherwise it stops for want of one;
with all values there, only a query key that cannot be looked up stops it. -/
theorem call_cases (handler : Handler) (args : Arguments) :
    (∃ call, handler.call args = .ok call ∧
      ∀ name ∈ Path.placeholders handler.path.toList, args.given? name ≠ none) ∨
    (∃ name ∈ Path.placeholders handler.path.toList, args.given? name = none ∧
      handler.call args = .error (.missingPathValue name)) ∨
    (handler.call args = .error .wrongKind ∧
      (∀ name ∈ Path.placeholders handler.path.toList, args.given? name ≠ none) ∧
      ∃ key ∈ handler.queryKeys, key.isAtomic = false) := by
  rw [Path.placeholders_eq_append]
  unfold call query
  cases endpointDone : handler.endpoint args with
  | error fault =>
      obtain ⟨name, member, absent, rfl⟩ := endpoint_eq_error endpointDone
      exact Or.inr (Or.inl ⟨name, List.mem_append_left _ member, absent, rfl⟩)
  | ok endpoint =>
      have routeGiven := given?_of_endpoint_eq_ok endpointDone
      cases firstDone : markerQuery args (Path.markers handler.path.toList) [] with
      | error fault =>
          obtain ⟨name, member, absent, rfl⟩ := markerQuery_eq_error firstDone
          exact Or.inr (Or.inl ⟨name, List.mem_append_right _ member, absent, rfl⟩)
      | ok first =>
          have allGiven := List.forall_mem_append.2
            ⟨routeGiven, given?_of_markerQuery_eq_ok firstDone⟩
          simp only [ok_bind]
          cases queryDone : handler.queryKeys.foldlM (addQuery args) first with
          | error fault =>
              obtain ⟨rfl, compound⟩ := foldlM_addQuery_eq_error queryDone
              exact Or.inr (Or.inr ⟨rfl, allGiven, compound⟩)
          | ok query => exact Or.inl ⟨_, rfl, allGiven⟩

/-- Where all placeholders have values and all query keys can be looked up, a request is made. -/
theorem exists_call_of_given {handler : Handler}
    (given : ∀ name ∈ Path.placeholders handler.path.toList, args.given? name ≠ none)
    (atomic : ∀ key ∈ handler.queryKeys, key.isAtomic = true) :
    ∃ call, handler.call args = .ok call := by
  rcases handler.call_cases args with
    ⟨call, done, -⟩ | ⟨name, member, absent, -⟩ | ⟨-, -, key, member, compound⟩
  · exact ⟨call, done⟩
  · exact absurd absent (given name member)
  · rw [atomic key member] at compound
    cases compound

/-- A call stops for want of a value exactly when some placeholder of the path has none. -/
theorem exists_call_eq_missing_iff (handler : Handler) (args : Arguments) :
    (∃ name, handler.call args = .error (.missingPathValue name)) ↔
      ∃ name ∈ Path.placeholders handler.path.toList, args.given? name = none := by
  rcases handler.call_cases args with
    ⟨call, done, allGiven⟩ | ⟨name, member, absent, stopped⟩ | ⟨stopped, allGiven, -⟩
  · rw [done]
    constructor
    · rintro ⟨_, impossible⟩
      cases impossible
    · rintro ⟨name, member, absent⟩
      exact absurd absent (allGiven name member)
  · exact ⟨fun _ => ⟨name, member, absent⟩, fun _ => ⟨name, stopped⟩⟩
  · rw [stopped]
    constructor
    · rintro ⟨_, impossible⟩
      cases impossible
    · rintro ⟨name, member, absent⟩
      exact absurd absent (allGiven name member)

/-! ## What a request depends on -/

section

variable {other : Arguments}

theorem fillPiece_congr {piece : Path.Piece}
    (same : ∀ name, piece.name? = some name → args.given? name = other.given? name) :
    fillPiece args piece = fillPiece other piece := by
  cases piece with
  | char c => rfl
  | placeholder name =>
      rw [fillPiece, fillPiece, ← Arguments.getD_given?, ← Arguments.getD_given?, same name rfl]

theorem endpoint_congr {handler : Handler}
    (same : ∀ name ∈ Path.placeholders (Path.route handler.path.toList),
      args.given? name = other.given? name) : handler.endpoint args = handler.endpoint other := by
  have sameTexts : (Path.pieces (Path.route handler.path.toList)).mapM (fillPiece args) =
      (Path.pieces (Path.route handler.path.toList)).mapM (fillPiece other) := by
    apply mapM_congr
    intro piece member
    apply fillPiece_congr
    exact fun name isNamed => same name (List.mem_filterMap.2 ⟨piece, member, isNamed⟩)
  rw [endpoint, endpoint, sameTexts]

theorem markerQuery_congr {markers : List String}
    (same : ∀ name ∈ markers, args.given? name = other.given? name) :
    ∀ query, markerQuery args markers query = markerQuery other markers query := by
  induction markers with
  | nil => exact fun _ => rfl
  | cons marker rest inductionHypothesis =>
      rw [List.forall_mem_cons] at same
      intro query
      rw [markerQuery, markerQuery, same.1]
      cases other.given? marker with
      | none => rfl
      | some value => exact inductionHypothesis same.2 _

theorem addQuery_congr {key : Json} {query : List (String × Json)}
    (same : ∀ name, key = .str name → args.given? name = other.given? name) :
    addQuery args query key = addQuery other query key := by
  cases key with
  | str name => rw [addQuery, addQuery, same name rfl]
  | null | bool _ | int _ | float _ | arr _ | obj _ => rfl

theorem query_congr {handler : Handler}
    (sameMarkers : ∀ name ∈ Path.markers handler.path.toList,
      args.given? name = other.given? name)
    (sameKeys : ∀ name, .str name ∈ handler.queryKeys → args.given? name = other.given? name) :
    handler.query args = handler.query other := by
  have sameRest : ∀ first, handler.queryKeys.foldlM (addQuery args) first =
      handler.queryKeys.foldlM (addQuery other) first := by
    apply foldlM_congr
    intro key member query
    apply addQuery_congr
    rintro name rfl
    exact sameKeys name member
  rw [Handler.query, Handler.query, markerQuery_congr sameMarkers]
  exact congrArg _ (funext sameRest)

theorem body_congr {handler : Handler}
    (sameBody : handler.flatten = [] → args.given? "body" = other.given? "body")
    (sameItems : ∀ name ∈ Keyed.keys handler.flatten, args.given? name = other.given? name) :
    handler.body args = handler.body other := by
  by_cases unflattened : handler.flatten = []
  · rw [body, body, unflattened, List.isEmpty_nil, if_pos rfl, if_pos rfl,
      ← Arguments.getD_given?, ← Arguments.getD_given?, sameBody unflattened]
  · rw [body_of_flatten unflattened, body_of_flatten unflattened]
    congr 1
    apply List.foldl_ext
    intro done pair member
    rw [addItem, addItem, sameItems pair.1 (List.mem_map.2 ⟨pair, member, rfl⟩)]

end

end Handler

end ApiTools
