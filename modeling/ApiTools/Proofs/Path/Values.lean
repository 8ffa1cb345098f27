import ApiTools.Proofs.Answering
import ApiTools.Proofs.Path.Braces
import ApiTools.Proofs.Text.Split

/-!
# Values within a path

A value is written into a path with characters that mean nothing there, and it is read back from
them. So where every placeholder is a whole segment, an endpoint has the segments of the path: the
words as they are, and in the place of each placeholder a segment that its value is read back from.
-/

namespace ApiTools

/-! ## Escaped texts -/

namespace Text.Percent

/-- An upper-case hexadecimal digit. -/
def isUpperHex (c : Char) : Bool :=
  "0123456789ABCDEF".toList.contains c

/-- The text has ASCII letters, ASCII digits, a few marks, and escapes of two upper-case hexadecimal
digits. -/
inductive IsEscaped : List Char → Prop where
  | nil : IsEscaped []
  | char {c : Char} {rest : List Char} :
      c.isAlphanum = true ∨ c ∈ "_.-~!*'()".toList → IsEscaped rest → IsEscaped (c :: rest)
  | escape {high low : Char} {rest : List Char} :
      isUpperHex high = true → isUpperHex low = true → IsEscaped rest →
      IsEscaped ('%' :: high :: low :: rest)

theorem isUpperHex_hexDigit (value : Nat) (small : value < 16) :
    isUpperHex (hexDigit value) = true := by
  have digits : ∀ digit : Fin 16, isUpperHex (hexDigit digit.val) = true := by decide
  exact digits ⟨value, small⟩

theorem isEscaped_bytes (written : List UInt8) {rest : List Char} (escaped : IsEscaped rest) :
    IsEscaped (written.flatMap encodeByte ++ rest) := by
  induction written with
  | nil => exact escaped
  | cons byte others inductionHypothesis =>
      have bound := byte.toNat_lt
      rw [List.flatMap_cons, List.append_assoc]
      exact .escape (isUpperHex_hexDigit (byte.toNat / 16) (by omega))
        (isUpperHex_hexDigit (byte.toNat % 16) (by omega)) inductionHypothesis

theorem isEscaped_encodeComponent (text : List Char) : IsEscaped (encodeComponent text) := by
  induction text with
  | nil => exact .nil
  | cons c rest inductionHypothesis =>
      rw [encodeComponent, encode_cons, ← encodeComponent]
      split
      · next kept =>
          refine .char ?_ inductionHypothesis
          simp only [isUnreserved, Bool.or_eq_true, beq_iff_eq, List.contains_iff_mem] at kept
          rcases kept with ((((isAlphanum | rfl) | rfl) | rfl) | rfl) | listed
          · exact Or.inl isAlphanum
          · exact Or.inr (by decide)
          · exact Or.inr (by decide)
          · exact Or.inr (by decide)
          · exact Or.inr (by decide)
          · exact Or.inr (List.mem_append_right "_.-~".toList listed)
      · exact isEscaped_bytes _ inductionHypothesis

end Text.Percent

/-! ## Segments of a path -/

namespace Path

open ApiTools.Text

/-- The placeholder that a segment is, if it is nothing else. -/
def wholePlaceholder? : List Char → Option String
  | ':' :: name => if name ≠ [] ∧ name.all isWord then some (String.ofList name) else none
  | _ => none

/-- Before the query markers, every placeholder of the path is a whole segment. -/
def FillsSegments (path : List Char) : Prop :=
  ∀ segment ∈ (route path).splitOn '/',
    (wholePlaceholder? segment).isSome = true ∨ placeholders segment = []

instance (path : List Char) : Decidable (FillsSegments path) :=
  inferInstanceAs (Decidable (∀ segment ∈ (route path).splitOn '/',
    (wholePlaceholder? segment).isSome = true ∨ placeholders segment = []))

theorem isWord_slash : isWord '/' = false := by decide +kernel

/-- A slash ends every placeholder, so the pieces of a path are those of its segments. -/
theorem pieces_intercalate (segments : List (List Char)) :
    pieces (['/'].intercalate segments) = [.char '/'].intercalate (segments.map pieces) := by
  induction segments with
  | nil =>
      rw [List.map_nil, List.intercalate_nil, List.intercalate_nil, pieces]
  | cons segment rest inductionHypothesis =>
      cases rest with
      | nil => rw [List.map_singleton, List.intercalate_singleton, List.intercalate_singleton]
      | cons next others =>
          rw [List.map_cons] at inductionHypothesis
          rw [List.intercalate_cons_cons, List.append_assoc, List.singleton_append,
            pieces_append isWord_slash (by decide), inductionHypothesis, List.map_cons,
            List.map_cons, List.intercalate_cons_cons, List.append_assoc, List.singleton_append]

theorem pieces_eq_intercalate (path : List Char) :
    pieces path = [.char '/'].intercalate ((path.splitOn '/').map pieces) := by
  rw [← pieces_intercalate, List.intercalate_splitOn]

theorem pieces_of_wholePlaceholder? {segment : List Char} {name : String}
    (whole : wholePlaceholder? segment = some name) : pieces segment = [.placeholder name] := by
  unfold wholePlaceholder? at whole
  split at whole
  · next text =>
      split at whole
      · next isName =>
          have word : text.takeWhile isWord = text :=
            List.takeWhile_eq_self_iff.2 (List.all_eq_true.1 isName.2)
          have behind : text.dropWhile isWord = [] :=
            List.dropWhile_eq_nil_iff.2 (List.all_eq_true.1 isName.2)
          rw [pieces, word, behind, if_pos ⟨rfl, isName.1⟩, Option.some.inj whole, pieces]
      · cases whole
  · cases whole

/-- The placeholders of a path are those of its segments, in order. -/
theorem placeholders_eq_flatMap (path : List Char) :
    placeholders path = (path.splitOn '/').flatMap placeholders := by
  have names (text : List Char) :
      placeholders text = (pieces text).flatMap fun piece => piece.name?.toList :=
    List.filterMap_eq_flatMap_toList _ _
  have joined (lists : List (List String)) : [].intercalate lists = lists.flatten := by
    induction lists with
    | nil => rfl
    | cons first rest inductionHypothesis =>
        cases rest with
        | nil => simp
        | cons second others =>
            rw [List.intercalate_cons_cons, List.append_nil, inductionHypothesis]
            rfl
  have slash : [Piece.char '/'].flatMap (fun piece => piece.name?.toList) = [] := rfl
  rw [names, pieces_eq_intercalate, Handler.flatMap_intercalate, slash, joined, List.map_map,
    ← List.flatMap_def]
  exact List.flatMap_congr fun segment _ => (names segment).symm

/-- Where they fill segments, the placeholders are the names of the segments that are one. -/
theorem mem_placeholders_iff {path : List Char} (fills : FillsSegments path) {name : String} :
    name ∈ placeholders (route path) ↔
      ∃ segment ∈ (route path).splitOn '/', wholePlaceholder? segment = some name := by
  rw [placeholders_eq_flatMap, List.mem_flatMap]
  refine exists_congr fun segment => and_congr_right fun member => ?_
  rcases fills segment member with isWhole | noPlaceholder
  · obtain ⟨other, whole⟩ := Option.isSome_iff_exists.1 isWhole
    rw [placeholders, pieces_of_wholePlaceholder? whole, whole, Option.some.injEq]
    simp [Piece.name?, eq_comm]
  · refine iff_of_false (by simp [noPlaceholder]) fun whole => ?_
    rw [placeholders, pieces_of_wholePlaceholder? whole] at noPlaceholder
    cases noPlaceholder

end Path

/-! ## Segments of an endpoint -/

namespace Handler

open ApiTools.Text
open ApiTools.Path (FillsSegments wholePlaceholder?)

/-- The arguments have the values under the names of the placeholders before the query markers. -/
def Assigns (handler : Handler) (values : String → String) (args : Arguments) : Prop :=
  ∀ name ∈ Path.placeholders (Path.route handler.path.toList),
    Keyed.get? name args = some (.str (values name))

/-- A segment of an endpoint in the place of one of the path: the same text, or an escaped text that
the value of the placeholder is read back from. -/
def Stands (values : String → String) (segment found : List Char) : Prop :=
  match wholePlaceholder? segment with
  | some name => Percent.IsEscaped found ∧ Percent.decode found = (values name).toList
  | none => found = segment

variable {handler : Handler} {values : String → String} {args : Arguments}

theorem filled_placeholder (assigned : handler.Assigns values args) {name : String}
    (member : name ∈ Path.placeholders (Path.route handler.path.toList)) :
    filled args (.placeholder name) = Percent.encodeComponent (values name).toList := by
  rw [filled, Path.Piece.text, assigned name member]
  rfl

/-- No value is written with a slash. -/
theorem slash_notMem_filled {segment : List Char} (noSlash : '/' ∉ segment) :
    '/' ∉ (Path.pieces segment).flatMap (filled args) := by
  intro member
  obtain ⟨piece, pieceMember, inside⟩ := List.mem_flatMap.1 member
  cases piece with
  | char c =>
      obtain rfl : '/' = c := List.mem_singleton.1 inside
      exact noSlash (Path.mem_of_mem_pieces pieceMember)
  | placeholder name => exact (Http.Segment.staysInPath_encodeComponent inside).2 rfl

/-- Filling in the values and cutting at the slashes can change places. -/
theorem splitOn_filled (route : List Char) :
    ((Path.pieces route).flatMap (filled args)).splitOn '/' =
      (route.splitOn '/').map fun segment => (Path.pieces segment).flatMap (filled args) := by
  rw [Path.pieces_eq_intercalate, flatMap_intercalate, List.map_map]
  apply List.splitOn_intercalate
  · intro text member
    obtain ⟨segment, segmentMember, rfl⟩ := List.mem_map.1 member
    exact slash_notMem_filled (notMem_of_mem_splitOn segmentMember)
  · simp

theorem stands_filled (assigned : handler.Assigns values args)
    (fills : FillsSegments handler.path.toList) {segment : List Char}
    (member : segment ∈ (Path.route handler.path.toList).splitOn '/') :
    Stands values segment ((Path.pieces segment).flatMap (filled args)) := by
  unfold Stands
  split
  · next name whole =>
      have isPlaceholder : name ∈ Path.placeholders (Path.route handler.path.toList) :=
        (Path.mem_placeholders_iff fills).2 ⟨segment, member, whole⟩
      rw [Path.pieces_of_wholePlaceholder? whole, List.flatMap_singleton,
        filled_placeholder assigned isPlaceholder]
      exact ⟨Percent.isEscaped_encodeComponent _, Percent.decode_encodeComponent _⟩
  · next notWhole =>
      have noPlaceholder : Path.placeholders segment = [] := by
        rcases fills segment member with isWhole | noPlaceholder
        · rw [notWhole] at isWhole
          cases isWhole
        · exact noPlaceholder
      calc
        (Path.pieces segment).flatMap (filled args) =
            (Path.pieces segment).flatMap Path.Piece.source := by
          refine List.flatMap_congr fun piece pieceMember => ?_
          cases piece with
          | char c => rfl
          | placeholder name =>
              cases List.filterMap_eq_nil_iff.1 noPlaceholder _ pieceMember
        _ = segment := Path.flatMap_source segment

/-- Where all placeholders have texts for values, an endpoint is made. -/
theorem endpoint_of_assigns (assigned : handler.Assigns values args) :
    handler.endpoint args = .ok (String.ofList
      ((Path.pieces (Path.route handler.path.toList)).flatMap (filled args))) := by
  have noneLacks :
      (Path.placeholders (Path.route handler.path.toList)).find? (lacks args) = none := by
    rw [List.find?_eq_none]
    intro name member
    simp [lacks, Arguments.given?, assigned name member, Json.isNull]
  rw [endpoint_eq, noneLacks]

theorem stands_endpoint (assigned : handler.Assigns values args)
    (fills : FillsSegments handler.path.toList) {endpoint : String}
    (made : handler.endpoint args = .ok endpoint) :
    List.Forall₂ (Stands values) ((Path.route handler.path.toList).splitOn '/')
      (endpoint.toList.splitOn '/') := by
  obtain rfl := Except.ok.inj (made.symm.trans (endpoint_of_assigns assigned))
  rw [String.toList_ofList, splitOn_filled, List.forall₂_map_right_iff, List.forall₂_same]
  exact fun segment member => stands_filled assigned fills member

/-- The value of a placeholder is read back from the segment in its place. -/
theorem eq_of_stands {others : String → String} {segment found : List Char} {name : String}
    (whole : wholePlaceholder? segment = some name) (stands : Stands values segment found)
    (othersStand : Stands others segment found) : values name = others name := by
  rw [Stands, whole] at stands othersStand
  exact String.toList_inj.1 (stands.2.symm.trans othersStand.2)

/-- Assignments of values give the same endpoint exactly if they agree on its placeholders. -/
theorem endpoint_eq_iff {others : String → String} {otherArgs : Arguments}
    (fills : FillsSegments handler.path.toList) (assigned : handler.Assigns values args)
    (othersAssigned : handler.Assigns others otherArgs) :
    handler.endpoint args = handler.endpoint otherArgs ↔
      ∀ name ∈ Path.placeholders (Path.route handler.path.toList), values name = others name := by
  constructor
  · intro same name member
    obtain ⟨segment, segmentMember, whole⟩ := (Path.mem_placeholders_iff fills).1 member
    have made := endpoint_of_assigns assigned
    have stands := stands_endpoint assigned fills made
    have othersStand := stands_endpoint othersAssigned fills (same ▸ made)
    obtain ⟨index, inRange, rfl⟩ := List.mem_iff_getElem.1 segmentMember
    have sameRange := stands.length_eq ▸ inRange
    exact eq_of_stands whole (stands.get inRange sameRange) (othersStand.get inRange sameRange)
  · intro agree
    apply endpoint_congr
    intro name member
    rw [Arguments.given?, Arguments.given?, assigned name member, othersAssigned name member,
      agree name member]

/-- Values survive on their way into an endpoint. A text is written with unreserved characters and
escapes only and is read back from them. Where the placeholders of a path are whole segments, the
endpoint has the segments of the path, its words as they are and a form of the value in the place of
each placeholder, and other values of a placeholder make another endpoint. -/
theorem values_survive :
    (∀ name text : String, ∃ encoded, encodePathValue name (.str text) = .ok encoded ∧
      Percent.IsEscaped encoded.toList ∧ Percent.decode encoded.toList = text.toList) ∧
    ∀ handler : Handler, FillsSegments handler.path.toList →
      (∀ values args, handler.Assigns values args →
        ∃ endpoint, handler.endpoint args = .ok endpoint ∧
          List.Forall₂ (Stands values) ((Path.route handler.path.toList).splitOn '/')
            (endpoint.toList.splitOn '/')) ∧
      ∀ values others args otherArgs,
        handler.Assigns values args → handler.Assigns others otherArgs →
        (handler.endpoint args = handler.endpoint otherArgs ↔
          ∀ name ∈ Path.placeholders (Path.route handler.path.toList),
            values name = others name) := by
  constructor
  · intro name text
    refine ⟨_, rfl, ?_, ?_⟩
    · rw [String.toList_ofList]
      exact Percent.isEscaped_encodeComponent text.toList
    · rw [String.toList_ofList]
      exact Percent.decode_encodeComponent text.toList
  · intro handler fills
    refine ⟨fun values args assigned => ?_, fun values others args otherArgs assigned =>
      endpoint_eq_iff fills assigned⟩
    have made := endpoint_of_assigns assigned
    exact ⟨_, made, stands_endpoint assigned fills made⟩

/-- A handler with a placeholder that is filled in twice and asked for in the query once more. -/
def listHandler : Handler :=
  ⟨"tool", "get", "/:user/lists/:list/:user?:list", [], [], "json", none⟩

/-- A list whose name looks like more of a path. -/
def strangeList (list : String) : String → String
  | "user" => ":list"
  | _ => list

def strangeArguments (list : String) : Arguments :=
  [("user", .str ":list"), ("list", .str list)]

set_option maxRecDepth 20000 in
/-- Marks of all kinds in a name make neither a segment nor a placeholder, and two such names are
told apart. -/
theorem values_survive_of_strangeList :
    ∃ endpoint, listHandler.endpoint (strangeArguments "é/:user?%2F") = .ok endpoint ∧
      (endpoint.toList.splitOn '/').length = 5 ∧
      listHandler.endpoint (strangeArguments "é/:user?%2F") ≠
        listHandler.endpoint (strangeArguments "é/:user?/") := by
  have fills : FillsSegments listHandler.path.toList := by decide +kernel
  have placeholders : Path.placeholders (Path.route listHandler.path.toList) =
      ["user", "list", "user"] := by
    decide +kernel
  have assigned (list : String) :
      listHandler.Assigns (strangeList list) (strangeArguments list) := by
    intro name member
    rw [placeholders] at member
    simp only [List.mem_cons, List.not_mem_nil, or_false] at member
    rcases member with rfl | rfl | rfl <;> rfl
  obtain ⟨endpoint, made, stands⟩ :=
    (values_survive.2 listHandler fills).1 _ _ (assigned "é/:user?%2F")
  refine ⟨endpoint, made, ?_, fun same => ?_⟩
  · rw [← stands.length_eq]
    decide +kernel
  · have agree := ((values_survive.2 listHandler fills).2 _ _ _ _ (assigned _) (assigned _)).1 same
      "list" (by rw [placeholders]; decide)
    exact absurd agree (by decide)

end Handler

end ApiTools
