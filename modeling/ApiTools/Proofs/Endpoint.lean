import ApiTools.Proofs.Handler
import ApiTools.Proofs.Http.Segment
import ApiTools.ToolName

/-!
# The endpoints of handlers

In the paths of the table every placeholder is a whole segment. So the endpoint of a call has the
segments of the path, with the values of the arguments in the places of the placeholders.
-/

namespace ApiTools

open ApiTools.Http
open Binding

/-- The text of a value within a path. -/
def pathText : Json → List Char
  | .bool true => "true".toList
  | .bool false => "false".toList
  | value => value.shown

theorem encodePathValue_eq_ok {name : String} {value : Json} {encoded : String}
    (done : encodePathValue name value = .ok encoded) :
    encoded.toList = Text.Percent.encodeComponent (pathText value) := by
  cases value with
  | null => cases done
  | bool value =>
      cases value with
      | false =>
          rw [← Except.ok.inj done]
          decide
      | true =>
          rw [← Except.ok.inj done]
          decide
  | _ =>
      rw [← Except.ok.inj done, String.toList_ofList]
      rfl

namespace Path

/-- The pieces of a route between its slashes. -/
def segments (route : List Char) : List (List Piece) :=
  ((pieces route).splitOn (.char '/')).drop 1

/-- The text of a piece that stands for itself. -/
def Piece.literal (piece : Piece) : List Char :=
  piece.text fun _ => []

/-- A word, or a placeholder alone. -/
def isWhole : List Piece → Bool
  | [.placeholder _] => true
  | segment =>
    (segment.all fun piece => piece.name?.isNone) &&
      (Segment.fixed (segment.flatMap Piece.literal)).isPlain

/-- The route starts with a slash, and its segments are words and placeholders. -/
def isSegmented (route : List Char) : Bool :=
  (pieces route).head? = some (.char '/') && (segments route).all isWhole

end Path

namespace Handler

/-- The text that a piece of the path is filled in with. -/
def filled (args : Arguments) (piece : Path.Piece) : List Char :=
  piece.text fun name =>
    Text.Percent.encodeComponent (pathText ((Keyed.get? name args).getD .null))

/-- The segment that some pieces of the path become. -/
def segmentOf (args : Arguments) : List Path.Piece → Segment
  | [.placeholder name] => .value (pathText ((Keyed.get? name args).getD .null))
  | segment => .fixed (segment.flatMap Path.Piece.literal)

/-- The segments of the endpoint of a call. -/
def segments (handler : Handler) (args : Arguments) : List Segment :=
  (Path.segments (Path.route handler.path.toList)).map (segmentOf args)

variable {args : Arguments}

theorem fillPiece_eq_ok {piece : Path.Piece} {text : List Char}
    (done : fillPiece args piece = .ok text) : text = filled args piece := by
  cases piece with
  | char c => exact (Except.ok.inj done).symm
  | placeholder name =>
      rw [fillPiece, map_eq_ok_iff] at done
      obtain ⟨encoded, encodedDone, rfl⟩ := done
      exact encodePathValue_eq_ok encodedDone

theorem written_segmentOf {segment : List Path.Piece} (whole : Path.isWhole segment = true) :
    (segmentOf args segment).written = segment.flatMap (filled args) := by
  unfold Path.isWhole at whole
  split at whole
  · rw [segmentOf, Segment.written, List.flatMap_singleton]
    rfl
  · next notAlone =>
      rw [Bool.and_eq_true, List.all_eq_true] at whole
      have isFixed : segmentOf args segment = .fixed (segment.flatMap Path.Piece.literal) := by
        unfold segmentOf
        split
        · exact absurd rfl (notAlone _)
        · rfl
      rw [isFixed, Segment.written]
      refine List.flatMap_congr fun piece member => ?_
      cases piece with
      | char c => rfl
      | placeholder name => exact absurd (whole.1 _ member) (by simp [Path.Piece.name?])

theorem flatMap_intercalate {α β : Type} (write : α → List β) (separator : List α)
    (pieces : List (List α)) :
    (separator.intercalate pieces).flatMap write =
      (separator.flatMap write).intercalate (pieces.map fun piece => piece.flatMap write) := by
  induction pieces with
  | nil => simp
  | cons first rest inductionHypothesis =>
      cases rest with
      | nil => simp
      | cons second others =>
          rw [List.intercalate_cons_cons, List.flatMap_append, List.flatMap_append,
            inductionHypothesis, List.map_cons, List.map_cons, List.map_cons,
            List.intercalate_cons_cons]

/-- The endpoint of a call has the segments of the path. -/
theorem endpoint_eq_ok {handler : Handler} {endpoint : String}
    (segmented : Path.isSegmented (Path.route handler.path.toList) = true)
    (done : handler.endpoint args = .ok endpoint) :
    endpoint.toList = Segment.endpoint (handler.segments args) := by
  simp only [Handler.endpoint, bind_eq_ok_iff, pure_eq_ok, Except.ok.injEq] at done
  obtain ⟨texts, textsDone, rfl⟩ := done
  have eachFilled : (Path.pieces (Path.route handler.path.toList)).map (filled args) = texts := by
    have related : List.Forall₂ Eq
        ((Path.pieces (Path.route handler.path.toList)).map (filled args)) texts :=
      List.forall₂_map_left_iff.2
        ((mapM_eq_ok_iff.1 textsDone).imp fun _ _ done => (fillPiece_eq_ok done).symm)
    rwa [List.forall₂_eq_eq_eq] at related
  simp only [Path.isSegmented, Bool.and_eq_true, decide_eq_true_eq, List.all_eq_true] at segmented
  obtain ⟨starts, whole⟩ := segmented
  obtain ⟨rest, pieces⟩ := List.head?_eq_some_iff.1 starts
  have isSplit : Path.segments (Path.route handler.path.toList) = rest.splitOn (.char '/') := by
    rw [Path.segments, pieces, List.splitOn_cons_eq_if_modifyHead, if_pos (beq_self_eq_true _)]
    rfl
  have notNil : handler.segments args ≠ [] := by
    rw [segments, isSplit]
    simp
  rw [Segment.endpoint_eq notNil, String.toList_ofList, ← eachFilled, pieces, List.map_cons,
    List.flatten_cons, ← List.flatMap_def, segments, List.map_map]
  have eachWritten : (Path.segments (Path.route handler.path.toList)).map
      (Segment.written ∘ segmentOf args) =
        (rest.splitOn (.char '/')).map fun segment => segment.flatMap (filled args) := by
    rw [isSplit]
    refine List.map_congr_left fun segment member => ?_
    exact written_segmentOf (whole segment (isSplit ▸ member))
  have isJoined := flatMap_intercalate (filled args) [.char '/'] (rest.splitOn (.char '/'))
  rw [List.intercalate_splitOn] at isJoined
  rw [eachWritten, isJoined]
  rfl

theorem isPlain_segmentOf {segment : List Path.Piece} (whole : Path.isWhole segment = true) :
    (segmentOf args segment).isPlain = true ∧ (segmentOf args segment).isEncoded = true := by
  unfold segmentOf
  split
  · exact ⟨rfl, rfl⟩
  · next notAlone =>
      unfold Path.isWhole at whole
      split at whole
      · exact absurd rfl (notAlone _)
      · rw [Bool.and_eq_true] at whole
        exact ⟨whole.2, rfl⟩

/-- The segments of an endpoint are words and encoded values. -/
theorem isPlain_of_mem_segments {handler : Handler}
    (segmented : Path.isSegmented (Path.route handler.path.toList) = true) :
    ∀ segment ∈ handler.segments args, segment.isPlain = true ∧ segment.isEncoded = true := by
  simp only [Path.isSegmented, Bool.and_eq_true, List.all_eq_true] at segmented
  intro segment member
  obtain ⟨pieces, piecesMember, rfl⟩ := List.mem_map.1 member
  exact isPlain_segmentOf (segmented.2 pieces piecesMember)

theorem segments_ne_nil {handler : Handler}
    (segmented : Path.isSegmented (Path.route handler.path.toList) = true) :
    handler.segments args ≠ [] := by
  simp only [Path.isSegmented, Bool.and_eq_true, decide_eq_true_eq] at segmented
  obtain ⟨rest, pieces⟩ := List.head?_eq_some_iff.1 segmented.1
  rw [segments, Path.segments, pieces, List.splitOn_cons_eq_if_modifyHead,
    if_pos (beq_self_eq_true _)]
  simp

end Handler

namespace ToolName

set_option maxRecDepth 20000 in
theorem isSegmented_of_mem_table :
    ∀ entry ∈ table, Path.isSegmented (Path.route entry.1.toList) = true := by
  decide +kernel

theorem mem_table_of_ofPath {path name : String} (named : ofPath path = .ok name) :
    (path, name) ∈ table := by
  unfold ofPath at named
  split at named
  · next listed found =>
      obtain ⟨before, after, isTable, -⟩ := List.lookup_eq_some_iff.1 found
      rw [← Except.ok.inj named, isTable]
      exact List.mem_append_right before List.mem_cons_self
  · cases named

theorem isSegmented_of_ofPath {path name : String} (named : ofPath path = .ok name) :
    Path.isSegmented (Path.route path.toList) = true :=
  isSegmented_of_mem_table (path, name) (mem_table_of_ofPath named)

end ToolName

end ApiTools
