import ApiTools.Proofs.Answering
import ApiTools.Proofs.Catalog

/-!
# Placeholders as they are declared and as they are filled in

The compiler declares the placeholders of a whole path. A handler cuts the path at its first question
mark, fills in what stands before it and wants a value for every marker behind it. Both read the same
names, in the same order and as often, and a call stops at the first of them that has no value.
-/

namespace ApiTools

open Binding

namespace Path

open Text

/-! ## The first question mark -/

theorem route_of_split {path first rest : List Char} (without : '?' ∉ first)
    (split : path = first ++ '?' :: rest) :
    route path = first ∧ markers path = placeholders rest := by
  subst split
  refine ⟨before_append_cons without rest, ?_⟩
  rw [markers, markerPart, after?_append_cons without rest, Option.getD_some]

theorem route_of_not_mem {path : List Char} (without : '?' ∉ path) :
    route path = path ∧ markers path = [] := by
  have passes : ∀ c ∈ path, (c != '?') = true := by
    rintro c member
    simpa using fun same : c = '?' => without (same ▸ member)
  have absent : after? '?' path = none := by
    rw [after?, List.dropWhile_eq_nil_iff.2 passes]
  refine ⟨(eq_before_of_after?_eq_none absent).symm, ?_⟩
  rw [markers, markerPart, absent, Option.getD_none, placeholders, pieces]
  rfl

/-! ## Filling in -/

/-- The text of a piece where an activity gives the texts of placeholders. -/
def Piece.textM {m : Type → Type} [Monad m] (fill : String → m (List Char)) :
    Piece → m (List Char)
  | .char c => pure [c]
  | .placeholder name => fill name

/-- Fills in a text: an activity is asked for the text of each placeholder in turn. -/
def fillM {m : Type → Type} [Monad m] (fill : String → m (List Char)) (text : List Char) :
    m (List Char) :=
  List.flatten <$> (pieces text).mapM (Piece.textM fill)

/-- An activity that has a text for each name and writes down the names that it is asked for. -/
def recording (texts : String → List Char) (name : String) :
    StateM (List String) (List Char) :=
  fun asked => (texts name, asked ++ [name])

/-- The names that are asked for while a text is filled in, in order. -/
def asked (texts : String → List Char) (text : List Char) : List String :=
  ((fillM (recording texts) text).run []).2

theorem mapM_recording (texts : String → List Char) (pieces : List Piece) :
    ∀ before, (pieces.mapM (Piece.textM (recording texts))).run before =
      (pieces.map (Piece.text texts), before ++ pieces.filterMap Piece.name?) := by
  -- over the pieces, for all names asked before: a placeholder adds its own to them
  induction pieces with
  | nil =>
      intro before
      rw [List.mapM_nil, List.filterMap_nil, List.append_nil]
      rfl
  | cons piece rest inductionHypothesis =>
      intro before
      rw [List.mapM_cons]
      cases piece with
      | char c =>
          have others := inductionHypothesis before
          rw [List.filterMap_cons_none rfl]
          simp only [StateT.run_bind, Piece.textM, StateT.run_pure, pure_bind, others]
          rfl
      | placeholder name =>
          have others := inductionHypothesis (before ++ [name])
          have first : (recording texts name).run before = pure (texts name, before ++ [name]) :=
            rfl
          have isNamed : (Piece.placeholder name).name? = some name := rfl
          rw [List.filterMap_cons_some isNamed]
          simp only [StateT.run_bind, Piece.textM, first, pure_bind, others, List.append_assoc]
          rfl

/-- Whatever texts are filled in, the names asked for are the placeholders. -/
theorem asked_eq_placeholders (texts : String → List Char) (text : List Char) :
    asked texts text = placeholders text := by
  rw [asked, fillM, StateT.run_map, mapM_recording]
  rfl

end Path

/-! ## The handler -/

namespace Handler

/-- The text of a placeholder: the encoded value of its argument. -/
def placeholderText (args : Arguments) (name : String) : Except Fault (List Char) :=
  (encodePathValue name ((Keyed.get? name args).getD .null)).map String.toList

theorem fillPiece_eq_textM (args : Arguments) :
    fillPiece args = Path.Piece.textM (placeholderText args) := by
  funext piece
  cases piece with
  | char c => rfl
  | placeholder name => rfl

/-- A handler fills in its path before the first question mark. -/
theorem endpoint_eq_fillM (handler : Handler) (args : Arguments) :
    handler.endpoint args =
      String.ofList <$>
        Path.fillM (placeholderText args) (Path.route handler.path.toList) := by
  rw [endpoint, fillPiece_eq_textM, Path.fillM, Functor.map_map]
  rfl

/-- Calls stop for want of a value exactly at the first placeholder of the whole path that has
none. -/
theorem call_eq_missing_iff (handler : Handler) (args : Arguments) (name : String) :
    handler.call args = .error (.missingPathValue name) ↔
      (Path.placeholders handler.path.toList).find? (lacks args) = some name := by
  rw [Path.placeholders_eq_append, ← firstLacking]
  constructor
  · intro stopped
    -- no other fault of a call is a missing value, so some placeholder lacks one
    cases first : handler.firstLacking args with
    | some other =>
        rw [call_eq_error_of_firstLacking first] at stopped
        cases stopped
        rfl
    | none =>
        obtain ⟨missing, member, absent⟩ :=
          (handler.exists_call_eq_missing_iff args).1 ⟨name, stopped⟩
        rw [Path.placeholders_eq_append] at member
        rw [firstLacking, List.find?_eq_none] at first
        have isGiven := first missing member
        rw [lacks, absent] at isGiven
        exact absurd rfl isGiven
  · exact call_eq_error_of_firstLacking

end Handler

/-! ## The fields -/

namespace FieldSet

/-- The fields start with one required field for each of the names, in their order. -/
def BeginsWith (set : FieldSet) (names : List String) : Prop :=
  ∃ first others, set.fields = first ++ others ∧ first.map Field.name = names.map Json.str ∧
    ∀ field ∈ first, field.required = true

theorem beginsWith_placeholders {path : String} {parameters : List Json} {omitted : List String}
    {set : FieldSet} (done : ofParameters path parameters omitted = .ok set) :
    set.BeginsWith ((Path.placeholders path.toList).filter fun name => !omitted.contains name) := by
  obtain ⟨first, added, firstRelated, -, fields, -⟩ := exists_adds_of_ofParameters done
  refine ⟨first, added.flatMap Prod.fst, fields, ?_, fun field member => ?_⟩
  · rw [← List.forall₂_eq_eq_eq, List.forall₂_map_left_iff, List.forall₂_map_right_iff]
    exact firstRelated.flip.imp fun field placeholder fieldDone =>
      (Field.named_of_ofPlaceholder fieldDone).1
  · obtain ⟨placeholder, -, fieldDone⟩ := exists_of_forall₂_right firstRelated field member
    exact (Field.named_of_ofPlaceholder fieldDone).2

/-- Nothing but a placeholder or a parameter that cannot be read alone stops the collecting. -/
theorem exists_ofParameters_iff {path : String} {parameters : List Json} {omitted : List String} :
    (∃ set, ofParameters path parameters omitted = .ok set) ↔
      (∀ name ∈ (Path.placeholders path.toList).filter fun name => !omitted.contains name,
        ∃ field, Field.ofPlaceholder (Path.markers path.toList) parameters name = .ok field) ∧
      ∀ parameter ∈ parameters,
        ∃ fields, Field.addedBy (Path.markers path.toList) omitted parameter = .ok fields := by
  constructor
  · rintro ⟨set, done⟩
    obtain ⟨first, added, firstRelated, related, -, -⟩ := exists_adds_of_ofParameters done
    refine ⟨fun name member => ?_, fun parameter member => ?_⟩
    · obtain ⟨field, -, fieldDone⟩ := exists_of_forall₂_right firstRelated.flip name member
      exact ⟨field, fieldDone⟩
    · obtain ⟨adds, -, alone, -⟩ := exists_of_forall₂_right related.flip parameter member
      exact ⟨adds.1, alone⟩
  · rintro ⟨readable, addable⟩
    obtain ⟨first, firstRelated⟩ := exists_forall₂_of_forall_mem readable
    cases done : ofParameters path parameters omitted with
    | ok set => exact ⟨set, rfl⟩
    | error fault =>
        rw [ofParameters, mapM_eq_ok_iff.2 firstRelated, ok_bind] at done
        obtain ⟨before, parameter, member, stopped⟩ := foldlM_eq_error done
        -- what a parameter adds alone it adds to any fields
        obtain ⟨fields, alone⟩ := addable parameter member
        rw [Field.addedBy, map_eq_ok_iff] at alone
        obtain ⟨after, added, -⟩ := alone
        obtain ⟨_, _, _, -, always⟩ := Field.exists_addParameter_eq added
        rw [always before] at stopped
        cases stopped

end FieldSet

namespace Catalog

/-- No query key of a handler is a marker of its path. -/
theorem notMem_markers_of_handler {path method responseFormat toolName : String}
    {parameters : List Json} {flatten : List (String × String)} {formatter : Option Formatter}
    {made : Handler}
    (done : handler path method parameters responseFormat toolName flatten formatter = .ok made) :
    ∀ marker ∈ Path.markers path.toList, .str marker ∉ made.queryKeys := by
  intro marker isMarker member
  obtain ⟨parameter, -, keyDone⟩ := exists_queryKey?_of_handler done _ member
  have notAmong := (queryKey?_eq_some keyDone).2.2
  rw [Json.isAmong, Except.ok.injEq] at notAmong
  simp [isMarker] at notAmong

/-- Compiler and handlers agree on the placeholders of every path. The names that a handler asks for
are those that the compiler declares, in the same order and as often: it fills in those before the
first question mark and wants a value for each one after it, and what stops a call is the first
without a value. The fields of every tool begin with them, and none of those after the question mark
is one more key of the query. -/
theorem placeholders_agree (path : String) :
    (∀ first rest, '?' ∉ first → path.toList = first ++ '?' :: rest →
      Path.route path.toList = first ∧ Path.markers path.toList = Path.placeholders rest) ∧
    ('?' ∉ path.toList →
      Path.route path.toList = path.toList ∧ Path.markers path.toList = []) ∧
    (∀ texts, Path.asked texts (Path.route path.toList) ++ Path.markers path.toList =
      Path.placeholders path.toList) ∧
    (∀ made : Handler, made.path = path → ∀ args,
      made.endpoint args = String.ofList <$>
        Path.fillM (Handler.placeholderText args) (Path.route path.toList) ∧
      ∀ name, made.call args = .error (.missingPathValue name) ↔
        (Path.placeholders path.toList).find? (Handler.lacks args) = some name) ∧
    (∀ parameters omitted, (∃ set, FieldSet.ofParameters path parameters omitted = .ok set) ↔
      (∀ name ∈ (Path.placeholders path.toList).filter fun name => !omitted.contains name,
        ∃ field, Field.ofPlaceholder (Path.markers path.toList) parameters name = .ok field) ∧
      ∀ parameter ∈ parameters,
        ∃ fields, Field.addedBy (Path.markers path.toList) omitted parameter = .ok fields) ∧
    (∀ parameters omitted set, FieldSet.ofParameters path parameters omitted = .ok set →
      set.BeginsWith
        ((Path.placeholders path.toList).filter fun name => !omitted.contains name)) ∧
    (∀ method parameters responseFormat toolName flatten formatter made,
      handler path method parameters responseFormat toolName flatten formatter = .ok made →
      .str Field.clientParameter ∉ made.queryKeys ∧
        ∀ marker ∈ Path.markers path.toList, .str marker ∉ made.queryKeys) := by
  refine ⟨fun first rest without split => Path.route_of_split without split,
    fun without => Path.route_of_not_mem without, fun texts => ?_, ?_,
    fun parameters omitted => FieldSet.exists_ofParameters_iff,
    fun parameters omitted set done => FieldSet.beginsWith_placeholders done,
    fun method parameters responseFormat toolName flatten formatter made done =>
      ⟨clientParameter_notMem_of_handler done, notMem_markers_of_handler done⟩⟩
  · rw [Path.asked_eq_placeholders, ← Path.placeholders_eq_append]
  · rintro made rfl args
    exact ⟨made.endpoint_eq_fillM args, made.call_eq_missing_iff args⟩

/-! ## A path with many marks -/

def markedPath : String := "/a::id:id?:date/é?:sort:date"

/-- One parameter describes a marker, and one is no placeholder. -/
def markedParameters : List Json :=
  [.obj [("name", .str "date"), ("in", .str "query"),
      ("schema", .obj [("enum", .arr [.str "today"])])],
    .obj [("name", .str "extended"), ("in", .str "query")],
    .obj [("name", .str "client_id"), ("in", .str "query")]]

set_option maxRecDepth 20000 in
/-- The number is asked for twice and so is the date, which is no key of the query. -/
theorem placeholders_agree_of_markedPath :
    (∀ texts, Path.asked texts (Path.route markedPath.toList) = ["id", "id"] ∧
      Path.markers markedPath.toList = ["date", "sort", "date"]) ∧
    (∃ set, FieldSet.ofParameters markedPath markedParameters ["sort"] = .ok set ∧
      set.BeginsWith ["id", "id", "date", "date"]) ∧
    ∃ made, handler markedPath "get" markedParameters "json" "tool" [] none = .ok made ∧
      made.queryKeys = [.str "extended"] ∧
      .str "client_id" ∉ made.queryKeys ∧ .str "date" ∉ made.queryKeys ∧
      made.call [("id", .int 17), ("date", .str "today")] = .error (.missingPathValue "sort") := by
  obtain ⟨-, -, asks, answers, -, begins, keys⟩ := placeholders_agree markedPath
  have isMarked : Path.markers markedPath.toList = ["date", "sort", "date"] := by decide +kernel
  have declared : Path.placeholders markedPath.toList = ["id", "id", "date", "sort", "date"] := by
    decide +kernel
  refine ⟨fun texts => ⟨?_, isMarked⟩, ?_, ?_⟩
  · have whole := asks texts
    rw [isMarked, declared] at whole
    exact List.append_cancel_right (whole : _ = ["id", "id"] ++ ["date", "sort", "date"])
  · have collects :
        (FieldSet.ofParameters markedPath markedParameters ["sort"]).isOk = true := by
      decide +kernel
    obtain ⟨set, done⟩ := exists_eq_ok_of_isOk collects
    have beginsWith := begins markedParameters ["sort"] set done
    rw [declared] at beginsWith
    exact ⟨set, done, beginsWith⟩
  · have handles :
        (handler markedPath "get" markedParameters "json" "tool" [] none).toOption.any (fun made =>
          decide (made.queryKeys = [.str "extended"]) && decide (made.path = markedPath)) = true := by
      decide +kernel
    obtain ⟨made, done, computed⟩ := exists_eq_ok_of_any handles
    rw [Bool.and_eq_true, decide_eq_true_eq, decide_eq_true_eq] at computed
    have excluded := keys "get" markedParameters "json" "tool" [] none made done
    refine ⟨made, done, computed.1, excluded.1, excluded.2 "date" (by rw [isMarked]; decide), ?_⟩
    refine ((answers made computed.2 _).2 "sort").2 ?_
    rw [declared]
    decide +kernel

end Catalog

end ApiTools
