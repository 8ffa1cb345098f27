import ApiTools.Description
import ApiTools.Proofs.Binding
import ApiTools.Proofs.Text.Spacing

/-!
# What descriptions show

The description of a parameter shows no tag that has something in it, and of blanks only single
spaces. The description of an operation shows no tag either. It shows a numeric entity exactly if
the text has one that other entities break up: these are deleted, and what is left of it comes
together.
-/

namespace ApiTools.Description

open ApiTools.Binding
open ApiTools.Text

/-! ## Parameters -/

theorem ofParameter_str (text : String) :
    ofParameter (.str text) = .ok (String.ofList (cleanParameter text.toList)) := by
  rw [ofParameter]
  by_cases empty : text = ""
  · subst empty
    rfl
  · have filled : (Json.str text).isFilled = true := bne_iff_ne.2 empty
    rw [if_pos filled]
    rfl

/-- The description of a parameter is the words of its text without tags, with single spaces between
them and cut to the limit. Neither the tags that were deleted nor the spaces that took the place of
blanks make a new tag, and no space comes to the start. -/
theorem ofParameter_clean (text : String) :
    ∃ shown plain, ofParameter (.str text) = .ok shown ∧
      Deletes IsFilledTag text.toList plain ∧
      shown.toList = ([' '].intercalate (words plain)).take limit ∧
      shown.length ≤ limit ∧
      (∀ part, IsFilledTag part → ¬ part <:+: shown.toList) ∧
      (∀ c ∈ shown.toList, isBlank c = true → c = ' ') ∧
      ¬ [' ', ' '] <:+: shown.toList ∧
      ∀ c ∈ shown.toList.head?, isBlank c = false := by
  let plain := removeAll filledTagLength text.toList
  have isPrefix : cleanParameter text.toList <+: trim (collapseBlanks plain) :=
    List.take_prefix limit _
  have isPart : cleanParameter text.toList <:+: collapseBlanks plain :=
    isPrefix.isInfix.trans (isInfix_trim _)
  refine ⟨_, plain, ofParameter_str text, finds_filledTagLength.deletes_removeAll _, ?_⟩
  rw [String.toList_ofList, String.length_ofList]
  refine ⟨?_, List.length_take_le _ _, ?_, ?_, ?_, ?_⟩
  · rw [cleanParameter, trim_collapseBlanks]
  · have untagged := isUntagged_collapseBlanks (isUntagged_removeAll text.toList)
    exact isUntagged_iff.1 (untagged.of_isInfix isPart)
  · intro c member blank
    rcases mem_collapseBlanks (isPart.subset member) with isSpace | ⟨notBlank, -⟩
    · exact isSpace
    · rw [blank] at notBlank
      cases notBlank
  · exact fun inside => not_infix_collapseBlanks plain (inside.trans isPart)
  · intro c isHead
    obtain ⟨rest, shown⟩ := List.head?_eq_some_iff.1 isHead
    obtain ⟨more, whole⟩ := isPrefix.trans (isPrefix_trim _)
    apply isBlank_head?_trimLeft (collapseBlanks plain)
    rw [← whole, shown]
    rfl

/-! ## Operations -/

/-- What an operation says of itself: its summary, or else the first line of its description. -/
def headline (summary description : String) : List Char :=
  if summary = "" then before '\n' description.toList else summary.toList

theorem ofOperation_eq {operation : Json} {summary description : String}
    (saysSummary : operation.memberOrElse "summary" (.str "") = .ok (.str summary))
    (saysDescription : operation.memberOrElse "description" (.str "") = .ok (.str description)) :
    ofOperation operation = .ok (String.ofList (cleanOperation (headline summary description))) := by
  rw [Json.memberOrElse, bind_eq_ok_iff] at saysSummary saysDescription
  obtain ⟨given, isGiven, isSummary⟩ := saysSummary
  obtain ⟨other, isOther, isDescription⟩ := saysDescription
  rw [ofOperation, isGiven, ok_bind, isOther, ok_bind, Except.ok.inj isSummary,
    Except.ok.inj isDescription, headline]
  dsimp only
  by_cases empty : summary = ""
  · have notFilled : ¬(Json.str summary).isFilled = true := by
      rw [empty]
      decide
    rw [if_pos empty, if_neg notFilled, pure_eq_ok, ok_bind, String.toList_ofList]
    rfl
  · have filled : (Json.str summary).isFilled = true := bne_iff_ne.2 empty
    rw [if_neg empty, if_pos filled, Json.asText, ok_bind]
    rfl

/-- In a text there is an entity that others break up, and once these are deleted and the text is
trimmed it ends within the limit. -/
def HasBrokenEntity (text : List Char) : Prop :=
  ∃ left broken right kept entity, text = left ++ (broken ++ right) ∧
    Deletes IsEntity left kept ∧ Deletes IsEntity broken entity ∧ IsEntity entity ∧
    (trimLeft kept).length + entity.length ≤ limit

theorem exists_infix_iff_hasBrokenEntity (text : List Char) :
    (∃ entity, IsEntity entity ∧
      entity <:+: (trim (removeAll entityLength text)).take limit) ↔ HasBrokenEntity text := by
  have notBlank : isBlank '&' = false ∧ isBlank ';' = false := by decide
  have shows {entity : List Char} (isEntity : IsEntity entity) :=
    infix_take_trim_iff (removeAll entityLength text) limit isEntity.head?_eq
      isEntity.getLast?_eq notBlank.1 notBlank.2
  constructor
  · rintro ⟨entity, isEntity, inside⟩
    obtain ⟨first, behind, split, fits⟩ := (shows isEntity).1 inside
    obtain ⟨left, broken, right, rfl, isFirst, comesTogether, -⟩ :=
      (exists_broken_iff isEntity).1 split
    exact ⟨left, broken, right, first, entity, rfl, finds_entityLength.deletes_iff.2 isFirst,
      finds_entityLength.deletes_iff.2 comesTogether, isEntity, fits⟩
  · rintro ⟨left, broken, right, kept, entity, rfl, keepsLeft, comesTogether, isEntity, fits⟩
    rw [finds_entityLength.deletes_iff] at keepsLeft comesTogether
    have split := (exists_broken_iff isEntity).2
      ⟨left, broken, right, rfl, keepsLeft, comesTogether, rfl⟩
    exact ⟨entity, isEntity, (shows isEntity).2 ⟨kept, _, split, fits⟩⟩

/-- The description of an operation is its headline without tags, then without entities, trimmed and
cut to the limit. No `<` with a later `>` is left. An entity is left exactly if others break it up
in the headline without tags, so that it comes together when they are deleted. -/
theorem ofOperation_showsEntity_iff {operation : Json} {summary description : String}
    (saysSummary : operation.memberOrElse "summary" (.str "") = .ok (.str summary))
    (saysDescription : operation.memberOrElse "description" (.str "") = .ok (.str description)) :
    ∃ shown plain bare, ofOperation operation = .ok shown ∧
      Deletes IsTag (headline summary description) plain ∧
      Deletes IsEntity plain bare ∧
      shown.toList = (trim bare).take limit ∧
      shown.length ≤ limit ∧
      ¬ ['<', '>'].Sublist shown.toList ∧
      ((∃ entity, IsEntity entity ∧ entity <:+: shown.toList) ↔ HasBrokenEntity plain) := by
  let plain := removeAll tagLength (headline summary description)
  refine ⟨_, plain, removeAll entityLength plain, ofOperation_eq saysSummary saysDescription,
    finds_tagLength.deletes_removeAll _, finds_entityLength.deletes_removeAll _, ?_⟩
  rw [String.toList_ofList, String.length_ofList]
  refine ⟨rfl, List.length_take_le _ _, ?_, exists_infix_iff_hasBrokenEntity plain⟩
  have isPart : (cleanOperation (headline summary description)).Sublist plain :=
    ((List.take_sublist limit _).trans (isInfix_trim _).sublist).trans
      (finds_entityLength.removeAll_sublist plain)
  exact fun inside => not_sublist_removeAll_tagLength _ (inside.trans isPart)

/-- A description whose first line has an entity in an entity, with a tag in its middle. -/
def brokenOperation : Json :=
  .obj [("description", .str "<p>A &#<b>1</b>&#50;2; B</p>\nmore")]

/-- Its two ends come together. -/
theorem ofOperation_showsEntity_of_brokenOperation :
    brokenOperation.memberOrElse "summary" (.str "") = .ok (.str "") ∧
      brokenOperation.memberOrElse "description" (.str "") =
        .ok (.str "<p>A &#<b>1</b>&#50;2; B</p>\nmore") ∧
      ∃ shown, ofOperation brokenOperation = .ok shown ∧ shown.length ≤ limit ∧
        ¬ ['<', '>'].Sublist shown.toList ∧
        ∃ entity, IsEntity entity ∧ entity <:+: shown.toList := by
  have saysSummary : brokenOperation.memberOrElse "summary" (.str "") = .ok (.str "") := by
    decide
  have saysDescription : brokenOperation.memberOrElse "description" (.str "") =
      .ok (.str "<p>A &#<b>1</b>&#50;2; B</p>\nmore") := by decide
  obtain ⟨shown, plain, bare, described, stripped, -, -, fits, noTag, showsEntity⟩ :=
    ofOperation_showsEntity_iff saysSummary saysDescription
  rw [finds_tagLength.deletes_iff] at stripped
  have isEntity : IsEntity "&#12;".toList := ⟨['1', '2'], by decide, List.all_eq_true.1 (by decide), rfl⟩
  have isBroken : HasBrokenEntity plain := by
    refine ⟨"A ".toList, "&#1&#50;2;".toList, " B".toList, "A ".toList, _, ?_,
      finds_entityLength.deletes_iff.2 (by decide), finds_entityLength.deletes_iff.2 (by decide),
      isEntity, by decide⟩
    rw [← stripped]
    decide
  exact ⟨saysSummary, saysDescription, shown, described, fits, noTag, showsEntity.2 isBroken⟩

/-- An operation whose summary has an entity in an entity. -/
def nestedOperation : Json :=
  .obj [("summary", .str "Tom &#&#38;38; Jerry"), ("description", .str "")]

/-- The inner entity is deleted, and the outer one is shown. -/
theorem ofOperation_eq_of_nestedOperation :
    ofOperation nestedOperation = .ok "Tom &#38; Jerry" ∧
      ∃ entity, IsEntity entity ∧ entity <:+: "Tom &#38; Jerry".toList :=
  ⟨by decide, "&#38;".toList, ⟨['3', '8'], by decide, List.all_eq_true.1 (by decide), rfl⟩,
    "Tom ".toList, " Jerry".toList, rfl⟩

end ApiTools.Description
