import ApiTools.Proofs.Text.Deletion
import ApiTools.Proofs.Text.Search

/-!
# Tags and entities

What the patterns for markup find, and what one pass leaves. What comes together where a tag was is
no tag, so none is left. An entity can come together in this way, out of one that others break up,
and then it is left.
-/

namespace ApiTools.Text

/-- Everything from `<` to the next `>`. -/
def IsTag (text : List Char) : Prop :=
  ∃ inner, '>' ∉ inner ∧ text = '<' :: (inner ++ ['>'])

/-- A tag with something in it. -/
def IsFilledTag (text : List Char) : Prop :=
  ∃ inner, inner ≠ [] ∧ '>' ∉ inner ∧ text = '<' :: (inner ++ ['>'])

/-- Decimal digits between `&#` and a semicolon. -/
def IsEntity (text : List Char) : Prop :=
  ∃ digits, digits ≠ [] ∧ (∀ c ∈ digits, isDigit c = true) ∧
    text = '&' :: '#' :: (digits ++ [';'])

/-! ## Tags -/

theorem tagLength_append {inner : List Char} (closed : '>' ∉ inner) (rest : List Char) :
    tagLength ('<' :: (inner ++ '>' :: rest)) = ('<' :: (inner ++ ['>'])).length := by
  rw [tagLength, if_pos (by simp), before_append_cons closed, List.length_cons,
    List.length_append]
  rfl

theorem exists_of_tagLength_ne_zero {text : List Char} (found : tagLength text ≠ 0) :
    ∃ inner behind, '>' ∉ inner ∧ text = '<' :: (inner ++ '>' :: behind) := by
  unfold tagLength at found
  split at found
  · next rest =>
      have closes : rest.contains '>' = true := by
        by_contra open_
        rw [if_neg open_] at found
        exact found rfl
      obtain ⟨inner, behind, rfl, closed⟩ := List.eq_append_cons_of_mem (by simpa using closes)
      exact ⟨inner, behind, closed, rfl⟩
  · exact absurd rfl found

theorem finds_tagLength : Finds tagLength IsTag where
  ne_nil := by
    rintro part ⟨inner, -, rfl⟩
    exact List.cons_ne_nil _ _
  length_eq := by
    rintro part ⟨inner, closed, rfl⟩ rest
    rw [List.cons_append, List.append_assoc, List.singleton_append, tagLength_append closed]
  exists_of_ne_zero := by
    intro text found
    obtain ⟨inner, behind, closed, rfl⟩ := exists_of_tagLength_ne_zero found
    exact ⟨_, ⟨inner, closed, rfl⟩, behind, by simp⟩

theorem filledTagLength_of_ne {rest : List Char} (filled : rest.head? ≠ some '>') :
    filledTagLength ('<' :: rest) = tagLength ('<' :: rest) := by
  unfold filledTagLength
  split
  · next others isCons =>
      obtain ⟨-, rfl⟩ := List.cons.inj isCons
      exact absurd rfl filled
  · rfl

theorem finds_filledTagLength : Finds filledTagLength IsFilledTag where
  ne_nil := by
    rintro part ⟨inner, -, -, rfl⟩
    exact List.cons_ne_nil _ _
  length_eq := by
    rintro part ⟨inner, filled, closed, rfl⟩ rest
    have notClosed : (inner ++ '>' :: rest).head? ≠ some '>' := by
      obtain ⟨c, others, rfl⟩ := List.exists_cons_of_ne_nil filled
      rintro isClose
      exact closed (Option.some.inj isClose ▸ List.mem_cons_self)
    rw [List.cons_append, List.append_assoc, List.singleton_append,
      filledTagLength_of_ne notClosed, tagLength_append closed]
  exists_of_ne_zero := by
    intro text found
    unfold filledTagLength at found
    split at found
    · exact absurd rfl found
    · next notEmpty =>
        obtain ⟨inner, behind, closed, rfl⟩ := exists_of_tagLength_ne_zero found
        refine ⟨_, ⟨inner, ?_, closed, rfl⟩, behind, by simp⟩
        rintro rfl
        exact notEmpty behind rfl

/-- Where no tag starts with a `<`, no `>` follows it. -/
theorem notMem_of_tagLength_eq_zero {rest : List Char} (starts : tagLength ('<' :: rest) = 0) :
    '>' ∉ rest := by
  intro member
  obtain ⟨inner, behind, rfl, closed⟩ := List.eq_append_cons_of_mem member
  rw [tagLength_append closed] at starts
  cases starts

/-- Without its tags, a text has no `<` with a later `>`. -/
theorem not_sublist_removeAll_tagLength (text : List Char) :
    ¬ ['<', '>'].Sublist (removeAll tagLength text) := by
  induction text using finds_tagLength.induction with
  | nil => exact fun inside => nomatch inside
  | keep c rest starts inductionHypothesis =>
      rw [removeAll_cons starts]
      intro inside
      cases inside with
      | cons _ later => exact inductionHypothesis later
      | cons_cons _ later =>
          have member := List.singleton_sublist.1 later
          exact notMem_of_tagLength_eq_zero starts
            ((finds_tagLength.removeAll_sublist rest).subset member)
  | delete part rest occurs inductionHypothesis =>
      rw [finds_tagLength.removeAll_append occurs]
      exact inductionHypothesis

/-- Behind every `<` comes a `>` at once, or none at all. -/
def IsUntagged (text : List Char) : Prop :=
  ∀ rest, '<' :: rest <:+ text → rest.head? = some '>' ∨ '>' ∉ rest

theorem isUntagged_iff {text : List Char} :
    IsUntagged text ↔ ∀ part, IsFilledTag part → ¬ part <:+: text := by
  constructor
  · rintro untagged part ⟨inner, filled, closed, rfl⟩ ⟨left, right, split⟩
    have isSuffix : '<' :: (inner ++ '>' :: right) <:+ text := ⟨left, by rw [← split]; simp⟩
    rcases untagged _ isSuffix with isClosed | open_
    · obtain ⟨c, others, rfl⟩ := List.exists_cons_of_ne_nil filled
      exact closed (Option.some.inj isClosed ▸ List.mem_cons_self)
    · exact open_ (by simp)
  · rintro without rest ⟨left, rfl⟩
    by_cases member : '>' ∈ rest
    · obtain ⟨inner, right, rfl, closed⟩ := List.eq_append_cons_of_mem member
      refine Or.inl ?_
      by_contra notClosed
      have filled : inner ≠ [] := by
        rintro rfl
        exact notClosed rfl
      exact without _ ⟨inner, filled, closed, rfl⟩ ⟨left, right, by simp⟩
    · exact Or.inr member

theorem IsUntagged.of_isInfix {part text : List Char} (untagged : IsUntagged text)
    (isPart : part <:+: text) : IsUntagged part :=
  isUntagged_iff.2 fun tag isTag inside =>
    isUntagged_iff.1 untagged tag isTag (inside.trans isPart)

/-- Without its filled tags, a text has none. -/
theorem isUntagged_removeAll (text : List Char) : IsUntagged (removeAll filledTagLength text) := by
  induction text using finds_filledTagLength.induction with
  | nil =>
      intro rest isSuffix
      cases List.suffix_nil.1 isSuffix
  | keep c rest starts inductionHypothesis =>
      rw [removeAll_cons starts]
      intro behind isSuffix
      rcases List.suffix_cons_iff.1 isSuffix with isWhole | later
      · obtain ⟨rfl, rfl⟩ := List.cons.inj isWhole
        -- a `>` that follows at once is kept
        by_cases isClosed : rest.head? = some '>'
        · obtain ⟨others, rfl⟩ := List.head?_eq_some_iff.1 isClosed
          exact Or.inl (by rw [removeAll_cons (by rfl)]; rfl)
        · rw [filledTagLength_of_ne isClosed] at starts
          exact Or.inr fun member => notMem_of_tagLength_eq_zero starts
            ((finds_filledTagLength.removeAll_sublist rest).subset member)
      · exact inductionHypothesis behind later
  | delete tag rest occurs inductionHypothesis =>
      rw [finds_filledTagLength.removeAll_append occurs]
      exact inductionHypothesis

/-! ## Entities -/

theorem isDigit_semicolon : isDigit ';' = false := by decide

theorem finds_entityLength : Finds entityLength IsEntity where
  ne_nil := by
    rintro part ⟨digits, -, -, rfl⟩
    exact List.cons_ne_nil _ _
  length_eq := by
    rintro part ⟨digits, filled, areDigits, rfl⟩ rest
    have written : '&' :: '#' :: (digits ++ [';']) ++ rest =
        '&' :: '#' :: (digits ++ ';' :: rest) := by simp
    have taken : (digits ++ ';' :: rest).takeWhile isDigit = digits := by
      rw [takeWhile_append_of_stop isDigit_semicolon, List.takeWhile_eq_self_iff.2 areDigits]
    have dropped : (digits ++ ';' :: rest).dropWhile isDigit = ';' :: rest := by
      rw [dropWhile_append_of_stop isDigit_semicolon, List.dropWhile_eq_nil_iff.2 areDigits,
        List.nil_append]
    rw [written, entityLength, taken, dropped]
    simp [filled]
  exists_of_ne_zero := by
    intro text found
    unfold entityLength at found
    split at found
    · next rest =>
        dsimp only at found
        split at found
        · next behind dropped =>
            have filled : rest.takeWhile isDigit ≠ [] := by
              intro isNil
              rw [isNil] at found
              exact found rfl
            refine ⟨_, ⟨rest.takeWhile isDigit, filled,
              fun c member => List.mem_takeWhile_imp member, rfl⟩, behind, ?_⟩
            calc
              '&' :: '#' :: (rest.takeWhile isDigit ++ [';']) ++ behind =
                  '&' :: '#' :: (rest.takeWhile isDigit ++ rest.dropWhile isDigit) := by
                rw [dropped]
                simp
              _ = '&' :: '#' :: rest := by rw [List.takeWhile_append_dropWhile]
        · exact absurd rfl found
    · exact absurd rfl found

/-! ## Entities that break one up -/

theorem IsEntity.head?_eq {part : List Char} (isEntity : IsEntity part) :
    part.head? = some '&' := by
  obtain ⟨digits, -, -, rfl⟩ := isEntity
  rfl

theorem IsEntity.getLast?_eq {part : List Char} (isEntity : IsEntity part) :
    part.getLast? = some ';' := by
  obtain ⟨digits, -, -, rfl⟩ := isEntity
  simp [List.getLast?_cons]

theorem IsEntity.notMem_tail {part : List Char} (isEntity : IsEntity part) : '&' ∉ part.tail := by
  obtain ⟨digits, -, areDigits, rfl⟩ := isEntity
  have notDigit : '&' ∉ digits := fun member => absurd (areDigits _ member) (by decide)
  simp [notDigit]

theorem IsEntity.notMem_dropLast {part : List Char} (isEntity : IsEntity part) :
    ';' ∉ part.dropLast := by
  obtain ⟨digits, -, areDigits, rfl⟩ := isEntity
  have notDigit : ';' ∉ digits := fun member => absurd (areDigits _ member) (by decide)
  have split : '&' :: '#' :: (digits ++ [';']) = ('&' :: '#' :: digits) ++ [';'] := by simp
  rw [split, List.dropLast_concat]
  simp [notDigit]

/-- No entity has `&` in its middle. -/
theorem apart_of_ampersand (left rest : List Char) : Apart IsEntity left ('&' :: rest) := by
  intro tail filled _ part isEntity isFirst
  rcases List.prefix_or_prefix_of_prefix isFirst (List.prefix_append tail _) with inside | beyond
  · exact inside
  · obtain ⟨more, rfl⟩ := beyond
    cases more with
    | nil => rw [List.append_nil]
    | cons c others =>
        obtain ⟨d, before, rfl⟩ := List.exists_cons_of_ne_nil filled
        obtain ⟨rfl, -⟩ := List.cons_prefix_cons.1 ((List.prefix_append_right_inj _).1 isFirst)
        exact absurd (by simp) isEntity.notMem_tail

/-- No entity has a semicolon in its middle. -/
theorem apart_of_semicolon (first right : List Char) : Apart IsEntity (first ++ [';']) right := by
  intro tail filled isSuffix part isEntity isFirst
  rcases List.prefix_or_prefix_of_prefix isFirst (List.prefix_append tail _) with inside | beyond
  · exact inside
  · obtain ⟨more, rfl⟩ := beyond
    cases more with
    | nil => rw [List.append_nil]
    | cons c others =>
        obtain ⟨before, rfl⟩ : ∃ before, tail = before ++ [';'] := by
          obtain ⟨rest, split⟩ := isSuffix
          have ends := congrArg List.getLast? split
          rw [List.getLast?_append_of_ne_nil _ filled, List.getLast?_concat] at ends
          exact List.getLast?_eq_some_iff.1 ends
        have inMiddle : ';' ∈ (before ++ [';'] ++ c :: others).dropLast := by
          rw [List.dropLast_append_of_ne_nil (List.cons_ne_nil c others)]
          simp
        exact absurd inMiddle isEntity.notMem_dropLast

theorem head?_of_removeAll (text : List Char) :
    text.head? = some '&' ∨ text.head? = (removeAll entityLength text).head? := by
  cases text with
  | nil => exact Or.inr rfl
  | cons c rest =>
      by_cases starts : entityLength (c :: rest) = 0
      · rw [removeAll_cons starts]
        exact Or.inr rfl
      · obtain ⟨part, isEntity, behind, split⟩ := finds_entityLength.exists_of_ne_zero starts
        rw [← split, List.head?_append_of_ne_nil _ (finds_entityLength.ne_nil isEntity)]
        exact Or.inl isEntity.head?_eq

theorem getLast?_of_removeAll (text : List Char) :
    text.getLast? = some ';' ∨ text.getLast? = (removeAll entityLength text).getLast? := by
  induction text using finds_entityLength.induction with
  | nil => exact Or.inr rfl
  | keep c rest starts inductionHypothesis =>
      rw [removeAll_cons starts, List.getLast?_cons, List.getLast?_cons]
      rcases inductionHypothesis with isLast | same
      · exact Or.inl (by rw [isLast]; rfl)
      · exact Or.inr (by rw [same])
  | delete part rest isEntity inductionHypothesis =>
      rw [finds_entityLength.removeAll_append isEntity, List.getLast?_append, isEntity.getLast?_eq]
      cases rest with
      | nil => exact Or.inl rfl
      | cons c others =>
          rw [List.getLast?_cons, Option.some_or] at *
          exact inductionHypothesis

/-- An entity that others break up comes together, wherever it stands. -/
theorem removeAll_append_of_broken {broken : List Char}
    (comesTogether : IsEntity (removeAll entityLength broken)) (left right : List Char) :
    removeAll entityLength (left ++ (broken ++ right)) =
      removeAll entityLength left ++
        (removeAll entityLength broken ++ removeAll entityLength right) := by
  obtain ⟨more, starts⟩ : ∃ more, broken = '&' :: more := by
    rw [← List.head?_eq_some_iff]
    rcases head?_of_removeAll broken with starts | same
    · exact starts
    · rw [same, comesTogether.head?_eq]
  obtain ⟨first, ends⟩ : ∃ first, broken = first ++ [';'] := by
    rw [← List.getLast?_eq_some_iff]
    rcases getLast?_of_removeAll broken with ends | same
    · exact ends
    · rw [same, comesTogether.getLast?_eq]
  have apartBefore : Apart IsEntity left (broken ++ right) := by
    rw [starts]
    exact apart_of_ampersand left _
  have apartBehind : Apart IsEntity broken right := by
    rw [ends]
    exact apart_of_semicolon first right
  rw [finds_entityLength.removeAll_append_of_apart apartBefore,
    finds_entityLength.removeAll_append_of_apart apartBehind]

/-- What one pass leaves has an entity at some place exactly if the text has a broken one there. -/
theorem exists_broken_iff {text first entity behind : List Char} (isEntity : IsEntity entity) :
    removeAll entityLength text = first ++ (entity ++ behind) ↔
      ∃ left broken right, text = left ++ (broken ++ right) ∧
        removeAll entityLength left = first ∧ removeAll entityLength broken = entity ∧
        removeAll entityLength right = behind := by
  constructor
  · intro split
    obtain ⟨left, others, rfl, isFirst, isRest⟩ :=
      finds_entityLength.exists_of_removeAll_eq_append split
    obtain ⟨broken, right, rfl, isBroken, isBehind⟩ :=
      finds_entityLength.exists_of_removeAll_eq_append isRest
    exact ⟨left, broken, right, rfl, isFirst, isBroken, isBehind⟩
  · rintro ⟨left, broken, right, rfl, rfl, rfl, rfl⟩
    exact removeAll_append_of_broken isEntity left right

end ApiTools.Text
