import ApiTools.Proofs.Text.Markup
import ApiTools.Text.Blank
import Mathlib.Data.List.DropRight

/-!
# Blanks around and between words

What trimming leaves of a text, and the single spaces that runs of blanks become. Trimmed, such a
text is its words with a space between each two of them.
-/

namespace ApiTools.Text

/-! ## Trimming -/

theorem isPrefix_trimRight (text : List Char) : trimRight text <+: text :=
  List.rdropWhile_prefix isBlank text

theorem isPrefix_trim (text : List Char) : trim text <+: trimLeft text :=
  isPrefix_trimRight (trimLeft text)

theorem isSuffix_trimLeft (text : List Char) : trimLeft text <:+ text :=
  List.dropWhile_suffix isBlank

theorem isInfix_trim (text : List Char) : trim text <:+: text :=
  (isPrefix_trim text).isInfix.trans (isSuffix_trimLeft text).isInfix

theorem isBlank_head?_trimLeft (text : List Char) :
    ∀ c ∈ (trimLeft text).head?, isBlank c = false :=
  ends_dropWhile isBlank text

theorem trimLeft_append_cons {mark : Char} (notBlank : isBlank mark = false)
    (first rest : List Char) :
    trimLeft (first ++ mark :: rest) = trimLeft first ++ mark :: rest :=
  dropWhile_append_of_stop notBlank first rest

theorem trimRight_append_cons {mark : Char} (notBlank : isBlank mark = false)
    (first rest : List Char) :
    trimRight (first ++ mark :: rest) = first ++ mark :: trimRight rest := by
  have turned : (first ++ mark :: rest).reverse = rest.reverse ++ mark :: first.reverse := by simp
  rw [trimRight, turned, dropWhile_append_of_stop notBlank, trimRight]
  simp

theorem trimRight_space_cons (text : List Char) :
    trimRight (' ' :: text) = if trimRight text = [] then [] else ' ' :: trimRight text := by
  have isSpace : isBlank ' ' = true := by decide
  have turned : trimRight (' ' :: text) =
      ((text.reverse ++ [' ']).dropWhile isBlank).reverse := by
    rw [trimRight, List.reverse_cons]
  rw [turned, List.dropWhile_append]
  by_cases isNil : text.reverse.dropWhile isBlank = []
  · have trimmed : trimRight text = [] := by rw [trimRight, isNil, List.reverse_nil]
    rw [if_pos trimmed, isNil]
    simp [isSpace]
  · have filled : trimRight text ≠ [] := by simpa [trimRight] using isNil
    rw [if_neg filled, if_neg (by simpa using isNil)]
    simp [trimRight]

/-- A part whose ends are not blank stays, and what stands before it loses the blanks at its
start. -/
theorem trim_append {first part behind : List Char} {start finish : Char}
    (starts : part.head? = some start) (ends : part.getLast? = some finish)
    (startNotBlank : isBlank start = false) (finishNotBlank : isBlank finish = false) :
    trim (first ++ (part ++ behind)) = trimLeft first ++ (part ++ trimRight behind) := by
  have atStart : trimLeft (first ++ (part ++ behind)) = trimLeft first ++ (part ++ behind) := by
    obtain ⟨more, rfl⟩ := List.head?_eq_some_iff.1 starts
    exact trimLeft_append_cons startNotBlank first _
  obtain ⟨init, rfl⟩ := List.getLast?_eq_some_iff.1 ends
  have split (rest : List Char) : trimLeft first ++ (init ++ [finish] ++ rest) =
      (trimLeft first ++ init) ++ finish :: rest := by simp
  rw [trim, atStart, split, split, trimRight_append_cons finishNotBlank]

/-- Where a part with such ends stands in the beginning of a trimmed text. -/
theorem infix_take_trim_iff {part : List Char} {start finish : Char} (text : List Char)
    (limit : Nat) (starts : part.head? = some start) (ends : part.getLast? = some finish)
    (startNotBlank : isBlank start = false) (finishNotBlank : isBlank finish = false) :
    part <:+: (trim text).take limit ↔
      ∃ first behind, text = first ++ (part ++ behind) ∧
        (trimLeft first).length + part.length ≤ limit := by
  constructor
  · rintro ⟨first, behind, shown⟩
    obtain ⟨blanks, whole⟩ := isSuffix_trimLeft text
    obtain ⟨rest, trimmed⟩ := isPrefix_trim text
    have split : text =
        (text.takeWhile isBlank ++ first) ++ (part ++ (behind ++ (trim text).drop limit ++ rest)) := by
      calc
        text = text.takeWhile isBlank ++ trimLeft text := List.takeWhile_append_dropWhile.symm
        _ = text.takeWhile isBlank ++
            ((trim text).take limit ++ (trim text).drop limit ++ rest) := by
          rw [List.take_append_drop, trimmed]
        _ = _ := by
          rw [← shown]
          simp only [List.append_assoc]
    refine ⟨_, _, split, ?_⟩
    have blanks : ∀ c ∈ text.takeWhile isBlank, isBlank c = true :=
      fun c member => List.mem_takeWhile_imp member
    have shorter : (trimLeft (text.takeWhile isBlank ++ first)).length ≤ first.length := by
      rw [trimLeft, List.dropWhile_append_of_pos blanks]
      exact (List.dropWhile_suffix isBlank).length_le
    have fits : first.length + part.length ≤ limit := by
      have length := congrArg List.length shown
      have bound := List.length_take_le limit (trim text)
      simp only [List.length_append] at length
      omega
    omega
  · rintro ⟨first, behind, rfl, fits⟩
    rw [trim_append starts ends startNotBlank finishNotBlank, ← List.append_assoc,
      List.take_append, List.take_of_length_le (by rwa [List.length_append])]
    exact ⟨trimLeft first, _, rfl⟩

/-! ## Words -/

/-- The longest parts of a text without blanks. -/
def words (text : List Char) : List (List Char) :=
  (text.splitOnP isBlank).filter fun part => !part.isEmpty

/-- The text starts with a blank. -/
def startsBlank (text : List Char) : Bool :=
  (text.head?.map isBlank).getD false

section

variable {c : Char} {rest : List Char}

theorem collapseBlanks_of_not_blank (notBlank : isBlank c = false) (rest : List Char) :
    collapseBlanks (c :: rest) = c :: collapseBlanks rest := by
  rw [collapseBlanks, notBlank, if_neg (by decide)]

theorem collapseBlanks_of_more (blank : isBlank c = true) (more : startsBlank rest = true) :
    collapseBlanks (c :: rest) = collapseBlanks rest := by
  rw [collapseBlanks, if_pos blank]
  exact if_pos more

theorem collapseBlanks_of_last (blank : isBlank c = true) (last : startsBlank rest = false) :
    collapseBlanks (c :: rest) = ' ' :: collapseBlanks rest := by
  rw [collapseBlanks, if_pos blank]
  exact if_neg (ne_true_of_eq_false last)

theorem startsBlank_collapseBlanks (text : List Char) :
    startsBlank (collapseBlanks text) = startsBlank text := by
  induction text with
  | nil => rfl
  | cons c rest inductionHypothesis =>
      cases blank : isBlank c with
      | false =>
          rw [collapseBlanks_of_not_blank blank]
          rfl
      | true =>
          have here : startsBlank (c :: rest) = true := blank
          cases more : startsBlank rest with
          | true => rw [collapseBlanks_of_more blank more, inductionHypothesis, more, here]
          | false =>
              have isSpace : isBlank ' ' = true := by decide
              rw [collapseBlanks_of_last blank more, here]
              exact isSpace

/-- Only single spaces are left of the blanks. -/
theorem mem_collapseBlanks {d : Char} {text : List Char} (member : d ∈ collapseBlanks text) :
    d = ' ' ∨ isBlank d = false ∧ d ∈ text := by
  induction text with
  | nil => cases member
  | cons c rest inductionHypothesis =>
      have later (member : d ∈ collapseBlanks rest) :
          d = ' ' ∨ isBlank d = false ∧ d ∈ c :: rest :=
        (inductionHypothesis member).imp_right fun ⟨notBlank, inRest⟩ =>
          ⟨notBlank, List.mem_cons_of_mem c inRest⟩
      cases blank : isBlank c with
      | false =>
          rw [collapseBlanks_of_not_blank blank] at member
          rcases List.mem_cons.1 member with rfl | inRest
          · exact Or.inr ⟨blank, List.mem_cons_self⟩
          · exact later inRest
      | true =>
          cases more : startsBlank rest with
          | true =>
              rw [collapseBlanks_of_more blank more] at member
              exact later member
          | false =>
              rw [collapseBlanks_of_last blank more] at member
              rcases List.mem_cons.1 member with rfl | inRest
              · exact Or.inl rfl
              · exact later inRest

/-- No two spaces follow each other. -/
theorem not_infix_collapseBlanks (text : List Char) : ¬ [' ', ' '] <:+: collapseBlanks text := by
  have isSpace : isBlank ' ' = true := by decide
  induction text with
  | nil => exact fun inside => nomatch List.eq_nil_of_infix_nil inside
  | cons c rest inductionHypothesis =>
      cases blank : isBlank c with
      | false =>
          rw [collapseBlanks_of_not_blank blank]
          intro inside
          rcases List.infix_cons_iff.1 inside with isFirst | later
          · obtain ⟨rfl, -⟩ := List.cons_prefix_cons.1 isFirst
            rw [isSpace] at blank
            cases blank
          · exact inductionHypothesis later
      | true =>
          cases more : startsBlank rest with
          | true =>
              rw [collapseBlanks_of_more blank more]
              exact inductionHypothesis
          | false =>
              rw [collapseBlanks_of_last blank more]
              intro inside
              rcases List.infix_cons_iff.1 inside with isFirst | later
              · obtain ⟨-, another, split⟩ := List.cons_prefix_cons.1 isFirst
                have startsOn := startsBlank_collapseBlanks rest
                rw [more, ← split] at startsOn
                cases isSpace.symm.trans startsOn
              · exact inductionHypothesis later

/-- Single spaces in the place of blanks do not make a tag. -/
theorem isUntagged_collapseBlanks {text : List Char} (untagged : IsUntagged text) :
    IsUntagged (collapseBlanks text) := by
  induction text with
  | nil => exact untagged
  | cons c rest inductionHypothesis =>
      have restUntagged := inductionHypothesis (untagged.of_isInfix (List.suffix_cons c rest).isInfix)
      cases blank : isBlank c with
      | false =>
          rw [collapseBlanks_of_not_blank blank]
          intro behind isSuffix
          rcases List.suffix_cons_iff.1 isSuffix with isWhole | later
          · obtain ⟨rfl, rfl⟩ := List.cons.inj isWhole
            refine (untagged rest List.suffix_rfl).imp ?_ ?_
            · intro isClosed
              obtain ⟨others, rfl⟩ := List.head?_eq_some_iff.1 isClosed
              rw [collapseBlanks_of_not_blank (by decide)]
              rfl
            · intro open_ member
              rcases mem_collapseBlanks member with isSpace | ⟨-, inRest⟩
              · cases isSpace
              · exact open_ inRest
          · exact restUntagged behind later
      | true =>
          cases more : startsBlank rest with
          | true =>
              rw [collapseBlanks_of_more blank more]
              exact restUntagged
          | false =>
              rw [collapseBlanks_of_last blank more]
              intro behind isSuffix
              rcases List.suffix_cons_iff.1 isSuffix with isWhole | later
              · cases (List.cons.inj isWhole).1
              · exact restUntagged behind later

/-! ## Words with single spaces between them -/

theorem words_cons_of_blank (blank : isBlank c = true) (rest : List Char) :
    words (c :: rest) = words rest := by
  rw [words, List.splitOnP_cons_eq_if_modifyHead, if_pos blank]
  rfl

theorem words_of_startsBlank {text : List Char} (notBlank : isBlank c = false)
    (ends : startsBlank text = true ∨ text = []) : words (c :: text) = [c] :: words text := by
  rw [words, List.splitOnP_cons_eq_if_modifyHead, if_neg (ne_true_of_eq_false notBlank)]
  rcases ends with blank | rfl
  · cases text with
    | nil => cases blank
    | cons d others =>
        have isBlankD : isBlank d = true := blank
        rw [words, List.splitOnP_cons_eq_if_modifyHead, if_pos isBlankD]
        rfl
  · rfl

theorem exists_words_of_goesOn {d : Char} (notBlank : isBlank c = false)
    (goesOn : isBlank d = false) (others : List Char) :
    ∃ word more, words (d :: others) = word :: more ∧
      words (c :: d :: others) = (c :: word) :: more := by
  obtain ⟨part, parts, split⟩ :=
    List.exists_cons_of_ne_nil (List.splitOnP_ne_nil isBlank others)
  refine ⟨d :: part, parts.filter fun part => !part.isEmpty, ?_, ?_⟩
  · rw [words, List.splitOnP_cons_eq_if_modifyHead, if_neg (ne_true_of_eq_false goesOn), split]
    rfl
  · rw [words, List.splitOnP_cons_eq_if_modifyHead, if_neg (ne_true_of_eq_false notBlank),
      List.splitOnP_cons_eq_if_modifyHead, if_neg (ne_true_of_eq_false goesOn), split]
    rfl

theorem ne_nil_of_mem_words {word text : List Char} (member : word ∈ words text) : word ≠ [] := by
  have filled := (List.mem_filter.1 member).2
  simpa using filled

theorem intercalate_words_eq_nil_iff (text : List Char) :
    [' '].intercalate (words text) = [] ↔ words text = [] := by
  constructor
  · intro isNil
    cases split : words text with
    | nil => rfl
    | cons word others =>
        have filled : word ≠ [] := ne_nil_of_mem_words (split ▸ List.mem_cons_self)
        rw [split] at isNil
        cases others with
        | nil =>
            rw [List.intercalate_singleton] at isNil
            exact absurd isNil filled
        | cons next more =>
            rw [List.intercalate_cons_cons, List.append_assoc] at isNil
            exact absurd (List.append_eq_nil_iff.1 isNil).1 filled
  · intro noWord
    rw [noWord]
    rfl

theorem trimRight_collapseBlanks (text : List Char) :
    trimRight (collapseBlanks text) =
      (if startsBlank text = true ∧ words text ≠ [] then [' '] else []) ++
        [' '].intercalate (words text) := by
  induction text with
  | nil => rfl
  | cons c rest inductionHypothesis =>
      cases blank : isBlank c with
      | true =>
          have here : startsBlank (c :: rest) = true := blank
          rw [words_cons_of_blank blank, here]
          cases more : startsBlank rest with
          | true => rw [collapseBlanks_of_more blank more, inductionHypothesis, more]
          | false =>
              have noSpace : ¬(startsBlank rest = true ∧ words rest ≠ []) :=
                fun both => ne_true_of_eq_false more both.1
              rw [if_neg noSpace, List.nil_append] at inductionHypothesis
              rw [collapseBlanks_of_last blank more, trimRight_space_cons, inductionHypothesis]
              by_cases noWord : words rest = []
              · rw [if_pos ((intercalate_words_eq_nil_iff rest).2 noWord), noWord]
                rfl
              · rw [if_neg (mt (intercalate_words_eq_nil_iff rest).1 noWord),
                  if_pos ⟨rfl, noWord⟩]
                rfl
      | false =>
          have here : startsBlank (c :: rest) = false := blank
          have noSpace : ¬(startsBlank (c :: rest) = true ∧ words (c :: rest) ≠ []) :=
            fun both => ne_true_of_eq_false here both.1
          have kept := trimRight_append_cons blank [] (collapseBlanks rest)
          rw [List.nil_append, List.nil_append, inductionHypothesis] at kept
          rw [collapseBlanks_of_not_blank blank, kept, if_neg noSpace, List.nil_append]
          cases rest with
          | nil => rw [words_of_startsBlank blank (Or.inr rfl)]; rfl
          | cons d others =>
              cases goesOn : isBlank d with
              | true =>
                  have ends : startsBlank (d :: others) = true := goesOn
                  rw [words_of_startsBlank blank (Or.inl ends)]
                  by_cases noWord : words (d :: others) = []
                  · rw [noWord, if_neg fun both => both.2 rfl]
                    rfl
                  · rw [if_pos ⟨ends, noWord⟩, List.intercalate_cons_of_ne_nil noWord]
                    rfl
              | false =>
                  have noSpaceBehind :
                      ¬(startsBlank (d :: others) = true ∧ words (d :: others) ≠ []) :=
                    fun both => ne_true_of_eq_false goesOn both.1
                  obtain ⟨word, more, isSplit, isLonger⟩ :=
                    exists_words_of_goesOn blank goesOn others
                  rw [if_neg noSpaceBehind, isSplit, isLonger]
                  cases more with
                  | nil => rfl
                  | cons next further =>
                      rw [List.intercalate_cons_cons, List.intercalate_cons_cons]
                      rfl

end

theorem trimLeft_cons_of_blank {c : Char} (blank : isBlank c = true) (rest : List Char) :
    trimLeft (c :: rest) = trimLeft rest :=
  List.dropWhile_cons_of_pos blank

theorem trimLeft_collapseBlanks (text : List Char) :
    trimLeft (collapseBlanks text) = collapseBlanks (trimLeft text) := by
  induction text with
  | nil => rfl
  | cons c rest inductionHypothesis =>
      cases blank : isBlank c with
      | false =>
          have stays (text : List Char) : trimLeft (c :: text) = c :: text :=
            List.dropWhile_cons_of_neg (ne_true_of_eq_false blank)
          rw [collapseBlanks_of_not_blank blank, stays, stays, collapseBlanks_of_not_blank blank]
      | true =>
          rw [trimLeft_cons_of_blank blank, ← inductionHypothesis]
          cases more : startsBlank rest with
          | true => rw [collapseBlanks_of_more blank more]
          | false =>
              rw [collapseBlanks_of_last blank more]
              exact trimLeft_cons_of_blank (by decide) _

theorem words_trimLeft (text : List Char) : words (trimLeft text) = words text := by
  induction text with
  | nil => rfl
  | cons c rest inductionHypothesis =>
      cases blank : isBlank c with
      | false => rw [trimLeft, List.dropWhile_cons_of_neg (ne_true_of_eq_false blank)]
      | true =>
          rw [trimLeft_cons_of_blank blank, words_cons_of_blank blank, inductionHypothesis]

/-- Runs of blanks made single spaces and the ends trimmed, a text is its words with a space between
each two of them. -/
theorem trim_collapseBlanks (text : List Char) :
    trim (collapseBlanks text) = [' '].intercalate (words text) := by
  have noSpace : ¬(startsBlank (trimLeft text) = true ∧ words (trimLeft text) ≠ []) := by
    rintro ⟨starts, -⟩
    cases trimmed : trimLeft text with
    | nil =>
        rw [trimmed] at starts
        cases starts
    | cons c others =>
        have notBlank := isBlank_head?_trimLeft text c (by rw [trimmed]; rfl)
        rw [trimmed] at starts
        exact ne_true_of_eq_false notBlank starts
  rw [trim, trimLeft_collapseBlanks, trimRight_collapseBlanks, if_neg noSpace, List.nil_append,
    words_trimLeft]

end ApiTools.Text
