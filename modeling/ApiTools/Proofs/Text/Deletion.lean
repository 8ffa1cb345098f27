import ApiTools.Text.Markup
import Mathlib.Data.List.Infix

/-!
# Deleting what occurs in a text

What is left when the leftmost occurrence of something is deleted, then the leftmost one in what
follows it, and so on to the end of the text. A pattern that says how long the occurrence at the
start of a text is finds these, and no others.
-/

namespace ApiTools.Text

variable {Occurrence : List Char → Prop} {pattern : List Char → Nat}

/-- The second text is left of the first one when its occurrences are deleted in one pass, the
leftmost one first, so that none overlaps another. -/
inductive Deletes (Occurrence : List Char → Prop) : List Char → List Char → Prop where
  | last {text : List Char}
      (without : ∀ part, Occurrence part → ¬ part <:+: text) : Deletes Occurrence text text
  | next {left part rest kept : List Char} (occurs : Occurrence part)
      (leftmost : ∀ first other behind, Occurrence other →
        left ++ (part ++ rest) = first ++ (other ++ behind) → left.length ≤ first.length)
      (others : Deletes Occurrence rest kept) :
      Deletes Occurrence (left ++ (part ++ rest)) (left ++ kept)

/-- The pattern gives the length of the one occurrence at the start of a text, and zero where there
is none. -/
structure Finds (pattern : List Char → Nat) (Occurrence : List Char → Prop) : Prop where
  ne_nil : ∀ {part}, Occurrence part → part ≠ []
  length_eq : ∀ {part}, Occurrence part → ∀ rest, pattern (part ++ rest) = part.length
  exists_of_ne_zero : ∀ {text}, pattern text ≠ 0 → ∃ part, Occurrence part ∧ part <+: text

theorem Deletes.cons {c : Char} {rest kept : List Char}
    (starts : ∀ part, Occurrence part → ¬ part <+: c :: rest)
    (others : Deletes Occurrence rest kept) : Deletes Occurrence (c :: rest) (c :: kept) := by
  cases others with
  | last without =>
      refine .last fun part occurs inside => ?_
      rcases List.infix_cons_iff.1 inside with isFirst | later
      · exact starts part occurs isFirst
      · exact without part occurs later
  | @next left part behind kept occurs leftmost others =>
      rw [← List.cons_append, ← List.cons_append]
      refine .next occurs (fun first other more occursToo split => ?_) others
      cases first with
      | nil => exact absurd ⟨more, split.symm⟩ (starts other occursToo)
      | cons d first =>
          obtain ⟨-, splitRest⟩ := List.cons.inj split
          exact Nat.succ_le_succ (leftmost first other more occursToo splitRest)

/-! ## One character or one occurrence -/

theorem removeFrom_eq (skip : Nat) (text : List Char) :
    removeFrom pattern skip text = removeAll pattern (text.drop skip) := by
  induction text generalizing skip with
  | nil => cases skip <;> rfl
  | cons c rest inductionHypothesis =>
      cases skip with
      | zero => rfl
      | succ skip => exact inductionHypothesis skip

@[simp]
theorem removeAll_nil : removeAll pattern [] = [] := rfl

theorem removeAll_cons {c : Char} {rest : List Char} (starts : pattern (c :: rest) = 0) :
    removeAll pattern (c :: rest) = c :: removeAll pattern rest := by
  rw [removeAll, removeFrom, starts]
  rfl

/-- An occurrence that begins in the first text ends there. -/
def Apart (Occurrence : List Char → Prop) (left right : List Char) : Prop :=
  ∀ tail, tail ≠ [] → tail <:+ left → ∀ part, Occurrence part → part <+: tail ++ right →
    part <+: tail

theorem Apart.of_suffix {left right tail : List Char} (apart : Apart Occurrence left right)
    (isSuffix : tail <:+ left) : Apart Occurrence tail right :=
  fun later filled isLater => apart later filled (isLater.trans isSuffix)

namespace Finds

theorem removeAll_append (finds : Finds pattern Occurrence) {part : List Char}
    (occurs : Occurrence part) (rest : List Char) :
    removeAll pattern (part ++ rest) = removeAll pattern rest := by
  have length := finds.length_eq occurs rest
  obtain ⟨c, others, rfl⟩ := List.exists_cons_of_ne_nil (finds.ne_nil occurs)
  rw [List.cons_append] at length ⊢
  rw [removeAll, removeFrom, length, List.length_cons]
  dsimp only
  rw [removeFrom_eq, List.drop_left]

/-- A text starts with a character that is kept, or with an occurrence. -/
theorem induction (finds : Finds pattern Occurrence) {Holds : List Char → Prop} (nil : Holds [])
    (keep : ∀ c rest, pattern (c :: rest) = 0 → Holds rest → Holds (c :: rest))
    (delete : ∀ part rest, Occurrence part → Holds rest → Holds (part ++ rest))
    (text : List Char) : Holds text := by
  induction size : text.length using Nat.strongRecOn generalizing text with
  | ind _ inductionHypothesis =>
      subst size
      cases text with
      | nil => exact nil
      | cons c rest =>
          by_cases starts : pattern (c :: rest) = 0
          · exact keep c rest starts (inductionHypothesis _ (Nat.lt_succ_self _) rest rfl)
          · obtain ⟨part, occurs, behind, split⟩ := finds.exists_of_ne_zero starts
            have shorter : behind.length < (c :: rest).length := by
              rw [← split, List.length_append]
              exact Nat.lt_add_of_pos_left (List.length_pos_of_ne_nil (finds.ne_nil occurs))
            rw [← split]
            exact delete part behind occurs (inductionHypothesis _ shorter behind rfl)

theorem eq_zero_iff (finds : Finds pattern Occurrence) {text : List Char} :
    pattern text = 0 ↔ ∀ part, Occurrence part → ¬ part <+: text := by
  constructor
  · rintro isZero part occurs ⟨rest, rfl⟩
    rw [finds.length_eq occurs] at isZero
    exact finds.ne_nil occurs (List.length_eq_zero_iff.1 isZero)
  · intro without
    by_contra found
    obtain ⟨part, occurs, starts⟩ := finds.exists_of_ne_zero found
    exact without part occurs starts

/-! ## The pass -/

theorem removeAll_sublist (finds : Finds pattern Occurrence) (text : List Char) :
    (removeAll pattern text).Sublist text := by
  induction text using finds.induction with
  | nil => exact List.Sublist.refl _
  | keep c rest starts inductionHypothesis =>
      rw [removeAll_cons starts]
      exact inductionHypothesis.cons_cons c
  | delete part rest occurs inductionHypothesis =>
      rw [finds.removeAll_append occurs]
      exact inductionHypothesis.trans (List.sublist_append_right part rest)

/-- Where no occurrence lies on both sides, the pass can stop and start again. -/
theorem removeAll_append_of_apart (finds : Finds pattern Occurrence) {left right : List Char}
    (apart : Apart Occurrence left right) :
    removeAll pattern (left ++ right) = removeAll pattern left ++ removeAll pattern right := by
  induction left using finds.induction with
  | nil => rfl
  | keep c rest starts inductionHypothesis =>
      have startsOn : pattern (c :: (rest ++ right)) = 0 := by
        rw [finds.eq_zero_iff] at starts ⊢
        exact fun part occurs isFirst =>
          starts part occurs (apart _ (List.cons_ne_nil c rest) List.suffix_rfl part occurs isFirst)
      rw [List.cons_append, removeAll_cons startsOn, removeAll_cons starts, List.cons_append,
        inductionHypothesis (apart.of_suffix (List.suffix_cons c rest))]
  | delete part rest occurs inductionHypothesis =>
      rw [List.append_assoc, finds.removeAll_append occurs, finds.removeAll_append occurs,
        inductionHypothesis (apart.of_suffix (List.suffix_append part rest))]

/-- The beginning of what is left comes from a beginning of the text. -/
theorem exists_of_removeAll_eq_append (finds : Finds pattern Occurrence) {text : List Char} :
    ∀ {first behind : List Char}, removeAll pattern text = first ++ behind →
      ∃ left right, text = left ++ right ∧ removeAll pattern left = first ∧
        removeAll pattern right = behind := by
  induction text using finds.induction with
  | nil =>
      intro first behind split
      obtain ⟨rfl, rfl⟩ := List.append_eq_nil_iff.1 split.symm
      exact ⟨[], [], rfl, rfl, rfl⟩
  | keep c rest starts inductionHypothesis =>
      intro first behind split
      cases first with
      | nil => exact ⟨[], c :: rest, rfl, rfl, split⟩
      | cons d others =>
          rw [removeAll_cons starts, List.cons_append] at split
          obtain ⟨rfl, splitRest⟩ := List.cons.inj split
          obtain ⟨left, right, rfl, isFirst, isBehind⟩ := inductionHypothesis splitRest
          have startsLeft : pattern (c :: left) = 0 := by
            rw [finds.eq_zero_iff] at starts ⊢
            exact fun part occurs isPrefix =>
              starts part occurs (isPrefix.trans ⟨right, List.cons_append⟩)
          exact ⟨c :: left, right, rfl, by rw [removeAll_cons startsLeft, isFirst], isBehind⟩
  | delete part rest occurs inductionHypothesis =>
      intro first behind split
      rw [finds.removeAll_append occurs] at split
      obtain ⟨left, right, rfl, isFirst, isBehind⟩ := inductionHypothesis split
      exact ⟨part ++ left, right, (List.append_assoc _ _ _).symm,
        by rw [finds.removeAll_append occurs, isFirst], isBehind⟩

/-! ## The leftmost one first -/

theorem deletes_removeAll (finds : Finds pattern Occurrence) (text : List Char) :
    Deletes Occurrence text (removeAll pattern text) := by
  induction text using finds.induction with
  | nil =>
      refine .last fun part occurs inside => finds.ne_nil occurs ?_
      exact List.eq_nil_of_infix_nil inside
  | keep c rest starts inductionHypothesis =>
      rw [removeAll_cons starts]
      exact .cons (finds.eq_zero_iff.1 starts) inductionHypothesis
  | delete part rest occurs inductionHypothesis =>
      rw [finds.removeAll_append occurs]
      exact @Deletes.next _ [] part rest _ occurs (fun _ _ _ _ _ => Nat.zero_le _)
        inductionHypothesis

/-- What no occurrence starts in is kept. -/
theorem removeAll_append_of_none (finds : Finds pattern Occurrence) {left : List Char} :
    ∀ {rest : List Char}, (∀ tail, tail ≠ [] → tail <:+ left → ∀ part, Occurrence part →
      ¬ part <+: tail ++ rest) → removeAll pattern (left ++ rest) = left ++ removeAll pattern rest := by
  induction left with
  | nil => exact fun _ => rfl
  | cons c others inductionHypothesis =>
      intro rest none
      have starts : pattern (c :: (others ++ rest)) = 0 :=
        finds.eq_zero_iff.2 (none (c :: others) (List.cons_ne_nil c others) List.suffix_rfl)
      rw [List.cons_append, removeAll_cons starts, List.cons_append, inductionHypothesis]
      exact fun tail filled isSuffix =>
        none tail filled (isSuffix.trans (List.suffix_cons c others))

/-- The pass deletes the leftmost occurrence first, and nothing else does. -/
theorem deletes_iff (finds : Finds pattern Occurrence) {text kept : List Char} :
    Deletes Occurrence text kept ↔ removeAll pattern text = kept := by
  constructor
  · intro deletes
    induction deletes with
    | @last text without =>
        have none : ∀ tail, tail ≠ [] → tail <:+ text → ∀ part, Occurrence part →
            ¬ part <+: tail ++ [] := by
          intro tail _ isSuffix part occurs isFirst
          rw [List.append_nil] at isFirst
          exact without part occurs (isFirst.isInfix.trans isSuffix.isInfix)
        have kept := finds.removeAll_append_of_none none
        rwa [List.append_nil, removeAll_nil, List.append_nil] at kept
    | @next left part rest kept occurs leftmost _ inductionHypothesis =>
        have none : ∀ tail, tail ≠ [] → tail <:+ left → ∀ other, Occurrence other →
            ¬ other <+: tail ++ (part ++ rest) := by
          rintro tail filled ⟨first, rfl⟩ other occursToo ⟨behind, split⟩
          have early := leftmost first other behind occursToo (by rw [split, List.append_assoc])
          rw [List.length_append] at early
          exact filled (List.length_eq_zero_iff.1 (by omega))
        rw [finds.removeAll_append_of_none none, finds.removeAll_append occurs,
          inductionHypothesis]
  · rintro rfl
    exact finds.deletes_removeAll text

end Finds

end ApiTools.Text
