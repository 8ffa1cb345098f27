import Mathlib.Data.List.Basic

/-!
# Pieces of a text

The pieces of a text between the places of a mark, where a text is rewritten character by character,
and how long they are.
-/

namespace ApiTools.Text

variable {mark : Char}

theorem splitOn_cons_self (mark : Char) (rest : List Char) :
    (mark :: rest).splitOn mark = [] :: rest.splitOn mark := by
  rw [List.splitOn_cons_eq_if_modifyHead, if_pos (beq_self_eq_true mark)]

theorem splitOn_cons_of_ne {c : Char} (different : c ≠ mark) (rest : List Char) :
    (c :: rest).splitOn mark = (rest.splitOn mark).modifyHead (List.cons c) := by
  rw [List.splitOn_cons_eq_if_modifyHead, if_neg (by simpa using different)]

theorem exists_splitOn_eq_cons (mark : Char) (text : List Char) :
    ∃ piece pieces, text.splitOn mark = piece :: pieces :=
  List.exists_cons_of_ne_nil (List.splitOn_ne_nil mark text)

/-- A piece does not hold the mark. -/
theorem notMem_of_mem_splitOn {text piece : List Char} (member : piece ∈ text.splitOn mark) :
    mark ∉ piece := by
  induction text generalizing piece with
  | nil =>
      obtain rfl : piece = [] := by simpa using member
      exact List.not_mem_nil
  | cons c rest inductionHypothesis =>
      obtain ⟨first, others, split⟩ := exists_splitOn_eq_cons mark rest
      rw [split] at inductionHypothesis
      by_cases same : c = mark
      · subst same
        rw [splitOn_cons_self, split] at member
        rcases List.mem_cons.1 member with rfl | later
        · exact List.not_mem_nil
        · exact inductionHypothesis later
      · rw [splitOn_cons_of_ne same, split, List.modifyHead_cons] at member
        rcases List.mem_cons.1 member with rfl | later
        · intro inside
          rcases List.mem_cons.1 inside with isMark | inFirst
          · exact same isMark.symm
          · exact inductionHypothesis List.mem_cons_self inFirst
        · exact inductionHypothesis (List.mem_cons_of_mem first later)

/-- Where the mark is written as itself and nothing else is written with it, splitting and writing
can change places. -/
theorem splitOn_flatMap {write : Char → List Char} (same : write mark = [mark])
    (without : ∀ c, c ≠ mark → mark ∉ write c) (text : List Char) :
    (text.flatMap write).splitOn mark =
      (text.splitOn mark).map fun piece => piece.flatMap write := by
  induction text with
  | nil => rfl
  | cons c rest inductionHypothesis =>
      obtain ⟨first, others, split⟩ := exists_splitOn_eq_cons mark rest
      rw [split, List.map_cons] at inductionHypothesis
      rw [List.flatMap_cons]
      by_cases isMark : c = mark
      · subst isMark
        rw [same, List.singleton_append, splitOn_cons_self, splitOn_cons_self, inductionHypothesis,
          split]
        rfl
      · have prepend : ∀ written : List Char, mark ∉ written →
            (written ++ rest.flatMap write).splitOn mark =
              (written ++ first.flatMap write) :: others.map fun piece => piece.flatMap write := by
          intro written notInside
          induction written with
          | nil => rw [List.nil_append, List.nil_append, inductionHypothesis]
          | cons d more prependMore =>
              rw [List.mem_cons, not_or] at notInside
              rw [List.cons_append, splitOn_cons_of_ne (Ne.symm notInside.1),
                prependMore notInside.2]
              rfl
        rw [prepend _ (without c isMark), splitOn_cons_of_ne isMark, split]
        rfl

/-- A piece is no longer than the text, and shorter if the text was cut at all. -/
theorem length_le_of_mem_splitOn {text piece : List Char} (member : piece ∈ text.splitOn mark) :
    piece.length + (if mark ∈ text then 1 else 0) ≤ text.length := by
  induction text generalizing piece with
  | nil =>
      obtain rfl : piece = [] := by simpa using member
      simp
  | cons c rest inductionHypothesis =>
      obtain ⟨first, others, split⟩ := exists_splitOn_eq_cons mark rest
      rw [split] at inductionHypothesis
      by_cases same : c = mark
      · subst same
        rw [splitOn_cons_self, split] at member
        rw [if_pos List.mem_cons_self, List.length_cons]
        rcases List.mem_cons.1 member with rfl | later
        · simp
        · have bound := inductionHypothesis later
          omega
      · have marks : (mark ∈ c :: rest) ↔ mark ∈ rest := by simp [Ne.symm same]
        rw [splitOn_cons_of_ne same, split, List.modifyHead_cons] at member
        simp only [marks, List.length_cons]
        rcases List.mem_cons.1 member with rfl | later
        · have bound := inductionHypothesis List.mem_cons_self
          rw [List.length_cons]
          omega
        · have bound := inductionHypothesis (List.mem_cons_of_mem first later)
          omega

end ApiTools.Text
