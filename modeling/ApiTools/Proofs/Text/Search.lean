import ApiTools.Text.Search
import Mathlib.Data.List.TakeWhile

/-!
# Cutting a text

Where a text is cut at a character that stops a run, or at the first occurrence of a mark, only what
stands before the cut decides where it is.
-/

namespace ApiTools.Text

/-! ## Runs -/

theorem takeWhile_append_of_stop {keep : Char → Bool} {mark : Char} (stops : keep mark = false)
    (first rest : List Char) :
    (first ++ mark :: rest).takeWhile keep = first.takeWhile keep := by
  induction first with
  | nil => simp [stops]
  | cons c others inductionHypothesis =>
      rw [List.cons_append, List.takeWhile_cons, List.takeWhile_cons, inductionHypothesis]

theorem dropWhile_append_of_stop {keep : Char → Bool} {mark : Char} (stops : keep mark = false)
    (first rest : List Char) :
    (first ++ mark :: rest).dropWhile keep = first.dropWhile keep ++ mark :: rest := by
  induction first with
  | nil => simp [stops]
  | cons c others inductionHypothesis =>
      rw [List.cons_append, List.dropWhile_cons, List.dropWhile_cons, inductionHypothesis]
      split <;> rfl

/-- A run ends before the first character that is not kept. -/
theorem span_of_ends {keep : Char → Bool} {run rest : List Char} (kept : ∀ c ∈ run, keep c = true)
    (ends : ∀ c ∈ rest.head?, keep c = false) :
    (run ++ rest).takeWhile keep = run ∧ (run ++ rest).dropWhile keep = rest := by
  rw [List.takeWhile_append_of_pos kept, List.dropWhile_append_of_pos kept]
  cases rest with
  | nil => exact ⟨List.append_nil run, rfl⟩
  | cons c others =>
      have stops := ends c rfl
      rw [List.takeWhile_cons, List.dropWhile_cons, stops]
      exact ⟨List.append_nil run, rfl⟩

theorem ends_dropWhile (keep : Char → Bool) (text : List Char) :
    ∀ c ∈ (text.dropWhile keep).head?, keep c = false := by
  intro c isHead
  have stops := List.head?_dropWhile_not keep text
  rw [Option.mem_def] at isHead
  rwa [isHead] at stops

/-! ## Marks -/

theorem eq_before_of_after? {mark : Char} {text rest : List Char}
    (found : after? mark text = some rest) : text = before mark text ++ mark :: rest := by
  unfold after? at found
  split at found
  · cases found
  · next c others dropped =>
      rw [Option.some.injEq] at found
      have isMark : c = mark := by
        have stops := ends_dropWhile (· != mark) text c (by rw [dropped]; rfl)
        simpa using stops
      calc
        text = text.takeWhile (· != mark) ++ text.dropWhile (· != mark) :=
          List.takeWhile_append_dropWhile.symm
        _ = before mark text ++ mark :: rest := by rw [dropped, isMark, found, before]

theorem eq_before_of_after?_eq_none {mark : Char} {text : List Char}
    (absent : after? mark text = none) : text = before mark text := by
  unfold after? at absent
  split at absent
  · next dropped =>
      calc
        text = text.takeWhile (· != mark) ++ text.dropWhile (· != mark) :=
          List.takeWhile_append_dropWhile.symm
        _ = before mark text := by rw [dropped, List.append_nil, before]
  · cases absent

theorem ne_of_mem_before {mark c : Char} {text : List Char} (member : c ∈ before mark text) :
    (c != mark) = true := by
  unfold before at member
  have selected := List.mem_takeWhile_imp member
  exact selected

theorem before_append_cons {mark : Char} {first : List Char} (without : mark ∉ first)
    (rest : List Char) : before mark (first ++ mark :: rest) = first := by
  have passes : ∀ c ∈ first, (c != mark) = true := by
    rintro c member
    simpa using fun same : c = mark => without (same ▸ member)
  rw [before, takeWhile_append_of_stop (by simp), List.takeWhile_eq_self_iff]
  exact passes

theorem after?_append_cons {mark : Char} {first : List Char} (without : mark ∉ first)
    (rest : List Char) : after? mark (first ++ mark :: rest) = some rest := by
  have passes : ∀ c ∈ first, (c != mark) = true := by
    rintro c member
    simpa using fun same : c = mark => without (same ▸ member)
  have dropped : (first ++ mark :: rest).dropWhile (· != mark) = mark :: rest := by
    rw [dropWhile_append_of_stop (by simp), List.dropWhile_eq_nil_iff.2 passes, List.nil_append]
  rw [after?, dropped]

/-- Text after the first mark does not change where a text is cut. -/
theorem before_append_of_after? {mark : Char} {text rest : List Char}
    (found : after? mark text = some rest) (tail : List Char) :
    before mark (text ++ tail) = before mark text := by
  calc
    before mark (text ++ tail) = before mark (before mark text ++ mark :: (rest ++ tail)) := by
      rw [← List.cons_append, ← List.append_assoc, ← eq_before_of_after? found]
    _ = before mark (before mark text) := takeWhile_append_of_stop (by simp) _ _
    _ = before mark text := List.takeWhile_eq_self_iff.2 fun _ member => ne_of_mem_before member

theorem after?_append_of_after? {mark : Char} {text rest : List Char}
    (found : after? mark text = some rest) (tail : List Char) :
    after? mark (text ++ tail) = some (rest ++ tail) := by
  have passes : (before mark text).dropWhile (· != mark) = [] :=
    List.dropWhile_eq_nil_iff.2 fun _ member => ne_of_mem_before member
  have dropped : (text ++ tail).dropWhile (· != mark) = mark :: (rest ++ tail) := by
    calc
      (text ++ tail).dropWhile (· != mark) =
          (before mark text ++ mark :: (rest ++ tail)).dropWhile (· != mark) := by
        rw [← List.cons_append, ← List.append_assoc, ← eq_before_of_after? found]
      _ = (before mark text).dropWhile (· != mark) ++ mark :: (rest ++ tail) :=
        dropWhile_append_of_stop (by simp) _ _
      _ = mark :: (rest ++ tail) := by rw [passes, List.nil_append]
  rw [after?, dropped]

end ApiTools.Text
