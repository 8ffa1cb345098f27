import ApiTools.Proofs.Text.Search
import Mathlib.Data.List.Forall2

/-!
# Where written values end

Texts that are put together from written values are taken apart again from the front. A word ends
before the first character that cannot be part of it, and a row of values ends before a text that no
value starts with.
-/

namespace ApiTools.Text

variable {α : Type} {write : α → List Char} {rest behind : List Char}

theorem ends_cons {Inner : Char → Bool} {mark : Char} (ends : Inner mark = false)
    (rest : List Char) : ∀ c ∈ (mark :: rest).head?, Inner c = false := by
  intro c isHead
  obtain rfl : mark = c := Option.some.inj isHead
  exact ends

/-- Two words, with what follows them. -/
theorem append_inj_of_word {Inner : Char → Bool} {word other : List Char}
    (inner : ∀ c ∈ word, Inner c = true) (otherInner : ∀ c ∈ other, Inner c = true)
    (ends : ∀ c ∈ rest.head?, Inner c = false) (otherEnds : ∀ c ∈ behind.head?, Inner c = false)
    (same : word ++ rest = other ++ behind) : word = other ∧ rest = behind := by
  -- A word is what is taken from the front as long as the characters can be part of it.
  have sameWord := congrArg (List.takeWhile Inner) same
  rw [(span_of_ends inner ends).1, (span_of_ends otherInner otherEnds).1] at sameWord
  subst sameWord
  exact ⟨rfl, List.append_cancel_left same⟩

/-! ## Rows of values -/

theorem eq_of_map_eq {β : Type*} {write : α → β} {items : List α} :
    ∀ {others : List α},
      (∀ item ∈ items, ∀ other ∈ others, write item = write other → item = other) →
      items.map write = others.map write → items = others := by
  induction items with
  | nil =>
      intro others _ same
      exact (List.map_eq_nil_iff.1 same.symm).symm
  | cons item items inductionHypothesis =>
      intro others reads same
      cases others with
      | nil => cases same
      | cons other more =>
          obtain ⟨sameFirst, sameOthers⟩ := List.cons.inj same
          rw [reads item List.mem_cons_self other List.mem_cons_self sameFirst]
          rw [inductionHypothesis (fun next member later isLater => reads next
            (List.mem_cons_of_mem item member) later (List.mem_cons_of_mem other isLater))
            sameOthers]

/-- Values of some kind can be written one after the other, up to a text that none of them starts
with. What may follow a value is another one or that text. -/
structure Row (Allowed : α → Prop) (Follows : List Char → Prop) (write : α → List Char)
    (stop : List Char) : Prop where
  follows : ∀ item, Allowed item → ∀ after, Follows (write item ++ after)
  stopFollows : ∀ after, Follows (stop ++ after)
  goesOn : ∀ item, Allowed item → ∀ after later, write item ++ after ≠ stop ++ later

namespace Row

variable {Allowed : α → Prop} {Follows : List Char → Prop} {stop : List Char}

theorem follows_flatMap (row : Row Allowed Follows write stop) {items : List α}
    (allowed : ∀ item ∈ items, Allowed item) (rest : List Char) :
    Follows (items.flatMap write ++ (stop ++ rest)) := by
  cases items with
  | nil => exact row.stopFollows rest
  | cons item items =>
      rw [List.flatMap_cons, List.append_assoc]
      exact row.follows item (allowed item List.mem_cons_self) _

/-- If values are told apart by their texts, whatever follows, so are rows of them. -/
theorem forall₂_of_eq (row : Row Allowed Follows write stop) {Alike : α → α → Prop}
    {items : List α} : ∀ {others : List α},
      (∀ item ∈ items, Allowed item) → (∀ other ∈ others, Allowed other) →
      (∀ item ∈ items, ∀ other ∈ others, ∀ after later, Follows after → Follows later →
        write item ++ after = write other ++ later → Alike item other ∧ after = later) →
      items.flatMap write ++ (stop ++ rest) = others.flatMap write ++ (stop ++ behind) →
      List.Forall₂ Alike items others ∧ rest = behind := by
  induction items with
  | nil =>
      intro others _ otherAllowed _ same
      cases others with
      | nil => exact ⟨.nil, List.append_cancel_left same⟩
      | cons other more =>
          rw [List.flatMap_cons, List.append_assoc] at same
          exact absurd same.symm (row.goesOn other (otherAllowed other List.mem_cons_self) _ _)
  | cons item items inductionHypothesis =>
      intro others allowed otherAllowed reads same
      rw [List.flatMap_cons, List.append_assoc] at same
      rw [List.forall_mem_cons] at allowed reads
      cases others with
      | nil => exact absurd same (row.goesOn item allowed.1 _ _)
      | cons other more =>
          rw [List.flatMap_cons, List.append_assoc] at same
          rw [List.forall_mem_cons] at otherAllowed
          obtain ⟨alike, sameRest⟩ := reads.1 other List.mem_cons_self _ _
            (row.follows_flatMap allowed.2 rest) (row.follows_flatMap otherAllowed.2 behind) same
          obtain ⟨allAlike, sameBehind⟩ := inductionHypothesis allowed.2 otherAllowed.2
            (fun next member later isLater =>
              reads.2 next member later (List.mem_cons_of_mem other isLater)) sameRest
          exact ⟨.cons alike allAlike, sameBehind⟩

theorem eq_of_eq (row : Row Allowed Follows write stop) {items others : List α}
    (allowed : ∀ item ∈ items, Allowed item) (otherAllowed : ∀ other ∈ others, Allowed other)
    (reads : ∀ item ∈ items, ∀ other ∈ others, ∀ after later, Follows after → Follows later →
      write item ++ after = write other ++ later → item = other ∧ after = later)
    (same : items.flatMap write ++ (stop ++ rest) = others.flatMap write ++ (stop ++ behind)) :
    items = others ∧ rest = behind := by
  obtain ⟨alike, sameRest⟩ := row.forall₂_of_eq allowed otherAllowed reads same
  rw [List.forall₂_eq_eq_eq] at alike
  exact ⟨alike, sameRest⟩

end Row

/-! ## Rows with commas -/

/-- What may follow a text in a row with commas that a mark ends. -/
def Continues (close : Char) (text : List Char) : Prop :=
  text.head? = some ',' ∨ text.head? = some close

theorem intercalate_cons_append (text : List Char) (texts : List (List Char)) (rest : List Char) :
    ", ".toList.intercalate (text :: texts) ++ rest =
      text ++ (texts.flatMap (", ".toList ++ ·) ++ rest) := by
  induction texts generalizing text with
  | nil => simp
  | cons next others inductionHypothesis =>
      rw [List.intercalate_cons_cons, List.append_assoc, List.append_assoc, inductionHypothesis,
        List.flatMap_cons, List.append_assoc, List.append_assoc]

theorem row_of_comma {close : Char} (notComma : close ≠ ',') :
    Row (fun _ => True) (Continues close) (", ".toList ++ ·) [close] := by
  refine ⟨fun _ _ _ => Or.inl rfl, fun _ => Or.inr rfl, fun _ _ after later same => ?_⟩
  exact notComma (List.cons.inj same).1.symm

/-- Rows with commas of texts whose ends can be told, and that do not start with the mark that ends
the row. -/
theorem eq_of_intercalate {close : Char} (notComma : close ≠ ',') {texts others : List (List Char)}
    (notClose : ∀ text ∈ texts, ∀ after, (text ++ after).head? ≠ some close)
    (otherNotClose : ∀ other ∈ others, ∀ after, (other ++ after).head? ≠ some close)
    (reads : ∀ text ∈ texts, ∀ other ∈ others, ∀ after later,
      Continues close after → Continues close later →
      text ++ after = other ++ later → text = other ∧ after = later)
    (same : ", ".toList.intercalate texts ++ close :: rest =
      ", ".toList.intercalate others ++ close :: behind) :
    texts = others ∧ rest = behind := by
  have row := row_of_comma notComma
  cases texts with
  | nil =>
      cases others with
      | nil => exact ⟨rfl, (List.cons.inj same).2⟩
      | cons other more =>
          rw [intercalate_cons_append] at same
          exact absurd (congrArg List.head? same).symm (otherNotClose other List.mem_cons_self _)
  | cons text texts =>
      rw [List.forall_mem_cons] at reads
      rw [intercalate_cons_append] at same
      cases others with
      | nil => exact absurd (congrArg List.head? same) (notClose text List.mem_cons_self _)
      | cons other more =>
          rw [intercalate_cons_append] at same
          obtain ⟨rfl, sameRest⟩ := reads.1 other List.mem_cons_self _ _
            (row.follows_flatMap (fun _ _ => trivial) rest)
            (row.follows_flatMap (fun _ _ => trivial) behind) same
          -- Behind the first text, each one has a comma ahead of it.
          have readsFurther : ∀ next ∈ texts, ∀ later ∈ more, ∀ after behind,
              Continues close after → Continues close behind →
              ", ".toList ++ next ++ after = ", ".toList ++ later ++ behind →
              next = later ∧ after = behind := by
            intro next member later isLater after behind continues alsoContinues sameNext
            rw [List.append_assoc, List.append_assoc] at sameNext
            exact reads.2 next member later (List.mem_cons_of_mem text isLater) after behind
              continues alsoContinues (List.append_cancel_left sameNext)
          obtain ⟨rfl, sameBehind⟩ := row.eq_of_eq (fun _ _ => trivial) (fun _ _ => trivial)
            readsFurther sameRest
          exact ⟨rfl, sameBehind⟩

end ApiTools.Text
