/-!
# Parts of a text

Finding a part of a text and cutting a text at a character.
-/

namespace ApiTools.Text

/-- The first text occurs in the second, as an unbroken part. -/
def occursIn (part : List Char) : List Char → Bool
  | [] => part.isEmpty
  | c :: rest => part.isPrefixOf (c :: rest) || occursIn part rest

/-- The text before the first occurrence of a character. -/
def before (mark : Char) (text : List Char) : List Char :=
  text.takeWhile (· != mark)

/-- The text after the first occurrence of a character, if it occurs. -/
def after? (mark : Char) (text : List Char) : Option (List Char) :=
  match text.dropWhile (· != mark) with
  | [] => none
  | _ :: rest => some rest

theorem occursIn_iff {part whole : List Char} :
    occursIn part whole = true ↔ ∃ left right, whole = left ++ part ++ right := by
  induction whole with
  | nil =>
      cases part with
      | nil => exact ⟨fun _ => ⟨[], [], rfl⟩, fun _ => rfl⟩
      | cons first others => simp [occursIn]
  | cons c rest hypothesis =>
      simp only [occursIn, Bool.or_eq_true, List.isPrefixOf_iff_prefix, hypothesis]
      constructor
      · rintro (⟨right, equality⟩ | ⟨left, right, equality⟩)
        · exact ⟨[], right, by simp [equality]⟩
        · exact ⟨c :: left, right, by simp [equality]⟩
      · rintro ⟨left, right, equality⟩
        cases left with
        | nil => exact Or.inl ⟨right, by simpa using equality.symm⟩
        | cons first others =>
            simp only [List.cons_append, List.cons.injEq] at equality
            exact Or.inr ⟨others, right, equality.2⟩

end ApiTools.Text
