import ApiTools.Json.Equality
import ApiTools.Json.Literal
import ApiTools.Proofs.Json.WellKeyed

/-!
# Values that equal themselves

Only not-a-number is unequal to itself as data, so every value with finite numbers and distinct keys
equals itself.
-/

namespace ApiTools.Json

theorem isFinite_arr {items : List Json} :
    (Json.arr items).isFinite = true ↔ ∀ item ∈ items, item.isFinite = true := by
  rw [isFinite]
  induction items with
  | nil => simp [areFinite]
  | cons item rest inductionHypothesis => simp [areFinite, inductionHypothesis]

theorem isFinite_obj {fields : List (String × Json)} :
    (Json.obj fields).isFinite = true ↔ ∀ field ∈ fields, field.2.isFinite = true := by
  rw [isFinite]
  induction fields with
  | nil => simp [haveFinite]
  | cons field rest inductionHypothesis =>
      simp only [haveFinite, Bool.and_eq_true, inductionHypothesis, List.forall_mem_cons]

/-- Only null equals null. -/
theorem same_null (value : Json) : Json.null.same value = decide (value = .null) := by
  rw [same, sameScalar]
  cases value with
  | float value =>
      simp only [wholeValue?]
      cases value.toInt? <;> simp
  | _ => simp [wholeValue?]

theorem sameItems_refl {items : List Json} (same : ∀ item ∈ items, item.same item = true) :
    sameItems items items = true := by
  induction items with
  | nil => rfl
  | cons item rest inductionHypothesis =>
      rw [List.forall_mem_cons] at same
      rw [sameItems, same.1, inductionHypothesis same.2, Bool.and_self]

/-- Members that stand in an object with distinct keys equal those members. -/
theorem sameMembers_of_subset {part whole : List (String × Json)}
    (distinct : (Keyed.keys whole).Nodup) (included : ∀ field ∈ part, field ∈ whole)
    (same : ∀ field ∈ part, field.2.same field.2 = true) : sameMembers part whole = true := by
  induction part with
  | nil => rfl
  | cons field rest inductionHypothesis =>
      obtain ⟨key, value⟩ := field
      rw [List.forall_mem_cons] at included same
      rw [sameMembers, Keyed.get?_of_mem distinct included.1,
        inductionHypothesis included.2 same.2, Bool.and_true]
      exact same.1

theorem same_self {value : Json} (keyed : value.isWellKeyed = true)
    (finite : value.isFinite = true) : value.same value = true := by
  induction value using Json.induction with
  | null => rfl
  | bool value => simp [same, sameScalar, wholeValue?]
  | int value => simp [same, sameScalar, wholeValue?]
  | float value =>
      cases value with
      | finite negative significand exponent =>
          simp only [same, sameScalar, wholeValue?]
          cases (Binary64.finite negative significand exponent).toInt? <;> simp
      | _ => simp [isFinite] at finite
  | str value => simp [same, sameScalar, wholeValue?]
  | arr items inductionHypothesis =>
      rw [isWellKeyed_arr] at keyed
      rw [isFinite_arr] at finite
      rw [same]
      exact sameItems_refl fun item member =>
        inductionHypothesis item member (keyed item member) (finite item member)
  | obj fields inductionHypothesis =>
      rw [isWellKeyed_obj] at keyed
      rw [isFinite_obj] at finite
      rw [same, decide_eq_true rfl, Bool.true_and]
      exact sameMembers_of_subset keyed.1 (fun _ member => member) fun field member =>
        inductionHypothesis field member (keyed.2 field member) (finite field member)

end ApiTools.Json
