import ApiTools.Proofs.Json.WellKeyed

/-!
# Values up to the order of keys

Two values are alike when they differ in nothing but the order in which their objects give their
members. Numbers that are written differently are not alike.
-/

namespace ApiTools.Json

/-- The values are equal up to the order of keys: the members of an object, once they are brought
into the order of the other's, have the same keys and alike values. -/
inductive Alike : Json → Json → Prop where
  | atom {value : Json} (atomic : value.isAtomic = true) : Alike value value
  | arr {items others : List Json} (alike : List.Forall₂ Alike items others) :
      Alike (.arr items) (.arr others)
  | obj {fields sorted others : List (String × Json)} (sameMembers : fields.Perm sorted)
      (sameKeys : Keyed.keys sorted = Keyed.keys others)
      (alike : List.Forall₂ Alike (sorted.map Prod.snd) (others.map Prod.snd)) :
      Alike (.obj fields) (.obj others)

/-- Members with the same key and alike values. -/
def MemberAlike (field other : String × Json) : Prop :=
  field.1 = other.1 ∧ Alike field.2 other.2

theorem alike_obj {fields sorted others : List (String × Json)} (sameMembers : fields.Perm sorted)
    (alike : List.Forall₂ MemberAlike sorted others) : Alike (.obj fields) (.obj others) := by
  have sameKeys : Keyed.keys sorted = Keyed.keys others := by
    clear sameMembers
    induction alike with
    | nil => rfl
    | cons first _ inductionHypothesis =>
        rw [Keyed.keys_cons, Keyed.keys_cons, first.1, inductionHypothesis]
  refine .obj sameMembers sameKeys ?_
  rw [List.forall₂_map_left_iff, List.forall₂_map_right_iff]
  exact alike.imp fun _ _ member => member.2

theorem alike_refl (value : Json) : Alike value value := by
  induction value using Json.induction with
  | null | bool _ | int _ | float _ | str _ => exact .atom rfl
  | arr items inductionHypothesis => exact .arr (List.forall₂_same.2 inductionHypothesis)
  | obj fields inductionHypothesis =>
      refine alike_obj (List.Perm.refl fields) (List.forall₂_same.2 fun field member => ?_)
      exact ⟨rfl, inductionHypothesis field member⟩

end ApiTools.Json
