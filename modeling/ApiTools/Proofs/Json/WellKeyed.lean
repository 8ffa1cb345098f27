import ApiTools.Json.Access
import ApiTools.Proofs.Binding
import ApiTools.Proofs.Keyed

/-!
# Values with distinct keys

In data every object gives each of its keys once. The parts of such a value are such values again,
and so is whatever is looked up in it, as for every property that goes down to the parts of values.
-/

namespace ApiTools.Json

/-! ## Induction on values -/

/-- What holds of the values without parts, of arrays of values of which it holds, and of objects
with such members, holds of all values. -/
@[elab_as_elim]
theorem induction {motive : Json → Prop}
    (null : motive .null)
    (bool : ∀ value, motive (.bool value))
    (int : ∀ value, motive (.int value))
    (float : ∀ value, motive (.float value))
    (str : ∀ value, motive (.str value))
    (arr : ∀ items, (∀ item ∈ items, motive item) → motive (.arr items))
    (obj : ∀ fields, (∀ field ∈ fields, motive field.2) → motive (.obj fields)) :
    ∀ value, motive value
  | .null => null
  | .bool value => bool value
  | .int value => int value
  | .float value => float value
  | .str value => str value
  | .arr items => arr items fun item _ =>
      induction null bool int float str arr obj item
  | .obj fields => obj fields fun field _ =>
      induction null bool int float str arr obj field.2
termination_by value => sizeOf value
decreasing_by
  · have := List.sizeOf_lt_of_mem ‹item ∈ items›
    simp only [Json.arr.sizeOf_spec]
    omega
  · have := List.sizeOf_lt_of_mem ‹field ∈ fields›
    obtain ⟨key, value⟩ := field
    simp only [Prod.mk.sizeOf_spec] at this
    simp only [Json.obj.sizeOf_spec]
    omega

/-! ## The property -/

mutual

/-- Every object in a value gives each of its keys once. -/
def isWellKeyed : Json → Bool
  | .arr items => areWellKeyed items
  | .obj fields => decide (Keyed.keys fields).Nodup && haveWellKeyed fields
  | .null | .bool _ | .int _ | .float _ | .str _ => true
termination_by structural value => value

/-- Every object in some items gives each of its keys once. -/
def areWellKeyed : List Json → Bool
  | [] => true
  | item :: rest => isWellKeyed item && areWellKeyed rest
termination_by structural items => items

/-- Every object in some members gives each of its keys once. -/
def haveWellKeyed : List (String × Json) → Bool
  | [] => true
  | (_, value) :: rest => isWellKeyed value && haveWellKeyed rest
termination_by structural fields => fields

end

theorem isWellKeyed_arr {items : List Json} :
    (Json.arr items).isWellKeyed = true ↔ ∀ item ∈ items, item.isWellKeyed = true := by
  rw [isWellKeyed]
  induction items with
  | nil => simp [areWellKeyed]
  | cons item rest inductionHypothesis =>
      simp [areWellKeyed, inductionHypothesis]

theorem isWellKeyed_obj {fields : List (String × Json)} :
    (Json.obj fields).isWellKeyed = true ↔
      (Keyed.keys fields).Nodup ∧ ∀ field ∈ fields, field.2.isWellKeyed = true := by
  have members :
      haveWellKeyed fields = true ↔ ∀ field ∈ fields, field.2.isWellKeyed = true := by
    induction fields with
    | nil => simp [haveWellKeyed]
    | cons field rest inductionHypothesis =>
        simp only [haveWellKeyed, Bool.and_eq_true, inductionHypothesis, List.forall_mem_cons]
  rw [isWellKeyed, Bool.and_eq_true, decide_eq_true_eq, members]

/-! ## Looking things up -/

/-- The property goes down to the parts of values, and nothing without numbers lacks it but objects
that give a key twice. -/
structure Hereditary (holds : Json → Prop) : Prop where
  null : holds .null
  bool : ∀ value, holds (.bool value)
  str : ∀ text, holds (.str text)
  emptyArr : holds (.arr [])
  obj : ∀ {fields : List (String × Json)}, (Keyed.keys fields).Nodup →
    (∀ field ∈ fields, holds field.2) → holds (.obj fields)
  item : ∀ {items : List Json}, holds (.arr items) → ∀ item ∈ items, holds item
  field : ∀ {fields : List (String × Json)}, holds (.obj fields) → ∀ field ∈ fields, holds field.2

/-- The property also keeps objects from giving a key twice. -/
structure Orderly (holds : Json → Prop) : Prop extends Hereditary holds where
  distinct : ∀ {fields : List (String × Json)}, holds (.obj fields) → (Keyed.keys fields).Nodup

namespace Hereditary

variable {holds : Json → Prop} {value found : Json} {key : String}

theorem emptyObj (hereditary : Hereditary holds) : holds (.obj []) :=
  hereditary.obj List.nodup_nil (List.forall_mem_nil _)

theorem get? (hereditary : Hereditary holds) {fields : List (String × Json)}
    (whole : holds (.obj fields)) (present : Keyed.get? key fields = some found) : holds found :=
  hereditary.field whole (key, found) (Keyed.mem_of_get? present)

theorem orElse {other : Json} (first : holds value) (second : holds other) :
    holds (value.orElse other) := by
  unfold Json.orElse
  split
  · exact first
  · exact second

theorem memberOr (hereditary : Hereditary holds) {default : Json} (whole : holds value)
    (otherwise : holds default) (looked : value.memberOr key default = .ok found) :
    holds found := by
  cases value with
  | obj fields =>
      simp only [Json.memberOr, Except.ok.injEq] at looked
      subst looked
      cases present : Keyed.get? key fields with
      | none => exact otherwise
      | some value => exact hereditary.get? whole present
  | _ => simp [Json.memberOr] at looked

theorem member (hereditary : Hereditary holds) (whole : holds value)
    (looked : value.member key = .ok found) : holds found :=
  hereditary.memberOr whole hereditary.null looked

theorem memberOrElse (hereditary : Hereditary holds) {other : Json} (whole : holds value)
    (otherwise : holds other) (looked : value.memberOrElse key other = .ok found) :
    holds found := by
  simp only [Json.memberOrElse, Binding.bind_eq_ok_iff, Binding.pure_eq_ok, Except.ok.injEq]
    at looked
  obtain ⟨first, firstLooked, rfl⟩ := looked
  exact orElse (hereditary.member whole firstLooked) otherwise

theorem part (hereditary : Hereditary holds) (whole : holds value)
    (looked : value.part key = .ok found) : holds found :=
  hereditary.memberOrElse whole hereditary.emptyObj looked

theorem memberThere (hereditary : Hereditary holds) (whole : holds value)
    (looked : value.memberThere key = .ok found) : holds found := by
  cases value with
  | obj fields =>
      cases present : Keyed.get? key fields with
      | none => simp [Json.memberThere, present] at looked
      | some value =>
          simp only [Json.memberThere, present, Except.ok.injEq] at looked
          exact looked ▸ hereditary.get? whole present
  | _ => simp [Json.memberThere] at looked

theorem elements (hereditary : Hereditary holds) {items : List Json} (whole : holds value)
    (looked : value.elements = .ok items) : ∀ item ∈ items, holds item := by
  cases value with
  | arr items =>
      simp only [Json.elements, Except.ok.injEq] at looked
      exact looked ▸ hereditary.item whole
  | str text =>
      simp only [Json.elements, Except.ok.injEq] at looked
      subst looked
      intro item member
      obtain ⟨c, -, rfl⟩ := List.mem_map.1 member
      exact hereditary.str _
  | obj fields =>
      simp only [Json.elements, Except.ok.injEq] at looked
      subst looked
      intro item member
      obtain ⟨field, -, rfl⟩ := List.mem_map.1 member
      exact hereditary.str _
  | _ => simp [Json.elements] at looked

end Hereditary

theorem hereditary_isWellKeyed : Hereditary fun value => value.isWellKeyed = true where
  null := rfl
  bool _ := rfl
  str _ := rfl
  emptyArr := rfl
  obj distinct keyed := isWellKeyed_obj.2 ⟨distinct, keyed⟩
  item := isWellKeyed_arr.1
  field keyed := (isWellKeyed_obj.1 keyed).2

theorem orderly_isWellKeyed : Orderly fun value => value.isWellKeyed = true where
  toHereditary := hereditary_isWellKeyed
  distinct keyed := (isWellKeyed_obj.1 keyed).1

theorem eq_obj_of_members {value : Json} {fields : List (String × Json)}
    (looked : value.members = .ok fields) : value = .obj fields := by
  cases value with
  | obj fields =>
      simp only [members, Except.ok.injEq] at looked
      rw [looked]
  | _ => simp [members] at looked

/-- A value that says something has elements, if it has any kind of parts. -/
theorem elements_ne_nil {value : Json} {items : List Json} (filled : value.isFilled = true)
    (looked : value.elements = .ok items) : items ≠ [] := by
  cases value with
  | arr items =>
      simp only [elements, Except.ok.injEq] at looked
      subst looked
      simpa [isFilled] using filled
  | str text =>
      simp only [elements, Except.ok.injEq] at looked
      subst looked
      simpa [isFilled] using filled
  | obj fields =>
      simp only [elements, Except.ok.injEq] at looked
      subst looked
      simpa [isFilled] using filled
  | _ => simp [elements] at looked

end ApiTools.Json
