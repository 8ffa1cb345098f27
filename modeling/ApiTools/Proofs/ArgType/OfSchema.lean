import ApiTools.ArgType.OfSchema
import ApiTools.Field
import ApiTools.Proofs.ArgType.Loading
import ApiTools.Proofs.Json.WellKeyed

/-!
# Types from schemas are proper

Listed values are parts of the schema and only read where there are any, and the properties of an
object with distinct keys are declared once each. So every type that a description gives to an
argument is proper.
-/

namespace ApiTools.ArgType

open Binding

/-- Every choice in the type has something to choose from, all of which has the property, and
objects declare each property once. -/
inductive Lists (holds : Json → Prop) : ArgType → Prop where
  | any : Lists holds .any
  | text : Lists holds .text
  | number : Lists holds .number
  | flag : Lists holds .flag
  | record : Lists holds .record
  | choice {values : List Json} (filled : values ≠ []) (each : ∀ value ∈ values, holds value) :
      Lists holds (.choice values)
  | list {item : ArgType} (each : Lists holds item) : Lists holds (.list item)
  | model {name : String} {properties : List (String × Bool × ArgType)}
      (distinct : (properties.map Prod.fst).Nodup)
      (each : ∀ property ∈ properties, Lists holds property.2.2) :
      Lists holds (.model name properties)

theorem Lists.isProper {type : ArgType}
    (lists : type.Lists fun value => value.isWellKeyed = true) : type.IsProper := by
  induction lists with
  | any => exact .any
  | text => exact .text
  | number => exact .number
  | flag => exact .flag
  | record => exact .record
  | choice filled keyed => exact .choice filled keyed
  | list _ _ => exact .list _
  | model distinct _ inductionHypothesis => exact .model distinct inductionHypothesis

variable {holds : Json → Prop}

theorem lists_ofChoices (hereditary : Json.Hereditary holds) {choices : Json} {type : ArgType}
    (whole : holds choices) (filled : choices.isFilled = true)
    (done : ofChoices choices = .ok type) : type.Lists holds := by
  simp only [ofChoices, bind_eq_ok_iff, pure_eq_ok, Except.ok.injEq] at done
  obtain ⟨values, looked, rfl⟩ := done
  exact .choice (Json.elements_ne_nil filled looked) (hereditary.elements whole looked)

/-- The properties of an object type, read from the members of a schema one by one. -/
theorem mapM_properties_eq_ok_iff {levels : Nat} {name : String} {required : List String}
    {members : List (String × Json)} {properties : List (String × Bool × ArgType)} :
    (members.mapM fun member => do
        let type ← ofSchema levels (name ++ nameOf member.1) member.2
        Except.ok (member.1, required.contains member.1, type)) = .ok properties ↔
      List.Forall₂ (fun member property => property.1 = member.1 ∧
        property.2.1 = required.contains member.1 ∧
        ofSchema levels (name ++ nameOf member.1) member.2 = .ok property.2.2)
        members properties := by
  rw [mapM_eq_ok_iff]
  have sameStep : ∀ (member : String × Json) (property : String × Bool × ArgType),
      ((do
        let type ← ofSchema levels (name ++ nameOf member.1) member.2
        Except.ok (member.1, required.contains member.1, type)) = .ok property) ↔
      (property.1 = member.1 ∧ property.2.1 = required.contains member.1 ∧
        ofSchema levels (name ++ nameOf member.1) member.2 = .ok property.2.2) := by
    rintro ⟨key, schema⟩ ⟨name, isRequired, type⟩
    simp only [bind_eq_ok_iff, Except.ok.injEq, Prod.mk.injEq]
    constructor
    · rintro ⟨type, typeDone, rfl, rfl, rfl⟩
      exact ⟨rfl, rfl, typeDone⟩
    · rintro ⟨rfl, rfl, typeDone⟩
      exact ⟨type, typeDone, rfl, rfl, rfl⟩
  simp only [sameStep]

theorem keys_of_forall₂_members {members : List (String × Json)}
    {properties : List (String × Bool × ArgType)}
    (related : List.Forall₂ (fun member property => property.1 = member.1) members properties) :
    properties.map Prod.fst = Keyed.keys members := by
  induction related with
  | nil => rfl
  | cons same _ inductionHypothesis =>
      rw [List.map_cons, Keyed.keys_cons, same, inductionHypothesis]

theorem lists_ofSchema (orderly : Json.Orderly holds) {levels : Nat} :
    ∀ {name : String} {schema : Json} {type : ArgType},
      holds schema → ofSchema levels name schema = .ok type → type.Lists holds := by
  induction levels with
  | zero =>
      intro name schema type whole done
      rw [ofSchema, Except.ok.injEq] at done
      exact done ▸ .any
  | succ levels inductionHypothesis =>
      intro name schema type whole done
      rw [ofSchema] at done
      split at done
      · exact Except.ok.inj done ▸ .any
      simp only [bind_eq_ok_iff, pure_eq_ok] at done
      obtain ⟨isReference, -, done⟩ := done
      split at done
      · exact Except.ok.inj done ▸ .any
      simp only [bind_eq_ok_iff] at done
      obtain ⟨kind, -, done⟩ := done
      split at done
      · simp only [bind_eq_ok_iff] at done
        obtain ⟨items, itemsLooked, done⟩ := done
        split at done
        · simp only [bind_eq_ok_iff, Except.ok.injEq] at done
          obtain ⟨item, itemDone, rfl⟩ := done
          exact .list (inductionHypothesis (orderly.member whole itemsLooked) itemDone)
        · exact Except.ok.inj done ▸ .list .any
      simp only [bind_eq_ok_iff] at done
      obtain ⟨properties, propertiesLooked, done⟩ := done
      split at done
      · simp only [bind_eq_ok_iff, Except.ok.injEq] at done
        obtain ⟨_, -, required, -, members, membersLooked, declared, declaredDone, rfl⟩ := done
        obtain rfl := Json.eq_obj_of_members membersLooked
        have inMembers := orderly.member whole propertiesLooked
        have related := mapM_properties_eq_ok_iff.1 declaredDone
        refine .model ?_ ?_
        · rw [keys_of_forall₂_members (related.imp fun _ _ same => same.1)]
          exact orderly.distinct inMembers
        · intro property member
          obtain ⟨origin, originMember, -, -, read⟩ :=
            exists_of_forall₂_right related property member
          exact inductionHypothesis (orderly.field inMembers origin originMember) read
      simp only [bind_eq_ok_iff] at done
      obtain ⟨choices, choicesLooked, done⟩ := done
      split at done
      · next filled =>
          exact lists_ofChoices orderly.toHereditary (orderly.member whole choicesLooked) filled done
      repeat' split at done
      all_goals
        rw [← Except.ok.inj done]
        constructor

end ApiTools.ArgType

namespace ApiTools.Field

open Binding

variable {holds : Json → Prop}

theorem lists_placeholderType (hereditary : Json.Hereditary holds) {schema : Json} {type : ArgType}
    (whole : holds schema) (done : placeholderType schema = .ok type) : type.Lists holds := by
  simp only [placeholderType, bind_eq_ok_iff, pure_eq_ok] at done
  obtain ⟨choices, choicesLooked, done⟩ := done
  split at done
  · next filled =>
      exact ArgType.lists_ofChoices hereditary (hereditary.member whole choicesLooked) filled done
  simp only [bind_eq_ok_iff] at done
  obtain ⟨kind, -, done⟩ := done
  split at done
  · exact Except.ok.inj done ▸ .number
  · exact Except.ok.inj done ▸ .text

theorem lists_parameterType (orderly : Json.Orderly holds) {schema name : Json} {type : ArgType}
    (whole : holds schema) (done : parameterType schema name = .ok type) : type.Lists holds := by
  simp only [parameterType, bind_eq_ok_iff, pure_eq_ok] at done
  obtain ⟨choices, choicesLooked, done⟩ := done
  split at done
  · next filled =>
      exact ArgType.lists_ofChoices orderly.toHereditary (orderly.member whole choicesLooked) filled
        done
  simp only [bind_eq_ok_iff] at done
  obtain ⟨kind, -, done⟩ := done
  split at done
  · exact Except.ok.inj done ▸ .number
  split at done
  · exact Except.ok.inj done ▸ .flag
  split at done
  · exact Except.ok.inj done ▸ .text
  split at done
  · simp only [bind_eq_ok_iff] at done
    obtain ⟨items, itemsLooked, done⟩ := done
    split at done
    · simp only [bind_eq_ok_iff, Except.ok.injEq] at done
      obtain ⟨_, -, item, itemDone, rfl⟩ := done
      exact .list (ArgType.lists_ofSchema orderly (orderly.member whole itemsLooked) itemDone)
    · exact Except.ok.inj done ▸ .list .any
  · exact Except.ok.inj done ▸ .any

end ApiTools.Field
