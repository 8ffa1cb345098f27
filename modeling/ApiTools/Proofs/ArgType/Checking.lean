import ApiTools.ArgType.Check
import ApiTools.Proofs.Binding
import ApiTools.Proofs.Json.Equality

/-!
# What a check gives

A check of an object looks at one declared property after the other. These lemmas say what the
accepted object holds at every declared name, when an object is accepted at all, and which types
accept null.
-/

namespace ApiTools

namespace Checked

variable {α β γ : Type}

theorem both_eq_ok_iff {combine : α → β → γ} {first : Checked α} {second : Checked β}
    {result : γ} :
    both combine first second = .ok result ↔
      ∃ left right, first = .ok left ∧ second = .ok right ∧ combine left right = result := by
  cases first <;> cases second <;> simp [both]

theorem within_eq_ok_iff {step : Step} {first : Checked α} {result : α} :
    within step first = .ok result ↔ first = .ok result := by
  cases first <;> simp [within]

/-- An array is accepted when each of its items is. -/
theorem items_eq_ok_iff {check : α → Checked β} {values : List α} {results : List β} :
    ∀ {index : Nat}, items check index values = .ok results ↔
      List.Forall₂ (fun value result => check value = .ok result) values results := by
  induction values generalizing results with
  | nil => simp [items, eq_comm]
  | cons value rest inductionHypothesis =>
      intro index
      rw [items, both_eq_ok_iff]
      constructor
      · rintro ⟨first, others, firstDone, othersDone, rfl⟩
        exact .cons (within_eq_ok_iff.1 firstDone) (inductionHypothesis.1 othersDone)
      · intro done
        cases done with
        | cons firstDone othersDone =>
            exact ⟨_, _, within_eq_ok_iff.2 firstDone, inductionHypothesis.2 othersDone, rfl⟩

end Checked

namespace ArgType

/-! ## Induction on types -/

/-- What holds of the types without parts, of lists of types of which it holds, and of objects with
such properties, holds of all types. -/
@[elab_as_elim]
theorem induction {motive : ArgType → Prop}
    (any : motive .any)
    (text : motive .text)
    (number : motive .number)
    (flag : motive .flag)
    (record : motive .record)
    (choice : ∀ values, motive (.choice values))
    (list : ∀ item, motive item → motive (.list item))
    (model : ∀ name properties, (∀ property ∈ properties, motive property.2.2) →
      motive (.model name properties)) :
    ∀ type, motive type
  | .any => any
  | .text => text
  | .number => number
  | .flag => flag
  | .record => record
  | .choice values => choice values
  | .list item => list item (induction any text number flag record choice list model item)
  | .model name properties => model name properties fun property _ =>
      induction any text number flag record choice list model property.2.2
termination_by type => sizeOf type
decreasing_by
  · simp only [ArgType.list.sizeOf_spec]
    omega
  · have := List.sizeOf_lt_of_mem ‹property ∈ properties›
    obtain ⟨key, required, type⟩ := property
    simp only [Prod.mk.sizeOf_spec] at this
    simp only [ArgType.model.sizeOf_spec]
    omega

/-! ## Declared properties -/

/-- A property that is declared is either absent and not required, or its value is accepted. -/
theorem checkProperty_eq_ok_iff {name : String} {required : Bool} {check : Json → Checked Json}
    {given accepted : List (String × Json)} :
    checkProperty name required check given = .ok accepted ↔
      (Keyed.get? name given = none ∧ required = false ∧ accepted = []) ∨
        ∃ value checked, Keyed.get? name given = some value ∧
          checkPresent required check value = .ok checked ∧ accepted = [(name, checked)] := by
  unfold checkProperty
  cases found : Keyed.get? name given with
  | none => cases required <;> simp [eq_comm]
  | some value =>
      simp only [Binding.map_eq_ok_iff, Checked.within_eq_ok_iff]
      simp [eq_comm]

theorem checkProperties_cons_eq_ok_iff {name : String} {required : Bool} {type : ArgType}
    {rest : List (String × Bool × ArgType)} {given accepted : List (String × Json)} :
    checkProperties ((name, required, type) :: rest) given = .ok accepted ↔
      ∃ first others, checkProperty name required type.check given = .ok first ∧
        checkProperties rest given = .ok others ∧ first ++ others = accepted := by
  rw [checkProperties, Checked.both_eq_ok_iff]

/-- The accepted members are the declared names that were given, in the order of declaration. -/
theorem keys_of_checkProperties {properties : List (String × Bool × ArgType)}
    {given accepted : List (String × Json)}
    (done : checkProperties properties given = .ok accepted) :
    Keyed.keys accepted =
      (properties.map Prod.fst).filter fun name => (Keyed.get? name given).isSome := by
  induction properties generalizing accepted with
  | nil =>
      simp only [checkProperties, Except.ok.injEq] at done
      simp [← done]
  | cons property rest inductionHypothesis =>
      obtain ⟨name, required, type⟩ := property
      obtain ⟨first, others, firstDone, othersDone, rfl⟩ := checkProperties_cons_eq_ok_iff.1 done
      rw [Keyed.keys_append, inductionHypothesis othersDone]
      rcases checkProperty_eq_ok_iff.1 firstDone with
        ⟨absent, -, rfl⟩ | ⟨value, checked, present, -, rfl⟩
      · simp [absent]
      · simp [present]

/-- The first of several declared properties gives nothing at another name. -/
theorem get?_append_of_checkProperty {name other : String} {required : Bool}
    {check : Json → Checked Json} {given first others : List (String × Json)}
    (different : other ≠ name) (done : checkProperty name required check given = .ok first) :
    Keyed.get? other (first ++ others) = Keyed.get? other others := by
  rcases checkProperty_eq_ok_iff.1 done with ⟨-, -, rfl⟩ | ⟨value, checked, -, -, rfl⟩
  · rfl
  · simp [Keyed.get?_cons, different.symm]

/-- At a declared name the accepted members hold nothing, where nothing was given and nothing is
required, or else the checked value. -/
theorem get?_of_checkProperties {properties : List (String × Bool × ArgType)}
    {given accepted : List (String × Json)} {name : String} {required : Bool} {type : ArgType}
    (distinct : (properties.map Prod.fst).Nodup)
    (done : checkProperties properties given = .ok accepted)
    (declared : (name, required, type) ∈ properties) :
    (Keyed.get? name given = none ∧ required = false ∧ Keyed.get? name accepted = none) ∨
      ∃ value checked, Keyed.get? name given = some value ∧
        checkPresent required type.check value = .ok checked ∧
        Keyed.get? name accepted = some checked := by
  induction properties generalizing accepted with
  | nil => simp at declared
  | cons property rest inductionHypothesis =>
      obtain ⟨firstName, firstRequired, firstType⟩ := property
      rw [List.map_cons, List.nodup_cons] at distinct
      obtain ⟨first, others, firstDone, othersDone, rfl⟩ := checkProperties_cons_eq_ok_iff.1 done
      rcases List.mem_cons.1 declared with same | inRest
      · obtain ⟨rfl, rfl, rfl⟩ :
            name = firstName ∧ required = firstRequired ∧ type = firstType := by
          simpa using same
        have notLater : Keyed.get? name others = none := by
          rw [Keyed.get?_eq_none_iff, keys_of_checkProperties othersDone]
          exact fun member => distinct.1 (List.mem_filter.1 member).1
        rcases checkProperty_eq_ok_iff.1 firstDone with
          ⟨absent, optional, rfl⟩ | ⟨value, checked, present, accepts, rfl⟩
        · exact Or.inl ⟨absent, optional, by simpa using notLater⟩
        · exact Or.inr ⟨value, checked, present, accepts, by simp [Keyed.get?_cons]⟩
      · have different : firstName ≠ name := by
          rintro rfl
          exact distinct.1 (List.mem_map.2 ⟨_, inRest, rfl⟩)
        rw [get?_append_of_checkProperty different.symm firstDone]
        exact inductionHypothesis distinct.2 othersDone inRest

/-- What may stand at a property: nothing, if it is not required, or a value that is accepted. -/
def Fits (property : String × Bool × ArgType) : Option Json → Prop
  | none => property.2.1 = false
  | some value => ∃ checked, checkPresent property.2.1 property.2.2.check value = .ok checked

/-- An object is accepted when nothing required is absent and every declared member is accepted. -/
theorem exists_checkProperties {properties : List (String × Bool × ArgType)}
    {given : List (String × Json)}
    (fits : ∀ property ∈ properties, Fits property (Keyed.get? property.1 given)) :
    ∃ accepted, checkProperties properties given = .ok accepted := by
  induction properties with
  | nil => exact ⟨[], rfl⟩
  | cons property rest inductionHypothesis =>
      obtain ⟨name, required, type⟩ := property
      rw [List.forall_mem_cons] at fits
      obtain ⟨others, othersDone⟩ := inductionHypothesis fits.2
      have firstFits : Fits (name, required, type) (Keyed.get? name given) := fits.1
      cases found : Keyed.get? name given with
      | none =>
          rw [found] at firstFits
          have firstDone : checkProperty name required type.check given = .ok [] :=
            checkProperty_eq_ok_iff.2 (Or.inl ⟨found, firstFits, rfl⟩)
          exact ⟨_, checkProperties_cons_eq_ok_iff.2 ⟨_, _, firstDone, othersDone, rfl⟩⟩
      | some value =>
          rw [found] at firstFits
          obtain ⟨checked, accepts⟩ := firstFits
          have firstDone : checkProperty name required type.check given = .ok [(name, checked)] :=
            checkProperty_eq_ok_iff.2 (Or.inr ⟨value, checked, found, accepts, rfl⟩)
          exact ⟨_, checkProperties_cons_eq_ok_iff.2 ⟨_, _, firstDone, othersDone, rfl⟩⟩

/-! ## Choices -/

theorem mem_of_chosen? {choices : List Json} {value listed : Json}
    (chosen : chosen? choices value = some listed) : listed ∈ choices := by
  unfold chosen? at chosen
  split at chosen
  · next exactly =>
      rw [Option.some.injEq] at chosen
      exact chosen ▸ exactly.2
  · rw [Option.orElse_eq_orElse, Option.orElse_eq_or, Option.or_eq_some_iff] at chosen
    rcases chosen with loose | ⟨-, first⟩
    · exact List.mem_reverse.1 (List.mem_of_find?_eq_some loose)
    · exact List.mem_of_find?_eq_some first

theorem checkChoice_eq_ok_iff {choices : List Json} {value checked : Json} :
    checkChoice choices value = .ok checked ↔ chosen? choices value = some checked := by
  unfold checkChoice
  cases chosen? choices value <;> simp [Checked.complain]

/-! ## Null -/

/-- Null is among the values of the type. -/
def admitsNull : ArgType → Bool
  | .any => true
  | .choice values => values.contains .null
  | _ => false

/-- A choice that lists null takes null as null, whatever else it lists. -/
theorem chosen?_null {choices : List Json} (member : Json.null ∈ choices) :
    chosen? choices .null = some .null := by
  have isFound : (choices.reverse.find? fun choice =>
      Json.null.isAtomic && isLoose choice && Json.null.same choice).isSome = true :=
    List.find?_isSome.2 ⟨.null, List.mem_reverse.2 member, by
      simp [Json.same_null, isLoose, Json.isAtomic]⟩
  obtain ⟨loose, isLoose⟩ := Option.isSome_iff_exists.1 isFound
  have isNull : loose = .null := by
    have accepts := List.find?_some isLoose
    simp only [Json.same_null, Bool.and_eq_true, decide_eq_true_eq] at accepts
    exact accepts.2
  unfold chosen?
  simp only [isExact, Bool.false_eq_true, false_and, if_false, isLoose, isNull]
  rfl

theorem check_null_of_admitsNull {type : ArgType} (admits : type.admitsNull = true) :
    type.check .null = .ok .null := by
  cases type with
  | any => rfl
  | choice values =>
      rw [check, checkChoice_eq_ok_iff]
      exact chosen?_null (by simpa [admitsNull] using admits)
  | _ => simp [admitsNull] at admits

/-- An accepted number is an integer or a floating-point number. -/
theorem checkNumber_eq_ok {value checked : Json} (done : checkNumber value = .ok checked) :
    (∃ size, checked = .int size) ∨ ∃ size, checked = .float size := by
  cases value with
  | int size => exact Or.inl ⟨size, (Except.ok.inj done).symm⟩
  | float size => exact Or.inr ⟨size, (Except.ok.inj done).symm⟩
  | bool flag => exact Or.inl ⟨_, (Except.ok.inj done).symm⟩
  | str text =>
      simp only [checkNumber] at done
      cases read : numberOfText text.toList with
      | error complaint => simp [read] at done
      | ok meant =>
          obtain rfl : meant = checked := by simpa [read] using done
          unfold numberOfText at read
          split at read
          · exact Or.inl ⟨_, (Except.ok.inj read).symm⟩
          · exact Or.inr ⟨_, (Except.ok.inj read).symm⟩
          · cases read
  | null | arr _ | obj _ => simp [checkNumber] at done

theorem checkNumber_ne_null {value checked : Json} (done : checkNumber value = .ok checked) :
    checked ≠ .null := by
  rcases checkNumber_eq_ok done with ⟨size, rfl⟩ | ⟨size, rfl⟩
  · exact Json.noConfusion
  · exact Json.noConfusion

/-- Only a type that has null among its values gives null. -/
theorem admitsNull_of_check {type : ArgType} {value : Json}
    (done : type.check value = .ok .null) : type.admitsNull = true := by
  cases type with
  | any => rfl
  | text => cases value <;> simp [check, Checked.complain] at done
  | number => exact absurd rfl (checkNumber_ne_null done)
  | flag =>
      rw [check, checkFlag] at done
      cases read : flagOf value <;> simp [read, Checked.complain] at done
  | record => cases value <;> simp [check, Checked.complain] at done
  | choice values =>
      rw [check, checkChoice_eq_ok_iff] at done
      simpa [admitsNull] using mem_of_chosen? done
  | list item =>
      cases value with
      | arr items =>
          obtain ⟨checked, -, impossible⟩ := Binding.map_eq_ok_iff.1 done
          cases impossible
      | _ => simp [check, Checked.complain] at done
  | model name properties =>
      cases value with
      | obj fields =>
          obtain ⟨checked, -, impossible⟩ := Binding.map_eq_ok_iff.1 done
          cases impossible
      | _ => simp [check, Checked.complain] at done

end ArgType

end ApiTools
