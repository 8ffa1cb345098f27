import ApiTools.ArgType.Loading
import ApiTools.Proofs.ArgType.Checking
import ApiTools.Proofs.Binding

/-!
# What loading keeps

A loaded choice lists the values of the choice, only their order may differ. So loading neither adds
null to the values of a type nor takes it away. A proper type, in which every choice has something
to choose from, accepts a value once it is loaded.
-/

namespace ApiTools.ArgType

/-! ## Listed values -/

theorem mem_insertChoice {value other : Json} {choices : List Json} :
    other ∈ insertChoice value choices ↔ other = value ∨ other ∈ choices := by
  induction choices with
  | nil => simp [insertChoice]
  | cons first rest inductionHypothesis =>
      rw [insertChoice]
      split
      · simp
      · simp only [List.mem_cons, inductionHypothesis]
        exact or_left_comm

theorem mem_foldl_insertChoice {other : Json} {values : List Json} :
    ∀ {done : List Json},
      other ∈ values.foldl (fun done value => insertChoice value done) done ↔
        other ∈ values ∨ other ∈ done := by
  induction values with
  | nil => simp
  | cons value rest inductionHypothesis =>
      intro done
      rw [List.foldl_cons, inductionHypothesis, mem_insertChoice, List.mem_cons]
      exact ⟨fun member => by tauto, fun member => by tauto⟩

theorem mem_listed {optional : Bool} {values : List Json} {value : Json} :
    value ∈ listed optional values ↔ ∃ given ∈ values, unsigned given = value := by
  rw [← List.mem_map]
  unfold listed
  dsimp only
  split
  · split
    · simp [mem_foldl_insertChoice]
    · exact List.mem_eraseDups
  · exact Iff.rfl

theorem listed_ne_nil (optional : Bool) {values : List Json} (filled : values ≠ []) :
    listed optional values ≠ [] := by
  obtain ⟨value, member⟩ := List.exists_mem_of_ne_nil values filled
  exact List.ne_nil_of_mem (mem_listed.2 ⟨value, member, rfl⟩)

theorem unsigned_eq_null_iff {value : Json} : unsigned value = .null ↔ value = .null := by
  cases value <;> simp [unsigned]

theorem isWellKeyed_unsigned {value : Json} (keyed : value.isWellKeyed = true) :
    (unsigned value).isWellKeyed = true := by
  cases value <;> exact keyed

theorem isFinite_unsigned {value : Json} (finite : value.isFinite = true) :
    (unsigned value).isFinite = true := by
  cases value with
  | float value =>
      rw [unsigned]
      split
      · rfl
      · exact finite
  | _ => exact finite

theorem contains_null_listed (optional : Bool) (values : List Json) :
    (listed optional values).contains .null = values.contains .null := by
  rw [Bool.eq_iff_iff, List.contains_iff_mem, List.contains_iff_mem, mem_listed]
  constructor
  · rintro ⟨value, member, isNull⟩
    exact unsigned_eq_null_iff.1 isNull ▸ member
  · exact fun member => ⟨.null, member, rfl⟩

/-! ## Loading -/

theorem loadChoice_eq_ok {optional : Bool} {values : List Json} {loaded : ArgType}
    (done : loadChoice optional values = .ok loaded) :
    (∀ value ∈ values, value.isFinite = true) ∧ loaded = .choice (listed optional values) := by
  unfold loadChoice at done
  split at done
  · cases done
  · next finite =>
      split at done
      · cases done
      · exact ⟨by simpa using finite, (Except.ok.inj done).symm⟩

/-- Loading neither adds null to the values of a type nor takes it away. -/
theorem admitsNull_load {optional : Bool} {type loaded : ArgType}
    (done : type.load optional = .ok loaded) : loaded.admitsNull = type.admitsNull := by
  cases type with
  | choice values =>
      obtain ⟨-, rfl⟩ := loadChoice_eq_ok done
      exact contains_null_listed optional values
  | list item =>
      rw [load, Binding.map_eq_ok_iff] at done
      obtain ⟨item, -, rfl⟩ := done
      rfl
  | model name properties =>
      simp only [load, Binding.bind_eq_ok_iff, Binding.pure_eq_ok, Except.ok.injEq] at done
      obtain ⟨properties, -, _, -, rfl⟩ := done
      rfl
  | _ =>
      rw [load, Except.ok.injEq] at done
      rw [← done]

theorem loadProperties_eq_ok_iff {properties loaded : List (String × Bool × ArgType)} :
    loadProperties properties = .ok loaded ↔
      List.Forall₂ (fun property after => after.1 = property.1 ∧ after.2.1 = property.2.1 ∧
        property.2.2.load (!property.2.1) = .ok after.2.2) properties loaded := by
  induction properties generalizing loaded with
  | nil => simp [loadProperties, eq_comm]
  | cons property rest inductionHypothesis =>
      obtain ⟨name, required, type⟩ := property
      simp only [loadProperties, Binding.bind_eq_ok_iff, Binding.pure_eq_ok, Except.ok.injEq]
      constructor
      · rintro ⟨first, firstDone, others, othersDone, rfl⟩
        exact .cons ⟨rfl, rfl, firstDone⟩ (inductionHypothesis.1 othersDone)
      · intro done
        cases done with
        | @cons _ after _ others firstDone othersDone =>
            obtain ⟨afterName, afterRequired, afterType⟩ := after
            obtain ⟨rfl, rfl, firstDone⟩ := firstDone
            exact ⟨afterType, firstDone, others, inductionHypothesis.2 othersDone, rfl⟩

theorem keys_of_loadProperties {properties loaded : List (String × Bool × ArgType)}
    (done : loadProperties properties = .ok loaded) :
    loaded.map Prod.fst = properties.map Prod.fst := by
  have related := loadProperties_eq_ok_iff.1 done
  clear done
  induction related with
  | nil => rfl
  | cons same _ inductionHypothesis =>
      rw [List.map_cons, List.map_cons, same.1, inductionHypothesis]

/-! ## Proper types -/

/-- Every choice in the type has something to choose from, and objects declare each property
once. -/
inductive IsProper : ArgType → Prop where
  | any : IsProper .any
  | text : IsProper .text
  | number : IsProper .number
  | flag : IsProper .flag
  | record : IsProper .record
  | choice {values : List Json} (filled : values ≠ [])
      (keyed : ∀ value ∈ values, value.isWellKeyed = true) : IsProper (.choice values)
  | list (item : ArgType) : IsProper (.list item)
  | model {name : String} {properties : List (String × Bool × ArgType)}
      (distinct : (properties.map Prod.fst).Nodup)
      (proper : ∀ property ∈ properties, IsProper property.2.2) :
      IsProper (.model name properties)

/-- Whatever a value chooses, a listed value that equals itself chooses something. -/
theorem exists_chosen?_of_mem {choices : List Json} {value : Json} (member : value ∈ choices)
    (same : value.same value = true) : ∃ listed, chosen? choices value = some listed := by
  have found : (choices.find? fun choice => value.same choice).isSome = true :=
    List.find?_isSome.2 ⟨value, member, same⟩
  obtain ⟨first, isFirst⟩ := Option.isSome_iff_exists.1 found
  unfold chosen?
  dsimp only
  split
  · exact ⟨value, rfl⟩
  · rw [isFirst]
    cases choices.reverse.find? fun choice =>
        value.isAtomic && isLoose choice && value.same choice with
    | none => exact ⟨first, rfl⟩
    | some loose => exact ⟨loose, rfl⟩

/-- Where something can be found for each property, there is an object that holds all of it and
nothing else. -/
theorem exists_given {properties : List (String × Bool × ArgType)}
    {Suits : String × Bool × ArgType → Option Json → Prop}
    (distinct : (properties.map Prod.fst).Nodup)
    (each : ∀ property ∈ properties, ∃ value?, Suits property value?) :
    ∃ given, (∀ property ∈ properties, Suits property (Keyed.get? property.1 given)) ∧
      ∀ key, key ∉ properties.map Prod.fst → Keyed.get? key given = none := by
  induction properties with
  | nil => exact ⟨[], by simp, by simp⟩
  | cons property rest inductionHypothesis =>
      rw [List.map_cons, List.nodup_cons] at distinct
      rw [List.forall_mem_cons] at each
      obtain ⟨given, suits, others⟩ := inductionHypothesis distinct.2 each.2
      obtain ⟨value?, suitsFirst⟩ := each.1
      cases value? with
      | none =>
          refine ⟨given, List.forall_mem_cons.2 ⟨?_, suits⟩, ?_⟩
          · rw [others property.1 distinct.1]
            exact suitsFirst
          · intro key notDeclared
            exact others key fun member => notDeclared (List.mem_cons_of_mem _ member)
      | some value =>
          refine ⟨(property.1, value) :: given, List.forall_mem_cons.2 ⟨?_, ?_⟩, ?_⟩
          · rw [Keyed.get?_cons, if_pos rfl]
            exact suitsFirst
          · intro other member
            have different : property.1 ≠ other.1 := fun same =>
              distinct.1 (same ▸ List.mem_map.2 ⟨other, member, rfl⟩)
            rw [Keyed.get?_cons, if_neg different]
            exact suits other member
          · intro key notDeclared
            rw [List.map_cons, List.mem_cons, not_or] at notDeclared
            rw [Keyed.get?_cons, if_neg (Ne.symm notDeclared.1)]
            exact others key notDeclared.2

theorem exists_fits {property : String × Bool × ArgType}
    (inhabited : ∃ value checked, property.2.2.check value = .ok checked) :
    ∃ value?, Fits property value? := by
  obtain ⟨value, checked, accepts⟩ := inhabited
  refine ⟨some value, if !property.2.1 && value.isNull then .null else checked, ?_⟩
  unfold checkPresent
  split
  · rfl
  · exact accepts

/-- A proper type accepts a value once it is loaded. -/
theorem exists_check_of_isProper {type : ArgType} (proper : type.IsProper) :
    ∀ {optional : Bool} {loaded : ArgType}, type.load optional = .ok loaded →
      ∃ value checked, loaded.check value = .ok checked := by
  induction proper with
  | any => exact fun done => ⟨.null, .null, Except.ok.inj done ▸ rfl⟩
  | text => exact fun done => ⟨.str "", .str "", Except.ok.inj done ▸ rfl⟩
  | number => exact fun done => ⟨.int 0, .int 0, Except.ok.inj done ▸ rfl⟩
  | flag => exact fun done => ⟨.bool true, .bool true, Except.ok.inj done ▸ rfl⟩
  | record => exact fun done => ⟨.obj [], .obj [], Except.ok.inj done ▸ rfl⟩
  | choice filled keyed =>
      intro optional loaded done
      obtain ⟨finite, rfl⟩ := loadChoice_eq_ok done
      obtain ⟨value, member⟩ := List.exists_mem_of_ne_nil _ (listed_ne_nil optional filled)
      obtain ⟨given, givenMember, rfl⟩ := mem_listed.1 member
      have same := Json.same_self (isWellKeyed_unsigned (keyed given givenMember))
        (isFinite_unsigned (finite given givenMember))
      obtain ⟨checked, chosen⟩ := exists_chosen?_of_mem member same
      exact ⟨unsigned given, checked, checkChoice_eq_ok_iff.2 chosen⟩
  | list item =>
      intro optional loaded done
      rw [load, Binding.map_eq_ok_iff] at done
      obtain ⟨item, -, rfl⟩ := done
      exact ⟨.arr [], .arr [], rfl⟩
  | @model name properties distinct proper inductionHypothesis =>
      intro optional loaded done
      simp only [load, Binding.bind_eq_ok_iff, Binding.pure_eq_ok, Except.ok.injEq] at done
      obtain ⟨all, allLoaded, _, -, rfl⟩ := done
      have inhabited : ∀ property ∈ all.filter fun property => !isHidden property.1,
          ∃ value?, Fits property value? := by
        intro property member
        obtain ⟨before, beforeMember, -, -, beforeLoaded⟩ :=
          Binding.exists_of_forall₂_right (loadProperties_eq_ok_iff.1 allLoaded) property
            (List.mem_filter.1 member).1
        exact exists_fits (inductionHypothesis before beforeMember beforeLoaded)
      have distinctLoaded :
          ((all.filter fun property => !isHidden property.1).map Prod.fst).Nodup := by
        rw [← keys_of_loadProperties allLoaded] at distinct
        exact distinct.sublist ((List.filter_sublist).map Prod.fst)
      obtain ⟨given, fits, -⟩ := exists_given distinctLoaded inhabited
      obtain ⟨accepted, acceptedDone⟩ := exists_checkProperties fits
      exact ⟨.obj given, _, Binding.map_eq_ok_iff.2 ⟨accepted, acceptedDone, rfl⟩⟩

end ApiTools.ArgType
