import ApiTools.Proofs.ArgType.OfSchema
import ApiTools.Proofs.Json.Number

/-!
# Accepted values can be written

What a check gives is the value itself, a listed value, or the number or truth value that the value
stands for. So it can be read back once it is written, if the value can and the listed values can.
-/

namespace ApiTools

namespace Json

theorem orderly_isPrintable : Orderly IsPrintable where
  null := .null
  bool := .bool
  str := .str
  emptyArr := .arr (List.forall_mem_nil _)
  obj := .obj
  item whole := by
    cases whole with
    | arr each => exact each
  field whole := by
    cases whole with
    | obj distinct each => exact each
  distinct whole := by
    cases whole with
    | obj distinct each => exact distinct

end Json

namespace ArgType

open Json (IsPrintable IsShort)

/-! ## Listed values -/

theorem isPrintable_unsigned {value : Json} (printable : IsPrintable value) :
    IsPrintable (unsigned value) := by
  cases value with
  | float number =>
      rw [unsigned]
      split
      · exact .float rfl
      · exact printable
  | _ => exact printable

/-- A loaded type lists the values of the type, without their signs where they are zero. -/
theorem lists_load {holds : Json → Prop} {type : ArgType} (lists : type.Lists holds)
    (withoutSign : ∀ {value : Json}, holds value → holds (unsigned value)) :
    ∀ {optional : Bool} {loaded : ArgType}, type.load optional = .ok loaded →
      loaded.Lists holds := by
  induction lists with
  | any => exact fun done => Except.ok.inj done ▸ .any
  | text => exact fun done => Except.ok.inj done ▸ .text
  | number => exact fun done => Except.ok.inj done ▸ .number
  | flag => exact fun done => Except.ok.inj done ▸ .flag
  | record => exact fun done => Except.ok.inj done ▸ .record
  | choice filled each =>
      intro optional loaded done
      obtain ⟨-, rfl⟩ := loadChoice_eq_ok done
      refine .choice (listed_ne_nil optional filled) fun value member => ?_
      obtain ⟨given, givenMember, rfl⟩ := mem_listed.1 member
      exact withoutSign (each given givenMember)
  | list _ inductionHypothesis =>
      intro optional loaded done
      rw [load, Binding.map_eq_ok_iff] at done
      obtain ⟨item, itemLoaded, rfl⟩ := done
      exact .list (inductionHypothesis itemLoaded)
  | model distinct _ inductionHypothesis =>
      intro optional loaded done
      simp only [load, Binding.bind_eq_ok_iff, Binding.pure_eq_ok, Except.ok.injEq] at done
      obtain ⟨all, allLoaded, _, -, rfl⟩ := done
      rw [← keys_of_loadProperties allLoaded] at distinct
      refine .model (distinct.sublist (List.filter_sublist.map Prod.fst)) fun property member => ?_
      obtain ⟨before, beforeMember, -, -, beforeLoaded⟩ :=
        Binding.exists_of_forall₂_right (loadProperties_eq_ok_iff.1 allLoaded) property
          (List.mem_filter.1 member).1
      exact inductionHypothesis before beforeMember beforeLoaded

/-! ## Numbers -/

theorem isShort_of_sizeOfDigits {text : List Char} {size : Nat}
    (done : sizeOfDigits text = .ok size) : IsShort (size : Int) := by
  unfold sizeOfDigits at done
  dsimp only at done
  split at done
  · cases done
  · obtain rfl := Except.ok.inj done
    decide
  · split at done
    · cases done
    · split at done
      · cases done
      · next short =>
          split at done
          · cases done
          · obtain rfl := Except.ok.inj done
            exact Json.isShort_ofDigitChars (Json.isDigits_takeWhile _) (not_lt.1 short)

theorem isShort_of_integerOfText {text : List Char} {value : Int}
    (done : integerOfText text = .ok value) : IsShort value := by
  unfold integerOfText at done
  split at done
  · cases done
  · dsimp only at done
    split at done
    · obtain ⟨whole, lifted, rfl⟩ := Binding.map_eq_ok_iff.1 done
      obtain ⟨size, sized, isWhole⟩ := Binding.bind_eq_ok_iff.1 lifted
      obtain rfl := Except.ok.inj isWhole
      exact Json.isShort_neg.2 (isShort_of_sizeOfDigits sized)
    · obtain ⟨whole, lifted, rfl⟩ := Binding.map_eq_ok_iff.1 done
      obtain ⟨size, sized, isWhole⟩ := Binding.bind_eq_ok_iff.1 lifted
      obtain rfl := Except.ok.inj isWhole
      exact isShort_of_sizeOfDigits sized

theorem isPrintable_of_read? {text : List Char} {number : Binary64}
    (done : Decimal.read? text = some number) : IsPrintable (.float number) := by
  unfold Decimal.read? at done
  dsimp only at done
  split at done
  · obtain rfl := Option.some.inj done
    cases (Decimal.splitSign text).1 with
    | false => exact .float rfl
    | true => exact .float rfl
  · split at done
    · exact Option.some.inj done ▸ .float rfl
    · unfold Decimal.unsigned? at done
      dsimp only at done
      split at done
      all_goals
        split at done
        · cases done
        · obtain ⟨exponent, -, rfl⟩ := Option.map_eq_some_iff.1 done
          exact Json.isPrintable_ofDecimal _ _ _

theorem isPrintable_of_floatOfText? {text : List Char} {number : Binary64}
    (done : floatOfText? text = some number) : IsPrintable (.float number) := by
  unfold floatOfText? at done
  split at done
  · next found read => exact Option.some.inj done ▸ isPrintable_of_read? read
  · obtain ⟨bare, -, read⟩ := Option.bind_eq_some_iff.1 done
    exact isPrintable_of_read? read

theorem isPrintable_of_checkNumber {value checked : Json} (given : IsPrintable value)
    (done : checkNumber value = .ok checked) : IsPrintable checked := by
  cases value with
  | int size => exact Except.ok.inj done ▸ given
  | float number => exact Except.ok.inj done ▸ given
  | bool flag =>
      obtain rfl := Except.ok.inj done
      have short : IsShort 0 ∧ IsShort 1 := by decide
      cases flag with
      | false => exact .int short.1
      | true => exact .int short.2
  | str text =>
      simp only [checkNumber] at done
      cases read : numberOfText text.toList with
      | error complaint => simp [read] at done
      | ok meant =>
          obtain rfl : meant = checked := by simpa [read] using done
          unfold numberOfText at read
          split at read
          · next size isInteger =>
              exact Except.ok.inj read ▸ .int (isShort_of_integerOfText isInteger)
          · next number _ isFloat => exact Except.ok.inj read ▸ isPrintable_of_floatOfText? isFloat
          · cases read
  | null | arr _ | obj _ => simp [checkNumber] at done

/-! ## Checked values -/

theorem isPrintable_of_checkProperties {properties : List (String × Bool × ArgType)}
    {given accepted : List (String × Json)}
    (keeps : ∀ property ∈ properties, ∀ {value checked : Json}, IsPrintable value →
      property.2.2.check value = .ok checked → IsPrintable checked)
    (printable : ∀ field ∈ given, IsPrintable field.2)
    (done : checkProperties properties given = .ok accepted) :
    ∀ member ∈ accepted, IsPrintable member.2 := by
  induction properties generalizing accepted with
  | nil =>
      obtain rfl := Except.ok.inj done
      exact List.forall_mem_nil _
  | cons property rest inductionHypothesis =>
      obtain ⟨name, required, type⟩ := property
      rw [List.forall_mem_cons] at keeps
      obtain ⟨first, others, firstDone, othersDone, rfl⟩ := checkProperties_cons_eq_ok_iff.1 done
      refine List.forall_mem_append.2 ⟨?_, inductionHypothesis keeps.2 othersDone⟩
      rcases checkProperty_eq_ok_iff.1 firstDone with
        ⟨-, -, rfl⟩ | ⟨value, checked, present, accepts, rfl⟩
      · exact List.forall_mem_nil _
      · refine List.forall_mem_singleton.2 ?_
        unfold checkPresent at accepts
        split at accepts
        · exact Except.ok.inj accepts ▸ .null
        · exact keeps.1 (printable _ (Keyed.mem_of_get? present)) accepts

/-- An accepted object gives each of its keys once. -/
theorem nodup_keys_append_undeclared {properties : List (String × Bool × ArgType)}
    {given declared : List (String × Json)} (distinctNames : (properties.map Prod.fst).Nodup)
    (distinct : (Keyed.keys given).Nodup)
    (done : checkProperties properties given = .ok declared) :
    (Keyed.keys (declared ++ undeclared (properties.map Prod.fst) given)).Nodup := by
  have areDeclared := keys_of_checkProperties done
  rw [Keyed.keys_append, List.nodup_append']
  refine ⟨?_, distinct.sublist (List.filter_sublist.map Prod.fst), ?_⟩
  · rw [areDeclared]
    exact distinctNames.filter _
  · intro name inDeclared inUndeclared
    rw [areDeclared] at inDeclared
    obtain ⟨field, isUndeclared, rfl⟩ := List.mem_map.1 inUndeclared
    have notDeclared := (List.mem_filter.1 isUndeclared).2
    simp [(List.mem_filter.1 inDeclared).1] at notDeclared

theorem isPrintable_of_check {type : ArgType} (lists : type.Lists IsPrintable) :
    ∀ {value checked : Json}, IsPrintable value → type.check value = .ok checked →
      IsPrintable checked := by
  induction lists with
  | any => exact fun given done => Except.ok.inj done ▸ given
  | text =>
      intro value checked given done
      cases value with
      | str text => exact Except.ok.inj done ▸ given
      | _ => cases done
  | number => exact isPrintable_of_checkNumber
  | flag =>
      intro value checked given done
      rw [check, checkFlag] at done
      split at done
      · exact Except.ok.inj done ▸ .bool _
      · cases done
  | record =>
      intro value checked given done
      cases value with
      | obj fields => exact Except.ok.inj done ▸ given
      | _ => cases done
  | choice _ each =>
      intro value checked given done
      exact each checked (mem_of_chosen? (checkChoice_eq_ok_iff.1 done))
  | list _ inductionHypothesis =>
      intro value checked given done
      cases value with
      | arr items =>
          obtain ⟨results, itemsDone, rfl⟩ := Binding.map_eq_ok_iff.1 done
          refine .arr fun result member => ?_
          obtain ⟨item, itemMember, itemDone⟩ := Binding.exists_of_forall₂_right
            (Checked.items_eq_ok_iff.1 itemsDone) result member
          exact inductionHypothesis (Json.orderly_isPrintable.item given item itemMember) itemDone
      | _ => cases done
  | model distinct _ inductionHypothesis =>
      intro value checked given done
      cases value with
      | obj fields =>
          obtain ⟨declared, declaredDone, rfl⟩ := Binding.map_eq_ok_iff.1 done
          have inFields := Json.orderly_isPrintable.field given
          refine .obj (nodup_keys_append_undeclared distinct
            (Json.orderly_isPrintable.distinct given) declaredDone)
            (List.forall_mem_append.2 ⟨?_, fun field member => ?_⟩)
          · exact isPrintable_of_checkProperties
              (fun property member _ _ => inductionHypothesis property member) inFields declaredDone
          · exact inFields field (List.mem_filter.1 member).1
      | _ => cases done

end ArgType

end ApiTools
