import ApiTools.Proofs.ArgType.PassingThrough

/-!
# Accepted values conform

Whatever the type for a fragment of a schema accepts comes back as a value that conforms to the
fragment, with all members that the fragment does not declare. The accepted value is settled: the
type accepts it once more and leaves it as it is.
-/

namespace ApiTools.ArgType

open Binding

/-! ## What is kept -/

/-- Every property name at the levels that are read can be declared: none of them is hidden. -/
def declaresAll : (levels : Nat) → Json → Bool
  | 0, _ => true
  | levels + 1, schema =>
    match Shape.ofSchema? schema with
    | some (.list item) => declaresAll levels item
    | some (.object _ properties) => properties.all fun (name, property) =>
        !isHidden name && declaresAll levels property
    | _ => true

def declaredNames (properties : List (String × Json)) : List String :=
  (Keyed.keys properties).filter fun name => !isHidden name

/-- What is given at a property and what is accepted there: nothing, or null, where the property is
not required, or else a value and what comes of it. -/
inductive AtProperty (required : Bool) (Becomes : Json → Json → Prop) :
    Option Json → Option Json → Prop where
  | absent (optional : required = false) : AtProperty required Becomes none none
  | null (optional : required = false) : AtProperty required Becomes (some .null) (some .null)
  | present {value checked : Json} (becomes : Becomes value checked) :
      AtProperty required Becomes (some value) (some checked)

theorem AtProperty.imp {required : Bool} {Becomes Weaker : Json → Json → Prop}
    {given? checked? : Option Json}
    (weaker : ∀ value checked, Becomes value checked → Weaker value checked)
    (related : AtProperty required Becomes given? checked?) :
    AtProperty required Weaker given? checked? := by
  cases related with
  | absent optional => exact .absent optional
  | null optional => exact .null optional
  | present becomes => exact .present (weaker _ _ becomes)

/-- Where what is accepted at a property conforms, it is as an object of that shape has it. -/
theorem AtProperty.admitted {required : Bool} {Conforms : Json → Prop}
    {given? checked? : Option Json}
    (related : AtProperty required (fun _ checked => Conforms checked) given? checked?) :
    (checked? = none ∧ required = false) ∨ ∃ checked, checked? = some checked ∧
      ((required = false ∧ checked.isNull = true) ∨ Conforms checked) := by
  cases related with
  | absent optional => exact Or.inl ⟨rfl, optional⟩
  | null optional => exact Or.inr ⟨.null, rfl, Or.inl ⟨optional, rfl⟩⟩
  | present conforming => exact Or.inr ⟨_, rfl, Or.inr conforming⟩

namespace Shape

/-- What an accepted value keeps of the given one, where `inner` says so of the values within it. An
object keeps every undeclared member, and at a declared name it holds something exactly if something
was given there. Numbers and truth values may have been given in another form. -/
def Keeps (inner : Json → Json → Json → Prop) : Shape → Json → Json → Prop
  | .list item, given, checked =>
    ∃ values results, given = .arr values ∧ checked = .arr results ∧
      List.Forall₂ (inner item) values results
  | .object required properties, given, checked =>
    ∃ fields kept, given = .obj fields ∧ checked = .obj kept ∧
      undeclared (declaredNames properties) kept = undeclared (declaredNames properties) fields ∧
      ∀ property ∈ properties, isHidden property.1 = false →
        AtProperty (required.contains property.1) (inner property.2)
          (Keyed.get? property.1 fields) (Keyed.get? property.1 kept)
  | .choice _, given, checked => given.same checked = true
  | .number, _, _ | .flag, _, _ => True
  | .anything, given, checked | .text, given, checked | .record, given, checked => checked = given

end Shape

/-- What an accepted value keeps of the given one under a schema, of which `levels` levels are read.
Below them nothing changes. -/
def Keeps : (levels : Nat) → (schema given checked : Json) → Prop
  | 0, _, given, checked => checked = given
  | levels + 1, schema, given, checked =>
    match Shape.ofSchema? schema with
    | some shape => shape.Keeps (Keeps levels) given checked
    | none => False

theorem keeps_of_shape {levels : Nat} {schema : Json} {shape : Shape}
    (read : Shape.ofSchema? schema = some shape) {given checked : Json}
    (kept : shape.Keeps (Keeps levels) given checked) :
    Keeps (levels + 1) schema given checked := by
  rw [Keeps, read]
  exact kept

/-! ## Settled values -/

/-- What holds of a value that a type for a schema accepts, and of the accepted value. -/
structure IsSettled (levels : Nat) (schema : Json) (type : ArgType) (given checked : Json) :
    Prop where
  kept : Keeps levels schema given checked
  conforming : declaresAll levels schema = true → conforms levels schema checked = true
  stable : type.check checked = .ok checked

def Settles (levels : Nat) (schema : Json) (type : ArgType) : Prop :=
  ∀ given checked, type.check given = .ok checked → IsSettled levels schema type given checked

theorem settles_any_of_zero (schema : Json) : Settles 0 schema .any := by
  intro given checked done
  have unchanged : checked = given := (Except.ok.inj done).symm
  exact ⟨unchanged, fun _ => rfl, rfl⟩

/-- A type for a shape without schemas within it. -/
theorem settles_of_simple {levels : Nat} {schema : Json} {shape : Shape} {type : ArgType}
    (read : Shape.ofSchema? schema = some shape)
    (each : ∀ given checked, type.check given = .ok checked →
      shape.Keeps (Keeps levels) given checked ∧ shape.admits (conforms levels) checked = true ∧
        type.check checked = .ok checked) :
    Settles (levels + 1) schema type := by
  intro given checked done
  obtain ⟨kept, admitted, stable⟩ := each given checked done
  have conforming : conforms (levels + 1) schema checked = true := by
    rw [conforms_of_shape read]
    exact admitted
  exact ⟨keeps_of_shape read kept, fun _ => conforming, stable⟩

/-! ### Shapes without parts -/

theorem settles_anything {levels : Nat} {schema : Json}
    (read : Shape.ofSchema? schema = some .anything) : Settles (levels + 1) schema .any := by
  apply settles_of_simple read
  intro given checked done
  obtain rfl : given = checked := Except.ok.inj done
  exact ⟨rfl, rfl, rfl⟩

theorem settles_text {levels : Nat} {schema : Json}
    (read : Shape.ofSchema? schema = some .text) : Settles (levels + 1) schema .text := by
  apply settles_of_simple read
  intro given checked done
  cases given with
  | str text =>
      obtain rfl : .str text = checked := Except.ok.inj done
      exact ⟨rfl, rfl, rfl⟩
  | null | bool _ | int _ | float _ | arr _ | obj _ => simp [check, Checked.complain] at done

theorem settles_record {levels : Nat} {schema : Json}
    (read : Shape.ofSchema? schema = some .record) : Settles (levels + 1) schema .record := by
  apply settles_of_simple read
  intro given checked done
  cases given with
  | obj fields =>
      obtain rfl : .obj fields = checked := Except.ok.inj done
      exact ⟨rfl, rfl, rfl⟩
  | null | bool _ | int _ | float _ | str _ | arr _ => simp [check, Checked.complain] at done

theorem settles_number {levels : Nat} {schema : Json}
    (read : Shape.ofSchema? schema = some .number) : Settles (levels + 1) schema .number := by
  apply settles_of_simple read
  intro given checked done
  rcases checkNumber_eq_ok done with ⟨size, rfl⟩ | ⟨size, rfl⟩
  · exact ⟨trivial, rfl, rfl⟩
  · exact ⟨trivial, rfl, rfl⟩

theorem settles_flag {levels : Nat} {schema : Json}
    (read : Shape.ofSchema? schema = some .flag) : Settles (levels + 1) schema .flag := by
  apply settles_of_simple read
  intro given checked done
  rw [check, checkFlag] at done
  cases meaning : flagOf given with
  | error complaint => simp [meaning, Checked.complain] at done
  | ok meant =>
      have isFlag : checked = .bool meant := by simpa [meaning, eq_comm] using done
      subst isFlag
      exact ⟨trivial, rfl, rfl⟩

/-! ### Choices -/

/-- The chosen value is equal as data to the one that chooses it. -/
theorem same_of_chosen? {choices : List Json} {value listed : Json}
    (chosen : chosen? choices value = some listed) : value.same listed = true := by
  unfold chosen? at chosen
  split at chosen
  · next exactly =>
      obtain rfl : value = listed := Option.some.inj chosen
      cases value with
      | bool _ | int _ | str _ => simp [Json.same, Json.sameScalar, Json.wholeValue?]
      | null | float _ | arr _ | obj _ => cases exactly.1
  · rw [Option.orElse_eq_orElse, Option.orElse_eq_or, Option.or_eq_some_iff] at chosen
    rcases chosen with loose | ⟨-, first⟩
    · have accepts := List.find?_some loose
      exact (Bool.and_eq_true_iff.1 accepts).2
    · exact List.find?_some first

theorem settles_choice {levels : Nat} {schema : Json} {values : List Json} (optional : Bool)
    (read : Shape.ofSchema? schema = some (.choice values))
    (literals : ∀ choice ∈ values, isLiteral choice = true) :
    Settles (levels + 1) schema (.choice (listed optional values)) := by
  apply settles_of_simple read
  intro given checked done
  have chosen : chosen? (listed optional values) given = some checked := by
    rw [check, checkChoice_eq_ok_iff] at done
    exact done
  have isListed : checked ∈ listed optional values := mem_of_chosen? chosen
  have listedLiterals : ∀ choice ∈ listed optional values, isLiteral choice = true :=
    fun choice member => literals choice ((mem_listed_of_literals literals).1 member)
  refine ⟨same_of_chosen? chosen, ?_, ?_⟩
  · rw [Shape.admits_choice_iff]
    exact (mem_listed_of_literals literals).1 isListed
  · rw [check, checkChoice_eq_ok_iff]
    exact chosen?_of_mem_literals listedLiterals isListed

/-! ### Arrays -/

theorem settles_list {levels : Nat} {schema item : Json} {type : ArgType}
    (read : Shape.ofSchema? schema = some (.list item)) (settles : Settles levels item type) :
    Settles (levels + 1) schema (.list type) := by
  intro given checked done
  cases given with
  | arr values =>
      obtain ⟨results, itemsDone, rfl⟩ := map_eq_ok_iff.1 done
      have related := Checked.items_eq_ok_iff.1 itemsDone
      have settled : List.Forall₂ (IsSettled levels item type) values results :=
        related.imp fun value result accepts => settles value result accepts
      have eachSettled : ∀ result ∈ results, ∃ value ∈ values,
          IsSettled levels item type value result := exists_of_forall₂_right settled
      refine ⟨keeps_of_shape read ?_, fun declared => ?_, ?_⟩
      · exact ⟨values, results, rfl, rfl, settled.imp fun _ _ isSettled => isSettled.kept⟩
      · rw [declaresAll, read] at declared
        rw [conforms_of_shape read, Shape.admits_list_iff]
        refine ⟨results, rfl, fun result member => ?_⟩
        obtain ⟨value, -, isSettled⟩ := eachSettled result member
        exact isSettled.conforming declared
      · have again : List.Forall₂ (fun value result => type.check value = .ok result)
            results results := by
          rw [List.forall₂_same]
          intro result member
          obtain ⟨value, -, isSettled⟩ := eachSettled result member
          exact isSettled.stable
        rw [check, Checked.items_eq_ok_iff.2 again]
        rfl
  | null | bool _ | int _ | float _ | str _ | obj _ => simp [check, Checked.complain] at done

/-! ### Objects -/

theorem get?_undeclared {names : List String} {name : String} {fields : List (String × Json)}
    (declared : name ∈ names) : Keyed.get? name (undeclared names fields) = none := by
  rw [Keyed.get?_eq_none_iff]
  intro member
  obtain ⟨field, isUndeclared, rfl⟩ := List.mem_map.1 member
  have notDeclared := (List.mem_filter.1 isUndeclared).2
  simp [declared] at notDeclared

theorem get?_append_undeclared {names : List String} {name : String}
    (accepted fields : List (String × Json)) (declared : name ∈ names) :
    Keyed.get? name (accepted ++ undeclared names fields) = Keyed.get? name accepted := by
  rw [Keyed.get?_append, get?_undeclared declared, Option.or_none]

theorem undeclared_append_undeclared {names : List String} {accepted : List (String × Json)}
    (fields : List (String × Json)) (areDeclared : ∀ name ∈ Keyed.keys accepted, name ∈ names) :
    undeclared names (accepted ++ undeclared names fields) = undeclared names fields := by
  have noneLeft : undeclared names accepted = [] := by
    rw [undeclared, List.filter_eq_nil_iff]
    intro field member
    have declared := areDeclared field.1 (List.mem_map_of_mem member)
    simp [declared]
  have sameAgain : undeclared names (undeclared names fields) = undeclared names fields := by
    simp [undeclared]
  calc
    undeclared names (accepted ++ undeclared names fields)
        = undeclared names accepted ++ undeclared names (undeclared names fields) := by
          simp [undeclared]
    _ = undeclared names fields := by rw [noneLeft, sameAgain, List.nil_append]

theorem checkPresent_again {required : Bool} {type : ArgType} {value checked : Json}
    (stable : type.check value = .ok checked → type.check checked = .ok checked)
    (done : checkPresent required type.check value = .ok checked) :
    checkPresent required type.check checked = .ok checked := by
  unfold checkPresent at done ⊢
  by_cases isNothing : (!required && checked.isNull) = true
  · rw [if_pos isNothing]
    have isNull : checked = .null := by
      cases checked <;> simp [Json.isNull] at isNothing ⊢
    rw [isNull]
  · rw [if_neg isNothing]
    split at done
    · next givenNothing =>
        obtain rfl : .null = checked := Except.ok.inj done
        have notRequired : required = false := by simpa using (Bool.and_eq_true_iff.1 givenNothing).1
        exact absurd (by simp [notRequired, Json.isNull]) isNothing
    · exact stable done

/-- What was accepted is accepted again from an object that holds the same at the declared names. -/
theorem checkProperties_again {properties : List (String × Bool × ArgType)}
    {given accepted kept : List (String × Json)}
    (distinct : (properties.map Prod.fst).Nodup)
    (stable : ∀ property ∈ properties, ∀ value checked,
      property.2.2.check value = .ok checked → property.2.2.check checked = .ok checked)
    (done : checkProperties properties given = .ok accepted)
    (same : ∀ property ∈ properties,
      Keyed.get? property.1 kept = Keyed.get? property.1 accepted) :
    checkProperties properties kept = .ok accepted := by
  induction properties generalizing accepted with
  | nil => exact done
  | cons property rest inductionHypothesis =>
      obtain ⟨name, required, type⟩ := property
      rw [List.map_cons, List.nodup_cons] at distinct
      rw [List.forall_mem_cons] at stable same
      obtain ⟨first, others, firstDone, othersDone, rfl⟩ := checkProperties_cons_eq_ok_iff.1 done
      have notLater : Keyed.get? name others = none := by
        rw [Keyed.get?_eq_none_iff, keys_of_checkProperties othersDone]
        exact fun member => distinct.1 (List.mem_filter.1 member).1
      have sameOthers : ∀ property ∈ rest,
          Keyed.get? property.1 kept = Keyed.get? property.1 others := by
        intro property member
        have different : property.1 ≠ name := by
          rintro rfl
          exact distinct.1 (List.mem_map.2 ⟨property, member, rfl⟩)
        rw [same.2 property member, get?_append_of_checkProperty different firstDone]
      have othersAgain := inductionHypothesis distinct.2 stable.2 othersDone sameOthers
      have firstAgain : checkProperty name required type.check kept = .ok first := by
        rcases checkProperty_eq_ok_iff.1 firstDone with
          ⟨absent, optional, rfl⟩ | ⟨value, checked, present, accepts, rfl⟩
        · have stillAbsent : Keyed.get? name kept = none := by
            rw [same.1, List.nil_append, notLater]
          exact checkProperty_eq_ok_iff.2 (Or.inl ⟨stillAbsent, optional, rfl⟩)
        · have stillPresent : Keyed.get? name kept = some checked := by
            rw [same.1]
            simp [Keyed.get?_cons]
          have acceptsAgain := checkPresent_again (stable.1 value checked) accepts
          exact checkProperty_eq_ok_iff.2
            (Or.inr ⟨checked, checked, stillPresent, acceptsAgain, rfl⟩)
      exact checkProperties_cons_eq_ok_iff.2 ⟨first, others, firstAgain, othersAgain, rfl⟩

theorem atProperty_of_checkProperties {properties : List (String × Bool × ArgType)}
    {given accepted : List (String × Json)} {name : String} {required : Bool} {type : ArgType}
    (distinct : (properties.map Prod.fst).Nodup)
    (done : checkProperties properties given = .ok accepted)
    (declared : (name, required, type) ∈ properties) :
    AtProperty required (fun value checked => type.check value = .ok checked)
      (Keyed.get? name given) (Keyed.get? name accepted) := by
  rcases get?_of_checkProperties distinct done declared with
    ⟨absent, optional, stillAbsent⟩ | ⟨value, checked, present, accepts, stillPresent⟩
  · rw [absent, stillAbsent]
    exact .absent optional
  · rw [present, stillPresent]
    unfold checkPresent at accepts
    split at accepts
    · next isNothing =>
        obtain rfl : .null = checked := Except.ok.inj accepts
        have optional : required = false := by simpa using (Bool.and_eq_true_iff.1 isNothing).1
        have isNull : value = .null := by
          cases value <;> simp [Json.isNull] at isNothing ⊢
        rw [isNull]
        exact .null optional
    · exact .present accepts

theorem check_model_eq_ok_iff {name : String} {properties : List (String × Bool × ArgType)}
    {given checked : Json} :
    (model name properties).check given = .ok checked ↔
      ∃ fields accepted, given = .obj fields ∧ checkProperties properties fields = .ok accepted ∧
        checked = .obj (accepted ++ undeclared (properties.map Prod.fst) fields) := by
  cases given with
  | obj fields =>
      rw [check, map_eq_ok_iff]
      constructor
      · rintro ⟨accepted, done, rfl⟩
        exact ⟨fields, accepted, rfl, done, rfl⟩
      · rintro ⟨_, accepted, same, done, rfl⟩
        obtain rfl := Json.obj.inj same
        exact ⟨accepted, done, rfl⟩
  | null | bool _ | int _ | float _ | str _ | arr _ => simp [check, Checked.complain]

theorem areDeclared_of_checkProperties {properties : List (String × Bool × ArgType)}
    {given accepted : List (String × Json)}
    (done : checkProperties properties given = .ok accepted) :
    ∀ name ∈ Keyed.keys accepted, name ∈ properties.map Prod.fst := by
  intro name member
  rw [keys_of_checkProperties done] at member
  exact (List.mem_filter.1 member).1

theorem exists_kept_of_check_model {name : String} {properties : List (String × Bool × ArgType)}
    {given checked : Json} (distinct : (properties.map Prod.fst).Nodup)
    (done : (model name properties).check given = .ok checked) :
    ∃ fields kept, given = .obj fields ∧ checked = .obj kept ∧
      undeclared (properties.map Prod.fst) kept = undeclared (properties.map Prod.fst) fields ∧
      ∀ property ∈ properties,
        AtProperty property.2.1 (fun value result => property.2.2.check value = .ok result)
          (Keyed.get? property.1 fields) (Keyed.get? property.1 kept) := by
  obtain ⟨fields, accepted, rfl, acceptedDone, rfl⟩ := check_model_eq_ok_iff.1 done
  refine ⟨fields, _, rfl, rfl, ?_, fun property member => ?_⟩
  · exact undeclared_append_undeclared fields (areDeclared_of_checkProperties acceptedDone)
  · rw [get?_append_undeclared accepted fields (List.mem_map.2 ⟨property, member, rfl⟩)]
    exact atProperty_of_checkProperties distinct acceptedDone member

/-- An object type accepts an accepted object as it is, if the types of its properties do so. -/
theorem check_model_again {name : String} {properties : List (String × Bool × ArgType)}
    {given checked : Json} (distinct : (properties.map Prod.fst).Nodup)
    (stable : ∀ property ∈ properties, ∀ value checked,
      property.2.2.check value = .ok checked → property.2.2.check checked = .ok checked)
    (done : (model name properties).check given = .ok checked) :
    (model name properties).check checked = .ok checked := by
  obtain ⟨fields, accepted, rfl, acceptedDone, rfl⟩ := check_model_eq_ok_iff.1 done
  have acceptedAgain := checkProperties_again distinct stable acceptedDone
    fun property member =>
      get?_append_undeclared accepted fields (List.mem_map.2 ⟨property, member, rfl⟩)
  have sameUndeclared :=
    undeclared_append_undeclared fields (areDeclared_of_checkProperties acceptedDone)
  refine check_model_eq_ok_iff.2 ⟨_, accepted, rfl, acceptedAgain, ?_⟩
  rw [sameUndeclared]

/-- A property of an object type, for a member of the properties in a schema. -/
structure IsFor (levels : Nat) (required : List String) (member : String × Json)
    (property : String × Bool × ArgType) : Prop where
  name : property.1 = member.1
  required : property.2.1 = required.contains member.1
  settles : Settles levels member.2 property.2.2

theorem settles_model {levels : Nat} {schema : Json} {required : List String}
    {members : List (String × Json)} {properties : List (String × Bool × ArgType)} (name : String)
    (read : Shape.ofSchema? schema = some (.object required members))
    (distinct : (properties.map Prod.fst).Nodup)
    (sameNames : properties.map Prod.fst = declaredNames members)
    (eachMember : ∀ member ∈ members, isHidden member.1 = false →
      ∃ property ∈ properties, IsFor levels required member property)
    (eachProperty : ∀ property ∈ properties, ∃ member ∈ members,
      IsFor levels required member property) :
    Settles (levels + 1) schema (.model name properties) := by
  intro given checked done
  obtain ⟨fields, kept, rfl, rfl, sameUndeclared, related⟩ := exists_kept_of_check_model distinct done
  have eachSettled : ∀ member ∈ members, isHidden member.1 = false → ∃ type,
      AtProperty (required.contains member.1) (IsSettled levels member.2 type)
        (Keyed.get? member.1 fields) (Keyed.get? member.1 kept) := by
    intro member isMember isShown
    obtain ⟨property, isProperty, isFor⟩ := eachMember member isMember isShown
    have relatedHere := related property isProperty
    rw [isFor.name, isFor.required] at relatedHere
    exact ⟨property.2.2, relatedHere.imp isFor.settles⟩
  refine ⟨keeps_of_shape read ?_, fun declared => ?_, ?_⟩
  · rw [sameNames] at sameUndeclared
    refine ⟨fields, kept, rfl, rfl, sameUndeclared, fun member isMember isShown => ?_⟩
    obtain ⟨type, settledHere⟩ := eachSettled member isMember isShown
    exact settledHere.imp fun _ _ isSettled => isSettled.kept
  · rw [declaresAll, read] at declared
    rw [conforms_of_shape read, Shape.admits_object_iff]
    refine ⟨kept, rfl, fun member isMember => ?_⟩
    have declaredHere := List.all_eq_true.1 declared member isMember
    rw [Bool.and_eq_true, Bool.not_eq_true'] at declaredHere
    obtain ⟨type, settledHere⟩ := eachSettled member isMember declaredHere.1
    have conformsHere := settledHere.imp fun value checked isSettled =>
      isSettled.conforming declaredHere.2
    exact conformsHere.admitted
  · refine check_model_again distinct (fun property isProperty value result accepts => ?_) done
    obtain ⟨member, -, isFor⟩ := eachProperty property isProperty
    exact (isFor.settles value result accepts).stable

/-- Of the properties for the members of a schema the hidden ones are passed over. -/
theorem settles_model_of_related {levels : Nat} {schema : Json} {required : List String}
    {members : List (String × Json)} {properties : List (String × Bool × ArgType)} (name : String)
    (read : Shape.ofSchema? schema = some (.object required members))
    (distinct : (Keyed.keys members).Nodup)
    (related : List.Forall₂ (IsFor levels required) members properties) :
    Settles (levels + 1) schema
      (.model name (properties.filter fun property => !isHidden property.1)) := by
  have sameKeys : properties.map Prod.fst = Keyed.keys members :=
    keys_of_forall₂_members (related.imp fun _ _ isFor => isFor.name)
  have sameNames : (properties.filter fun property => !isHidden property.1).map Prod.fst =
      declaredNames members := by
    rw [declaredNames, ← sameKeys, List.filter_map]
    rfl
  have distinctNames :
      ((properties.filter fun property => !isHidden property.1).map Prod.fst).Nodup := by
    rw [sameNames]
    exact distinct.filter _
  apply settles_model name read distinctNames sameNames
  · intro member isMember isShown
    obtain ⟨property, isProperty, isFor⟩ := exists_of_forall₂_right related.flip member isMember
    have isDeclared : property ∈ properties.filter fun property => !isHidden property.1 := by
      rw [List.mem_filter, isFor.name, isShown]
      exact ⟨isProperty, rfl⟩
    exact ⟨property, isDeclared, isFor⟩
  · intro property isDeclared
    exact exists_of_forall₂_right related property (List.mem_filter.1 isDeclared).1

/-! ## Schemas -/

/-- The type for a fragment of a schema settles every value that it accepts. -/
theorem settles_of_load {levels : Nat} : ∀ {name : String} {optional : Bool} {schema : Json}
    {type loaded : ArgType}, isFragment levels schema = true →
      ofSchema levels name schema = .ok type → type.load optional = .ok loaded →
        Settles levels schema loaded := by
  -- on the levels that are left, which items and properties have one less of
  induction levels with
  | zero =>
      intro name optional schema type loaded _ done loadDone
      obtain rfl : .any = type := Except.ok.inj done
      obtain rfl : .any = loaded := Except.ok.inj loadDone
      exact settles_any_of_zero schema
  | succ levels inductionHypothesis =>
      intro name optional schema type loaded fragment done loadDone
      rw [isFragment] at fragment
      cases read : Shape.ofSchema? schema with
      | none => simp [read] at fragment
      | some shape =>
      rw [read] at fragment
      rw [ofSchema_of_shape read] at done
      cases shape with
      | list item =>
          obtain ⟨itemType, itemDone, rfl⟩ := map_eq_ok_iff.1 done
          obtain ⟨itemLoaded, itemLoadDone, rfl⟩ := map_eq_ok_iff.1 loadDone
          exact settles_list read (inductionHypothesis fragment itemDone itemLoadDone)
      | object required members =>
          simp only [Bool.and_eq_true, decide_eq_true_eq, List.all_eq_true] at fragment
          obtain ⟨distinct, each⟩ := fragment
          obtain ⟨properties, propertiesDone, rfl⟩ := map_eq_ok_iff.1 done
          simp only [load, bind_eq_ok_iff, pure_eq_ok, Except.ok.injEq] at loadDone
          obtain ⟨all, allLoaded, _, -, rfl⟩ := loadDone
          apply settles_model_of_related name read distinct
          refine forall₂_trans ?_ (mapM_properties_eq_ok_iff.1 propertiesDone)
            (loadProperties_eq_ok_iff.1 allLoaded)
          rintro member isMember before after ⟨name, required, done⟩ ⟨sameName, sameRequired, loads⟩
          exact ⟨sameName.trans name, sameRequired.trans required,
            inductionHypothesis (each member isMember).2 done loads⟩
      | choice values =>
          have literals : ∀ choice ∈ values, isLiteral choice = true := by simpa using fragment
          obtain rfl : .choice values = type := Except.ok.inj done
          rw [load, loadChoice_of_literals optional literals] at loadDone
          obtain rfl := Except.ok.inj loadDone
          exact settles_choice optional read literals
      | anything =>
          obtain rfl : .any = type := Except.ok.inj done
          obtain rfl : .any = loaded := Except.ok.inj loadDone
          exact settles_anything read
      | text =>
          obtain rfl : .text = type := Except.ok.inj done
          obtain rfl : .text = loaded := Except.ok.inj loadDone
          exact settles_text read
      | number =>
          obtain rfl : .number = type := Except.ok.inj done
          obtain rfl : .number = loaded := Except.ok.inj loadDone
          exact settles_number read
      | flag =>
          obtain rfl : .flag = type := Except.ok.inj done
          obtain rfl : .flag = loaded := Except.ok.inj loadDone
          exact settles_flag read
      | record =>
          obtain rfl : .record = type := Except.ok.inj done
          obtain rfl : .record = loaded := Except.ok.inj loadDone
          exact settles_record read

/-- A year that was given as a text is accepted as a number, and what is not declared stays. -/
example :
    (model "Film" [("year", false, .number)]).check
        (.obj [("to", .str "watchlist"), ("year", .str "2021")]) =
      .ok (.obj [("year", .int 2021), ("to", .str "watchlist")]) := by
  decide +kernel

end ApiTools.ArgType
