import ApiTools.ArgumentModel
import ApiTools.Proofs.ArgType.OfSchema
import ApiTools.Proofs.Handler

/-!
# What an argument model accepts

A model declares under each name the last field of that name. Whatever it accepts has a value under
the names of required fields that do not admit null; under every other name it may have none.
-/

namespace ApiTools

open Binding

namespace Field

/-- The last field with a name. -/
def lastNamed? (name : String) (fields : List Field) : Option Field :=
  fields.reverse.find? fun field => field.name = .str name

end Field

namespace ArgumentModel

/-- The declaration that a field is loaded as. -/
def Declares (field : Field) (declared : ArgumentField) : Prop :=
  field.type.load (!field.required) = .ok declared.type ∧ declared.required = field.required

theorem loadType_eq_ok {field : Field} {type : ArgType} (done : loadType field = .ok type) :
    field.type.load (!field.required) = .ok type := by
  unfold loadType at done
  split at done
  · exact done
  · cases done

theorem asText_eq_ok_iff {value : Json} {text : String} :
    value.asText = .ok text ↔ value = .str text := by
  cases value <;> simp [Json.asText]

/-- The named declarations stand for the fields one by one. -/
theorem forall₂_declared {fields : List Field} :
    ∀ {names : List String} {types : List ArgType},
      List.Forall₂ (fun field type => loadType field = .ok type) fields types →
      List.Forall₂ (fun field name => field.name.asText = .ok name) fields names →
      List.Forall₂ (fun field (declared : String × ArgumentField) =>
          field.name = .str declared.1 ∧ Declares field declared.2) fields
        (names.zip (List.zipWith (fun field type =>
          (⟨type, field.required, field.description⟩ : ArgumentField)) fields types)) := by
  induction fields with
  | nil =>
      intro names types typesDone namesDone
      cases typesDone
      cases namesDone
      exact .nil
  | cons field rest inductionHypothesis =>
      intro names types typesDone namesDone
      cases typesDone with
      | cons typeDone typesDone =>
          cases namesDone with
          | cons nameDone namesDone =>
              exact .cons ⟨asText_eq_ok_iff.1 nameDone, loadType_eq_ok typeDone, rfl⟩
                (inductionHypothesis typesDone namesDone)

theorem find?_of_forall₂ {key : String} {fields : List Field}
    {declared : List (String × ArgumentField)}
    (related : List.Forall₂ (fun field declared =>
      field.name = .str declared.1 ∧ Declares field declared.2) fields declared) :
    Option.Rel Declares (fields.find? fun field => field.name = .str key)
      (Keyed.get? key declared) := by
  induction related with
  | nil => exact .none
  | @cons field declared _ _ headRelated _ inductionHypothesis =>
      rw [Keyed.get?_cons, List.find?_cons, headRelated.1]
      by_cases same : declared.1 = key
      · simp only [same, decide_true, if_true]
        exact .some headRelated.2
      · have different : decide (Json.str declared.1 = .str key) = false := by simpa using same
        simp only [different, if_neg same]
        exact inductionHypothesis

/-- Under each name a model declares the last field of that name. -/
theorem get?_ofFields {name : String} {fields : List Field} {model : ArgumentModel}
    (done : ofFields name fields = .ok model) (key : String) :
    Option.Rel Declares (Field.lastNamed? key fields) (Keyed.get? key model.fields) := by
  simp only [ofFields, bind_eq_ok_iff, pure_eq_ok, Except.ok.injEq] at done
  obtain ⟨types, typesDone, names, namesDone, _, -, rfl⟩ := done
  rw [Keyed.get?_ofPairs]
  have related := forall₂_declared (mapM_eq_ok_iff.1 typesDone) (mapM_eq_ok_iff.1 namesDone)
  exact find?_of_forall₂ (List.rel_reverse related)

theorem distinct_ofFields {name : String} {fields : List Field} {model : ArgumentModel}
    (done : ofFields name fields = .ok model) : (Keyed.keys model.fields).Nodup := by
  simp only [ofFields, bind_eq_ok_iff, pure_eq_ok, Except.ok.injEq] at done
  obtain ⟨types, -, names, -, _, -, rfl⟩ := done
  exact Keyed.keys_ofPairs_nodup _

/-- Every declared field comes from a field with its name. -/
theorem exists_field_of_mem {name : String} {fields : List Field} {model : ArgumentModel}
    (done : ofFields name fields = .ok model) :
    ∀ declared ∈ model.fields, ∃ field ∈ fields, Declares field declared.2 := by
  intro declared member
  have related := get?_ofFields done declared.1
  rw [Keyed.get?_of_mem (distinct_ofFields done) member] at related
  cases found : Field.lastNamed? declared.1 fields with
  | none => simp [found] at related
  | some field =>
      rw [found] at related
      cases related with
      | some declares =>
          exact ⟨field, List.mem_reverse.1 (List.mem_of_find?_eq_some found), declares⟩

/-! ## Accepted arguments -/

theorem check_eq_ok_iff {model : ArgumentModel} {arguments : Json} {checked : Arguments} :
    model.check arguments = .ok checked ↔
      ∃ given, arguments = .obj given ∧
        ArgType.checkProperties model.properties given = .ok checked := by
  cases arguments <;> simp [check, Checked.complain]

theorem map_fst_properties (model : ArgumentModel) :
    model.properties.map Prod.fst = Keyed.keys model.fields := by
  simp [properties, Keyed.keys]

theorem mem_properties {model : ArgumentModel} {name : String} {declared : ArgumentField}
    (found : Keyed.get? name model.fields = some declared) :
    (name, declared.required, declared.type) ∈ model.properties :=
  List.mem_map.2 ⟨(name, declared), Keyed.mem_of_get? found, rfl⟩

/-- What is declared as required and not null has a value in all accepted arguments. -/
theorem given?_of_check {model : ArgumentModel} {name : String} {declared : ArgumentField}
    {arguments : Json} {checked : Arguments} (distinct : (Keyed.keys model.fields).Nodup)
    (found : Keyed.get? name model.fields = some declared) (required : declared.required = true)
    (notNull : declared.type.admitsNull = false) (done : model.check arguments = .ok checked) :
    checked.given? name ≠ none := by
  obtain ⟨given, -, propertiesDone⟩ := check_eq_ok_iff.1 done
  rw [← map_fst_properties] at distinct
  rcases ArgType.get?_of_checkProperties distinct propertiesDone (mem_properties found) with
    ⟨-, optional, -⟩ | ⟨value, result, -, accepts, present⟩
  · rw [required] at optional
    cases optional
  · simp only [ArgType.checkPresent, required, Bool.not_true, Bool.false_and, Bool.false_eq_true,
      if_false] at accepts
    rw [Ne, Arguments.given?_eq_none_iff, present, Option.getD_some]
    rintro rfl
    rw [ArgType.admitsNull_of_check accepts] at notNull
    cases notNull

section

variable {model : ArgumentModel} {name : String}

/-- Whatever is accepted where null or nothing is given is nothing or null. -/
theorem given?_eq_none_of_check {given : List (String × Json)} {checked : Arguments}
    (distinct : (Keyed.keys model.fields).Nodup)
    (done : ArgType.checkProperties model.properties given = .ok checked)
    (mayLack : ∀ declared, Keyed.get? name model.fields = some declared →
      (Keyed.get? name given).getD .null = .null ∧
        (declared.required = true → declared.type.admitsNull = true)) :
    checked.given? name = none := by
  rw [Arguments.given?_eq_none_iff]
  cases found : Keyed.get? name model.fields with
  | none =>
      have undeclared : Keyed.get? name checked = none := by
        rw [Keyed.get?_eq_none_iff, ArgType.keys_of_checkProperties done, map_fst_properties]
        intro member
        exact Keyed.get?_eq_none_iff.1 found (List.mem_filter.1 member).1
      rw [undeclared, Option.getD_none]
  | some declared =>
      obtain ⟨givenNull, admitsNull⟩ := mayLack declared found
      rw [← map_fst_properties] at distinct
      rcases ArgType.get?_of_checkProperties distinct done (mem_properties found) with
        ⟨-, -, absent⟩ | ⟨value, result, present, accepts, resultPresent⟩
      · rw [absent, Option.getD_none]
      · rw [present, Option.getD_some] at givenNull
        subst givenNull
        rw [resultPresent, Option.getD_some]
        cases required : declared.required with
        | false =>
            rw [required] at accepts
            exact (Except.ok.inj accepts).symm
        | true =>
            rw [required] at accepts
            have isNull := ArgType.check_null_of_admitsNull (admitsNull required)
            exact Except.ok.inj (accepts.symm.trans isNull)

/-- If no type is without values, all declared arguments but one can be given, and that one too
unless it may be absent. -/
theorem exists_check_without (distinct : (Keyed.keys model.fields).Nodup)
    (inhabited : ∀ declared ∈ model.fields, ∃ value checked,
      declared.2.type.check value = .ok checked)
    (mayLack : ∀ declared, Keyed.get? name model.fields = some declared →
      declared.required = true → declared.type.admitsNull = true) :
    ∃ arguments, ∃ checked : Arguments,
      model.check arguments = .ok checked ∧ checked.given? name = none := by
  have each : ∀ property ∈ model.properties, ∃ value?,
      ArgType.Fits property value? ∧ (property.1 = name → value?.getD .null = .null) := by
    intro property member
    obtain ⟨⟨key, field⟩, declaredMember, rfl⟩ := List.mem_map.1 member
    by_cases same : key = name
    · have found : Keyed.get? name model.fields = some field :=
        Keyed.get?_of_mem distinct (same ▸ declaredMember)
      cases required : field.required with
      | false => exact ⟨none, required, fun _ => rfl⟩
      | true =>
          have fitsNull : ArgType.Fits (key, field.required, field.type) (some .null) := by
            refine ⟨.null, ?_⟩
            rw [required]
            exact ArgType.check_null_of_admitsNull (mayLack field found required)
          exact ⟨some .null, fitsNull, fun _ => rfl⟩
    · have accepts : ∃ value?, ArgType.Fits (key, field.required, field.type) value? :=
        ArgType.exists_fits (inhabited (key, field) declaredMember)
      obtain ⟨value?, fits⟩ := accepts
      exact ⟨value?, fits, fun isName => absurd isName same⟩
  have distinctNames : (model.properties.map Prod.fst).Nodup :=
    map_fst_properties model ▸ distinct
  obtain ⟨given, suits, -⟩ := ArgType.exists_given distinctNames each
  obtain ⟨checked, done⟩ :=
    ArgType.exists_checkProperties fun property member => (suits property member).1
  refine ⟨.obj given, checked, check_eq_ok_iff.2 ⟨given, rfl, done⟩, ?_⟩
  refine given?_eq_none_of_check distinct done fun declared found => ⟨?_, mayLack declared found⟩
  exact (suits _ (mem_properties found)).2 rfl

end

end ArgumentModel

end ApiTools
