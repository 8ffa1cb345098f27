import ApiTools.Proofs.ArgumentModel
import ApiTools.Proofs.Catalog

/-!
# The arguments behind the placeholders of a path

Every placeholder of a compiled path has a field in the argument model, but a parameter of its name
declares that field anew. A call with accepted arguments never lacks a value for the path exactly
when the last declarations are required and leave out null.
-/

namespace ApiTools

namespace Field

/-- Whatever is accepted has a value for the field. -/
def isAlwaysGiven (field : Field) : Bool :=
  field.required && !field.type.admitsNull

end Field

namespace FieldSet

/-- Every placeholder that is not omitted has a field. -/
theorem exists_lastNamed?_of_mem {path : String} {parameters : List Json} {omitted : List String}
    {set : FieldSet} (keyed : ∀ parameter ∈ parameters, parameter.isWellKeyed = true)
    (done : ofParameters path parameters omitted = .ok set) {name : String}
    (member : name ∈ Path.placeholders path.toList) (taken : name ∉ omitted) :
    ∃ field, Field.lastNamed? name set.fields = some field := by
  obtain ⟨first, added, fields, placeholderFields, -⟩ :=
    exists_fields_of_ofParameters Json.orderly_isWellKeyed keyed done
  have kept : name ∈ (Path.placeholders path.toList).filter fun name => !omitted.contains name :=
    List.mem_filter.2 ⟨member, by simpa using taken⟩
  obtain ⟨field, fieldMember, isNamed, -, -⟩ :=
    Binding.exists_of_forall₂_right placeholderFields.flip name kept
  rw [← Option.isSome_iff_exists, Field.lastNamed?, List.find?_isSome]
  refine ⟨field, List.mem_reverse.2 ?_, by simpa using isNamed⟩
  rw [fields]
  exact List.mem_append_left added fieldMember

theorem isProper_of_mem {path : String} {parameters : List Json} {omitted : List String}
    {set : FieldSet} (keyed : ∀ parameter ∈ parameters, parameter.isWellKeyed = true)
    (done : ofParameters path parameters omitted = .ok set) :
    ∀ field ∈ set.fields, field.type.IsProper :=
  fun field member => (lists_of_mem Json.orderly_isWellKeyed keyed done field member).isProper

end FieldSet

namespace ArgumentModel

variable {modelName name : String} {fields : List Field} {model : ArgumentModel}

/-- The name of a field is the name of an argument. -/
theorem mem_propertyOrder (loaded : ofFields modelName fields = .ok model) {field : Field}
    (isLast : Field.lastNamed? name fields = some field) : name ∈ model.propertyOrder := by
  have related := get?_ofFields loaded name
  rw [isLast] at related
  apply Keyed.get?_isSome_iff.1
  cases found : Keyed.get? name model.fields with
  | none => simp [found] at related
  | some declared => rfl

/-- What is accepted has a value under the name of a field that is always given. -/
theorem given?_of_isAlwaysGiven (loaded : ofFields modelName fields = .ok model) {field : Field}
    (isLast : Field.lastNamed? name fields = some field) (always : field.isAlwaysGiven = true)
    {arguments : Json} {checked : Arguments} (done : model.check arguments = .ok checked) :
    checked.given? name ≠ none := by
  have related := get?_ofFields loaded name
  rw [isLast] at related
  cases found : Keyed.get? name model.fields with
  | none => simp [found] at related
  | some declared =>
      rw [found] at related
      cases related with
      | some declares =>
          simp only [Field.isAlwaysGiven, Bool.and_eq_true, Bool.not_eq_true'] at always
          refine given?_of_check (distinct_ofFields loaded) found ?_ ?_ done
          · rw [declares.2, always.1]
          · rw [ArgType.admitsNull_load declares.1, always.2]

/-- Some accepted arguments lack a value under every other name. -/
theorem exists_check_without_of_lastNamed? (loaded : ofFields modelName fields = .ok model)
    (proper : ∀ field ∈ fields, field.type.IsProper)
    (mayLack : ∀ field, Field.lastNamed? name fields = some field →
      field.isAlwaysGiven = false) :
    ∃ arguments, ∃ checked : Arguments,
      model.check arguments = .ok checked ∧ checked.given? name = none := by
  refine exists_check_without (distinct_ofFields loaded) ?_ ?_
  · intro declared member
    obtain ⟨field, fieldMember, declares⟩ := exists_field_of_mem loaded declared member
    exact ArgType.exists_check_of_isProper (proper field fieldMember) declares.1
  · intro declared found required
    have related := get?_ofFields loaded name
    rw [found] at related
    cases isLast : Field.lastNamed? name fields with
    | none => simp [isLast] at related
    | some field =>
        rw [isLast] at related
        cases related with
        | some declares =>
            have notAlways := mayLack field isLast
            rw [Field.isAlwaysGiven, ← declares.2, required, Bool.true_and, Bool.not_eq_false']
              at notAlways
            rw [ArgType.admitsNull_load declares.1, notAlways]

end ArgumentModel

namespace Catalog

/-- Every placeholder of a compiled path is an argument of the tool. Calls with accepted arguments
never lack a value for the path exactly when each placeholder's last field is always given. -/
theorem neverLacksPathValue_iff {description : Json} {entry : WhitelistEntry} {compiled : Tool}
    {warnings : List Warning} {model : ArgumentModel}
    (keyed : description.isWellKeyed = true)
    (done : compileEntry description entry = .ok (some compiled, warnings))
    (takesAll : ∀ name ∈ Path.placeholders entry.path.toList, name ∉ entry.omitted)
    (loaded : ArgumentModel.ofFields compiled.modelName compiled.fields = .ok model) :
    (∀ name ∈ Path.placeholders entry.path.toList, name ∈ model.propertyOrder) ∧
    ((∀ arguments checked, model.check arguments = .ok checked →
        ∀ name, compiled.handler.call checked ≠ .error (.missingPathValue name)) ↔
      ∀ name ∈ Path.placeholders entry.path.toList,
        (Field.lastNamed? name compiled.fields).any Field.isAlwaysGiven = true) := by
  obtain ⟨operation, parameters, set, compiles⟩ := compiles_of_compileEntry done
  have parametersKeyed := compiles.holds_parameters Json.hereditary_isWellKeyed keyed
  have hasField : ∀ name ∈ Path.placeholders entry.path.toList,
      ∃ field, Field.lastNamed? name compiled.fields = some field := by
    intro name member
    rw [compiles.fields]
    exact FieldSet.exists_lastNamed?_of_mem parametersKeyed compiles.collected member
      (takesAll name member)
  have proper : ∀ field ∈ compiled.fields, field.type.IsProper := by
    rw [compiles.fields]
    exact FieldSet.isProper_of_mem parametersKeyed compiles.collected
  have lacks : ∀ checked : Arguments,
      (∃ name, compiled.handler.call checked = .error (.missingPathValue name)) ↔
        ∃ name ∈ Path.placeholders entry.path.toList, checked.given? name = none := by
    intro checked
    rw [compiled.handler.exists_call_eq_missing_iff, compiles.handler_path]
  refine ⟨fun name member => ?_, ?_, ?_⟩
  · obtain ⟨field, isLast⟩ := hasField name member
    exact ArgumentModel.mem_propertyOrder loaded isLast
  · intro neverLacks name member
    obtain ⟨field, isLast⟩ := hasField name member
    rw [isLast, Option.any_some]
    by_contra notAlways
    have mayLack : ∀ other, Field.lastNamed? name compiled.fields = some other →
        other.isAlwaysGiven = false := by
      intro other isOther
      obtain rfl := Option.some.inj (isLast.symm.trans isOther)
      simpa using notAlways
    obtain ⟨arguments, checked, accepted, absent⟩ :=
      ArgumentModel.exists_check_without_of_lastNamed? loaded proper mayLack
    obtain ⟨missing, stopped⟩ := (lacks checked).2 ⟨name, member, absent⟩
    exact neverLacks arguments checked accepted missing stopped
  · intro always arguments checked accepted missing stopped
    obtain ⟨name, member, absent⟩ := (lacks checked).1 ⟨missing, stopped⟩
    obtain ⟨field, isLast⟩ := hasField name member
    have fieldAlways := always name member
    rw [isLast, Option.any_some] at fieldAlways
    exact ArgumentModel.given?_of_isAlwaysGiven loaded isLast fieldAlways accepted absent

/-! ## A show by its number -/

/-- The tool for an entry with its argument model, if there is one. -/
def toolWithModel? (description : Json) (entry : WhitelistEntry) : Option (Tool × ArgumentModel) :=
  match compileEntry description entry with
  | .ok (some compiled, _) =>
    match ArgumentModel.ofFields compiled.modelName compiled.fields with
    | .ok model => some (compiled, model)
    | .error _ => none
  | _ => none

theorem exists_of_any_toolWithModel? {description : Json} {entry : WhitelistEntry}
    {Holds : Tool × ArgumentModel → Bool}
    (any : (toolWithModel? description entry).any Holds = true) :
    ∃ compiled warnings model,
      compileEntry description entry = .ok (some compiled, warnings) ∧
      ArgumentModel.ofFields compiled.modelName compiled.fields = .ok model ∧
      Holds (compiled, model) = true := by
  obtain ⟨both, found, holds⟩ := (Option.any_eq_true _ _).1 any
  unfold toolWithModel? at found
  split at found
  · next compiled warnings done =>
      split at found
      · next model loaded =>
          obtain rfl := Option.some.inj found
          exact ⟨compiled, warnings, model, done, loaded, holds⟩
      · cases found
  · cases found

/-- The entry for a show by its number. -/
def showEntry : WhitelistEntry := .json "/tv/:id" "get"

/-- A description in which that operation has some parameters. -/
def showDescription (parameters : List Json) : Json :=
  .obj [("paths", .obj [("/tv/{id}", .obj [("get", .obj [("parameters", .arr parameters)])])])]

set_option maxRecDepth 20000 in
/-- Without parameters the number of the show is always given. -/
theorem neverLacksPathValue_without_parameters :
    ∃ compiled warnings model,
      compileEntry (showDescription []) showEntry = .ok (some compiled, warnings) ∧
      ArgumentModel.ofFields compiled.modelName compiled.fields = .ok model ∧
      ∀ arguments checked, model.check arguments = .ok checked →
        ∀ name, compiled.handler.call checked ≠ .error (.missingPathValue name) := by
  have all : (toolWithModel? (showDescription []) showEntry).any (fun both =>
      (Path.placeholders showEntry.path.toList).all fun name =>
        (Field.lastNamed? name both.1.fields).any Field.isAlwaysGiven) = true := by
    decide +kernel
  obtain ⟨compiled, warnings, model, done, loaded, always⟩ := exists_of_any_toolWithModel? all
  refine ⟨compiled, warnings, model, done, loaded, ?_⟩
  exact (neverLacksPathValue_iff (by decide) done (by simp [showEntry, WhitelistEntry.json])
    loaded).2.2 (by simpa using always)

set_option maxRecDepth 20000 in
/-- A parameter of the query with the name of the placeholder makes the number optional, and a call
without it lacks a value for the path. -/
theorem lacksPathValue_of_queryParameter :
    ∃ compiled warnings model,
      compileEntry (showDescription [.obj [("name", .str "id"), ("in", .str "query")]])
        showEntry = .ok (some compiled, warnings) ∧
      ArgumentModel.ofFields compiled.modelName compiled.fields = .ok model ∧
      model.check (.obj []) = .ok [] ∧
      compiled.handler.call [] = .error (.missingPathValue "id") := by
  have lacks : (toolWithModel? (showDescription [.obj [("name", .str "id"), ("in", .str "query")]])
      showEntry).any (fun both => decide (both.2.check (.obj []) = .ok [] ∧
        both.1.handler.call [] = .error (.missingPathValue "id"))) = true := by
    decide +kernel
  obtain ⟨compiled, warnings, model, done, loaded, stops⟩ := exists_of_any_toolWithModel? lacks
  exact ⟨compiled, warnings, model, done, loaded, of_decide_eq_true stops⟩

end Catalog

end ApiTools
