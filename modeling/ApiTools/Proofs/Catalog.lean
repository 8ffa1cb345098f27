import ApiTools.Catalog
import ApiTools.Proofs.Field

/-!
# What a compiled tool consists of

A tool takes its fields from the parameters of the operation, and everything else in its handler but
the query keys and the flattening from the entry of the whitelist.
-/

namespace ApiTools

namespace Json

/-! ## Looking up members -/

theorem memberOr_of_memberThere {value found : Json} {key : String}
    (there : value.memberThere key = .ok found) (default : Json) :
    value.memberOr key default = .ok found := by
  cases value with
  | obj fields =>
      cases present : Keyed.get? key fields with
      | none => simp [memberThere, present] at there
      | some other =>
          obtain rfl : other = found := by simpa [memberThere, present] using there
          rw [memberOr, present, Option.getD_some]
  | null | bool _ | int _ | float _ | str _ | arr _ => simp [memberThere] at there

/-- A member that is not null is there, so no default counts. -/
theorem memberOr_of_member {value found : Json} {key : String} (notNull : found ≠ .null)
    (looked : value.member key = .ok found) (default : Json) :
    value.memberOr key default = .ok found := by
  cases value with
  | obj fields =>
      rw [member, memberOr, Except.ok.injEq] at looked
      cases present : Keyed.get? key fields with
      | none =>
          rw [present, Option.getD_none] at looked
          exact absurd looked.symm notNull
      | some other =>
          rw [present, Option.getD_some] at looked
          rw [memberOr, present, Option.getD_some, looked]
  | null | bool _ | int _ | float _ | str _ | arr _ => simp [member, memberOr] at looked

end Json

namespace Catalog

open Binding

/-! ## Parameters -/

section

variable {holds : Json → Prop}

theorem holds_operation (hereditary : Json.Hereditary holds) {description found : Json}
    {path method : String} (whole : holds description)
    (done : operation description path method = .ok found) : holds found := by
  simp only [operation, bind_eq_ok_iff] at done
  obtain ⟨paths, pathsLooked, operations, operationsLooked, found⟩ := done
  have inPaths := hereditary.memberOr whole hereditary.emptyObj pathsLooked
  exact hereditary.member (hereditary.part inPaths operationsLooked) found

theorem holds_bodySchema (hereditary : Json.Hereditary holds) {requestBody schema : Json}
    (whole : holds requestBody) (done : bodySchema requestBody = .ok schema) : holds schema := by
  simp only [bodySchema, bind_eq_ok_iff, pure_eq_ok, Except.ok.injEq] at done
  obtain ⟨content, contentLooked, document, documentLooked, found, looked, rfl⟩ := done
  have inDocument := hereditary.part (hereditary.part whole contentLooked) documentLooked
  have isObject : holds (.obj [("type", .str "object")]) :=
    hereditary.obj (List.nodup_singleton _) (List.forall_mem_singleton.2 (hereditary.str _))
  exact Json.Hereditary.orElse (hereditary.member inDocument looked) isObject

theorem holds_parameters (hereditary : Json.Hereditary holds) {operation : Json}
    {listed : List Json} (whole : holds operation) (done : parameters operation = .ok listed) :
    ∀ parameter ∈ listed, holds parameter := by
  simp only [parameters, bind_eq_ok_iff, pure_eq_ok] at done
  obtain ⟨value, valueLooked, first, firstDone, requestBody, bodyLooked, done⟩ := done
  have inFirst := hereditary.elements
    (Json.Hereditary.orElse (hereditary.member whole valueLooked) hereditary.emptyArr) firstDone
  split at done
  · exact Except.ok.inj done ▸ inFirst
  · simp only [bind_eq_ok_iff, Except.ok.injEq] at done
    obtain ⟨schema, schemaDone, rfl⟩ := done
    have inSchema := holds_bodySchema hereditary (hereditary.member whole bodyLooked) schemaDone
    refine List.forall_mem_append.2 ⟨inFirst, List.forall_mem_singleton.2 ?_⟩
    refine hereditary.obj (by simp [Keyed.keys]) ?_
    simp only [List.forall_mem_cons]
    exact ⟨hereditary.str _, hereditary.str _, hereditary.bool _, inSchema, List.forall_mem_nil _⟩

end

/-! ## Handlers -/

/-- A query key is the name of its parameter, which is neither the client's nor a marker. -/
theorem queryKey?_eq_some {markers : List String} {parameter key : Json}
    (done : queryKey? markers parameter = .ok (some key)) :
    parameter.memberThere "name" = .ok key ∧ key ≠ .str Field.clientParameter ∧
      key.isAmong markers = .ok false := by
  simp only [queryKey?, bind_eq_ok_iff, pure_eq_ok] at done
  obtain ⟨_, -, done⟩ := done
  split at done
  · simp at done
  simp only [bind_eq_ok_iff] at done
  obtain ⟨name, named, done⟩ := done
  split at done
  · simp at done
  next notClient =>
    simp only [bind_eq_ok_iff, Except.ok.injEq] at done
    obtain ⟨isMarker, among, chosen⟩ := done
    split at chosen
    · cases chosen
    · next notMarker =>
        obtain rfl := Option.some.inj chosen
        rw [Bool.not_eq_true] at notMarker
        exact ⟨named, notClient, notMarker ▸ among⟩

theorem isAtomic_of_isAmong {value : Json} {names : List String} {found : Bool}
    (among : value.isAmong names = .ok found) : value.isAtomic = true := by
  cases value with
  | arr items => simp [Json.isAmong] at among
  | obj fields => simp [Json.isAmong] at among
  | _ => rfl

/-- A handler takes what it needs from the entry and the parameters as it is. -/
theorem handler_eq_ok {path method responseFormat toolName : String}
    {parameters : List Json} {flatten : List (String × String)} {formatter : Option Formatter}
    {made : Handler}
    (done : handler path method parameters responseFormat toolName flatten formatter = .ok made) :
    ∃ keys, parameters.mapM (queryKey? (Path.markers path.toList)) = .ok keys ∧
      made = ⟨toolName, String.ofList (Text.upper method.toList), path, keys.filterMap id, flatten,
        responseFormat, formatter⟩ := by
  simp only [handler, bind_eq_ok_iff] at done
  obtain ⟨keys, keysDone, done⟩ := done
  unfold Handler.make at done
  split at done
  · cases done
  · exact ⟨keys, keysDone, (Except.ok.inj done).symm⟩

theorem exists_queryKey?_of_handler {path method responseFormat toolName : String}
    {parameters : List Json} {flatten : List (String × String)} {formatter : Option Formatter}
    {made : Handler}
    (done : handler path method parameters responseFormat toolName flatten formatter = .ok made) :
    ∀ key ∈ made.queryKeys, ∃ parameter ∈ parameters,
      queryKey? (Path.markers path.toList) parameter = .ok (some key) := by
  obtain ⟨keys, keysDone, rfl⟩ := handler_eq_ok done
  intro key member
  obtain ⟨_, key?Member, rfl⟩ := List.mem_filterMap.1 member
  exact exists_of_forall₂_right (mapM_eq_ok_iff.1 keysDone) (some key) key?Member

theorem isAtomic_of_handler {path method responseFormat toolName : String}
    {parameters : List Json} {flatten : List (String × String)} {formatter : Option Formatter}
    {made : Handler}
    (done : handler path method parameters responseFormat toolName flatten formatter = .ok made) :
    ∀ key ∈ made.queryKeys, key.isAtomic = true := by
  intro key member
  obtain ⟨parameter, -, keyDone⟩ := exists_queryKey?_of_handler done key member
  exact isAtomic_of_isAmong (queryKey?_eq_some keyDone).2.2

theorem holds_queryKeys {holds : Json → Prop} (hereditary : Json.Hereditary holds)
    {path method responseFormat toolName : String} {parameters : List Json}
    {flatten : List (String × String)} {formatter : Option Formatter} {made : Handler}
    (whole : ∀ parameter ∈ parameters, holds parameter)
    (done : handler path method parameters responseFormat toolName flatten formatter = .ok made) :
    ∀ key ∈ made.queryKeys, holds key := by
  intro key member
  obtain ⟨parameter, isParameter, keyDone⟩ := exists_queryKey?_of_handler done key member
  exact hereditary.memberThere (whole parameter isParameter) (queryKey?_eq_some keyDone).1

theorem clientParameter_notMem_of_handler {path method responseFormat toolName : String}
    {parameters : List Json} {flatten : List (String × String)} {formatter : Option Formatter}
    {made : Handler}
    (done : handler path method parameters responseFormat toolName flatten formatter = .ok made) :
    .str Field.clientParameter ∉ made.queryKeys := by
  intro member
  obtain ⟨parameter, -, keyDone⟩ := exists_queryKey?_of_handler done _ member
  exact (queryKey?_eq_some keyDone).2.1 rfl

theorem mem_queryKeys_of_handler {path method responseFormat toolName : String}
    {parameters : List Json} {flatten : List (String × String)} {formatter : Option Formatter}
    {made : Handler}
    (done : handler path method parameters responseFormat toolName flatten formatter = .ok made)
    {parameter name : Json} (member : parameter ∈ parameters)
    (located : parameter.member "in" = .ok (.str "query"))
    (named : parameter.memberOr "name" (.str "") = .ok name)
    (notClient : name ≠ .str Field.clientParameter)
    (notMarker : name.isAmong (Path.markers path.toList) = .ok false) :
    name ∈ made.queryKeys := by
  obtain ⟨keys, keysDone, rfl⟩ := handler_eq_ok done
  obtain ⟨key?, key?Member, keyDone⟩ :=
    exists_of_forall₂_right (mapM_eq_ok_iff.1 keysDone).flip parameter member
  simp only [queryKey?, located, ok_bind, bind_eq_ok_iff, pure_eq_ok, ne_eq, not_true_eq_false,
    if_false] at keyDone
  obtain ⟨found, foundThere, keyDone⟩ := keyDone
  have same : found = name := by
    have looked := Json.memberOr_of_memberThere foundThere (.str "")
    rw [named] at looked
    exact (Except.ok.inj looked).symm
  rw [same, if_neg notClient] at keyDone
  simp only [notMarker, ok_bind, Bool.false_eq_true, if_false, Except.ok.injEq] at keyDone
  exact List.mem_filterMap.2 ⟨key?, key?Member, keyDone.symm⟩

/-! ## Tools -/

/-- A compiled tool, taken apart. -/
structure Compiles (description : Json) (entry : WhitelistEntry) (compiled : Tool)
    (operation : Json) (parameters : List Json) (set : FieldSet) : Prop where
  operationFound : Catalog.operation description
    (String.ofList (Path.normalize entry.path.toList)) entry.method = .ok operation
  parametersListed : Catalog.parameters operation = .ok parameters
  named : ToolName.ofPath entry.path = .ok compiled.name
  collected : FieldSet.ofParameters entry.path parameters entry.omitted = .ok set
  handled : Catalog.handler entry.path entry.method parameters entry.formatName compiled.name
    set.flatten entry.formatter = .ok compiled.handler
  fields : compiled.fields = set.fields

theorem compiles_of_compileEntry {description : Json} {entry : WhitelistEntry} {compiled : Tool}
    {warnings : List Warning}
    (done : compileEntry description entry = .ok (some compiled, warnings)) :
    ∃ operation parameters set, Compiles description entry compiled operation parameters set := by
  simp only [compileEntry, tool, bind_eq_ok_iff, pure_eq_ok] at done
  obtain ⟨operation, operationFound, done⟩ := done
  split at done
  · simp at done
  · simp only [bind_eq_ok_iff, Except.ok.injEq, Prod.mk.injEq, Option.some.injEq] at done
    obtain ⟨_, ⟨parameters, parametersListed, name, named, set, collected, made, handled,
      _, -, rfl⟩, rfl, rfl⟩ := done
    exact ⟨operation, parameters, set, operationFound, parametersListed, named, collected, handled,
      rfl⟩

namespace Compiles

variable {description : Json} {entry : WhitelistEntry} {compiled : Tool} {operation : Json}
  {parameters : List Json} {set : FieldSet}

theorem handler_path (compiles : Compiles description entry compiled operation parameters set) :
    compiled.handler.path = entry.path := by
  obtain ⟨keys, -, made⟩ := handler_eq_ok compiles.handled
  rw [made]

theorem handler_flatten (compiles : Compiles description entry compiled operation parameters set) :
    compiled.handler.flatten = set.flatten := by
  obtain ⟨keys, -, made⟩ := handler_eq_ok compiles.handled
  rw [made]

theorem holds_parameters {holds : Json → Prop}
    (compiles : Compiles description entry compiled operation parameters set)
    (hereditary : Json.Hereditary holds) (whole : holds description) :
    ∀ parameter ∈ parameters, holds parameter :=
  Catalog.holds_parameters hereditary (holds_operation hereditary whole compiles.operationFound)
    compiles.parametersListed

end Compiles

/-- Every tool of a catalog was compiled from an entry of the whitelist. -/
theorem exists_compileEntry_of_mem {description : Json} {whitelist : List WhitelistEntry}
    {catalog : Catalog} (done : compile description whitelist = .ok catalog) :
    ∀ compiled ∈ catalog.tools, ∃ entry ∈ whitelist, ∃ warnings,
      compileEntry description entry = .ok (some compiled, warnings) := by
  simp only [compile, bind_eq_ok_iff, pure_eq_ok, Except.ok.injEq] at done
  obtain ⟨results, resultsDone, information, -, version, -, rfl⟩ := done
  intro compiled member
  obtain ⟨⟨_, warnings⟩, resultMember, rfl⟩ := List.mem_filterMap.1 member
  obtain ⟨entry, entryMember, entryDone⟩ :=
    exists_of_forall₂_right (mapM_eq_ok_iff.1 resultsDone) _ resultMember
  exact ⟨entry, entryMember, warnings, entryDone⟩

end Catalog

end ApiTools
