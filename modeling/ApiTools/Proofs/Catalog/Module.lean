import ApiTools.Proofs.Completion
import ApiTools.Proofs.Endpoint
import ApiTools.Proofs.Text.Case

/-!
# What the server registers of a catalog

The compiled module refers to argument models and formatters by the names of its tools. Where these
names are distinct, every tool is registered with its own model and its own formatter, in the order
of the whitelist; where they are not, the registry refuses the second tool of a name.
-/

namespace ApiTools

open Binding

/-! ## Names -/

namespace ToolName

theorem nodup_names : (table.map Prod.snd).Nodup := by
  decide +kernel

theorem isLower_of_mem_table :
    ∀ entry ∈ table, ∀ part ∈ entry.2.toList.splitOn '_', part.all Char.isLower = true := by
  decide +kernel

theorem nodup_capitalized :
    (table.map fun entry => (entry.2.toList.splitOn '_').flatMap Text.capitalized).Nodup := by
  decide +kernel

theorem toList_modelName {path name : String} (listed : (path, name) ∈ table) :
    (modelName name).toList =
      (name.toList.splitOn '_').flatMap Text.capitalized ++ "Arguments".toList := by
  have each : ∀ part ∈ name.toList.splitOn '_', Text.capitalize part = Text.capitalized part :=
    fun part member =>
      Text.capitalize_of_isLower (isLower_of_mem_table (path, name) listed part member)
  rw [modelName, String.toList_append, String.toList_ofList, List.flatMap_congr each]

/-- Tools of different paths have different names. -/
theorem ofPath_injective {first second name : String} (named : ofPath first = .ok name)
    (alsoNamed : ofPath second = .ok name) : first = second := by
  have same : (first, name) = (second, name) :=
    List.inj_on_of_nodup_map nodup_names (mem_table_of_ofPath named)
      (mem_table_of_ofPath alsoNamed) rfl
  exact congrArg Prod.fst same

/-- The names of argument models tell the named tools apart. -/
theorem modelName_injective {path other name otherName : String}
    (named : ofPath path = .ok name) (otherNamed : ofPath other = .ok otherName)
    (same : modelName name = modelName otherName) : name = otherName := by
  have listed := mem_table_of_ofPath named
  have otherListed := mem_table_of_ofPath otherNamed
  have sameText := congrArg String.toList same
  rw [toList_modelName listed, toList_modelName otherListed, List.append_left_inj] at sameText
  have sameEntry : (path, name) = (other, otherName) :=
    List.inj_on_of_nodup_map nodup_capitalized listed otherListed sameText
  exact congrArg Prod.snd sameEntry

theorem ne_ownStatistics_of_ofPath {path name : String} (named : ofPath path = .ok name) :
    name ≠ Server.ownStatistics.name := by
  have noneInTable : ∀ entry ∈ table, entry.2 ≠ Server.ownStatistics.name := by
    decide +kernel
  exact noneInTable (path, name) (mem_table_of_ofPath named)

end ToolName

/-! ## Registering several tools -/

namespace Registry

theorem registerAll_cons_of_not_mem {registry : Registry} {tool : RegisteredTool}
    {rest : List RegisteredTool} (fresh : tool.name ∉ registry.names) :
    registry.registerAll (tool :: rest) =
      (⟨registry.tools ++ [tool]⟩ : Registry).registerAll rest := by
  rw [registerAll, register_of_not_mem fresh]

theorem registerAll_cons_of_mem {registry : Registry} {tool : RegisteredTool}
    {rest : List RegisteredTool} (present : tool.name ∈ registry.names) :
    registry.registerAll (tool :: rest) = (.error (.duplicateTool tool.name), registry) := by
  rw [registerAll, register_of_mem present]

theorem names_append (tools others : List RegisteredTool) :
    (⟨tools ++ others⟩ : Registry).names =
      (⟨tools⟩ : Registry).names ++ others.map RegisteredTool.name :=
  List.map_append

/-- Tools whose names are all different are registered in their order. -/
theorem registerAll_of_nodup {tools : List RegisteredTool} :
    ∀ {registry : Registry}, (registry.names ++ tools.map RegisteredTool.name).Nodup →
      registry.registerAll tools = (.ok (), ⟨registry.tools ++ tools⟩) := by
  induction tools with
  | nil =>
      intro registry _
      rw [List.append_nil]
      rfl
  | cons tool rest inductionHypothesis =>
      intro registry distinct
      have split : registry.names ++ (tool :: rest).map RegisteredTool.name =
          (⟨registry.tools ++ [tool]⟩ : Registry).names ++ rest.map RegisteredTool.name := by
        rw [names_append, List.append_assoc]
        rfl
      have fresh : tool.name ∉ registry.names := by
        intro present
        exact List.disjoint_of_nodup_append distinct present List.mem_cons_self
      rw [split] at distinct
      rw [registerAll_cons_of_not_mem fresh, inductionHypothesis distinct, List.append_assoc]
      rfl

/-- Of several tools with one name the second one is refused. -/
theorem registerAll_of_not_nodup {tools : List RegisteredTool} :
    ∀ {registry : Registry}, registry.names.Nodup →
      ¬ (registry.names ++ tools.map RegisteredTool.name).Nodup →
      ∃ name, 2 ≤ (registry.names ++ tools.map RegisteredTool.name).count name ∧
        (registry.registerAll tools).1 = .error (.duplicateTool name) := by
  induction tools with
  | nil =>
      intro registry distinct repeated
      rw [List.map_nil, List.append_nil] at repeated
      exact absurd distinct repeated
  | cons tool rest inductionHypothesis =>
      intro registry distinct repeated
      by_cases present : tool.name ∈ registry.names
      · refine ⟨tool.name, ?_, by rw [registerAll_cons_of_mem present]⟩
        have once : 1 ≤ registry.names.count tool.name := List.count_pos_iff.2 present
        rw [List.count_append, List.map_cons, List.count_cons_self]
        omega
      · have split : registry.names ++ (tool :: rest).map RegisteredTool.name =
            (⟨registry.tools ++ [tool]⟩ : Registry).names ++ rest.map RegisteredTool.name := by
          rw [names_append, List.append_assoc]
          rfl
        have stillDistinct : (⟨registry.tools ++ [tool]⟩ : Registry).names.Nodup := by
          rw [names_append]
          exact List.nodup_append_comm.1 (List.nodup_cons.2 ⟨present, distinct⟩)
        rw [split] at repeated ⊢
        rw [registerAll_cons_of_not_mem present]
        exact inductionHypothesis stillDistinct repeated

end Registry

theorem Server.buildRegistry_of_start {client : Client} {catalog : Catalog} {server : Server}
    (started : start client (some catalog) = .ok server) :
    buildRegistry server.definitions = .ok server.registry := by
  simp only [start, bind_eq_ok_iff, pure_eq_ok, Except.ok.injEq] at started
  obtain ⟨definitions, -, registry, built, rfl⟩ := started
  exact built

/-! ## Argument models and formatters -/

theorem ArgumentModel.name_ofFields {name : String} {fields : List Field} {model : ArgumentModel}
    (done : ofFields name fields = .ok model) : model.name = name := by
  simp only [ofFields, bind_eq_ok_iff, pure_eq_ok, Except.ok.injEq] at done
  obtain ⟨_, -, _, -, _, -, rfl⟩ := done
  rfl

namespace Catalog

/-- The formatter that stands in the module under the name of a tool is the tool's own. -/
theorem get?_formattersOf {tools : List Tool} (distinct : (tools.map Tool.name).Nodup)
    {tool : Tool} (member : tool ∈ tools) :
    Keyed.get? tool.name (formattersOf tools) = tool.handler.formatter := by
  have keysAmong : (Keyed.keys (tools.filterMap fun tool =>
      tool.handler.formatter.map fun formatter => (tool.name, formatter))).Sublist
        (tools.map Tool.name) := by
    clear distinct member
    induction tools with
    | nil => exact .slnil
    | cons first rest inductionHypothesis =>
        cases formatted : first.handler.formatter with
        | none =>
            rw [List.filterMap_cons_none (by rw [formatted]; rfl)]
            exact inductionHypothesis.cons first.name
        | some formatter =>
            rw [List.filterMap_cons_some (by rw [formatted]; rfl)]
            exact inductionHypothesis.cons_cons first.name
  have distinctKeys := keysAmong.nodup distinct
  rw [formattersOf, Keyed.ofPairs_eq_self distinctKeys]
  cases formatted : tool.handler.formatter with
  | some formatter =>
      apply Keyed.get?_of_mem distinctKeys
      exact List.mem_filterMap.2 ⟨tool, member, by rw [formatted]; rfl⟩
  | none =>
      rw [Keyed.get?_eq_none_iff]
      intro listed
      obtain ⟨⟨name, formatter⟩, pairListed, sameName⟩ := List.mem_map.1 listed
      obtain ⟨other, otherMember, otherFormatted⟩ := List.mem_filterMap.1 pairListed
      obtain ⟨own, ownFormatter, isPair⟩ := Option.map_eq_some_iff.1 otherFormatted
      have isOther : other.name = tool.name := by
        rw [← sameName, ← isPair]
      obtain rfl : other = tool :=
        List.inj_on_of_nodup_map distinct otherMember member isOther
      rw [formatted] at ownFormatter
      cases ownFormatter

/-- The model that stands in the module under a tool's model name declares the tool's own fields. -/
theorem ofFields_of_models {catalog : Catalog} {models : List (String × ArgumentModel)}
    (distinct : (catalog.tools.map Tool.modelName).Nodup)
    (done : catalog.models = .ok models) {tool : Tool} (member : tool ∈ catalog.tools) :
    ∃ model, Keyed.get? tool.modelName models = some model ∧
      ArgumentModel.ofFields tool.modelName tool.fields = .ok model := by
  simp only [Catalog.models, bind_eq_ok_iff, pure_eq_ok, Except.ok.injEq] at done
  obtain ⟨loaded, loadedDone, rfl⟩ := done
  have related := mapM_eq_ok_iff.1 loadedDone
  have sameNames : loaded.map ArgumentModel.name = catalog.tools.map Tool.modelName := by
    have named : List.Forall₂ Eq (loaded.map ArgumentModel.name)
        (catalog.tools.map Tool.modelName) := by
      rw [List.forall₂_map_left_iff, List.forall₂_map_right_iff]
      exact related.flip.imp fun _ _ modelDone => ArgumentModel.name_ofFields modelDone
    rwa [List.forall₂_eq_eq_eq] at named
  have keysDistinct : (Keyed.keys (loaded.map fun model => (model.name, model))).Nodup := by
    have keysAreNames : Keyed.keys (loaded.map fun model => (model.name, model)) =
        loaded.map ArgumentModel.name := by
      rw [Keyed.keys, List.map_map]
      rfl
    rwa [keysAreNames, sameNames]
  obtain ⟨model, modelMember, modelDone⟩ := exists_of_forall₂_right related.flip tool member
  refine ⟨model, ?_, modelDone⟩
  rw [Keyed.ofPairs_eq_self keysDistinct]
  apply Keyed.get?_of_mem keysDistinct
  exact List.mem_map.2 ⟨model, modelMember, by rw [ArgumentModel.name_ofFields modelDone]⟩

/-! ## Registered tools -/

/-- A tool is registered as it was compiled. -/
structure Registers (tool : Tool) (registered : RegisteredTool) : Prop where
  name : registered.name = tool.name
  description : registered.description = tool.description
  annotations : registered.annotations = tool.hints.map fun hint => (hint.label, true)
  arguments : ArgumentModel.ofFields tool.modelName tool.fields = .ok registered.arguments
  action : registered.action = .operation tool.handler

variable {description : Json} {whitelist : List WhitelistEntry} {catalog : Catalog}
  {definitions : List ToolDefinition}

/-- The tools of a catalog stand in the order of the entries that they are compiled from. -/
theorem exists_sublist_of_compile (compiled : compile description whitelist = .ok catalog) :
    ∃ entries, entries.Sublist whitelist ∧ List.Forall₂ (fun entry tool =>
      ∃ warnings, compileEntry description entry = .ok (some tool, warnings))
        entries catalog.tools := by
  simp only [compile, bind_eq_ok_iff, pure_eq_ok, Except.ok.injEq] at compiled
  obtain ⟨results, resultsDone, information, -, version, -, rfl⟩ := compiled
  have related := mapM_eq_ok_iff.1 resultsDone
  clear resultsDone
  induction related with
  | nil => exact ⟨[], .slnil, .nil⟩
  | @cons entry result others _ entryDone _ inductionHypothesis =>
      obtain ⟨entries, areAmong, pairs⟩ := inductionHypothesis
      obtain ⟨tool?, warnings⟩ := result
      cases tool? with
      | none => exact ⟨entries, areAmong.cons entry, pairs⟩
      | some tool =>
          exact ⟨entry :: entries, areAmong.cons_cons entry, .cons ⟨warnings, entryDone⟩ pairs⟩

theorem named_of_mem_tools (compiled : compile description whitelist = .ok catalog) {tool : Tool}
    (member : tool ∈ catalog.tools) : ∃ path, ToolName.ofPath path = .ok tool.name := by
  obtain ⟨entry, -, warnings, entryDone⟩ := exists_compileEntry_of_mem compiled tool member
  obtain ⟨operation, parameters, set, compiles⟩ := compiles_of_compileEntry entryDone
  exact ⟨entry.path, compiles.named⟩

theorem nodup_modelNames (compiled : compile description whitelist = .ok catalog)
    (distinct : (catalog.tools.map Tool.name).Nodup) :
    (catalog.tools.map Tool.modelName).Nodup := by
  have isMap : catalog.tools.map Tool.modelName =
      (catalog.tools.map Tool.name).map ToolName.modelName := by
    rw [List.map_map]
    rfl
  rw [isMap, List.nodup_map_iff_inj_on distinct]
  intro first firstMember second secondMember same
  obtain ⟨firstTool, firstListed, rfl⟩ := List.mem_map.1 firstMember
  obtain ⟨secondTool, secondListed, rfl⟩ := List.mem_map.1 secondMember
  obtain ⟨firstPath, firstNamed⟩ := named_of_mem_tools compiled firstListed
  obtain ⟨secondPath, secondNamed⟩ := named_of_mem_tools compiled secondListed
  exact ToolName.modelName_injective firstNamed secondNamed same

theorem formatters_of_compile (compiled : compile description whitelist = .ok catalog) :
    catalog.formatters = formattersOf catalog.tools := by
  simp only [compile, bind_eq_ok_iff, pure_eq_ok, Except.ok.injEq] at compiled
  obtain ⟨_, -, _, -, _, -, rfl⟩ := compiled
  rfl

/-- With distinct names no tool finds anything of another one in the module. -/
theorem registers_of_nodup (compiled : compile description whitelist = .ok catalog)
    (distinct : (catalog.tools.map Tool.name).Nodup) {models : List (String × ArgumentModel)}
    (loaded : catalog.models = .ok models) {tool : Tool} (member : tool ∈ catalog.tools) :
    Registers tool (catalog.definition models tool).registered := by
  obtain ⟨model, found, modelDone⟩ :=
    ofFields_of_models (nodup_modelNames compiled distinct) loaded member
  refine ⟨rfl, rfl, rfl, ?_, ?_⟩
  · rw [modelDone]
    simp only [definition, ToolDefinition.registered, found, Option.getD_some]
  · have ownFormatter := get?_formattersOf distinct member
    rw [← formatters_of_compile compiled] at ownFormatter
    have sameFormatter : (tool.handler.formatter.bind fun _ =>
        Keyed.get? tool.name catalog.formatters) = tool.handler.formatter := by
      rw [ownFormatter]
      cases tool.handler.formatter <;> rfl
    simp only [definition, ToolDefinition.registered, sameFormatter]

theorem names_of_toolDefinitions (loaded : catalog.toolDefinitions = .ok definitions) :
    definitions.map (fun definition => definition.registered.name) =
      catalog.tools.map Tool.name := by
  simp only [toolDefinitions, bind_eq_ok_iff, pure_eq_ok, Except.ok.injEq] at loaded
  obtain ⟨_, -, _, -, models, -, rfl⟩ := loaded
  rw [List.map_map]
  rfl

theorem forall₂_registers (compiled : compile description whitelist = .ok catalog)
    (loaded : catalog.toolDefinitions = .ok definitions)
    (distinct : (catalog.tools.map Tool.name).Nodup) :
    List.Forall₂ Registers catalog.tools (definitions.map ToolDefinition.registered) := by
  simp only [toolDefinitions, bind_eq_ok_iff, pure_eq_ok, Except.ok.injEq] at loaded
  obtain ⟨_, -, _, -, models, modelsLoaded, rfl⟩ := loaded
  rw [List.map_map, List.forall₂_map_right_iff, List.forall₂_same]
  exact fun tool member => registers_of_nodup compiled distinct modelsLoaded member

/-! ## Building the registry -/

theorem buildRegistry_of_nodup (compiled : compile description whitelist = .ok catalog)
    (loaded : catalog.toolDefinitions = .ok definitions)
    (distinct : (catalog.tools.map Tool.name).Nodup) :
    Server.buildRegistry definitions =
      .ok ⟨definitions.map ToolDefinition.registered ++ [Server.ownStatistics]⟩ := by
  have names := names_of_toolDefinitions loaded
  have sameNames : (definitions.map ToolDefinition.registered).map RegisteredTool.name =
      catalog.tools.map Tool.name := by
    rw [List.map_map]
    exact names
  have allFresh : (Registry.empty.names ++
      (definitions.map ToolDefinition.registered).map RegisteredTool.name).Nodup := by
    rw [sameNames]
    exact distinct
  have registered := Registry.registerAll_of_nodup allFresh
  have ownFresh : Server.ownStatistics.name ∉
      (⟨definitions.map ToolDefinition.registered⟩ : Registry).names := by
    rw [Registry.names, sameNames]
    intro listed
    obtain ⟨tool, member, isOwn⟩ := List.mem_map.1 listed
    obtain ⟨path, named⟩ := named_of_mem_tools compiled member
    exact ToolName.ne_ownStatistics_of_ofPath named isOwn
  rw [Server.buildRegistry, Server.registerDefinitions, registered]
  exact Registry.register_of_not_mem ownFresh

theorem buildRegistry_of_not_nodup (loaded : catalog.toolDefinitions = .ok definitions)
    (repeated : ¬ (catalog.tools.map Tool.name).Nodup) :
    ∃ name, 2 ≤ (catalog.tools.map Tool.name).count name ∧
      Server.buildRegistry definitions = .error (.duplicateTool name) := by
  have sameNames : (definitions.map ToolDefinition.registered).map RegisteredTool.name =
      catalog.tools.map Tool.name := by
    rw [List.map_map]
    exact names_of_toolDefinitions loaded
  have notFresh : ¬ (Registry.empty.names ++
      (definitions.map ToolDefinition.registered).map RegisteredTool.name).Nodup := by
    rw [sameNames]
    exact repeated
  have noNames : Registry.empty.names.Nodup := List.nodup_nil
  obtain ⟨name, twice, refused⟩ := Registry.registerAll_of_not_nodup noNames notFresh
  rw [sameNames] at twice
  refine ⟨name, twice, ?_⟩
  rw [Server.buildRegistry, Server.registerDefinitions]
  generalize Registry.registerAll _ _ = outcome at refused
  obtain ⟨result, registry⟩ := outcome
  obtain rfl : result = .error (.duplicateTool name) := refused
  rfl

theorem nodup_names_of_start {client : Client} {server : Server}
    (started : Server.start client (some catalog) = .ok server) :
    (catalog.tools.map Tool.name).Nodup := by
  by_contra repeated
  obtain ⟨name, -, refused⟩ :=
    buildRegistry_of_not_nodup (Server.toolDefinitions_of_start started) repeated
  rw [Server.buildRegistry_of_start started] at refused
  cases refused

/-- In a server that has started, every definition of the module is registered as its tool was
compiled. -/
theorem exists_registers_of_start {client : Client} {server : Server}
    (compiled : compile description whitelist = .ok catalog)
    (started : Server.start client (some catalog) = .ok server) :
    ∀ definition ∈ server.definitions, ∃ tool ∈ catalog.tools,
      Registers tool definition.registered := by
  have loaded := Server.toolDefinitions_of_start started
  have distinct := nodup_names_of_start started
  intro definition member
  exact exists_of_forall₂_right (forall₂_registers compiled loaded distinct) definition.registered
    (List.mem_map_of_mem member)

/-- Two operations, in another order than in the standard whitelist. -/
def twoShowsDescription : Json :=
  .obj [("paths", .obj [
    ("/tv/{id}", .obj [("get", .obj [("summary", .str "One show")])]),
    ("/tv/trending/{interval}", .obj [("get", .obj [("summary", .str "Many shows")])])])]

end Catalog

end ApiTools
