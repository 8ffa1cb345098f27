import ApiTools.Proofs.Catalog
import ApiTools.Server

/-!
# What a session keeps

Tools are only ever added to a registry, and only under new names. So through a whole session the
client stays the same, and every name that belongs to a tool belongs to that tool for good.
-/

namespace ApiTools

open ApiTools.Http

namespace Registry

/-- Every tool of the first registry has its name in the second one. -/
def IsPartOf (first second : Registry) : Prop :=
  ∀ name tool, first.get? name = some tool → second.get? name = some tool

theorem isPartOf_refl (registry : Registry) : registry.IsPartOf registry :=
  fun _ _ found => found

theorem isPartOf_trans {first second third : Registry} (start : first.IsPartOf second)
    (next : second.IsPartOf third) : first.IsPartOf third :=
  fun name tool found => next name tool (start name tool found)

theorem isPartOf_register {registry extended : Registry} {tool : RegisteredTool}
    (done : registry.register tool = .ok extended) : registry.IsPartOf extended := by
  unfold register at done
  split at done
  · cases done
  · intro name other found
    rw [← Except.ok.inj done, get?, List.find?_append]
    rw [get?] at found
    rw [found, Option.some_or]

theorem isPartOf_registerAll {tools : List RegisteredTool} :
    ∀ registry : Registry, registry.IsPartOf (registry.registerAll tools).2 := by
  induction tools with
  | nil => exact isPartOf_refl
  | cons tool rest inductionHypothesis =>
      intro registry
      cases done : registry.register tool with
      | error fault =>
          rw [registerAll, done]
          exact isPartOf_refl registry
      | ok extended =>
          rw [registerAll, done]
          exact isPartOf_trans (isPartOf_register done) (inductionHypothesis extended)

theorem get?_of_register {registry extended : Registry} {tool : RegisteredTool}
    (done : registry.register tool = .ok extended) : extended.get? tool.name = some tool := by
  unfold register at done
  split at done
  · cases done
  · next fresh =>
      have noneBefore : registry.tools.find? (fun other => other.name = tool.name) = none := by
        simpa [contains, get?] using fresh
      rw [← Except.ok.inj done, get?, List.find?_append, noneBefore, Option.none_or]
      simp

/-- Where no tool is refused, each has its name afterwards. -/
theorem get?_of_registerAll {tools : List RegisteredTool} :
    ∀ registry : Registry, (registry.registerAll tools).1 = .ok () →
      ∀ tool ∈ tools, (registry.registerAll tools).2.get? tool.name = some tool := by
  induction tools with
  | nil => simp
  | cons first rest inductionHypothesis =>
      intro registry accepted
      cases done : registry.register first with
      | error fault =>
          rw [registerAll, done] at accepted
          cases accepted
      | ok extended =>
          rw [registerAll, done] at accepted ⊢
          refine List.forall_mem_cons.2 ⟨?_, inductionHypothesis extended accepted⟩
          exact isPartOf_registerAll extended first.name first (get?_of_register done)

theorem mem_tools_of_register {registry extended : Registry} {tool other : RegisteredTool}
    (done : registry.register tool = .ok extended) (member : other ∈ extended.tools) :
    other ∈ registry.tools ∨ other = tool := by
  unfold register at done
  split at done
  · cases done
  · rwa [← Except.ok.inj done, List.mem_append, List.mem_singleton] at member

theorem mem_tools_of_registerAll {tools : List RegisteredTool} {tool : RegisteredTool} :
    ∀ registry : Registry, tool ∈ (registry.registerAll tools).2.tools →
      tool ∈ registry.tools ∨ tool ∈ tools := by
  induction tools with
  | nil => exact fun _ member => Or.inl member
  | cons first rest inductionHypothesis =>
      intro registry member
      cases done : registry.register first with
      | error fault =>
          rw [registerAll, done] at member
          exact Or.inl member
      | ok extended =>
          rw [registerAll, done] at member
          rcases inductionHypothesis extended member with before | later
          · rcases mem_tools_of_register done before with inRegistry | rfl
            · exact Or.inl inRegistry
            · exact Or.inr List.mem_cons_self
          · exact Or.inr (List.mem_cons_of_mem first later)

theorem get?_eq_some {registry : Registry} {name : String} {tool : RegisteredTool}
    (found : registry.get? name = some tool) : tool ∈ registry.tools ∧ tool.name = name :=
  ⟨List.mem_of_find?_eq_some found, by simpa using List.find?_some found⟩

theorem exists_get?_of_mem_names {registry : Registry} {name : String}
    (member : name ∈ registry.names) : ∃ tool, registry.get? name = some tool :=
  Option.isSome_iff_exists.1 (contains_eq_true_iff.2 member)

end Registry

namespace Server

/-- The tools of a server are those of its module and its own one. -/
theorem mem_tools_of_start {client : Client} {catalog : Option Catalog} {server : Server}
    (started : start client catalog = .ok server) :
    server.client = client ∧ ∀ tool ∈ server.registry.tools,
      (∃ definition ∈ server.definitions, tool = definition.registered) ∨ tool = ownStatistics := by
  cases catalog with
  | none => cases started
  | some catalog =>
      simp only [start, Binding.bind_eq_ok_iff, Binding.pure_eq_ok, Except.ok.injEq] at started
      obtain ⟨definitions, -, registry, built, rfl⟩ := started
      refine ⟨rfl, fun tool member => ?_⟩
      unfold buildRegistry registerDefinitions at built
      split at built
      · next before registered =>
          rcases Registry.mem_tools_of_register built member with inModule | isOwn
          · have added : tool ∈ (Registry.empty.registerAll
                (definitions.map ToolDefinition.registered)).2.tools := by
              rw [registered]
              exact inModule
            have fromModule := Registry.mem_tools_of_registerAll .empty added
            rcases fromModule with impossible | listed
            · cases impossible
            · obtain ⟨definition, definitionMember, rfl⟩ := List.mem_map.1 listed
              exact Or.inl ⟨definition, definitionMember, rfl⟩
          · exact Or.inr isOwn
      · cases built

/-- The module of a server is that of its catalog. -/
theorem toolDefinitions_of_start {client : Client} {catalog : Catalog} {server : Server}
    (started : start client (some catalog) = .ok server) :
    catalog.toolDefinitions = .ok server.definitions := by
  simp only [start, Binding.bind_eq_ok_iff, Binding.pure_eq_ok, Except.ok.injEq] at started
  obtain ⟨definitions, defined, registry, -, rfl⟩ := started
  exact defined

/-- The tools of a server's module are compiled from entries of the whitelist. -/
theorem exists_compileEntry_of_mem_definitions {description : Json}
    {whitelist : List WhitelistEntry} {catalog : Catalog} {client : Client} {server : Server}
    (compiled : Catalog.compile description whitelist = .ok catalog)
    (started : start client (some catalog) = .ok server) :
    ∀ definition ∈ server.definitions, ∃ entry ∈ whitelist, ∃ tool warnings models,
      Catalog.compileEntry description entry = .ok (some tool, warnings) ∧
        definition = catalog.definition models tool := by
  have defined := toolDefinitions_of_start started
  simp only [Catalog.toolDefinitions, Binding.bind_eq_ok_iff, Binding.pure_eq_ok, Except.ok.injEq]
    at defined
  obtain ⟨_, -, _, -, models, -, isMap⟩ := defined
  rw [← isMap]
  intro definition member
  obtain ⟨tool, toolMember, rfl⟩ := List.mem_map.1 member
  obtain ⟨entry, listed, warnings, done⟩ :=
    Catalog.exists_compileEntry_of_mem compiled tool toolMember
  exact ⟨entry, listed, tool, warnings, models, done, rfl⟩

theorem exists_compiles_of_mem_definitions {description : Json} {whitelist : List WhitelistEntry}
    {catalog : Catalog} {client : Client} {server : Server}
    (compiled : Catalog.compile description whitelist = .ok catalog)
    (started : start client (some catalog) = .ok server) :
    ∀ definition ∈ server.definitions, ∃ entry tool operation parameters set,
      Catalog.Compiles description entry tool operation parameters set ∧
        definition.handler.path = entry.path ∧
        definition.handler.queryKeys = tool.handler.queryKeys := by
  intro definition member
  obtain ⟨entry, -, tool, warnings, models, done, rfl⟩ :=
    exists_compileEntry_of_mem_definitions compiled started definition member
  obtain ⟨operation, parameters, set, compiles⟩ := Catalog.compiles_of_compileEntry done
  exact ⟨entry, tool, operation, parameters, set, compiles, compiles.handler_path, rfl⟩

/-- The tools of a server's module have their names in its registry. -/
theorem get?_of_mem_definitions {client : Client} {catalog : Option Catalog} {server : Server}
    (started : start client catalog = .ok server) :
    ∀ definition ∈ server.definitions,
      server.registry.get? definition.name = some definition.registered := by
  cases catalog with
  | none => cases started
  | some catalog =>
      simp only [start, Binding.bind_eq_ok_iff, Binding.pure_eq_ok, Except.ok.injEq] at started
      obtain ⟨definitions, -, registry, built, rfl⟩ := started
      intro definition member
      unfold buildRegistry registerDefinitions at built
      split at built
      · next before registered =>
          have accepted : (Registry.empty.registerAll
              (definitions.map ToolDefinition.registered)).1 = .ok () := by rw [registered]
          have inModule := Registry.get?_of_registerAll .empty accepted definition.registered
            (List.mem_map.2 ⟨definition, member, rfl⟩)
          rw [registered] at inModule
          exact Registry.isPartOf_register built definition.name definition.registered inModule
      · cases built

end Server

namespace Session

/-- What one session has in common with a later one. -/
structure IsBefore (first second : Session) : Prop where
  client : second.server.client = first.server.client
  definitions : second.server.definitions = first.server.definitions
  registry : first.server.registry.IsPartOf second.server.registry

theorem isBefore_refl (session : Session) : session.IsBefore session :=
  ⟨rfl, rfl, Registry.isPartOf_refl _⟩

theorem isBefore_trans {first second third : Session} (start : first.IsBefore second)
    (next : second.IsBefore third) : first.IsBefore third :=
  ⟨next.client.trans start.client, next.definitions.trans start.definitions,
    Registry.isPartOf_trans start.registry next.registry⟩

theorem isBefore_step (session : Session) (step : Step) :
    session.IsBefore (session.step step).2 := by
  cases step with
  | register tool =>
      cases done : session.server.registry.register tool with
      | error fault =>
          rw [Session.step, done]
          exact isBefore_refl session
      | ok extended =>
          rw [Session.step, done]
          exact ⟨rfl, rfl, Registry.isPartOf_register done⟩
  | registerDefinitions => exact ⟨rfl, rfl, Registry.isPartOf_registerAll _⟩
  | call name arguments => exact ⟨rfl, rfl, Registry.isPartOf_refl _⟩
  | read uri => exact ⟨rfl, rfl, Registry.isPartOf_refl _⟩
  | setToken token => exact ⟨rfl, rfl, Registry.isPartOf_refl _⟩
  | addReplies replies => exact ⟨rfl, rfl, Registry.isPartOf_refl _⟩

/-- A session keeps its client and its tools through all steps. -/
theorem isBefore_run (steps : List Step) :
    ∀ session : Session, session.IsBefore (session.run steps).2 := by
  induction steps with
  | nil => exact isBefore_refl
  | cons step rest inductionHypothesis =>
      intro session
      exact isBefore_trans (isBefore_step session step) (inductionHypothesis (session.step step).2)

end Session

end ApiTools
