import ApiTools.Proofs.Catalog.Module

/-!
# What a registry shows

Names, size, look-ups and listings all show the same tools in the same order. Through a session
these are the tools of the module, the server's own one and the ones that were accepted since.
-/

namespace ApiTools

open Binding
open Http

/-! ## Listings -/

namespace ToolListing

/-- The entry describes a tool, where annotations are shown in a certain way. -/
structure Describes {Annotations : Type} (Shown : List (String × Bool) → Annotations → Prop)
    (tool : RegisteredTool) (entry : ToolListing Annotations) : Prop where
  name : entry.name = tool.name
  description : entry.description = tool.description
  inputSchema : entry.inputSchema = tool.arguments.schema
  unannotated : tool.annotations = [] → entry.annotations = none
  annotated : tool.annotations ≠ [] →
    ∃ annotations, Shown tool.annotations annotations ∧ entry.annotations = some annotations

end ToolListing

theorem RegisteredTool.describes_listing (tool : RegisteredTool) :
    ToolListing.Describes Eq tool tool.listing := by
  refine ⟨rfl, rfl, rfl, fun isEmpty => ?_, fun filled => ?_⟩
  · rw [listing, isEmpty]
    rfl
  · refine ⟨tool.annotations, rfl, ?_⟩
    rw [listing, if_neg (by simpa using filled)]

theorem Registry.describes_listTools (registry : Registry) :
    List.Forall₂ (ToolListing.Describes Eq) registry.tools registry.listTools := by
  rw [listTools, List.forall₂_map_right_iff, List.forall₂_same]
  exact fun tool _ => tool.describes_listing

namespace Server

section

variable {Hints : Type} {hintsOf : List (String × Bool) → Except Fault Hints}

theorem served_eq_ok_iff {tool : RegisteredTool} {entry : ToolListing Hints} :
    served hintsOf tool.listing = .ok entry ↔
      ToolListing.Describes (fun annotations hints => hintsOf annotations = .ok hints) tool
        entry := by
  obtain ⟨name, description, inputSchema, annotations⟩ := entry
  by_cases isEmpty : tool.annotations = []
  · have unannotated : tool.listing.annotations = none := tool.describes_listing.unannotated isEmpty
    rw [served, unannotated]
    simp only [pure_eq_ok, ok_bind, Except.ok.injEq, ToolListing.mk.injEq]
    constructor
    · rintro ⟨sameName, sameDescription, sameSchema, none⟩
      exact ⟨sameName.symm, sameDescription.symm, sameSchema.symm, fun _ => none.symm,
        fun filled => absurd isEmpty filled⟩
    · intro describes
      exact ⟨describes.name.symm, describes.description.symm, describes.inputSchema.symm,
        (describes.unannotated isEmpty).symm⟩
  · obtain ⟨_, rfl, annotated⟩ := tool.describes_listing.annotated isEmpty
    rw [served, annotated]
    dsimp only
    rw [if_neg (by simpa using isEmpty)]
    simp only [pure_eq_ok, bind_eq_ok_iff, map_eq_ok_iff, Except.ok.injEq, ToolListing.mk.injEq]
    constructor
    · rintro ⟨_, ⟨hints, made, rfl⟩, sameName, sameDescription, sameSchema, shown⟩
      exact ⟨sameName.symm, sameDescription.symm, sameSchema.symm,
        fun noAnnotations => absurd noAnnotations isEmpty, fun _ => ⟨hints, made, shown.symm⟩⟩
    · intro describes
      obtain ⟨hints, made, shown⟩ := describes.annotated isEmpty
      exact ⟨_, ⟨hints, made, rfl⟩, describes.name.symm, describes.description.symm,
        describes.inputSchema.symm, shown.symm⟩

/-- A listing that clients get has one entry for each tool. -/
theorem listTools_eq_ok_iff {registry : Registry} {entries : List (ToolListing Hints)} :
    listTools hintsOf registry = .ok entries ↔
      List.Forall₂ (ToolListing.Describes fun annotations hints => hintsOf annotations = .ok hints)
        registry.tools entries := by
  rw [listTools, mapM_eq_ok_iff, Registry.listTools, List.forall₂_map_left_iff]
  constructor
  · exact fun each => each.imp fun tool entry done => served_eq_ok_iff.1 done
  · exact fun each => each.imp fun tool entry describes => served_eq_ok_iff.2 describes

/-- Clients get a listing unless the annotations of some tool are refused. -/
theorem exists_listTools_iff {registry : Registry} :
    (∃ entries, listTools hintsOf registry = .ok entries) ↔
      ∀ tool ∈ registry.tools, tool.annotations ≠ [] →
        ∃ hints, hintsOf tool.annotations = .ok hints := by
  constructor
  · rintro ⟨entries, listed⟩ tool member filled
    obtain ⟨entry, -, describes⟩ :=
      exists_of_forall₂_right (listTools_eq_ok_iff.1 listed).flip tool member
    obtain ⟨hints, made, -⟩ := describes.annotated filled
    exact ⟨hints, made⟩
  · intro accepted
    have each : ∀ tool ∈ registry.tools, ∃ entry,
        ToolListing.Describes (fun annotations hints => hintsOf annotations = .ok hints) tool
          entry := by
      intro tool member
      by_cases isEmpty : tool.annotations = []
      · exact ⟨⟨tool.name, tool.description, tool.arguments.schema, none⟩, rfl, rfl, rfl,
          fun _ => rfl, fun filled => absurd isEmpty filled⟩
      · obtain ⟨hints, made⟩ := accepted tool member isEmpty
        exact ⟨⟨tool.name, tool.description, tool.arguments.schema, some hints⟩, rfl, rfl, rfl,
          fun noAnnotations => absurd noAnnotations isEmpty, fun _ => ⟨hints, made, rfl⟩⟩
    obtain ⟨entries, describe⟩ := exists_forall₂_of_forall_mem each
    exact ⟨entries, listTools_eq_ok_iff.2 describe⟩

end

end Server

/-! ## Views -/

namespace Registry

/-- Every view of a registry shows the given tools, in their order. -/
structure Shows (registry : Registry) (tools : List RegisteredTool) : Prop where
  names : registry.names = tools.map RegisteredTool.name
  distinct : registry.names.Nodup
  size : registry.size = tools.length
  contains : ∀ name, registry.contains name = true ↔ ∃ tool ∈ tools, tool.name = name
  get : ∀ name tool, registry.get name = .ok tool ↔ tool ∈ tools ∧ tool.name = name
  get_absent : ∀ name, (∀ tool ∈ tools, tool.name ≠ name) → registry.get name = .error .absentKey
  listed : List.Forall₂ (ToolListing.Describes Eq) tools registry.listTools
  served : ∀ {Hints : Type} (hintsOf : List (String × Bool) → Except Fault Hints) entries,
    Server.listTools hintsOf registry = .ok entries ↔
      List.Forall₂ (ToolListing.Describes fun annotations hints => hintsOf annotations = .ok hints)
        tools entries
  servable : ∀ {Hints : Type} (hintsOf : List (String × Bool) → Except Fault Hints),
    (∃ entries, Server.listTools hintsOf registry = .ok entries) ↔
      ∀ tool ∈ tools, tool.annotations ≠ [] → ∃ hints, hintsOf tool.annotations = .ok hints

theorem get_eq_ok_iff {registry : Registry} {name : String} {tool : RegisteredTool} :
    registry.get name = .ok tool ↔ registry.get? name = some tool := by
  rw [get]
  cases registry.get? name <;> simp

theorem get?_of_mem {registry : Registry} (distinct : registry.names.Nodup)
    {tool : RegisteredTool} (member : tool ∈ registry.tools) :
    registry.get? tool.name = some tool := by
  obtain ⟨other, found⟩ := exists_get?_of_mem_names (List.mem_map_of_mem member)
  obtain ⟨isListed, sameName⟩ := get?_eq_some found
  rwa [List.inj_on_of_nodup_map distinct isListed member sameName] at found

theorem shows_of_nodup {registry : Registry} (distinct : registry.names.Nodup) :
    registry.Shows registry.tools where
  names := rfl
  distinct := distinct
  size := rfl
  contains name := by rw [contains_eq_true_iff, names, List.mem_map]
  get name tool := by
    rw [get_eq_ok_iff]
    constructor
    · exact get?_eq_some
    · rintro ⟨member, rfl⟩
      exact get?_of_mem distinct member
  get_absent name absent := by
    cases found : registry.get? name with
    | none => rw [get, found]
    | some tool =>
        obtain ⟨member, isNamed⟩ := get?_eq_some found
        exact absurd isNamed (absent tool member)
  listed := registry.describes_listTools
  served _ _ := Server.listTools_eq_ok_iff
  servable _ := Server.exists_listTools_iff

end Registry

/-! ## Steps -/

namespace Session

/-- The tools that a step with its result has added. -/
def added : Step → Except Fault Result → List RegisteredTool
  | .register tool, .ok _ => [tool]
  | _, _ => []

/-- The tools that have been accepted in steps with their results. -/
def accepted (steps : List Step) (results : List (Except Fault Result)) : List RegisteredTool :=
  (List.zipWith added steps results).flatten

/-- Names are distinct, and the tools of the module are registered. -/
structure IsSound (session : Session) : Prop where
  distinct : session.server.registry.names.Nodup
  registered : ∀ definition ∈ session.server.definitions,
    definition.registered.name ∈ session.server.registry.names

theorem step_register_of_mem {session : Session} {tool : RegisteredTool}
    (present : tool.name ∈ session.server.registry.names) :
    session.step (.register tool) = (.error (.duplicateTool tool.name), session) := by
  rw [step, Registry.register_of_mem present]

theorem step_register_of_not_mem {session : Session} {tool : RegisteredTool}
    (fresh : tool.name ∉ session.server.registry.names) :
    session.step (.register tool) =
      (.ok .done, session.withRegistry ⟨session.server.registry.tools ++ [tool]⟩) := by
  rw [step, Registry.register_of_not_mem fresh]

/-- The first tool of the module is refused, and no other one is tried. -/
theorem step_registerDefinitions {session : Session} (sound : session.IsSound) :
    (session.step .registerDefinitions).2 = session := by
  have sameRegistry : (Server.registerDefinitions session.server.definitions
      session.server.registry).2 = session.server.registry := by
    cases listed : session.server.definitions with
    | nil => rfl
    | cons first rest =>
        have present := sound.registered first (by rw [listed]; exact List.mem_cons_self)
        rw [Server.registerDefinitions, List.map_cons, Registry.registerAll_cons_of_mem present]
  change session.withRegistry (Server.registerDefinitions session.server.definitions
    session.server.registry).2 = session
  rw [sameRegistry]
  rfl

/-- Only a registration that is accepted changes the registry, and it adds one tool at the end. -/
theorem tools_step {session : Session} (sound : session.IsSound) (step : Step) :
    (session.step step).2.server.registry.tools =
      session.server.registry.tools ++ added step (session.step step).1 := by
  cases step with
  | register tool =>
      by_cases present : tool.name ∈ session.server.registry.names
      · rw [step_register_of_mem present]
        exact (List.append_nil _).symm
      · rw [step_register_of_not_mem present]
        rfl
  | registerDefinitions =>
      rw [step_registerDefinitions sound]
      exact (List.append_nil _).symm
  | call name arguments => exact (List.append_nil _).symm
  | read uri => exact (List.append_nil _).symm
  | setToken token => exact (List.append_nil _).symm
  | addReplies replies => exact (List.append_nil _).symm

theorem isSound_step {session : Session} (sound : session.IsSound) (step : Step) :
    (session.step step).2.IsSound := by
  cases step with
  | register tool =>
      by_cases present : tool.name ∈ session.server.registry.names
      · rw [step_register_of_mem present]
        exact sound
      · rw [step_register_of_not_mem present]
        have names : (⟨session.server.registry.tools ++ [tool]⟩ : Registry).names =
            session.server.registry.names ++ [tool.name] := Registry.names_append _ _
        refine ⟨?_, fun definition member => ?_⟩
        · change (⟨session.server.registry.tools ++ [tool]⟩ : Registry).names.Nodup
          rw [names]
          exact List.nodup_append_comm.1 (List.nodup_cons.2 ⟨present, sound.distinct⟩)
        · change _ ∈ (⟨session.server.registry.tools ++ [tool]⟩ : Registry).names
          rw [names]
          exact List.mem_append_left _ (sound.registered definition member)
  | registerDefinitions =>
      rw [step_registerDefinitions sound]
      exact sound
  | call name arguments => exact ⟨sound.distinct, sound.registered⟩
  | read uri => exact ⟨sound.distinct, sound.registered⟩
  | setToken token => exact ⟨sound.distinct, sound.registered⟩
  | addReplies replies => exact ⟨sound.distinct, sound.registered⟩

/-- Through a run the registry gains the tools that are accepted, in their order. -/
theorem tools_run (steps : List Step) :
    ∀ {session : Session}, session.IsSound →
      (session.run steps).2.IsSound ∧
        (session.run steps).2.server.registry.tools =
          session.server.registry.tools ++ accepted steps (session.run steps).1 := by
  -- over the steps, for all sound sessions: a step leaves a sound one to the rest of the run
  induction steps with
  | nil =>
      intro session sound
      exact ⟨sound, (List.append_nil _).symm⟩
  | cons step rest inductionHypothesis =>
      intro session sound
      obtain ⟨lastSound, restTools⟩ := inductionHypothesis (isSound_step sound step)
      refine ⟨lastSound, ?_⟩
      calc
        ((session.step step).2.run rest).2.server.registry.tools =
            (session.step step).2.server.registry.tools ++
              accepted rest ((session.step step).2.run rest).1 := restTools
        _ = session.server.registry.tools ++ (added step (session.step step).1 ++
              accepted rest ((session.step step).2.run rest).1) := by
          rw [tools_step sound, List.append_assoc]

end Session

/-! ## Sessions -/

section

variable {description : Json} {whitelist : List WhitelistEntry} {catalog : Catalog}
  {client : Client} {server : Server}

namespace Server

theorem tools_of_start (compiled : Catalog.compile description whitelist = .ok catalog)
    (started : start client (some catalog) = .ok server) :
    server.registry.tools = server.definitions.map ToolDefinition.registered ++ [ownStatistics] := by
  have built := Catalog.buildRegistry_of_nodup compiled (toolDefinitions_of_start started)
    (Catalog.nodup_names_of_start started)
  rw [buildRegistry_of_start started] at built
  rw [Except.ok.inj built]

theorem names_of_start (compiled : Catalog.compile description whitelist = .ok catalog)
    (started : start client (some catalog) = .ok server) :
    server.registry.names = catalog.tools.map Tool.name ++ [ownStatistics.name] := by
  rw [Registry.names, tools_of_start compiled started, List.map_append, List.map_map]
  exact congrArg (· ++ [ownStatistics.name])
    (Catalog.names_of_toolDefinitions (toolDefinitions_of_start started))

theorem isSound_of_start (compiled : Catalog.compile description whitelist = .ok catalog)
    (started : start client (some catalog) = .ok server) (token : Option String) (wire : Wire) :
    (⟨server, token, wire⟩ : Session).IsSound := by
  refine ⟨?_, fun definition member => ?_⟩
  · change server.registry.names.Nodup
    have ownFresh : ownStatistics.name ∉ catalog.tools.map Tool.name := by
      intro listed
      obtain ⟨tool, toolMember, isOwn⟩ := List.mem_map.1 listed
      obtain ⟨path, named⟩ := Catalog.named_of_mem_tools compiled toolMember
      exact ToolName.ne_ownStatistics_of_ofPath named isOwn
    rw [names_of_start compiled started]
    exact List.nodup_append_comm.1
      (List.nodup_cons.2 ⟨ownFresh, Catalog.nodup_names_of_start started⟩)
  · have found := get?_of_mem_definitions started definition member
    exact Registry.contains_eq_true_iff.1 (Option.isSome_of_eq_some found)

end Server

namespace Session

end Session

end

/-! ## A session with a refused registration -/

namespace Session

/-- A tool that answers without asking the service. -/
def greeting : RegisteredTool :=
  { name := "greeting"
    description := "Says hello"
    arguments := .empty "NoArguments"
    annotations := [("readOnlyHint", true)]
    action := .custom fun _ => .ok (.one "hello") }

/-- Registrations of which only the first is accepted, with a call between them. -/
def greetingSteps : List Step :=
  [.register greeting, .call "greeting" (.obj []), .registerDefinitions,
    .register { greeting with description := "Says goodbye" },
    .register { greeting with name := "simkl_my_stats" }]

/-- Of these registrations the first one is accepted. -/
theorem accepted_greetingSteps {results : List (Except Fault Result)}
    (succeed : results.map Except.isOk = [true, true, false, false, false]) :
    accepted greetingSteps results = [greeting] := by
  obtain _ | ⟨first, _ | ⟨second, _ | ⟨third, _ | ⟨fourth, _ | ⟨fifth, rest⟩⟩⟩⟩⟩ := results
  all_goals
    simp only [List.map_nil, List.map_cons, List.cons.injEq, reduceCtorEq, and_false] at succeed
  obtain ⟨isFirst, -, -, isFourth, isFifth, isLast⟩ := succeed
  cases first with
  | error fault => cases isFirst
  | ok value =>
      cases fourth with
      | ok value => cases isFourth
      | error fault =>
          cases fifth with
          | ok value => cases isFifth
          | error fault => rfl

end Session

end ApiTools
