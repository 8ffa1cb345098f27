import ApiTools.Proofs.Client
import ApiTools.Proofs.Endpoint
import ApiTools.Registry.Calling

/-!
# What the call of a tool sends

The tool of an operation sends a request for the endpoint of its handler. The tool for the user's
own statistics asks for the settings and then, with the number that it finds there as it is written,
for the statistics.
-/

namespace ApiTools

open ApiTools.Http

namespace Action

/-- The endpoint of the settings. -/
def settingsSegments : List Segment :=
  [.fixed "users".toList, .fixed "settings".toList]

/-- The endpoint of the statistics of the user with a number. -/
def statisticsSegments (id : Json) : List Segment :=
  [.fixed "users".toList, .raw id.toText.toList, .fixed "stats".toList]

variable {client : Client} {token : Option String}

theorem sendsOnly_runOperation {handler : Handler} {arguments : Arguments}
    (segmented : Path.isSegmented (Path.route handler.path.toList) = true) :
    Talk.SendsOnly (client.IsFor (handler.segments arguments))
      (runOperation handler client token arguments) := by
  refine Talk.sendsOnly_bind (Talk.sendsOnly_ofResult _) fun call gives => ?_
  have made := Talk.eq_ok_of_gives gives
  simp only [Handler.call, Binding.bind_eq_ok_iff, Binding.pure_eq_ok, Except.ok.injEq] at made
  obtain ⟨endpoint, endpointDone, query, -, rfl⟩ := made
  refine Talk.sendsOnly_bind ?_ fun _ _ => Talk.sendsOnly_ofResult _
  exact Client.sendsOnly_fetch_isFor (Handler.endpoint_eq_ok segmented endpointDone)

/-- The requests of the tool for the user's own statistics. -/
def IsForOwnStatistics (client : Client) (request : Request) : Prop :=
  client.IsFor settingsSegments request ∨
    ∃ settings id, accountId settings = .ok id ∧ id.isFilled = true ∧
      client.IsFor (statisticsSegments id) request

theorem sendsOnly_runOwnStatistics :
    Talk.SendsOnly (IsForOwnStatistics client) (runOwnStatistics client token) := by
  refine Talk.sendsOnly_bind ?_ fun settings _ => ?_
  · have same : (post "/users/settings").endpoint.toList = Segment.endpoint settingsSegments := rfl
    exact Talk.sendsOnly_mono (Client.sendsOnly_fetch_isFor same) fun _ isFor => Or.inl isFor
  refine Talk.sendsOnly_bind (Talk.sendsOnly_ofResult _) fun id gives => ?_
  have found := Talk.eq_ok_of_gives gives
  split
  · next filled =>
      refine Talk.sendsOnly_bind ?_ fun _ _ => Talk.sendsOnly_pure _
      have same : (post s!"/users/{id.toText}/stats").endpoint.toList =
          Segment.endpoint (statisticsSegments id) := by
        simp [post, statisticsSegments, Segment.endpoint, Segment.written, String.toList_append,
          toString]
      exact Talk.sendsOnly_mono (Client.sendsOnly_fetch_isFor same)
        fun _ isFor => Or.inr ⟨settings.data, id, found, filled, isFor⟩
  · exact Talk.sendsOnly_pure _

end Action

/-- A call sends what the tool's action sends for the checked arguments. -/
theorem RegisteredTool.sendsOnly_call {tool : RegisteredTool} {client : Client}
    {token : Option String} {arguments : Json} {Allowed : Request → Prop}
    (actionSends : ∀ checked,
      tool.arguments.check (arguments.orElse (.obj [])) = .ok checked →
        Talk.SendsOnly Allowed (tool.action.run client token checked)) :
    Talk.SendsOnly Allowed (tool.call client token arguments) := by
  intro wire
  unfold call
  cases accepted : tool.arguments.check (arguments.orElse (.obj [])) with
  | error issues => exact ⟨[], by simp, by simp⟩
  | ok checked => exact actionSends checked accepted wire

end ApiTools
