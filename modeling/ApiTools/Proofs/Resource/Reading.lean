import ApiTools.Proofs.Client
import ApiTools.Proofs.Endpoint
import ApiTools.Resource.Reading

/-!
# What the reading of a resource sends

Every page of the user's list is asked for at the same endpoint, and so are the titles that are
watched most. The values of the variables are encoded.
-/

namespace ApiTools.ResourceTemplate

open ApiTools.Http
open Binding

/-- The endpoint of a family of resources for values of its variables. -/
def segments (template : ResourceTemplate) (first second : List Char) : List Segment :=
  match template with
  | .watchlist =>
    [.fixed "sync".toList, .fixed "all-items".toList, .value first, .value second]
  | .trending => [.value first, .fixed "trending".toList, .value second]

theorem segments_ne_nil (template : ResourceTemplate) (first second : List Char) :
    template.segments first second ≠ [] := by
  cases template <;> exact List.cons_ne_nil _ _

theorem isPlain_of_mem_segments (template : ResourceTemplate) (first second : List Char) :
    ∀ segment ∈ template.segments first second,
      segment.isPlain = true ∧ segment.isEncoded = true := by
  cases template with
  | watchlist =>
      simp only [segments, List.forall_mem_cons]
      exact ⟨by decide, by decide, ⟨rfl, rfl⟩, ⟨rfl, rfl⟩, by simp⟩
  | trending =>
      simp only [segments, List.forall_mem_cons]
      exact ⟨⟨rfl, rfl⟩, by decide, ⟨rfl, rfl⟩, by simp⟩

variable {client : Client} {token : Option String}

/-- Reading the pages of a list sends what asking for a page sends. -/
theorem sendsOnly_readPages {Allowed : Request → Prop} {call : Call} {kind : String}
    (pageSends : ∀ page : Int, Talk.SendsOnly Allowed (client.fetch token
      (Client.withQuery call [("page", some page), ("limit", some pageSize)]))) :
    ∀ page pageCount,
      Talk.SendsOnly Allowed (readPages client token call kind page pageCount) := by
  intro page pageCount wire
  induction size : wire.replies.length using Nat.strongRecOn generalizing page pageCount wire with
  | ind size inductionHypothesis =>
      rw [readPages]
      split
      · obtain ⟨sent, added, allowed⟩ := pageSends page wire
        dsimp only
        split
        · next stopped =>
            rw [stopped] at added
            exact ⟨sent, added, allowed⟩
        · next answer after answered =>
            rw [answered] at added
            split
            · exact ⟨sent, added, allowed⟩
            · have shorter := Client.fetch_replies_length answered
              obtain ⟨later, laterAdded, laterAllowed⟩ := inductionHypothesis
                after.replies.length (size ▸ shorter) (page + 1)
                ((answer.pagination.map Pagination.pageCount).getD pageCount) after rfl
              rw [added, List.append_assoc] at laterAdded
              refine ⟨sent ++ later, ?_, List.forall_mem_append.2 ⟨allowed, laterAllowed⟩⟩
              rw [← laterAdded]
              split
              · next failed => rw [failed]
              · next done => rw [done]
      · exact ⟨[], by simp, by simp⟩

/-- The call for a list of the user. -/
theorem watchlistCall_eq_ok {kind status : String} {call : Call}
    (made : watchlistCall kind status = .ok call) :
    call.endpoint.toList = Segment.endpoint (segments .watchlist kind.toList status.toList) ∧
      call.method = "GET" ∧ call.query = [("extended", .str "full")] ∧ call.body = none := by
  simp only [watchlistCall, bind_eq_ok_iff, pure_eq_ok, Except.ok.injEq] at made
  obtain ⟨encodedKind, kindDone, encodedStatus, statusDone, rfl⟩ := made
  refine ⟨?_, rfl, rfl, rfl⟩
  simp [segments, Segment.endpoint, Segment.written, String.toList_append,
    toString, encodePathValue_eq_ok kindDone, encodePathValue_eq_ok statusDone, pathText,
    Json.shown]

/-- Reading a resource sends requests for the endpoint of its family only. -/
theorem sendsOnly_read (template : ResourceTemplate) (uri first second : String) :
    Talk.SendsOnly (client.IsFor (template.segments first.toList second.toList))
      (template.read client token uri first second) := by
  cases template with
  | watchlist =>
      refine Talk.sendsOnly_bind (Talk.sendsOnly_ofResult _) fun call gives => ?_
      have same := (watchlistCall_eq_ok (Talk.eq_ok_of_gives gives)).1
      refine Talk.sendsOnly_bind (sendsOnly_readPages (fun page => ?_) _ _) fun _ _ =>
        Talk.sendsOnly_bind (Talk.sendsOnly_ofResult _) fun _ _ => Talk.sendsOnly_pure _
      exact Client.sendsOnly_fetch_isFor same
  | trending =>
      refine Talk.sendsOnly_bind (Talk.sendsOnly_ofResult _) fun call gives => ?_
      have made := Talk.eq_ok_of_gives gives
      simp only [trendingCall, bind_eq_ok_iff, pure_eq_ok, Except.ok.injEq] at made
      obtain ⟨kind, kindDone, interval, intervalDone, rfl⟩ := made
      refine Talk.sendsOnly_bind (Client.sendsOnly_fetch_isFor ?_) fun _ _ =>
        Talk.sendsOnly_bind (Talk.sendsOnly_ofResult _) fun _ _ =>
          Talk.sendsOnly_bind (Talk.sendsOnly_ofResult _) fun _ _ => Talk.sendsOnly_pure _
      simp [segments, Segment.endpoint, Segment.written, String.toList_append,
        toString, encodePathValue_eq_ok kindDone, encodePathValue_eq_ok intervalDone, pathText,
        Json.shown]

end ApiTools.ResourceTemplate
