import ApiTools.Http.Wire
import ApiTools.Proofs.Binding

/-!
# What an activity sends

An activity only adds to the requests that were sent before it, and each request takes the next
reply. Which requests an activity may add is put together from its parts.
-/

namespace ApiTools.Http

/-! ## The next replies -/

namespace Wire

/-- The reply to the next request. Once no reply is left the connection fails. -/
def next (wire : Wire) : Reply :=
  wire.replies.headD (.failure "no response left")

/-- The wire after a request. -/
def after (wire : Wire) (request : Request) : Wire :=
  ⟨wire.replies.tail, wire.sent ++ [request]⟩

/-- The wire after requests that are sent one after another. -/
def afterAll (wire : Wire) (requests : List Request) : Wire :=
  requests.foldl after wire

/-- Requests that are sent one after another, each with its reply. -/
def exchanges : Wire → List Request → List (Request × Reply)
  | _, [] => []
  | wire, request :: rest => (request, wire.next) :: exchanges (wire.after request) rest

@[simp] theorem afterAll_nil (wire : Wire) : wire.afterAll [] = wire := rfl

@[simp] theorem afterAll_cons (wire : Wire) (request : Request) (rest : List Request) :
    wire.afterAll (request :: rest) = (wire.after request).afterAll rest := rfl

@[simp] theorem exchanges_nil (wire : Wire) : wire.exchanges [] = [] := rfl

@[simp] theorem exchanges_cons (wire : Wire) (request : Request) (rest : List Request) :
    wire.exchanges (request :: rest) =
      (request, wire.next) :: (wire.after request).exchanges rest := rfl

theorem afterAll_append (wire : Wire) (first second : List Request) :
    wire.afterAll (first ++ second) = (wire.afterAll first).afterAll second :=
  List.foldl_append

theorem exchanges_append (first second : List Request) :
    ∀ wire : Wire, wire.exchanges (first ++ second) =
      wire.exchanges first ++ (wire.afterAll first).exchanges second := by
  induction first with
  | nil => exact fun _ => rfl
  | cons request rest inductionHypothesis =>
      intro wire
      rw [List.cons_append, exchanges_cons, inductionHypothesis]
      rfl

@[simp] theorem length_exchanges (requests : List Request) :
    ∀ wire : Wire, (wire.exchanges requests).length = requests.length := by
  induction requests with
  | nil => exact fun _ => rfl
  | cons request rest inductionHypothesis =>
      intro wire
      rw [exchanges_cons, List.length_cons, inductionHypothesis, List.length_cons]

/-- Where no reply is left the connection fails, so every exchange is with one of the replies or
with a failure. -/
theorem reply_of_mem_exchanges (requests : List Request) :
    ∀ wire : Wire, ∀ exchange ∈ wire.exchanges requests,
      exchange.2 ∈ wire.replies ∨ ∃ message, exchange.2 = .failure message := by
  induction requests with
  | nil => exact fun _ => List.forall_mem_nil _
  | cons request rest inductionHypothesis =>
      rintro ⟨replies, sent⟩
      refine List.forall_mem_cons.2 ⟨?_, fun exchange member => ?_⟩
      · cases replies with
        | nil => exact Or.inr ⟨_, rfl⟩
        | cons reply others => exact Or.inl List.mem_cons_self
      · exact (inductionHypothesis _ exchange member).imp_left List.mem_of_mem_tail

end Wire

theorem Talk.exchange_eq (request : Request) (wire : Wire) :
    Talk.exchange request wire = (.ok wire.next, wire.after request) := by
  obtain ⟨replies, sent⟩ := wire
  cases replies with
  | nil => rfl
  | cons reply rest => rfl

/-! ## What is sent -/

namespace Talk

variable {α β : Type}

/-- Whatever the state of the wire, only such requests are sent. -/
def SendsOnly (Allowed : Request → Prop) (activity : Talk α) : Prop :=
  ∀ wire, ∃ sent, (activity wire).2.sent = wire.sent ++ sent ∧ ∀ request ∈ sent, Allowed request

/-- The activity can come to the value. -/
def Gives (activity : Talk α) (value : α) : Prop :=
  ∃ wire after, activity wire = (.ok value, after)

variable {Allowed : Request → Prop}

theorem sendsOnly_ofResult (result : Except Fault α) : SendsOnly Allowed (ofResult result) := by
  intro wire
  exact ⟨[], by simp, by simp⟩

theorem sendsOnly_pure (value : α) : SendsOnly Allowed (pure value : Talk α) :=
  sendsOnly_ofResult (.ok value)

theorem sendsOnly_exchange {request : Request} (allowed : Allowed request) :
    SendsOnly Allowed (exchange request) := by
  rintro ⟨replies, sent⟩
  refine ⟨[request], ?_, by simpa using allowed⟩
  cases replies with
  | nil => rfl
  | cons reply rest => rfl

theorem sendsOnly_bind {first : Talk α} {next : α → Talk β} (firstSends : SendsOnly Allowed first)
    (nextSends : ∀ value, first.Gives value → SendsOnly Allowed (next value)) :
    SendsOnly Allowed (first >>= next) := by
  intro wire
  obtain ⟨firstSent, firstAdded, firstAllowed⟩ := firstSends wire
  rw [bind_apply]
  cases done : first wire with
  | mk result after =>
      rw [done] at firstAdded
      cases result with
      | error fault => exact ⟨firstSent, firstAdded, firstAllowed⟩
      | ok value =>
          obtain ⟨nextSent, nextAdded, nextAllowed⟩ := nextSends value ⟨wire, after, done⟩ after
          refine ⟨firstSent ++ nextSent, ?_, List.forall_mem_append.2 ⟨firstAllowed, nextAllowed⟩⟩
          rw [nextAdded, firstAdded, List.append_assoc]

theorem sendsOnly_mono {Wider : Request → Prop} {activity : Talk α}
    (sends : SendsOnly Allowed activity) (implies : ∀ request, Allowed request → Wider request) :
    SendsOnly Wider activity := by
  intro wire
  obtain ⟨sent, added, allowed⟩ := sends wire
  exact ⟨sent, added, fun request member => implies request (allowed request member)⟩

theorem eq_ok_of_gives {result : Except Fault α} {value : α}
    (gives : (ofResult result).Gives value) : result = .ok value := by
  obtain ⟨wire, after, done⟩ := gives
  exact (Prod.mk.inj done).1

end Talk

end ApiTools.Http
