import ApiTools.Fault
import ApiTools.Http.Message

/-!
# The wire

The connection to the service as a value: the requests sent so far and the replies that are still to
come. An activity that uses the wire takes it in one state and leaves it in another, also when it
stops with a fault.
-/

namespace ApiTools.Http

/-- The state of the connection. -/
structure Wire where
  /-- The replies to the next requests, first one first. -/
  replies : List Reply
  /-- The requests sent so far, in order. -/
  sent : List Request
  deriving DecidableEq

/-- An activity that may send requests. -/
def Talk (α : Type) : Type :=
  Wire → Except Fault α × Wire

namespace Talk

variable {α β : Type}

/-- The activity that sends nothing and has the given outcome. -/
def ofResult (result : Except Fault α) : Talk α :=
  fun wire => (result, wire)

/-- An activity followed by another one, unless the first stops with a fault. -/
def andThen (first : Talk α) (next : α → Talk β) : Talk β := fun wire =>
  match first wire with
  | (.ok value, after) => next value after
  | (.error fault, after) => (.error fault, after)

instance : Monad Talk where
  pure value := ofResult (.ok value)
  bind := andThen

/-- Sends a request and takes the next reply. Once no reply is left the connection fails. -/
def exchange (request : Request) : Talk Reply := fun wire =>
  match wire.replies with
  | [] => (.ok (.failure "no response left"), ⟨[], wire.sent ++ [request]⟩)
  | reply :: rest => (.ok reply, ⟨rest, wire.sent ++ [request]⟩)

/-! ## What becomes of the wire -/

@[simp] theorem ofResult_apply (result : Except Fault α) (wire : Wire) :
    ofResult result wire = (result, wire) := rfl

@[simp] theorem pure_apply (value : α) (wire : Wire) :
    (pure value : Talk α) wire = (.ok value, wire) := rfl

theorem bind_apply (first : Talk α) (next : α → Talk β) (wire : Wire) :
    (first >>= next) wire =
      match first wire with
      | (.ok value, after) => next value after
      | (.error fault, after) => (.error fault, after) := rfl

theorem exchange_nil (request : Request) (sent : List Request) :
    exchange request ⟨[], sent⟩ = (.ok (.failure "no response left"), ⟨[], sent ++ [request]⟩) :=
  rfl

theorem exchange_cons (request : Request) (reply : Reply) (rest : List Reply)
    (sent : List Request) :
    exchange request ⟨reply :: rest, sent⟩ = (.ok reply, ⟨rest, sent ++ [request]⟩) := rfl

end Talk

end ApiTools.Http
