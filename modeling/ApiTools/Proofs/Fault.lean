import ApiTools.Fault
import ApiTools.Proofs.Binding

/-!
# Faults that are reported

A call of a tool reports two kinds of faults to its caller. The others go on and end the call
without a result.
-/

namespace ApiTools

open ApiTools.Binding

/-- A fault that the caller of a tool is told. -/
def Fault.isReported : Fault → Bool
  | .missingPathValue _ | .api _ => true
  | _ => false

variable {α β : Type}

/-- A result, or a fault that the caller of a tool is told. -/
def isReported : Except Fault α → Bool
  | .ok _ => true
  | .error fault => fault.isReported

/-- A computation that stops only with faults that no one is told. -/
def IsSilent (result : Except Fault α) : Prop :=
  ∀ fault, result = .error fault → fault.isReported = false

theorem isSilent_ok (value : α) : IsSilent (.ok value) := by
  intro fault stopped
  cases stopped

theorem isSilent_error {fault : Fault} (silent : fault.isReported = false) :
    IsSilent (.error fault : Except Fault α) := by
  intro other stopped
  rw [← Except.error.inj stopped, silent]

theorem isSilent_bind {first : Except Fault α} {next : α → Except Fault β}
    (firstSilent : IsSilent first) (nextSilent : ∀ value, IsSilent (next value)) :
    IsSilent (first >>= next) := by
  intro fault stopped
  rcases bind_eq_error_iff.1 stopped with atFirst | ⟨value, -, atNext⟩
  · exact firstSilent fault atFirst
  · exact nextSilent value fault atNext

theorem isSilent_mapM {step : α → Except Fault β} (silent : ∀ item, IsSilent (step item))
    (items : List α) : IsSilent (items.mapM step) := by
  intro fault stopped
  obtain ⟨item, -, atItem⟩ := mapM_eq_error stopped
  exact silent item fault atItem

theorem isReported_eq_isOk {first : Except Fault α} (silent : IsSilent first) :
    isReported first = first.isOk := by
  cases first with
  | ok value => rfl
  | error fault => exact silent fault rfl

/-- Where what comes first stops with faults that no one is told. -/
theorem isReported_bind {first : Except Fault α} {next : α → Except Fault β} (after : Bool)
    (silent : IsSilent first)
    (follows : ∀ value, first = .ok value → isReported (next value) = after) :
    isReported (first >>= next) = (first.isOk && after) := by
  cases first with
  | ok value => rw [ok_bind, follows value rfl, isOk_ok, Bool.true_and]
  | error fault => rw [error_bind, isReported, silent fault rfl, isOk_error, Bool.false_and]

end ApiTools
