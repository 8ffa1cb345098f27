import Mathlib.Data.List.Forall2

/-!
# Computations that can stop

A computation either gives a value or stops with a fault. These lemmas take one step of such a
computation apart, so that a proof follows the steps without opening them.
-/

namespace ApiTools.Binding

universe u v w

variable {ε : Type u} {α : Type v} {β : Type v}

theorem bind_eq_ok_iff {first : Except ε α} {next : α → Except ε β} {result : β} :
    (first >>= next) = .ok result ↔ ∃ value, first = .ok value ∧ next value = .ok result := by
  cases first with
  | ok value => simp [bind, Except.bind]
  | error fault => simp [bind, Except.bind]

theorem bind_eq_error_iff {first : Except ε α} {next : α → Except ε β} {fault : ε} :
    (first >>= next) = .error fault ↔
      first = .error fault ∨ ∃ value, first = .ok value ∧ next value = .error fault := by
  cases first with
  | ok value => simp [bind, Except.bind]
  | error other => simp [bind, Except.bind]

@[simp]
theorem pure_eq_ok (value : α) : (pure value : Except ε α) = .ok value := rfl

@[simp]
theorem ok_bind (value : α) (next : α → Except ε β) :
    ((Except.ok value : Except ε α) >>= next) = next value := rfl

@[simp]
theorem error_bind (fault : ε) (next : α → Except ε β) :
    ((Except.error fault : Except ε α) >>= next) = .error fault := rfl

theorem bind_ok_eq_map {first : Except ε α} {change : α → β} :
    (first >>= fun value => .ok (change value)) = first.map change := by
  cases first <;> rfl

/-- Where the same step comes first, only what follows it counts. -/
theorem bind_bind_congr {γ : Type v} {first : Except ε α} {next other : α → Except ε β}
    {after final : β → Except ε γ}
    (same : ∀ value, (next value >>= after) = other value >>= final) :
    (first >>= next) >>= after = (first >>= other) >>= final := by
  rw [bind_assoc, bind_assoc]
  exact bind_congr same

theorem map_eq_ok_iff {first : Except ε α} {change : α → β} {result : β} :
    first.map change = .ok result ↔ ∃ value, first = .ok value ∧ change value = result := by
  cases first with
  | ok value => simp [Except.map]
  | error fault => simp [Except.map]

theorem map_eq_error_iff {first : Except ε α} {change : α → β} {fault : ε} :
    first.map change = .error fault ↔ first = .error fault := by
  cases first with
  | ok value => simp [Except.map]
  | error other => simp [Except.map]

theorem mapError_eq_ok_iff {ε' : Type w} {first : Except ε α} {change : ε → ε'} {result : α} :
    first.mapError change = .ok result ↔ first = .ok result := by
  cases first with
  | ok value => simp [Except.mapError]
  | error fault => simp [Except.mapError]

/-! ## Success -/

@[simp]
theorem isOk_ok (value : α) : (.ok value : Except ε α).isOk = true := rfl

@[simp]
theorem isOk_error (fault : ε) : (.error fault : Except ε α).isOk = false := rfl

theorem exists_eq_ok_of_isOk {result : Except ε α} (succeeds : result.isOk = true) :
    ∃ value, result = .ok value := by
  cases result with
  | ok value => exact ⟨value, rfl⟩
  | error fault => cases succeeds

theorem exists_eq_ok_of_any {result : Except ε α} {Holds : α → Bool}
    (any : result.toOption.any Holds = true) :
    ∃ value, result = .ok value ∧ Holds value = true := by
  cases result with
  | ok value => exact ⟨value, rfl, any⟩
  | error fault => cases any

@[simp]
theorem isOk_bind_pure {first : Except ε α} {change : α → β} :
    (first >>= fun value => pure (change value)).isOk = first.isOk := by
  cases first <;> rfl

/-- Where the success of what follows does not depend on the value before. -/
theorem isOk_bind {first : Except ε α} {next : α → Except ε β} (after : Bool)
    (follows : ∀ value, first = .ok value → (next value).isOk = after) :
    (first >>= next).isOk = (first.isOk && after) := by
  cases first with
  | ok value => rw [ok_bind, follows value rfl, isOk_ok, Bool.true_and]
  | error fault => rfl

theorem isOk_mapM {step : α → Except ε β} {items : List α} :
    (items.mapM step).isOk = items.all fun item => (step item).isOk := by
  induction items with
  | nil => rfl
  | cons item rest inductionHypothesis =>
      rw [List.mapM_cons, List.all_cons, ← inductionHypothesis]
      exact isOk_bind _ fun first _ => isOk_bind_pure

/-! ## Lists -/

/-- Doing a step for every item of a list succeeds when it succeeds for each. -/
theorem mapM_eq_ok_iff {step : α → Except ε β} {items : List α} {results : List β} :
    items.mapM step = .ok results ↔
      List.Forall₂ (fun item result => step item = .ok result) items results := by
  induction items generalizing results with
  | nil => simp [eq_comm]
  | cons item rest inductionHypothesis =>
      simp only [List.mapM_cons, bind_eq_ok_iff, pure_eq_ok, Except.ok.injEq]
      constructor
      · rintro ⟨first, firstDone, others, othersDone, rfl⟩
        exact .cons firstDone (inductionHypothesis.1 othersDone)
      · intro done
        cases done with
        | cons firstDone othersDone =>
            exact ⟨_, firstDone, _, inductionHypothesis.2 othersDone, rfl⟩

/-- Of two lists that are related one by one, every item of the second comes from one of the
first. -/
theorem exists_of_forall₂_right {Related : α → β → Prop} {left : List α} {right : List β}
    (related : List.Forall₂ Related left right) :
    ∀ second ∈ right, ∃ first ∈ left, Related first second := by
  induction related with
  | nil => simp
  | @cons first second _ _ headRelated _ inductionHypothesis =>
      refine List.forall_mem_cons.2 ⟨⟨first, List.mem_cons_self, headRelated⟩, ?_⟩
      intro other member
      obtain ⟨found, foundMember, foundRelated⟩ := inductionHypothesis other member
      exact ⟨found, List.mem_cons_of_mem first foundMember, foundRelated⟩

/-- Lists that are related one by one to the same list are related one by one. -/
theorem forall₂_trans {γ : Type w} {Before : α → β → Prop} {After : β → γ → Prop}
    {Related : α → γ → Prop} {left : List α} {middle : List β} {right : List γ}
    (compose : ∀ first ∈ left, ∀ second third,
      Before first second → After second third → Related first third)
    (before : List.Forall₂ Before left middle) (after : List.Forall₂ After middle right) :
    List.Forall₂ Related left right := by
  induction before generalizing right with
  | nil =>
      cases after
      exact .nil
  | cons headBefore _ inductionHypothesis =>
      rw [List.forall_mem_cons] at compose
      cases after with
      | cons headAfter restAfter =>
          exact .cons (compose.1 _ _ headBefore headAfter)
            (inductionHypothesis compose.2 restAfter)

/-- Where every item of a list is related to something, the list is related to a list. -/
theorem exists_forall₂_of_forall_mem {Related : α → β → Prop} {items : List α}
    (each : ∀ item ∈ items, ∃ other, Related item other) :
    ∃ others, List.Forall₂ Related items others := by
  induction items with
  | nil => exact ⟨[], .nil⟩
  | cons item rest inductionHypothesis =>
      rw [List.forall_mem_cons] at each
      obtain ⟨first, isFirst⟩ := each.1
      obtain ⟨others, areOthers⟩ := inductionHypothesis each.2
      exact ⟨first :: others, .cons isFirst areOthers⟩

theorem mapM_congr {step other : α → Except ε β} {items : List α}
    (same : ∀ item ∈ items, step item = other item) : items.mapM step = items.mapM other := by
  induction items with
  | nil => rfl
  | cons item rest inductionHypothesis =>
      rw [List.forall_mem_cons] at same
      rw [List.mapM_cons, List.mapM_cons, same.1, inductionHypothesis same.2]

/-- Lists of which the steps are the same one by one. -/
theorem mapM_eq_of_forall₂ {γ : Type v} {step : α → Except ε γ} {step' : β → Except ε γ}
    {items : List α} {others : List β}
    (same : List.Forall₂ (fun item other => step item = step' other) items others) :
    items.mapM step = others.mapM step' := by
  induction same with
  | nil => rfl
  | cons first _ inductionHypothesis =>
      rw [List.mapM_cons, List.mapM_cons, first, inductionHypothesis]

theorem foldlM_congr {step other : β → α → Except ε β} {items : List α}
    (same : ∀ item ∈ items, ∀ before, step before item = other before item) :
    ∀ start, items.foldlM step start = items.foldlM other start := by
  induction items with
  | nil => exact fun _ => rfl
  | cons item rest inductionHypothesis =>
      rw [List.forall_mem_cons] at same
      intro start
      rw [List.foldlM_cons, List.foldlM_cons, same.1]
      exact congrArg _ (funext fun middle => inductionHypothesis same.2 middle)

theorem mapM_eq_error {step : α → Except ε β} {items : List α} {fault : ε}
    (stopped : items.mapM step = .error fault) : ∃ item ∈ items, step item = .error fault := by
  induction items with
  | nil => simp at stopped
  | cons item rest inductionHypothesis =>
      simp only [List.mapM_cons, bind_eq_error_iff, pure_eq_ok] at stopped
      rcases stopped with atFirst | ⟨first, -, atOthers | ⟨others, -, impossible⟩⟩
      · exact ⟨item, List.mem_cons_self, atFirst⟩
      · obtain ⟨found, member, faulty⟩ := inductionHypothesis atOthers
        exact ⟨found, List.mem_cons_of_mem item member, faulty⟩
      · cases impossible

theorem foldlM_eq_error {step : β → α → Except ε β} {items : List α} {fault : ε} :
    ∀ {start : β}, items.foldlM step start = .error fault →
      ∃ before, ∃ item ∈ items, step before item = .error fault := by
  induction items with
  | nil => intro start stopped; simp at stopped
  | cons item rest inductionHypothesis =>
      intro start stopped
      simp only [List.foldlM_cons, bind_eq_error_iff] at stopped
      rcases stopped with atFirst | ⟨middle, -, atOthers⟩
      · exact ⟨start, item, List.mem_cons_self, atFirst⟩
      · obtain ⟨before, found, member, faulty⟩ := inductionHypothesis atOthers
        exact ⟨before, found, List.mem_cons_of_mem item member, faulty⟩

end ApiTools.Binding
