/-!
# Keyed lists

Pairs of a key and a value, in the order in which the keys were first given. Giving a key again
changes its value and not its place. Objects, flattening maps and the tool registry are keyed lists.
-/

namespace ApiTools.Keyed

variable {κ : Type} [DecidableEq κ] {α : Type}

/-- The value at a key. -/
def get? (key : κ) : List (κ × α) → Option α
  | [] => none
  | (other, value) :: rest => if other = key then some value else get? key rest

/-- Gives a key a value: at its old place, else at the end. -/
def put (key : κ) (value : α) : List (κ × α) → List (κ × α)
  | [] => [(key, value)]
  | (other, old) :: rest =>
    if other = key then (key, value) :: rest else (other, old) :: put key value rest

/-- The keyed list that results from giving the pairs one after another. -/
def ofPairs (pairs : List (κ × α)) : List (κ × α) :=
  pairs.foldl (fun done pair => put pair.1 pair.2 done) []

/-- The keys, in order. -/
def keys (pairs : List (κ × α)) : List κ :=
  pairs.map Prod.fst

@[simp] theorem get?_nil (key : κ) : get? key ([] : List (κ × α)) = none := rfl

@[simp] theorem get?_put_self (key : κ) (value : α) (pairs : List (κ × α)) :
    get? key (put key value pairs) = some value := by
  induction pairs with
  | nil => simp [put, get?]
  | cons pair rest hypothesis =>
      by_cases same : pair.1 = key <;> simp [put, get?, same, hypothesis]

theorem get?_put_of_ne {key other : κ} (different : other ≠ key) (value : α)
    (pairs : List (κ × α)) : get? other (put key value pairs) = get? other pairs := by
  induction pairs with
  | nil => simp [put, get?, different.symm]
  | cons pair rest hypothesis =>
      by_cases same : pair.1 = key
      · subst same
        simp [put, get?, different.symm]
      · simp [put, get?, same, hypothesis]

theorem keys_put (key : κ) (value : α) (pairs : List (κ × α)) :
    keys (put key value pairs) =
      if key ∈ keys pairs then keys pairs else keys pairs ++ [key] := by
  induction pairs with
  | nil => simp [put, keys]
  | cons pair rest hypothesis =>
      by_cases same : pair.1 = key
      · subst same
        simp [put, keys]
      · simp only [keys, List.map_cons] at hypothesis ⊢
        rw [put, if_neg same, List.map_cons, hypothesis]
        by_cases present : key ∈ List.map Prod.fst rest <;>
          simp [present, Ne.symm same]

end ApiTools.Keyed
