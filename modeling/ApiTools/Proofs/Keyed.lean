import ApiTools.Keyed
import Mathlib.Data.List.Forall2
import Mathlib.Data.List.Nodup
import Mathlib.Data.List.Perm.Basic

/-!
# Looking up keys

What a keyed list holds at a key after its pairs were given one after another or joined: of several
pairs with one key the last one counts, and every key stands in the list once.
-/

namespace ApiTools.Keyed

variable {κ : Type} {α : Type}

@[simp]
theorem keys_nil : keys ([] : List (κ × α)) = [] := rfl

@[simp]
theorem keys_cons (pair : κ × α) (rest : List (κ × α)) :
    keys (pair :: rest) = pair.1 :: keys rest := rfl

@[simp]
theorem keys_append (first second : List (κ × α)) :
    keys (first ++ second) = keys first ++ keys second := by
  simp [keys]

variable [DecidableEq κ]

theorem get?_cons (key : κ) (pair : κ × α) (rest : List (κ × α)) :
    get? key (pair :: rest) = if pair.1 = key then some pair.2 else get? key rest := rfl

theorem get?_eq_none_iff {key : κ} {pairs : List (κ × α)} :
    get? key pairs = none ↔ key ∉ keys pairs := by
  induction pairs with
  | nil => simp
  | cons pair rest inductionHypothesis =>
      by_cases same : pair.1 = key
      · simp [get?_cons, same]
      · simp [get?_cons, same, inductionHypothesis, Ne.symm same]

theorem get?_isSome_iff {key : κ} {pairs : List (κ × α)} :
    (get? key pairs).isSome = true ↔ key ∈ keys pairs := by
  rw [Option.isSome_iff_ne_none, ne_eq, get?_eq_none_iff, not_not]

theorem mem_of_get? {key : κ} {value : α} {pairs : List (κ × α)}
    (found : get? key pairs = some value) : (key, value) ∈ pairs := by
  induction pairs with
  | nil => simp at found
  | cons pair rest inductionHypothesis =>
      by_cases same : pair.1 = key
      · rw [get?_cons, if_pos same, Option.some.injEq] at found
        exact List.mem_cons.2 (Or.inl (by rw [← same, ← found]))
      · rw [get?_cons, if_neg same] at found
        exact List.mem_cons_of_mem pair (inductionHypothesis found)

theorem get?_of_mem {key : κ} {value : α} {pairs : List (κ × α)}
    (distinct : (keys pairs).Nodup) (member : (key, value) ∈ pairs) :
    get? key pairs = some value := by
  induction pairs with
  | nil => simp at member
  | cons pair rest inductionHypothesis =>
      rw [keys_cons, List.nodup_cons] at distinct
      rcases List.mem_cons.1 member with rfl | inRest
      · rw [get?_cons, if_pos rfl]
      · have different : pair.1 ≠ key := by
          rintro rfl
          exact distinct.1 (List.mem_map.2 ⟨_, inRest, rfl⟩)
        rw [get?_cons, if_neg different]
        exact inductionHypothesis distinct.2 inRest

theorem get?_eq_some_iff {key : κ} {value : α} {pairs : List (κ × α)}
    (distinct : (keys pairs).Nodup) : get? key pairs = some value ↔ (key, value) ∈ pairs :=
  ⟨mem_of_get?, get?_of_mem distinct⟩

theorem get?_append (key : κ) (first second : List (κ × α)) :
    get? key (first ++ second) = (get? key first).or (get? key second) := by
  induction first with
  | nil => simp
  | cons pair rest inductionHypothesis =>
      by_cases same : pair.1 = key
      · simp [get?_cons, same]
      · simp [get?_cons, same, inductionHypothesis]

theorem put_eq_self {key : κ} {value : α} {pairs : List (κ × α)}
    (found : get? key pairs = some value) : put key value pairs = pairs := by
  induction pairs with
  | nil => cases found
  | cons pair rest inductionHypothesis =>
      rw [put]
      by_cases same : pair.1 = key
      · rw [get?_cons, if_pos same, Option.some.injEq] at found
        rw [if_pos same, ← same, ← found]
      · rw [get?_cons, if_neg same] at found
        rw [if_neg same, inductionHypothesis found]

theorem mem_of_mem_put {key : κ} {value : α} {pair : κ × α} {pairs : List (κ × α)}
    (member : pair ∈ put key value pairs) : pair = (key, value) ∨ pair ∈ pairs := by
  induction pairs with
  | nil => exact Or.inl (List.mem_singleton.1 member)
  | cons first rest inductionHypothesis =>
      rw [put] at member
      split at member
      · rcases List.mem_cons.1 member with isNew | inRest
        · exact Or.inl isNew
        · exact Or.inr (List.mem_cons_of_mem first inRest)
      · rcases List.mem_cons.1 member with isFirst | inRest
        · exact Or.inr (isFirst ▸ List.mem_cons_self)
        · exact (inductionHypothesis inRest).imp_right (List.mem_cons_of_mem first)

theorem keys_put_nodup {pairs : List (κ × α)} (distinct : (keys pairs).Nodup) (key : κ)
    (value : α) : (keys (put key value pairs)).Nodup := by
  rw [keys_put]
  split
  · exact distinct
  · next absent => exact distinct.append (List.nodup_singleton key) (by simpa using absent)

/-- Every key stands once in a keyed list that was built pair by pair. -/
theorem keys_ofPairs_nodup (pairs : List (κ × α)) : (keys (ofPairs pairs)).Nodup := by
  have fromAny : ∀ done : List (κ × α), (keys done).Nodup →
      (keys (pairs.foldl (fun done pair => put pair.1 pair.2 done) done)).Nodup := by
    induction pairs with
    | nil => exact fun done distinct => distinct
    | cons pair rest inductionHypothesis =>
        exact fun done distinct => inductionHypothesis _ (keys_put_nodup distinct pair.1 pair.2)
  exact fromAny [] List.nodup_nil

/-- Of several pairs with one key the last one counts. -/
theorem get?_ofPairs (key : κ) (pairs : List (κ × α)) :
    get? key (ofPairs pairs) = get? key pairs.reverse := by
  have fromAny : ∀ done : List (κ × α),
      get? key (pairs.foldl (fun done pair => put pair.1 pair.2 done) done) =
        (get? key pairs.reverse).or (get? key done) := by
    induction pairs with
    | nil => simp
    | cons pair rest inductionHypothesis =>
        intro done
        rw [List.foldl_cons, inductionHypothesis, List.reverse_cons, get?_append, Option.or_assoc]
        congr 1
        by_cases same : pair.1 = key
        · subst same
          simp [get?_cons]
        · rw [get?_put_of_ne (Ne.symm same)]
          simp [get?_cons, same]
  simpa [ofPairs] using fromAny []

/-! ## One key among others -/

/-- A keyed list around the place of a key, where the key has a value or is left out. -/
def framed (key : κ) (before after : List (κ × α)) (value? : Option α) : List (κ × α) :=
  before ++ (value?.map (Prod.mk key)).toList ++ after

theorem mem_of_mem_ofPairs {pair : κ × α} {pairs : List (κ × α)} (member : pair ∈ ofPairs pairs) :
    pair ∈ pairs := by
  have found := get?_of_mem (keys_ofPairs_nodup pairs) member
  rw [get?_ofPairs] at found
  exact List.mem_reverse.1 (mem_of_get? found)

theorem put_append_of_mem {key : κ} {first : List (κ × α)} (present : key ∈ keys first) (value : α)
    (second : List (κ × α)) : put key value (first ++ second) = put key value first ++ second := by
  induction first with
  | nil => cases present
  | cons pair rest inductionHypothesis =>
      rw [List.cons_append, put, put]
      by_cases same : pair.1 = key
      · rw [if_pos same, if_pos same, List.cons_append]
      · have inRest : key ∈ keys rest := by simpa [Ne.symm same] using present
        rw [if_neg same, if_neg same, inductionHypothesis inRest, List.cons_append]

theorem put_append_of_notMem {key : κ} {first : List (κ × α)} (absent : key ∉ keys first)
    (value : α) (second : List (κ × α)) :
    put key value (first ++ second) = first ++ put key value second := by
  induction first with
  | nil => rfl
  | cons pair rest inductionHypothesis =>
      rw [keys_cons, List.mem_cons, not_or] at absent
      rw [List.cons_append, put, if_neg (Ne.symm absent.1), inductionHypothesis absent.2,
        List.cons_append]

/-- A list that gives each key once is the keyed list of its pairs. -/
theorem ofPairs_eq_self {pairs : List (κ × α)} (distinct : (keys pairs).Nodup) :
    ofPairs pairs = pairs := by
  have fromAny : ∀ done : List (κ × α), (keys (done ++ pairs)).Nodup →
      pairs.foldl (fun done pair => put pair.1 pair.2 done) done = done ++ pairs := by
    clear distinct
    induction pairs with
    | nil => exact fun done _ => (List.append_nil done).symm
    | cons pair rest inductionHypothesis =>
        intro done distinct
        have absent : pair.1 ∉ keys done := by
          rw [keys_append, keys_cons] at distinct
          exact fun member => List.disjoint_of_nodup_append distinct member List.mem_cons_self
        have isLast := put_append_of_notMem absent pair.2 []
        rw [List.append_nil, put] at isLast
        rw [List.foldl_cons, isLast, inductionHypothesis, List.append_assoc, List.singleton_append]
        rwa [List.append_assoc, List.singleton_append]
  exact fromAny [] distinct

/-- A key that stands in the list at most once can be given a value in its place. -/
theorem exists_framed {pairs : List (κ × α)} (distinct : (keys pairs).Nodup) (key : κ) :
    ∃ before after, key ∉ keys (before ++ after) ∧
      pairs = framed key before after (get? key pairs) ∧
      ∀ value, put key value pairs = framed key before after (some value) := by
  induction pairs with
  | nil => exact ⟨[], [], by simp, rfl, fun value => rfl⟩
  | cons pair rest inductionHypothesis =>
      rw [keys_cons, List.nodup_cons] at distinct
      by_cases same : pair.1 = key
      · subst same
        refine ⟨[], rest, by simpa using distinct.1, ?_, fun value => ?_⟩
        · simp [framed, get?_cons]
        · simp [framed, put]
      · obtain ⟨before, after, absent, isFramed, isPut⟩ := inductionHypothesis distinct.2
        refine ⟨pair :: before, after, ?_, ?_, fun value => ?_⟩
        · rw [List.cons_append, keys_cons, List.mem_cons, not_or]
          exact ⟨Ne.symm same, absent⟩
        · rw [get?_cons, if_neg same]
          exact congrArg (List.cons pair) isFramed
        · rw [put, if_neg same, isPut value]
          rfl

/-- Giving values to other keys does not depend on the key's value. -/
theorem exists_foldl_put_framed {key : κ} {others : List (κ × α)} (elsewhere : key ∉ keys others) :
    ∀ {before after : List (κ × α)}, key ∉ keys (before ++ after) →
      ∃ before' after', key ∉ keys (before' ++ after') ∧ ∀ value?,
        others.foldl (fun done pair => put pair.1 pair.2 done) (framed key before after value?) =
          framed key before' after' value? := by
  induction others with
  | nil => exact fun absent => ⟨_, _, absent, fun value? => rfl⟩
  | cons pair rest inductionHypothesis =>
      intro before after absent
      rw [keys_cons, List.mem_cons, not_or] at elsewhere
      rw [keys_append, List.mem_append, not_or] at absent
      by_cases isBefore : pair.1 ∈ keys before
      · have absentAfter : key ∉ keys (put pair.1 pair.2 before ++ after) := by
          rw [keys_append, keys_put, if_pos isBefore, List.mem_append, not_or]
          exact absent
        obtain ⟨before', after', absent', same⟩ := inductionHypothesis elsewhere.2 absentAfter
        refine ⟨before', after', absent', fun value? => ?_⟩
        rw [← same value?, List.foldl_cons]
        congr 1
        rw [framed, List.append_assoc, put_append_of_mem isBefore, framed, List.append_assoc]
      · have absentAfter : key ∉ keys (before ++ put pair.1 pair.2 after) := by
          rw [keys_append, List.mem_append, not_or]
          refine ⟨absent.1, fun member => ?_⟩
          obtain ⟨value, inPut⟩ := List.mem_map.1 member
          rcases mem_of_mem_put inPut.1 with rfl | inAfter
          · exact elsewhere.1 inPut.2.symm
          · exact absent.2 (inPut.2 ▸ List.mem_map_of_mem inAfter)
        obtain ⟨before', after', absent', same⟩ := inductionHypothesis elsewhere.2 absentAfter
        refine ⟨before', after', absent', fun value? => ?_⟩
        rw [← same value?, List.foldl_cons]
        congr 1
        have notBeside : pair.1 ∉ keys (value?.map (Prod.mk key)).toList := by
          cases value? with
          | none => simp
          | some value => simpa using Ne.symm elsewhere.1
        have notEarlier : pair.1 ∉ keys (before ++ (value?.map (Prod.mk key)).toList) := by
          rw [keys_append, List.mem_append, not_or]
          exact ⟨isBefore, notBeside⟩
        rw [framed, put_append_of_notMem notEarlier, framed]

/-- Giving a keyed list's values to a list without the key only puts the key's value in. -/
theorem exists_foldl_put_of_framed {key : κ} {front back done : List (κ × α)}
    (elsewhere : key ∉ keys (front ++ back)) (absent : key ∉ keys done) :
    ∃ before after, key ∉ keys (before ++ after) ∧ ∀ value?,
      (framed key front back value?).foldl (fun done pair => put pair.1 pair.2 done) done =
        framed key before after value? := by
  rw [keys_append, List.mem_append, not_or] at elsewhere
  have absentAlone : key ∉ keys (done ++ []) := by rwa [List.append_nil]
  obtain ⟨early, late, absentEarly, afterFront⟩ :=
    exists_foldl_put_framed elsewhere.1 absentAlone
  have absentFront : key ∉ keys ((early ++ late) ++ []) := by rwa [List.append_nil]
  obtain ⟨before, after, absentBoth, afterBack⟩ :=
    exists_foldl_put_framed elsewhere.2 absentFront
  have frontDone : front.foldl (fun done pair => put pair.1 pair.2 done) done = early ++ late := by
    simpa [framed] using afterFront none
  refine ⟨before, after, absentBoth, fun value? => ?_⟩
  rw [← afterBack, framed, List.foldl_append, List.foldl_append, frontDone]
  congr 1
  cases value? with
  | none => simp [framed]
  | some value => simpa [framed, put] using put_append_of_notMem absentEarly value []

end ApiTools.Keyed
