import ApiTools.Text.Search
import Mathlib.Data.List.TakeWhile

/-!
# Patterns

A pattern is a text with marks: for the beginning and the end, and for named runs of characters that
are not among some given ones. A run takes as much as it can and gives back what the rest of the
pattern needs, so a text can fit in several ways, of which the first counts.
-/

namespace ApiTools.Text.Pattern

/-- A part of a pattern. -/
inductive Part where
  | start
  | finish
  | char (c : Char)
  /-- One or more characters, as many as possible, but none of the others. -/
  | run (name others : List Char)
  deriving DecidableEq

/-! ## Writing a pattern -/

/-- The characters that a pattern may not hold as they are. -/
def special : List Char :=
  "()[]\x7b\x7d?*+-|^$\\.&~# \t\n\r\x0b\x0c".toList

/-- The pattern that a text alone fits. -/
def escape (text : List Char) : List Char :=
  text.flatMap fun c => if special.contains c then ['\\', c] else [c]

/-- The text with another one in place of each occurrence of a part, where some characters belong to
the occurrence before. -/
def replaceFrom (part other : List Char) : (skipped : Nat) → List Char → List Char
  | _, [] => []
  | skipped + 1, _ :: rest => replaceFrom part other skipped rest
  | 0, c :: rest =>
    if part.isPrefixOf (c :: rest) then other ++ replaceFrom part other (part.length - 1) rest
    else c :: replaceFrom part other 0 rest

/-- A named run as a pattern writes it. -/
def writeRun (name others : List Char) : List Char :=
  "(?P<".toList ++ name ++ ">[^".toList ++ others ++ "]+)".toList

/-! ## Reading a pattern -/

/-- The name of a run, the characters that are not in it and the length of what says so, after an
opening parenthesis. -/
def readRun? : List Char → Option (List Char × List Char × Nat)
  | '?' :: 'P' :: '<' :: named =>
    match after? '>' named with
    | some ('[' :: '^' :: listed) =>
      let name := before '>' named
      let others := before ']' listed
      match after? ']' listed with
      | some ('+' :: ')' :: _) =>
        if name = [] ∨ others = [] ∨ '\\' ∈ others ∨ '-' ∈ others then none
        else some (name, others, name.length + others.length + 9)
      | _ => none
    | _ => none
  | _ => none

/-- The parts of a pattern, of which some characters belong to the part before. A pattern with other
marks than these is not read. -/
def readFrom? : (skipped : Nat) → List Char → Option (List Part)
  | _, [] => some []
  | skipped + 1, _ :: rest => readFrom? skipped rest
  | 0, '^' :: rest => (readFrom? 0 rest).map (.start :: ·)
  | 0, '$' :: rest => (readFrom? 0 rest).map (.finish :: ·)
  | 0, '\\' :: rest =>
    match rest with
    | [] => none
    | c :: _ => if c.isAlphanum then none else (readFrom? 1 rest).map (.char c :: ·)
  | 0, '(' :: rest =>
    match readRun? rest with
    | none => none
    | some (name, others, length) => (readFrom? length rest).map (.run name others :: ·)
  | 0, c :: rest => if special.contains c then none else (readFrom? 0 rest).map (.char c :: ·)

/-- The parts of a pattern. -/
def read? (pattern : List Char) : Option (List Part) :=
  readFrom? 0 pattern

/-! ## Matching -/

/-- What a run can take of a text and what it then leaves, the longest first. -/
def takes (others : List Char) : List Char → List (List Char × List Char)
  | [] => []
  | c :: rest =>
    if c ∈ others then []
    else (takes others rest).map (fun (taken, left) => (c :: taken, left)) ++ [([c], rest)]

/-- The ways in which the beginning of a text fits a pattern, in the order in which they are tried,
each with what the runs take. The end of a text also lies before a last line break. -/
def ways : List Part → (atStart : Bool) → List Char → List (List (List Char × List Char))
  | [], _, _ => [[]]
  | .start :: parts, atStart, text => if atStart then ways parts atStart text else []
  | .finish :: parts, atStart, text =>
    if text = [] ∨ text = ['\n'] then ways parts atStart text else []
  | .char _ :: _, _, [] => []
  | .char c :: parts, _, d :: rest => if c = d then ways parts false rest else []
  | .run name others :: parts, _, text =>
    (takes others text).flatMap fun (taken, left) =>
      (ways parts false left).map ((name, taken) :: ·)

/-- What the runs of a pattern take of a text, if it fits. -/
def match? (pattern text : List Char) : Option (List (List Char × List Char)) :=
  (read? pattern).bind fun parts => (ways parts true text).head?

/-! ### Literal text -/

/-- A text fits what it begins with as it is. -/
theorem ways_char_append {literal : List Char} (nonempty : literal ≠ []) (parts : List Part)
    (atStart : Bool) (rest : List Char) :
    ways (literal.map .char ++ parts) atStart (literal ++ rest) = ways parts false rest := by
  induction literal generalizing atStart with
  | nil => exact absurd rfl nonempty
  | cons c literal inductionHypothesis =>
      rw [List.map_cons, List.cons_append, List.cons_append, ways, if_pos rfl]
      cases literal with
      | nil => rfl
      | cons d literal => exact inductionHypothesis (List.cons_ne_nil d literal) false

theorem ways_char_of_not_prefix {literal text : List Char} (differs : ¬ literal <+: text)
    (parts : List Part) (atStart : Bool) :
    ways (literal.map .char ++ parts) atStart text = [] := by
  induction literal generalizing atStart text with
  | nil => exact absurd List.nil_prefix differs
  | cons c literal inductionHypothesis =>
      rw [List.map_cons, List.cons_append]
      cases text with
      | nil => rw [ways]
      | cons d rest =>
          rw [ways]
          split
          · next same =>
              subst same
              exact inductionHypothesis (fun isPrefix => differs (by simpa using isPrefix)) false
          · rfl

/-! ### Runs -/

section Runs

variable {name others : List Char} {parts : List Part} {mark : Char}

theorem of_mem_takes {text taken left : List Char} (member : (taken, left) ∈ takes others text) :
    taken ≠ [] ∧ (∀ c ∈ taken, c ∉ others) ∧ text = taken ++ left := by
  induction text generalizing taken left with
  | nil => cases member
  | cons c rest inductionHypothesis =>
      rw [takes] at member
      split at member
      · cases member
      · next allowed =>
          rcases List.mem_append.1 member with longer | shortest
          · obtain ⟨⟨shorter, left⟩, isTaken, same⟩ := List.mem_map.1 longer
            obtain ⟨rfl, rfl⟩ := Prod.mk.inj same
            obtain ⟨-, allAllowed, rfl⟩ := inductionHypothesis isTaken
            exact ⟨List.cons_ne_nil _ _, List.forall_mem_cons.2 ⟨allowed, allAllowed⟩, rfl⟩
          · obtain ⟨rfl, rfl⟩ := Prod.mk.inj (List.mem_singleton.1 shortest)
            exact ⟨List.cons_ne_nil _ _, List.forall_mem_singleton.2 allowed, rfl⟩

/-- A run that comes up to a character that is not in it first takes everything before. What it
leaves after it has given something back begins with what it could have taken. -/
theorem takes_append {taken : List Char} (nonempty : taken ≠ [])
    (allowed : ∀ c ∈ taken, c ∉ others) (left : List Char) (stops : ∀ c ∈ left.head?, c ∈ others) :
    ∃ shorter, takes others (taken ++ left) = (taken, left) :: shorter ∧
      ∀ other ∈ shorter, ∃ c rest, other.2 = c :: rest ∧ c ∉ others := by
  induction taken with
  | nil => exact absurd rfl nonempty
  | cons c taken inductionHypothesis =>
      rw [List.forall_mem_cons] at allowed
      rw [List.cons_append, takes, if_neg allowed.1]
      cases taken with
      | nil =>
          have nothing : takes others left = [] := by
            cases left with
            | nil => rfl
            | cons d rest => rw [takes, if_pos (stops d rfl)]
          rw [List.nil_append, nothing]
          exact ⟨[], rfl, by simp⟩
      | cons d taken =>
          obtain ⟨shorter, isFirst, givenBack⟩ :=
            inductionHypothesis (List.cons_ne_nil d taken) allowed.2
          rw [isFirst, List.map_cons, List.cons_append]
          refine ⟨_, rfl, List.forall_mem_append.2 ⟨?_, ?_⟩⟩
          · rw [List.forall_mem_map]
            exact givenBack
          · rw [List.forall_mem_singleton]
            exact ⟨d, taken ++ left, rfl, allowed.2 d List.mem_cons_self⟩

/-- A run before a mark that is not in it takes all that is before the mark. -/
theorem ways_run_char (isOther : mark ∈ others) {taken : List Char} (nonempty : taken ≠ [])
    (allowed : ∀ c ∈ taken, c ∉ others) (atStart : Bool) (rest : List Char) :
    ways (.run name others :: .char mark :: parts) atStart (taken ++ mark :: rest) =
      (ways parts false rest).map ((name, taken) :: ·) := by
  obtain ⟨shorter, first, givenBack⟩ := takes_append nonempty allowed (mark :: rest)
    (by simpa using isOther)
  have noOther : (shorter.flatMap fun (taken, left) =>
      (ways (.char mark :: parts) false left).map ((name, taken) :: ·)) = [] := by
    rw [List.flatMap_eq_nil_iff]
    rintro ⟨otherTaken, left⟩ member
    obtain ⟨c, after, rfl, isAllowed⟩ := givenBack _ member
    dsimp only
    rw [ways, if_neg fun same : mark = c => isAllowed (same ▸ isOther), List.map_nil]
  rw [ways, first, List.flatMap_cons, noOther, List.append_nil]
  dsimp only
  rw [ways, if_pos rfl]

theorem exists_of_ways_run_char {text : List Char} {atStart : Bool}
    (fits : ways (.run name others :: .char mark :: parts) atStart text ≠ []) :
    ∃ taken rest, taken ≠ [] ∧ (∀ c ∈ taken, c ∉ others) ∧ text = taken ++ mark :: rest := by
  obtain ⟨way, member⟩ := List.exists_mem_of_ne_nil _ fits
  rw [ways, List.mem_flatMap] at member
  obtain ⟨⟨taken, left⟩, isTaken, isWay⟩ := member
  obtain ⟨nonempty, allowed, rfl⟩ := of_mem_takes isTaken
  cases left with
  | nil => simp [ways] at isWay
  | cons c rest =>
      dsimp only at isWay
      rw [ways] at isWay
      split at isWay
      · next same => exact ⟨taken, rest, nonempty, allowed, by rw [same]⟩
      · cases isWay

/-- A run before the end takes the whole text, even if that ends with a line break. -/
theorem head?_ways_run_finish (name : List Char) (lineBreak : '\n' ∉ others) (atStart : Bool)
    (text : List Char) (way : List (List Char × List Char)) :
    (ways [.run name others, .finish] atStart text).head? = some way ↔
      text ≠ [] ∧ (∀ c ∈ text, c ∉ others) ∧ way = [(name, text)] := by
  by_cases allowed : ∀ c ∈ text, c ∉ others
  · cases text with
    | nil => simp [ways, takes]
    | cons c rest =>
        obtain ⟨shorter, first, -⟩ :=
          takes_append (List.cons_ne_nil c rest) allowed [] (by simp)
        rw [List.append_nil] at first
        rw [ways, first]
        simpa [ways, eq_comm] using fun _ => allowed
  · have noWay : ways [.run name others, .finish] atStart text = [] := by
      rw [ways, List.flatMap_eq_nil_iff]
      rintro ⟨taken, left⟩ member
      obtain ⟨-, isAllowed, rfl⟩ := of_mem_takes member
      -- the run has stopped at a character that is still there, and it was no line break
      dsimp only
      rw [ways, if_neg, List.map_nil]
      rintro (rfl | rfl)
      · exact allowed (by simpa using isAllowed)
      · exact allowed (List.forall_mem_append.2 ⟨isAllowed, by simpa using lineBreak⟩)
    rw [noWay]
    exact iff_of_false (by simp) fun fits => allowed fits.2.1

/-- Two runs with a mark between them up to the end take what is before and after the mark. -/
theorem head?_ways_run_char_run_finish {second : List Char} (isOther : mark ∈ others)
    (lineBreak : '\n' ∉ others) (atStart : Bool) (text : List Char)
    (way : List (List Char × List Char)) :
    (ways [.run name others, .char mark, .run second others, .finish] atStart text).head? =
        some way ↔
      ∃ before after, before ≠ [] ∧ after ≠ [] ∧ (∀ c ∈ before, c ∉ others) ∧
        (∀ c ∈ after, c ∉ others) ∧ text = before ++ mark :: after ∧
        way = [(name, before), (second, after)] := by
  constructor
  · intro fits
    have someWay : ways [.run name others, .char mark, .run second others, .finish] atStart text ≠
        [] := by
      intro noWay
      rw [noWay] at fits
      cases fits
    obtain ⟨before, after, nonempty, allowed, rfl⟩ := exists_of_ways_run_char someWay
    rw [ways_run_char isOther nonempty allowed, List.head?_map, Option.map_eq_some_iff] at fits
    obtain ⟨rest, restFits, rfl⟩ := fits
    obtain ⟨afterNonempty, afterAllowed, rfl⟩ :=
      (head?_ways_run_finish second lineBreak _ _ _).1 restFits
    exact ⟨before, after, nonempty, afterNonempty, allowed, afterAllowed, rfl, rfl⟩
  · rintro ⟨before, after, nonempty, afterNonempty, allowed, afterAllowed, rfl, rfl⟩
    have restFits := (head?_ways_run_finish second lineBreak false after _).2
      ⟨afterNonempty, afterAllowed, rfl⟩
    rw [ways_run_char isOther nonempty allowed, List.head?_map, restFits, Option.map_some]

end Runs

end ApiTools.Text.Pattern
