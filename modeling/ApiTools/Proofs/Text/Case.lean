import ApiTools.Text.Case
import Mathlib.Data.Bool.AllAny
import Mathlib.Data.List.Basic

/-!
# Words in plain letters

Some ASCII letters are the upper or the lower case of no character but themselves and each other;
of the others, `k` is also the lower case of the Kelvin sign and `F` a part of the upper case of a
ligature. So a text whose upper or lower case is a word in such letters is that word already, apart
from the case. Capitalising a word in small letters changes its first letter alone.
-/

namespace ApiTools.Text

/-- The letters of `DELETE`, `GET` and `PUT` in both cases. -/
def plainLetters : List Char :=
  "deglptuDEGLPTU".toList

/-! ## The tables -/

theorem exists_notMem_plainLetters_of_upperSpecial :
    ∀ entry ∈ upperSpecial, ∃ code ∈ entry.2, Char.ofNat code ∉ plainLetters := by
  decide +kernel

/-- No run of the table takes any other character to a plain letter. -/
def leavesPlainLetters (runs : List CaseRun) : Bool :=
  runs.all fun run => plainLetters.all fun letter => decide
    ((run.first : Int) ≤ letter.toNat - run.shift → letter.toNat - run.shift ≤ run.last →
      Char.ofNat (letter.toNat - run.shift).toNat ∈ plainLetters)

theorem leavesPlainLetters_upperRuns : leavesPlainLetters upperRuns = true := by
  decide +kernel

theorem leavesPlainLetters_lowerRuns : leavesPlainLetters lowerRuns = true := by
  decide +kernel

theorem origin_mem_plainLetters {runs : List CaseRun} (leaves : leavesPlainLetters runs = true)
    {run : CaseRun} (inTable : run ∈ runs) {letter : Char} (plain : letter ∈ plainLetters)
    (atLeast : (run.first : Int) ≤ letter.toNat - run.shift)
    (atMost : letter.toNat - run.shift ≤ run.last) :
    Char.ofNat (letter.toNat - run.shift).toNat ∈ plainLetters := by
  have ofRun := List.all_eq_true.1 leaves run inTable
  exact of_decide_eq_true (List.all_eq_true.1 ofRun letter plain) atLeast atMost

theorem upperForm_of_mem_plainLetters :
    ∀ letter ∈ plainLetters, upperForm letter = [letter.toUpper] :=
  List.all_iff_forall_prop.1 (by decide +kernel)

theorem lowerForm_of_mem_plainLetters :
    ∀ letter ∈ plainLetters, lowerForm letter = [letter.toLower] :=
  List.all_iff_forall_prop.1 (by decide +kernel)

/-! ## Characters -/

theorem toNat_ofNat_of_ne_zero {code : Nat} (notZero : (Char.ofNat code).toNat ≠ 0) :
    (Char.ofNat code).toNat = code := by
  by_cases valid : code.isValidChar
  · rw [Char.ofNat, dif_pos valid]
    rfl
  · rw [Char.ofNat, dif_neg valid] at notZero
    exact absurd rfl notZero

/-- A character whose other case is made of plain letters is one of them. -/
theorem mem_plainLetters_of_otherCase {special : List (Nat × List Nat)} {runs : List CaseRun}
    (foreign : ∀ entry ∈ special, ∃ code ∈ entry.2, Char.ofNat code ∉ plainLetters)
    (leaves : leavesPlainLetters runs = true) {c : Char}
    (plain : ∀ letter ∈ otherCase special runs c, letter ∈ plainLetters) :
    c ∈ plainLetters := by
  unfold otherCase at plain
  split at plain
  · next form listed =>
      obtain ⟨before, after, isTable, -⟩ := List.lookup_eq_some_iff.1 listed
      have entryMember : (c.toNat, form) ∈ special := by
        rw [isTable]
        exact List.mem_append_right before List.mem_cons_self
      obtain ⟨code, member, notPlain⟩ := foreign _ entryMember
      exact absurd (plain _ (List.mem_map.2 ⟨code, member, rfl⟩)) notPlain
  · have moved : (CaseRun.find? runs c).getD c ∈ plainLetters := plain _ (List.mem_singleton.2 rfl)
    cases found : CaseRun.find? runs c with
    | none =>
        rw [found] at moved
        exact moved
    | some letter =>
        rw [found, Option.getD_some] at moved
        obtain ⟨run, runFound, isMoved⟩ := Option.map_eq_some_iff.1 found
        have covers := List.find?_some runFound
        simp only [Bool.and_eq_true, decide_eq_true_eq] at covers
        have notZero : ∀ plainLetter ∈ plainLetters, plainLetter.toNat ≠ 0 :=
          List.all_iff_forall_prop.1 (by decide)
        have letterNotZero := notZero letter moved
        have code : letter.toNat = ((c.toNat : Int) + run.shift).toNat := by
          rw [← isMoved]
          apply toNat_ofNat_of_ne_zero
          rwa [isMoved]
        have isOrigin : (letter.toNat : Int) - run.shift = c.toNat := by omega
        have inTable := List.mem_of_find?_eq_some runFound
        have fromTable := origin_mem_plainLetters leaves inTable moved (by omega) (by omega)
        rwa [isOrigin, Int.toNat_natCast, Char.ofNat_toNat] at fromTable

theorem mem_plainLetters_of_upperForm {c : Char}
    (plain : ∀ letter ∈ upperForm c, letter ∈ plainLetters) : c ∈ plainLetters :=
  mem_plainLetters_of_otherCase exists_notMem_plainLetters_of_upperSpecial
    leavesPlainLetters_upperRuns plain

theorem mem_plainLetters_of_lowerForm {c : Char}
    (plain : ∀ letter ∈ lowerForm c, letter ∈ plainLetters) : c ∈ plainLetters :=
  mem_plainLetters_of_otherCase (by decide +kernel) leavesPlainLetters_lowerRuns plain

theorem mem_plainLetters_of_lowerBetween {before after : List Char} {c : Char}
    (plain : ∀ letter ∈ lowerBetween before c after, letter ∈ plainLetters) :
    c ∈ plainLetters := by
  unfold lowerBetween at plain
  split at plain
  · -- neither form of a small sigma is a plain letter
    split at plain
    · exact absurd (plain 'ς' (List.mem_singleton.2 rfl)) (by decide)
    · exact absurd (plain 'σ' (List.mem_singleton.2 rfl)) (by decide)
  · exact mem_plainLetters_of_lowerForm plain

/-! ## Texts -/

/-- The text is made of plain letters. -/
def IsPlain (text : List Char) : Prop :=
  ∀ c ∈ text, c ∈ plainLetters

instance (text : List Char) : Decidable (IsPlain text) :=
  decidable_of_iff (text.all fun c => decide (c ∈ plainLetters)) List.all_iff_forall_prop

theorem isPlain_of_upper {text : List Char} (plain : IsPlain (upper text)) : IsPlain text := by
  intro c member
  apply mem_plainLetters_of_upperForm
  intro letter inForm
  exact plain letter (List.mem_flatMap.2 ⟨c, member, inForm⟩)

theorem isPlain_of_lowerAfter {text : List Char} :
    ∀ {before : List Char}, IsPlain (lowerAfter before text) → IsPlain text := by
  induction text with
  | nil =>
      intro before _ c member
      cases member
  | cons c rest inductionHypothesis =>
      intro before plain
      rw [lowerAfter, IsPlain, List.forall_mem_append] at plain
      exact List.forall_mem_cons.2
        ⟨mem_plainLetters_of_lowerBetween plain.1, inductionHypothesis plain.2⟩

theorem isPlain_map {change : Char → Char} {text : List Char}
    (keeps : ∀ letter ∈ plainLetters, change letter ∈ plainLetters) (plain : IsPlain text) :
    IsPlain (text.map change) := by
  intro letter member
  obtain ⟨c, inText, rfl⟩ := List.mem_map.1 member
  exact keeps c (plain c inText)

theorem upper_of_isPlain {text : List Char} (plain : IsPlain text) :
    upper text = text.map Char.toUpper := by
  have each : ∀ c ∈ text, upperForm c = [c.toUpper] :=
    fun c member => upperForm_of_mem_plainLetters c (plain c member)
  rw [upper, List.flatMap_congr each, List.map_eq_flatMap]

theorem lowerAfter_of_isPlain {text : List Char} :
    ∀ {before : List Char}, IsPlain text → lowerAfter before text = text.map Char.toLower := by
  have notSigma : ∀ letter ∈ plainLetters, letter ≠ 'Σ' :=
    List.all_iff_forall_prop.1 (by decide)
  induction text with
  | nil => exact fun _ => rfl
  | cons c rest inductionHypothesis =>
      intro before plain
      rw [IsPlain, List.forall_mem_cons] at plain
      rw [lowerAfter, lowerBetween, if_neg (notSigma c plain.1),
        lowerForm_of_mem_plainLetters c plain.1, inductionHypothesis plain.2]
      rfl

theorem lower_of_isPlain {text : List Char} (plain : IsPlain text) :
    lower text = text.map Char.toLower :=
  lowerAfter_of_isPlain plain

theorem isPlain_upper {text : List Char} (plain : IsPlain text) : IsPlain (upper text) := by
  rw [upper_of_isPlain plain]
  exact isPlain_map (List.all_iff_forall_prop.1 (by decide)) plain

theorem isPlain_lower {text : List Char} (plain : IsPlain text) : IsPlain (lower text) := by
  rw [lower_of_isPlain plain]
  exact isPlain_map (List.all_iff_forall_prop.1 (by decide)) plain

theorem upper_upper_of_isPlain {text : List Char} (plain : IsPlain text) :
    upper (upper text) = upper text := by
  have same : ∀ letter ∈ plainLetters, letter.toUpper.toUpper = letter.toUpper :=
    List.all_iff_forall_prop.1 (by decide)
  rw [upper_of_isPlain (isPlain_upper plain), upper_of_isPlain plain, List.map_map]
  exact List.map_congr_left fun c member => same c (plain c member)

theorem lower_upper_of_isPlain {text : List Char} (plain : IsPlain text) :
    lower (upper text) = lower text := by
  have same : ∀ letter ∈ plainLetters, letter.toUpper.toLower = letter.toLower :=
    List.all_iff_forall_prop.1 (by decide)
  rw [lower_of_isPlain (isPlain_upper plain), upper_of_isPlain plain, lower_of_isPlain plain,
    List.map_map]
  exact List.map_congr_left fun c member => same c (plain c member)

theorem upper_lower_of_isPlain {text : List Char} (plain : IsPlain text) :
    upper (lower text) = upper text := by
  have same : ∀ letter ∈ plainLetters, letter.toLower.toUpper = letter.toUpper :=
    List.all_iff_forall_prop.1 (by decide)
  rw [upper_of_isPlain (isPlain_lower plain), lower_of_isPlain plain, upper_of_isPlain plain,
    List.map_map]
  exact List.map_congr_left fun c member => same c (plain c member)

/-! ## Capitals -/

/-- The small letters of ASCII. -/
def smallLetters : List Char :=
  (List.range 26).map fun place => Char.ofNat ('a'.toNat + place)

/-- The text with a capital in front. -/
def capitalized : List Char → List Char
  | [] => []
  | c :: rest => c.toUpper :: rest

theorem mem_smallLetters_of_isLower {c : Char} (small : c.isLower = true) : c ∈ smallLetters := by
  have bounds : (decide (97 ≤ c.val) && decide (c.val ≤ 122)) = true := small
  rw [Bool.and_eq_true, decide_eq_true_eq, decide_eq_true_eq] at bounds
  have atLeast : 97 ≤ c.toNat := bounds.1
  have atMost : c.toNat ≤ 122 := bounds.2
  have isSum : 'a'.toNat + (c.toNat - 97) = c.toNat := by
    have first : 'a'.toNat = 97 := rfl
    omega
  refine List.mem_map.2 ⟨c.toNat - 97, List.mem_range.2 (by omega), ?_⟩
  rw [isSum, Char.ofNat_toNat]

theorem lowerAfter_of_isLower {text : List Char} :
    ∀ {before : List Char}, text.all Char.isLower = true → lowerAfter before text = text := by
  have formIsLetter : ∀ c ∈ smallLetters, lowerForm c = [c] :=
    List.all_iff_forall_prop.1 (by decide +kernel)
  have notSigma : ∀ c ∈ smallLetters, c ≠ 'Σ' :=
    List.all_iff_forall_prop.1 (by decide)
  induction text with
  | nil => exact fun _ => rfl
  | cons c rest inductionHypothesis =>
      intro before small
      rw [List.all_cons, Bool.and_eq_true] at small
      have isLetter := mem_smallLetters_of_isLower small.1
      rw [lowerAfter, lowerBetween, if_neg (notSigma c isLetter), formIsLetter c isLetter,
        inductionHypothesis small.2]
      rfl

theorem capitalize_of_isLower {text : List Char} (small : text.all Char.isLower = true) :
    capitalize text = capitalized text := by
  have formIsCapital : ∀ c ∈ smallLetters, titleForm c = [c.toUpper] :=
    List.all_iff_forall_prop.1 (by decide +kernel)
  cases text with
  | nil => rfl
  | cons c rest =>
      rw [List.all_cons, Bool.and_eq_true] at small
      rw [capitalize, formIsCapital c (mem_smallLetters_of_isLower small.1),
        lowerAfter_of_isLower small.2]
      rfl

/-! ## The cases of a word -/

variable {word text : List Char}

/-- Taking the upper case once more makes no further text the capitals of a word. -/
theorem upper_upper_eq_iff (plain : IsPlain word) :
    upper (upper text) = upper word ↔ upper text = upper word := by
  constructor
  · intro same
    have textPlain : IsPlain text :=
      isPlain_of_upper (isPlain_of_upper (same ▸ isPlain_upper plain))
    rwa [upper_upper_of_isPlain textPlain] at same
  · intro same
    rw [same, upper_upper_of_isPlain plain]

/-- The texts that are the word in capitals are those that are the word in small letters. -/
theorem upper_eq_iff_lower_eq (plain : IsPlain word) :
    upper text = upper word ↔ lower text = lower word := by
  constructor
  · intro same
    have textPlain : IsPlain text := isPlain_of_upper (same ▸ isPlain_upper plain)
    rw [← lower_upper_of_isPlain textPlain, same, lower_upper_of_isPlain plain]
  · intro same
    have textPlain : IsPlain text := isPlain_of_lowerAfter (same ▸ isPlain_lower plain)
    rw [← upper_lower_of_isPlain textPlain, same, upper_lower_of_isPlain plain]

end ApiTools.Text
