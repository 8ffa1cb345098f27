import ApiTools.Json.Reader
import ApiTools.Proofs.Decimal.Text
import ApiTools.Proofs.Json.Scanner
import ApiTools.Proofs.Keyed

/-!
# Reading what was written

A written value is read back as it was, on one line or over several ones, in ASCII or not: if the
integers have no more digits than may be read, every other number is read back, and every object
gives each of its keys once.
-/

namespace ApiTools.Json

open Binding

/-! ## Integers -/

theorem isOrdinary_of_isDigit {c : Char} (isDigit : c.isDigit = true) : isOrdinary c = true := by
  have digits : ∀ digit : Fin 10, isOrdinary (Char.ofNat (0x30 + digit.val)) = true := by decide
  have bounds : 0x30 ≤ c.toNat ∧ c.toNat ≤ 0x39 := by
    simpa [Char.isDigit, UInt32.le_iff_toNat_le] using isDigit
  have here := digits ⟨c.toNat - 0x30, by omega⟩
  have sameCode : 0x30 + (c.toNat - 0x30) = c.toNat := by omega
  rwa [sameCode, Char.ofNat_toNat] at here

theorem head?_toDigits {n : Nat} (startsWithZero : (Nat.toDigits 10 n).head? = some '0') :
    Nat.toDigits 10 n = ['0'] := by
  induction n using Nat.strongRecOn with
  | ind n inductionHypothesis =>
      by_cases small : n < 10
      · have digits : ∀ digit : Fin 10, Nat.digitChar digit.val = '0' → digit.val = 0 := by decide
        rw [Nat.toDigits_of_lt_base small] at startsWithZero ⊢
        rw [Option.some.inj startsWithZero]
      · have filled : Nat.toDigits 10 (n / 10) ≠ [] := Nat.toDigits_ne_nil
        rw [Nat.toDigits_of_base_le (by decide) (by omega),
          List.head?_append_of_ne_nil _ filled] at startsWithZero
        have isZero := inductionHypothesis (n / 10) (by omega) startsWithZero
        have value := congrArg (fun digits => Nat.ofDigitChars 10 digits 0) isZero
        simp only [Nat.ofDigitChars_ten_toDigits] at value
        have noValue : Nat.ofDigitChars 10 ['0'] 0 = 0 := by decide
        omega

section

variable {n : Nat}

theorem takeWhile_toDigits : (Nat.toDigits 10 n).takeWhile Char.isDigit = Nat.toDigits 10 n :=
  List.takeWhile_eq_self_iff.2 fun _ member =>
    Nat.isDigit_of_mem_toDigits (by decide) (by decide) member

theorem dropWhile_toDigits : (Nat.toDigits 10 n).dropWhile Char.isDigit = [] :=
  List.dropWhile_eq_nil_iff.2 fun _ member =>
    Nat.isDigit_of_mem_toDigits (by decide) (by decide) member

theorem readUnsigned?_toDigits (negative : Bool) :
    readUnsigned? negative (Nat.toDigits 10 n) = some (.int (if negative then -n else n)) := by
  have noZeros : ¬(Nat.toDigits 10 n = [] ∨
      (Nat.toDigits 10 n).head? = some '0' ∧ Nat.toDigits 10 n ≠ ['0']) := by
    rintro (isNil | ⟨startsWithZero, several⟩)
    · exact Nat.toDigits_ne_nil isNil
    · exact several (head?_toDigits startsWithZero)
  rw [readUnsigned?]
  simp only [takeWhile_toDigits, dropWhile_toDigits, Nat.ofDigitChars_ten_toDigits]
  rw [if_neg noZeros, if_pos trivial]

theorem exists_toDigits_eq_cons :
    ∃ first rest, Nat.toDigits 10 n = first :: rest ∧ first.isDigit = true := by
  have filled : Nat.toDigits 10 n ≠ [] := Nat.toDigits_ne_nil
  obtain ⟨first, rest, isCons⟩ := List.exists_cons_of_ne_nil filled
  refine ⟨first, rest, isCons, ?_⟩
  apply Nat.isDigit_of_mem_toDigits (b := 10) (n := n) (by decide) (by decide)
  rw [isCons]
  exact List.mem_cons_self

/-- A text that starts like a number is none of the words. -/
theorem readScalar?_of_digit {first : Char} (isDigit : first.isDigit = true) (rest : List Char) :
    readScalar? (first :: rest) = readUnsigned? false (first :: rest) ∧
      readScalar? ('-' :: first :: rest) = readUnsigned? true (first :: rest) := by
  have noWord : ∀ word : List Char, (word.head?.any Char.isDigit) = false →
      first :: rest ≠ word := by
    rintro word noDigit rfl
    rw [List.head?_cons, Option.any_some, isDigit] at noDigit
    cases noDigit
  have noMinusWord : ∀ word : List Char, (word.tail.head?.any Char.isDigit) = false →
      '-' :: first :: rest ≠ word := by
    rintro word noDigit rfl
    rw [List.tail_cons, List.head?_cons, Option.any_some, isDigit] at noDigit
    cases noDigit
  constructor
  · unfold readScalar?
    rw [if_neg (noWord "null".toList (by decide)),
      if_neg (noWord "true".toList (by decide)), if_neg (noWord "false".toList (by decide)),
      if_neg (noWord "NaN".toList (by decide)), if_neg (noWord "Infinity".toList (by decide)),
      if_neg (noWord "-Infinity".toList (by decide))]
    split
    · next others isMinus =>
        obtain ⟨rfl, -⟩ := List.cons.inj isMinus
        cases isDigit
    · rfl
  · unfold readScalar?
    rw [if_neg (noMinusWord "null".toList (by decide)),
      if_neg (noMinusWord "true".toList (by decide)),
      if_neg (noMinusWord "false".toList (by decide)),
      if_neg (noMinusWord "NaN".toList (by decide)),
      if_neg (noMinusWord "Infinity".toList (by decide)),
      if_neg (noMinusWord "-Infinity".toList (by decide))]
    rfl

theorem isOverlong_toDigits (short : (Nat.toDigits 10 n).length ≤ Decimal.digitLimit) :
    isOverlong (Nat.toDigits 10 n) = false ∧ isOverlong ('-' :: Nat.toDigits 10 n) = false := by
  have noSign : (Nat.toDigits 10 n).head? ≠ some '-' := by
    obtain ⟨first, rest, isCons, isDigit⟩ := exists_toDigits_eq_cons (n := n)
    rw [isCons, List.head?_cons]
    intro same
    rw [Option.some.inj same] at isDigit
    cases isDigit
  have noLonger : decide (Decimal.digitLimit < (Nat.toDigits 10 n).length) = false :=
    decide_eq_false (Nat.not_lt.2 short)
  constructor
  · rw [isOverlong, if_neg noSign]
    rw [takeWhile_toDigits, noLonger, Bool.false_and, Bool.false_and]
  · rw [isOverlong, if_pos List.head?_cons, List.drop_one, List.tail_cons]
    rw [takeWhile_toDigits, noLonger, Bool.false_and, Bool.false_and]

theorem readWord_toDigits (short : (Nat.toDigits 10 n).length ≤ Decimal.digitLimit) :
    readWord (Nat.toDigits 10 n) = .scalar (.int n) ∧
      readWord ('-' :: Nat.toDigits 10 n) = .scalar (.int (-n)) := by
  obtain ⟨fits, fitsBehind⟩ := isOverlong_toDigits short
  obtain ⟨first, rest, isCons, isDigit⟩ := exists_toDigits_eq_cons (n := n)
  obtain ⟨bare, signed⟩ := readScalar?_of_digit isDigit rest
  rw [← isCons, readUnsigned?_toDigits] at bare signed
  constructor
  · rw [readWord, fits, bare]
    rfl
  · rw [readWord, fitsBehind, signed]
    rfl

end

theorem toString_int (value : Int) :
    (toString value).toList =
      (if value < 0 then ['-'] else []) ++ Nat.toDigits 10 value.natAbs := by
  cases value with
  | ofNat n =>
      have written : toString (Int.ofNat n) = toString n := rfl
      rw [written, Nat.toString_eq_ofList_toDigits, String.toList_ofList, if_neg (by simp)]
      rfl
  | negSucc n =>
      have written : toString (Int.negSucc n) = "-" ++ toString (n + 1) := rfl
      rw [written, String.toList_append, Nat.toString_eq_ofList_toDigits,
        if_pos (Int.negSucc_lt_zero n), Int.natAbs_negSucc, String.toList_ofList,
        String.toList_ofList]

/-- The integer has no more digits than may be read. -/
def IsShort (value : Int) : Prop :=
  (Nat.toDigits 10 value.natAbs).length ≤ Decimal.digitLimit

instance : DecidablePred IsShort := fun value =>
  inferInstanceAs (Decidable ((Nat.toDigits 10 value.natAbs).length ≤ Decimal.digitLimit))

theorem isShort_iff {value : Int} : IsShort value ↔ value.natAbs < 10 ^ Decimal.digitLimit :=
  Nat.length_toDigits_le_iff (by decide) (by decide)

theorem isShort_neg {value : Int} : IsShort (-value) ↔ IsShort value := by
  rw [IsShort, Int.natAbs_neg, IsShort]

theorem spells_int {value : Int} (short : IsShort value) :
    Spells (toString value).toList [.scalar (.int value)] := by
  have ordinaryDigits : ∀ c ∈ Nat.toDigits 10 value.natAbs, isOrdinary c = true := fun _ member =>
    isOrdinary_of_isDigit (Nat.isDigit_of_mem_toDigits (by decide) (by decide) member)
  obtain ⟨bare, signed⟩ := readWord_toDigits short
  rw [toString_int]
  by_cases negative : value < 0
  · have isMinus : -(value.natAbs : Int) = value := by omega
    rw [isMinus] at signed
    rw [if_pos negative, List.singleton_append, ← signed]
    exact spells_word (List.cons_ne_nil _ _) (List.forall_mem_cons.2 ⟨by decide, ordinaryDigits⟩)
  · have isPlus : (value.natAbs : Int) = value := by omega
    rw [isPlus] at bare
    rw [if_neg negative, List.nil_append, ← bare]
    exact spells_word Nat.toDigits_ne_nil ordinaryDigits

/-! ## Other words -/

theorem isOrdinary_of_all {text : List Char} (all : text.all isOrdinary = true) :
    ∀ c ∈ text, isOrdinary c = true :=
  List.all_eq_true.1 all

theorem isOrdinary_of_isNumeral {c : Char} (numeral : Binary64.isNumeral c = true) :
    isOrdinary c = true := by
  simp only [Binary64.isNumeral, Bool.or_eq_true, decide_eq_true_eq] at numeral
  rcases numeral with (((isDigit | rfl) | rfl) | rfl) | rfl
  · exact isOrdinary_of_isDigit isDigit
  · rfl
  · rfl
  · rfl
  · rfl

/-- A floating-point number is written as a word. -/
theorem isOrdinary_text (value : Binary64) :
    ∀ c ∈ value.text "NaN" "Infinity", isOrdinary c = true := by
  have sign (negative : Bool) : ∀ c ∈ if negative then ['-'] else [], isOrdinary c = true := by
    cases negative with
    | false => exact List.forall_mem_nil _
    | true => exact isOrdinary_of_all (by decide)
  cases value with
  | nan => exact isOrdinary_of_all (by decide)
  | infinite negative =>
      exact List.forall_mem_append.2 ⟨sign negative, isOrdinary_of_all (by decide)⟩
  | finite negative m q =>
      exact List.forall_mem_append.2 ⟨sign negative, fun c member =>
        isOrdinary_of_isNumeral (Binary64.isNumeral_magnitudeText m q c member)⟩

theorem text_ne_nil (value : Binary64) : value.text "NaN" "Infinity" ≠ [] := by
  cases value with
  | nan => decide
  | infinite negative => exact List.append_ne_nil_of_right_ne_nil _ (by decide)
  | finite negative m q =>
      obtain ⟨mark, -, member⟩ := Binary64.exists_mark_mem_magnitudeText m q
      exact List.append_ne_nil_of_right_ne_nil _ (List.ne_nil_of_mem member)

/-! ## Building values -/

theorem Assembly.run_append (assembly : Assembly) (first second : List Token) :
    assembly.run (first ++ second) = assembly.run first >>= fun next => next.run second :=
  List.foldlM_append

/-- The tokens make the value, wherever one has to come. -/
structure Builds (made : List Token) (value : Json) : Prop where
  item : ∀ frames, Assembly.run ⟨frames, .value⟩ made = .ok ⟨frames, .separator value⟩
  firstItem : ∀ frames, Assembly.run ⟨frames, .firstItem⟩ made = .ok ⟨frames, .separator value⟩

/-- The text spells tokens that make the value. -/
def Denotes (text : List Char) (value : Json) : Prop :=
  ∃ made, Spells text made ∧ Builds made value

/-- The text spells tokens that make the member, wherever one has to come. -/
def DenotesField (text : List Char) (field : String × Json) : Prop :=
  ∃ made, Spells text made ∧
    (∀ frames done, Assembly.run ⟨frames, .key done⟩ made =
      .ok ⟨.fields done field.1 :: frames, .separator field.2⟩) ∧
    ∀ frames, Assembly.run ⟨frames, .firstKey⟩ made =
      .ok ⟨.fields [] field.1 :: frames, .separator field.2⟩

/-- A text that denotes a value is read as it. -/
theorem Denotes.read_eq {text : List Char} {value : Json} (denotes : Denotes text value) :
    read text = .ok value := by
  obtain ⟨made, spells, builds⟩ := denotes
  rw [read, spells.tokens_eq, Assembly.start, builds.item, ok_bind]
  rfl

theorem denotes_scalar {text : List Char} {value : Json} (spells : Spells text [.scalar value]) :
    Denotes text value :=
  ⟨[.scalar value], spells, ⟨fun _ => rfl, fun _ => rfl⟩⟩

theorem denotes_word {text : List Char} {value : Json} (filled : text ≠ [])
    (ordinary : ∀ c ∈ text, isOrdinary c = true) (reads : readWord text = .scalar value) :
    Denotes text value :=
  denotes_scalar (reads ▸ spells_word filled ordinary)

theorem denotes_null : Denotes "null".toList .null :=
  denotes_word (by decide) (isOrdinary_of_all (by decide)) (by decide)

theorem denotes_bool (ascii value : Bool) :
    Denotes (scalarText ascii (.bool value)) (.bool value) := by
  have isFalse : Denotes "false".toList (.bool false) :=
    denotes_word (by decide) (isOrdinary_of_all (by decide)) (by decide)
  have isTrue : Denotes "true".toList (.bool true) :=
    denotes_word (by decide) (isOrdinary_of_all (by decide)) (by decide)
  cases value with
  | false => exact isFalse
  | true => exact isTrue

theorem denotes_quote (ascii : Bool) (text : String) : Denotes (quote ascii text) (.str text) :=
  ⟨[.text text], (separates_quote ascii text).completes.spells, ⟨fun _ => rfl, fun _ => rfl⟩⟩

theorem denotesField {ascii : Bool} {key : String} {text : List Char} {value : Json}
    (denotes : Denotes text value) :
    DenotesField (quote ascii key ++ ':' :: ' ' :: text) (key, value) := by
  obtain ⟨made, spells, builds⟩ := denotes
  have gap : Separates [' '] [] := separates_gap rfl
  have opening : Completes (quote ascii key ++ ([':'] ++ [' ']))
      ([.text key] ++ ([.colon] ++ [])) :=
    (separates_quote ascii key).completes.append (separates_colon.append gap.completes).completes
  have whole := opening.append_spells spells
  rw [List.append_assoc] at whole
  have afterKey (frames : List Frame) (done : List (String × Json)) :
      Assembly.run ⟨frames, .colon done key⟩ (.colon :: made) =
        .ok ⟨.fields done key :: frames, .separator value⟩ :=
    builds.item (.fields done key :: frames)
  exact ⟨_, whole, fun frames done => afterKey frames done, fun frames => afterKey frames []⟩

/-! ## Arrays and objects -/

section

variable {opening separator close : List Char} {texts : List (List Char)}

theorem exists_completes_items {items : List Json} (separates : Separates separator [.comma])
    (closes : Separates close [.closeBracket]) (denotes : List.Forall₂ Denotes texts items)
    (filled : items ≠ []) :
    ∃ made, Completes (separator.intercalate texts ++ close) made ∧ ∀ frames done,
      Assembly.run ⟨.items done :: frames, .value⟩ made =
        .ok ⟨frames, .separator (.arr (done.reverse ++ items))⟩ ∧
      Assembly.run ⟨.items done :: frames, .firstItem⟩ made =
        .ok ⟨frames, .separator (.arr (done.reverse ++ items))⟩ := by
  induction denotes with
  | nil => exact absurd rfl filled
  | @cons text item texts items isItem others inductionHypothesis =>
      obtain ⟨first, spells, builds⟩ := isItem
      cases others with
      | nil =>
          have ends (frames : List Frame) (done : List Json) :
              Assembly.run ⟨.items done :: frames, .separator item⟩ [.closeBracket] =
                .ok ⟨frames, .separator (.arr (done.reverse ++ [item]))⟩ := by
            rw [← List.reverse_cons]
            rfl
          refine ⟨first ++ [.closeBracket], ?_, fun frames done => ⟨?_, ?_⟩⟩
          · rw [List.intercalate_singleton]
            exact spells.append_separates closes
          · rw [Assembly.run_append, builds.item, ok_bind, ends]
          · rw [Assembly.run_append, builds.firstItem, ok_bind, ends]
      | cons second rest =>
          obtain ⟨later, completes, run⟩ := inductionHypothesis (List.cons_ne_nil _ _)
          have goesOn (frames : List Frame) (done : List Json) :
              Assembly.run ⟨.items done :: frames, .separator item⟩ (.comma :: later) =
                Assembly.run ⟨.items (item :: done) :: frames, .value⟩ later := rfl
          refine ⟨first ++ [.comma] ++ later, ?_, fun frames done => ⟨?_, ?_⟩⟩
          · rw [List.intercalate_cons_cons, List.append_assoc]
            exact (spells.append_separates separates).append completes
          · rw [List.append_assoc, Assembly.run_append, builds.item, ok_bind, List.singleton_append,
              goesOn, (run _ _).1, List.reverse_cons, List.append_assoc, List.singleton_append]
          · rw [List.append_assoc, Assembly.run_append, builds.firstItem, ok_bind,
              List.singleton_append, goesOn, (run _ _).1, List.reverse_cons, List.append_assoc,
              List.singleton_append]

theorem denotes_arr {items : List Json} (opens : Separates opening [.openBracket])
    (separates : Separates separator [.comma]) (closes : Separates close [.closeBracket])
    (denotes : List.Forall₂ Denotes texts items) (filled : items ≠ []) :
    Denotes (opening ++ (separator.intercalate texts ++ close)) (.arr items) := by
  obtain ⟨made, completes, run⟩ := exists_completes_items separates closes denotes filled
  refine ⟨[.openBracket] ++ made, (opens.completes.append completes).spells, ?_⟩
  constructor
  · exact fun frames => (run frames []).2
  · exact fun frames => (run frames []).2

theorem exists_completes_fields {fields : List (String × Json)}
    (separates : Separates separator [.comma]) (closes : Separates close [.closeBrace])
    (denotes : List.Forall₂ DenotesField texts fields) (filled : fields ≠ []) :
    ∃ made, Completes (separator.intercalate texts ++ close) made ∧
      (∀ frames done, Assembly.run ⟨frames, .key done⟩ made =
        .ok ⟨frames, .separator (.obj (Keyed.ofPairs (done.reverse ++ fields)))⟩) ∧
      ∀ frames, Assembly.run ⟨frames, .firstKey⟩ made =
        .ok ⟨frames, .separator (.obj (Keyed.ofPairs fields))⟩ := by
  induction denotes with
  | nil => exact absurd rfl filled
  | @cons text field texts fields isField others inductionHypothesis =>
      obtain ⟨first, spells, later, atStart⟩ := isField
      cases others with
      | nil =>
          have ends (frames : List Frame) (done : List (String × Json)) :
              Assembly.run ⟨.fields done field.1 :: frames, .separator field.2⟩ [.closeBrace] =
                .ok ⟨frames, .separator (.obj (Keyed.ofPairs (done.reverse ++ [field])))⟩ := by
            rw [← List.reverse_cons]
            rfl
          refine ⟨first ++ [.closeBrace], ?_, fun frames done => ?_, fun frames => ?_⟩
          · rw [List.intercalate_singleton]
            exact spells.append_separates closes
          · rw [Assembly.run_append, later, ok_bind, ends]
          · rw [Assembly.run_append, atStart, ok_bind, ends]
            rfl
      | cons second rest =>
          obtain ⟨further, completes, run, -⟩ := inductionHypothesis (List.cons_ne_nil _ _)
          have goesOn (frames : List Frame) (done : List (String × Json)) :
              Assembly.run ⟨.fields done field.1 :: frames, .separator field.2⟩
                  (.comma :: further) =
                Assembly.run ⟨frames, .key (field :: done)⟩ further := rfl
          refine ⟨first ++ [.comma] ++ further, ?_, fun frames done => ?_, fun frames => ?_⟩
          · rw [List.intercalate_cons_cons, List.append_assoc]
            exact (spells.append_separates separates).append completes
          · rw [List.append_assoc, Assembly.run_append, later, ok_bind, List.singleton_append,
              goesOn, run, List.reverse_cons, List.append_assoc, List.singleton_append]
          · rw [List.append_assoc, Assembly.run_append, atStart, ok_bind, List.singleton_append,
              goesOn, run]
            rfl

theorem denotes_obj {fields : List (String × Json)} (opens : Separates opening [.openBrace])
    (separates : Separates separator [.comma]) (closes : Separates close [.closeBrace])
    (denotes : List.Forall₂ DenotesField texts fields) (filled : fields ≠ [])
    (distinct : (Keyed.keys fields).Nodup) :
    Denotes (opening ++ (separator.intercalate texts ++ close)) (.obj fields) := by
  obtain ⟨made, completes, -, run⟩ := exists_completes_fields separates closes denotes filled
  refine ⟨[.openBrace] ++ made, (opens.completes.append completes).spells, ?_⟩
  rw [Keyed.ofPairs_eq_self distinct] at run
  constructor
  · exact fun frames => run frames
  · exact fun frames => run frames

end

theorem denotes_emptyArr : Denotes "[]".toList (.arr []) := by
  refine ⟨[.openBracket, .closeBracket], ?_, ⟨fun _ => rfl, fun _ => rfl⟩⟩
  exact (separates_openBracket.append separates_closeBracket.completes).completes.spells

theorem denotes_emptyObj : Denotes "{}".toList (.obj []) := by
  refine ⟨[.openBrace, .closeBrace], ?_, ⟨fun _ => rfl, fun _ => rfl⟩⟩
  exact (separates_openBrace.append separates_closeBrace.completes).completes.spells

/-! ## Written values -/

/-- A value that can be read back once it is written: its integers are short, its other numbers are
read back, and its objects give each key once. -/
inductive IsPrintable : Json → Prop where
  | null : IsPrintable .null
  | bool (value : Bool) : IsPrintable (.bool value)
  | int {value : Int} : IsShort value → IsPrintable (.int value)
  | float {value : Binary64} :
      readWord (value.text "NaN" "Infinity") = .scalar (.float value) → IsPrintable (.float value)
  | str (value : String) : IsPrintable (.str value)
  | arr {items : List Json} : (∀ item ∈ items, IsPrintable item) → IsPrintable (.arr items)
  | obj {fields : List (String × Json)} : (Keyed.keys fields).Nodup →
      (∀ field ∈ fields, IsPrintable field.2) → IsPrintable (.obj fields)

section

variable (ascii : Bool) (level : Nat)

/-- A member over several lines. -/
def indentedField (field : String × Json) : List Char :=
  quote ascii field.1 ++ ':' :: ' ' :: indented ascii level field.2

theorem indentedItems_eq (items : List Json) : indentedItems ascii level items =
    (',' :: newLine level).intercalate (items.map (indented ascii level)) := by
  induction items with
  | nil => rfl
  | cons item rest inductionHypothesis =>
      rw [indentedItems, inductionHypothesis]
      cases rest with
      | nil => simp
      | cons second others => simp [List.intercalate_cons_cons]

theorem indentedFields_eq (fields : List (String × Json)) : indentedFields ascii level fields =
    (',' :: newLine level).intercalate (fields.map (indentedField ascii level)) := by
  induction fields with
  | nil => rfl
  | cons field rest inductionHypothesis =>
      rw [indentedFields, inductionHypothesis]
      cases rest with
      | nil => simp [indentedField]
      | cons second others => simp [indentedField, List.intercalate_cons_cons]

end

/-- A member on one line. -/
def compactField (field : String × Json) : List Char :=
  quote true field.1 ++ ':' :: ' ' :: compact field.2

theorem compactItems_eq (items : List Json) :
    compactItems items = [',', ' '].intercalate (items.map compact) := by
  induction items with
  | nil => rfl
  | cons item rest inductionHypothesis =>
      rw [compactItems, inductionHypothesis]
      cases rest with
      | nil => simp
      | cons second others => simp [List.intercalate_cons_cons]

theorem compactFields_eq (fields : List (String × Json)) :
    compactFields fields = [',', ' '].intercalate (fields.map compactField) := by
  induction fields with
  | nil => rfl
  | cons field rest inductionHypothesis =>
      rw [compactFields, inductionHypothesis]
      cases rest with
      | nil => simp [compactField]
      | cons second others => simp [compactField, List.intercalate_cons_cons]

/-- A value is read back from the lines over which it is written. -/
theorem denotes_indented {value : Json} (printable : IsPrintable value) (ascii : Bool) :
    ∀ level, Denotes (indented ascii level value) value := by
  induction printable with
  | null => exact fun _ => denotes_null
  | bool value => exact fun _ => denotes_bool ascii value
  | int short => exact fun _ => denotes_scalar (spells_int short)
  | float reads => exact fun _ => denotes_word (text_ne_nil _) (isOrdinary_text _) reads
  | str value => exact fun _ => denotes_quote ascii value
  | @arr items _ inductionHypothesis =>
      intro level
      rw [indented]
      by_cases isNil : items = []
      · subst isNil
        exact denotes_emptyArr
      · rw [if_neg (by simpa using isNil), indentedItems_eq, ← List.cons_append]
        have each : List.Forall₂ Denotes (items.map (indented ascii (level + 1))) items :=
          List.forall₂_map_left_iff.2 (List.forall₂_same.2 fun item member =>
            inductionHypothesis item member (level + 1))
        have opens := separates_openBracket.append (separates_newLine (level + 1)).completes
        have separates := separates_comma.append (separates_newLine (level + 1)).completes
        have closes := (separates_newLine level).append separates_closeBracket.completes
        have whole := denotes_arr opens separates closes each isNil
        simpa using whole
  | @obj fields distinct _ inductionHypothesis =>
      intro level
      rw [indented]
      by_cases isNil : fields = []
      · subst isNil
        exact denotes_emptyObj
      · rw [if_neg (by simpa using isNil), indentedFields_eq, ← List.cons_append]
        have each : List.Forall₂ DenotesField
            (fields.map (indentedField ascii (level + 1))) fields :=
          List.forall₂_map_left_iff.2 (List.forall₂_same.2 fun field member =>
            denotesField (inductionHypothesis field member (level + 1)))
        have opens := separates_openBrace.append (separates_newLine (level + 1)).completes
        have separates := separates_comma.append (separates_newLine (level + 1)).completes
        have closes := (separates_newLine level).append separates_closeBrace.completes
        have whole := denotes_obj opens separates closes each isNil distinct
        simpa using whole

/-- A value is read back from the line on which it is written. -/
theorem denotes_compact {value : Json} (printable : IsPrintable value) :
    Denotes (compact value) value := by
  induction printable with
  | null => exact denotes_null
  | bool value => exact denotes_bool true value
  | int short => exact denotes_scalar (spells_int short)
  | float reads => exact denotes_word (text_ne_nil _) (isOrdinary_text _) reads
  | str value => exact denotes_quote true value
  | @arr items _ inductionHypothesis =>
      rw [compact, compactItems_eq]
      by_cases isNil : items = []
      · subst isNil
        exact denotes_emptyArr
      · have each : List.Forall₂ Denotes (items.map compact) items :=
          List.forall₂_map_left_iff.2 (List.forall₂_same.2 inductionHypothesis)
        have gap : Separates [' '] [] := separates_gap rfl
        have separates := separates_comma.append gap.completes
        exact denotes_arr separates_openBracket separates separates_closeBracket each isNil
  | @obj fields distinct _ inductionHypothesis =>
      rw [compact, compactFields_eq]
      by_cases isNil : fields = []
      · subst isNil
        exact denotes_emptyObj
      · have each : List.Forall₂ DenotesField (fields.map compactField) fields :=
          List.forall₂_map_left_iff.2 (List.forall₂_same.2 fun field member =>
            denotesField (inductionHypothesis field member))
        have gap : Separates [' '] [] := separates_gap rfl
        have separates := separates_comma.append gap.completes
        exact denotes_obj separates_openBrace separates separates_closeBrace each isNil distinct

theorem read_toLines {value : Json} (printable : IsPrintable value) (ascii : Bool) :
    read (value.toLines ascii).toList = .ok value := by
  rw [toLines, String.toList_ofList]
  exact (denotes_indented printable ascii 0).read_eq

theorem read_toLine {value : Json} (printable : IsPrintable value) :
    read value.toLine.toList = .ok value := by
  rw [toLine, String.toList_ofList]
  exact (denotes_compact printable).read_eq

end ApiTools.Json
