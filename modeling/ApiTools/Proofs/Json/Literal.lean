import ApiTools.Json.Literal
import ApiTools.Proofs.Json.RoundTrip
import ApiTools.Proofs.Json.WellKeyed
import ApiTools.Proofs.Text.Prefix

/-!
# Where literals end

A literal is read from the front: a text in quotes up to the quote that ends it, whatever it is made
of, and every other value up to its closing mark or the end of its word.
-/

namespace ApiTools.Json

open ApiTools.Text

variable {rest behind : List Char}

/-! ## Texts -/

/-- The character that some hexadecimal digits are the code of. -/
def charOfHex? (digits : List Char) : Option Char :=
  (digits.mapM hexValue?).map fun values =>
    Char.ofNat (values.foldl (fun code value => 16 * code + value) 0)

/-- The first character of the inside of a literal, and the rest. -/
def readChar? : List Char → Option (Char × List Char)
  | '\\' :: 'n' :: rest => some ('\n', rest)
  | '\\' :: 'r' :: rest => some ('\r', rest)
  | '\\' :: 't' :: rest => some ('\t', rest)
  | '\\' :: 'x' :: rest => (charOfHex? (rest.take 2)).map fun c => (c, rest.drop 2)
  | '\\' :: 'u' :: rest => (charOfHex? (rest.take 4)).map fun c => (c, rest.drop 4)
  | '\\' :: 'U' :: rest => (charOfHex? (rest.take 8)).map fun c => (c, rest.drop 8)
  | '\\' :: c :: rest => some (c, rest)
  | c :: rest => some (c, rest)
  | [] => none

theorem readChar?_of_ne {c : Char} (plain : c ≠ '\\') (rest : List Char) :
    readChar? (c :: rest) = some (c, rest) := by
  simp [readChar?, plain]

theorem foldl_digits (code count start : Nat) :
    (List.range count).reverse.foldl
        (fun done place => 16 * done + code / Nat.pow 16 place % 16) start =
      start * 16 ^ count + code % 16 ^ count := by
  induction count generalizing start with
  | zero => simp [Nat.mod_one]
  | succ count inductionHypothesis =>
      rw [List.range_succ, List.reverse_append, List.reverse_singleton, List.singleton_append,
        List.foldl_cons, inductionHypothesis, Nat.mod_pow_succ, Nat.pow_eq]
      ring

theorem charOfHex?_digits {c : Char} {count : Nat} (fits : c.toNat < 16 ^ count) :
    charOfHex? ((List.range count).reverse.map fun place =>
      hexDigit (c.toNat / Nat.pow 16 place % 16)) = some c := by
  have values : ∀ places : List Nat,
      (places.map fun place => hexDigit (c.toNat / Nat.pow 16 place % 16)).mapM hexValue? =
        some (places.map fun place => c.toNat / Nat.pow 16 place % 16) := by
    intro places
    induction places with
    | nil => rfl
    | cons place others inductionHypothesis =>
        rw [List.map_cons, List.mapM_cons, hexValue?_hexDigit, inductionHypothesis]
        rfl
  rw [charOfHex?, values, Option.map_some, List.foldl_map, foldl_digits, Nat.zero_mul,
    Nat.zero_add, Nat.mod_eq_of_lt fits, Char.ofNat_toNat]

theorem readChar?_sourceEscape (c : Char) (rest : List Char) :
    readChar? (sourceEscape c ++ rest) = some (c, rest) := by
  have small : c.toNat < 0x110000 := by
    rcases c.valid with below | above
    · exact lt_trans below (by decide)
    · exact above.2
  have read : ∀ count, c.toNat < 16 ^ count → (charOfHex? ((List.range count).reverse.map
      fun place => hexDigit (c.toNat / Nat.pow 16 place % 16))).map (fun c => (c, rest)) =
        some (c, rest) := by
    intro count fits
    rw [charOfHex?_digits fits, Option.map_some]
  unfold sourceEscape
  dsimp only
  split
  · next two => exact read 2 (by omega)
  · split
    · next four => exact read 4 (by omega)
    · exact read 8 (by omega)

/-- A character in quotes is read back, whichever way it is written. -/
theorem readChar?_sourceChar {mark : Char} (isQuote : mark = '\'' ∨ mark = '"') (c : Char)
    (rest : List Char) : readChar? (sourceChar mark c ++ rest) = some (c, rest) := by
  unfold sourceChar
  split
  · next isMarked =>
      rcases isMarked with rfl | rfl
      · rcases isQuote with rfl | rfl <;> rfl
      · rfl
  · next notMarked =>
      rw [not_or] at notMarked
      split
      · next isFeed => rw [isFeed]; rfl
      · split
        · next isReturn => rw [isReturn]; rfl
        · split
          · next isTab => rw [isTab]; rfl
          · split
            · exact readChar?_of_ne notMarked.2 rest
            · exact readChar?_sourceEscape c rest

theorem quoteMark_cases (text : List Char) : quoteMark text = '\'' ∨ quoteMark text = '"' := by
  unfold quoteMark
  split
  · exact Or.inr rfl
  · exact Or.inl rfl

theorem row_sourceChar {mark : Char} (isQuote : mark = '\'' ∨ mark = '"') :
    Row (fun _ => True) (fun _ => True) (sourceChar mark) [mark] := by
  refine ⟨fun _ _ _ => trivial, fun _ => trivial, fun c _ after later same => ?_⟩
  have notEscape : mark ≠ '\\' := by
    rcases isQuote with rfl | rfl <;> decide
  have read := readChar?_sourceChar isQuote c after
  rw [same, List.singleton_append, readChar?_of_ne notEscape, Option.some.injEq, Prod.mk.injEq]
    at read
  -- the mark itself is written behind a backslash
  rw [← read.1, sourceChar, if_pos (Or.inl rfl)] at same
  exact notEscape (List.cons.inj same).1.symm

/-- A text in quotes ends where its last quote stands. -/
theorem textLiteral_append_inj {first second : String}
    (same : textLiteral first ++ rest = textLiteral second ++ behind) :
    first = second ∧ rest = behind := by
  have opened : ∀ (text : String) (after : List Char), textLiteral text ++ after =
      quoteMark text.toList ::
        (text.toList.flatMap (sourceChar (quoteMark text.toList)) ++
          ([quoteMark text.toList] ++ after)) := by
    intro text after
    simp [textLiteral]
  rw [opened, opened] at same
  obtain ⟨sameMark, sameText⟩ := List.cons.inj same
  rw [← sameMark] at sameText
  have isQuote := quoteMark_cases first.toList
  have reads : ∀ c ∈ first.toList, ∀ d ∈ second.toList, ∀ after later, True → True →
      sourceChar (quoteMark first.toList) c ++ after =
        sourceChar (quoteMark first.toList) d ++ later → c = d ∧ after = later := by
    intro c _ d _ after later _ _ sameChar
    have read := readChar?_sourceChar isQuote c after
    rw [sameChar, readChar?_sourceChar isQuote, Option.some.injEq, Prod.mk.injEq] at read
    exact ⟨read.1.symm, read.2.symm⟩
  obtain ⟨sameChars, sameRest⟩ := (row_sourceChar isQuote).eq_of_eq (fun _ _ => trivial)
    (fun _ _ => trivial) reads sameText
  exact ⟨String.toList_injective sameChars, sameRest⟩

/-! ## Words -/

/-- The character can stand in the literal of a value without parts that is no text. -/
def isWordChar (c : Char) : Bool :=
  c.isAlphanum || c = '.' || c = '+' || c = '-'

/-- What a literal is: a word, a text in quotes, or parts in brackets. -/
inductive Shape where
  | word
  | text
  | items
  | members

/-- What the literal of a value is. -/
def shape : Json → Shape
  | .null | .bool _ | .int _ | .float _ => .word
  | .str _ => .text
  | .arr _ => .items
  | .obj _ => .members

/-- The character can stand in the literal of a number. -/
def isNumberChar (c : Char) : Bool :=
  Binary64.isNumeral c || "nanif".toList.contains c

theorem isNumberChar_of_isNumeral {c : Char} (numeral : Binary64.isNumeral c = true) :
    isNumberChar c = true := by
  rw [isNumberChar, numeral, Bool.true_or]

theorem isNumberChar_iff {c : Char} : isNumberChar c = true ↔
    c.isDigit = true ∨ c ∈ ['.', 'e', '+', '-', 'n', 'a', 'n', 'i', 'f'] := by
  simp [isNumberChar, Binary64.isNumeral, or_assoc]

theorem isWordChar_of_isNumberChar {c : Char} (inNumber : isNumberChar c = true) :
    isWordChar c = true := by
  rcases isNumberChar_iff.1 inNumber with isDigit | isMark
  · rw [isWordChar, Char.isAlphanum, isDigit, Bool.or_true]
    rfl
  · have marks : ['.', 'e', '+', '-', 'n', 'a', 'n', 'i', 'f'].all isWordChar = true := by decide
    exact List.all_eq_true.1 marks c isMark

theorem isWordChar_of_all {text : List Char} (all : text.all isWordChar = true) :
    ∀ c ∈ text, isWordChar c = true :=
  List.all_eq_true.1 all

theorem isNumberChar_toString (value : Int) :
    ∀ c ∈ (toString value).toList, isNumberChar c = true := by
  have digits := Binary64.isNumeral_of_isDigits (Binary64.isDigits_toDigits value.natAbs)
  rw [toString_int]
  refine List.forall_mem_append.2 ⟨?_, fun c member => isNumberChar_of_isNumeral (digits c member)⟩
  split
  · exact List.forall_mem_singleton.2 rfl
  · exact List.forall_mem_nil _

/-- A floating-point number is not written like an integer. -/
theorem exists_mark_mem_text (number : Binary64) :
    ∃ mark ∈ ['.', 'e', 'n'], mark ∈ number.text "nan" "inf" := by
  cases number with
  | nan => exact ⟨'n', by decide, by decide⟩
  | infinite negative => exact ⟨'n', by decide, List.mem_append_right _ (by decide)⟩
  | finite negative m q =>
      obtain ⟨mark, isMark, member⟩ := Binary64.exists_mark_mem_magnitudeText m q
      exact ⟨mark, List.mem_append_left ['n'] isMark, List.mem_append_right _ member⟩

theorem isNumberChar_text (number : Binary64) :
    ∀ c ∈ number.text "nan" "inf", isNumberChar c = true := by
  have sign (negative : Bool) : ∀ c ∈ if negative then ['-'] else [], isNumberChar c = true := by
    cases negative with
    | false => exact List.forall_mem_nil _
    | true => exact List.forall_mem_singleton.2 rfl
  cases number with
  | nan =>
      have letters : "nan".toList.all isNumberChar = true := by decide
      exact List.all_eq_true.1 letters
  | infinite negative =>
      have letters : "inf".toList.all isNumberChar = true := by decide
      exact List.forall_mem_append.2 ⟨sign negative, List.all_eq_true.1 letters⟩
  | finite negative m q =>
      have numerals := Binary64.isNumeral_magnitudeText m q
      exact List.forall_mem_append.2
        ⟨sign negative, fun c member => isNumberChar_of_isNumeral (numerals c member)⟩

theorem isWordChar_of_shape {value : Json} (word : value.shape = .word) :
    ∀ c ∈ value.literal, isWordChar c = true := by
  cases value with
  | null => exact isWordChar_of_all (by decide)
  | bool value =>
      cases value with
      | false => exact isWordChar_of_all (by decide)
      | true => exact isWordChar_of_all (by decide)
  | int value =>
      exact fun c member => isWordChar_of_isNumberChar (isNumberChar_toString value c member)
  | float value =>
      exact fun c member => isWordChar_of_isNumberChar (isNumberChar_text value c member)
  | _ => cases word

theorem literal_ne_nil {value : Json} (word : value.shape = .word) : value.literal ≠ [] := by
  cases value with
  | null => decide
  | bool value =>
      cases value with
      | false => decide
      | true => decide
  | int value =>
      have digits : Nat.toDigits 10 value.natAbs ≠ [] := Nat.toDigits_ne_nil
      rw [literal, toString_int]
      exact List.append_ne_nil_of_right_ne_nil _ digits
  | float value =>
      obtain ⟨mark, -, member⟩ := exists_mark_mem_text value
      exact List.ne_nil_of_mem member
  | _ => cases word

/-! ## First characters -/

/-- What a literal is that starts with a character. -/
def Shape.ofChar? (c : Char) : Option Shape :=
  if isWordChar c then some .word
  else if c = '\'' ∨ c = '"' then some .text
  else if c = '[' then some .items
  else if c = '\x7b' then some .members
  else none

theorem ofChar?_of_word {value : Json} (word : value.shape = .word) (after : List Char) :
    (value.literal ++ after).head?.bind Shape.ofChar? = some .word := by
  obtain ⟨c, others, spelled⟩ := List.exists_cons_of_ne_nil (literal_ne_nil word)
  have isInner := isWordChar_of_shape word c (spelled ▸ List.mem_cons_self)
  rw [spelled, List.cons_append, List.head?_cons, Option.bind_some, Shape.ofChar?, if_pos isInner]

theorem ofChar?_literal (value : Json) (after : List Char) :
    (value.literal ++ after).head?.bind Shape.ofChar? = some value.shape := by
  cases value with
  | null => exact ofChar?_of_word rfl after
  | bool value => exact ofChar?_of_word rfl after
  | int value => exact ofChar?_of_word rfl after
  | float value => exact ofChar?_of_word rfl after
  | str text =>
      rw [literal, textLiteral, List.cons_append, List.head?_cons]
      rcases quoteMark_cases text.toList with single | double
      · rw [single]; rfl
      · rw [double]; rfl
  | arr items => rfl
  | obj fields => rfl

/-- No literal starts with a mark that can stand behind one. -/
theorem head?_literal_ne (value : Json) {mark : Char} (noLiteral : Shape.ofChar? mark = none)
    (after : List Char) : (value.literal ++ after).head? ≠ some mark := by
  intro same
  have opened := ofChar?_literal value after
  rw [same, Option.bind_some, noLiteral] at opened
  cases opened

theorem shape_eq {first second : Json}
    (same : first.literal ++ rest = second.literal ++ behind) : first.shape = second.shape := by
  have opened := ofChar?_literal first rest
  rw [same, ofChar?_literal second behind, Option.some.injEq] at opened
  exact opened.symm

/-! ## Where literals end -/

/-- The text does not go on with a word. -/
def EndsWord (text : List Char) : Prop :=
  ∀ c ∈ text.head?, isWordChar c = false

theorem endsWord_of_continues {close : Char} (notInner : isWordChar close = false)
    {text : List Char} (continues : Continues close text) : EndsWord text := by
  intro c isHead
  rcases continues with comma | closed
  · obtain rfl : ',' = c := Option.some.inj (comma.symm.trans isHead)
    rfl
  · obtain rfl : close = c := Option.some.inj (closed.symm.trans isHead)
    exact notInner

/-- The literal of a member of an object. -/
def literalField (field : String × Json) : List Char :=
  textLiteral field.1 ++ ':' :: ' ' :: field.2.literal

theorem literalItems_eq (items : List Json) :
    literalItems items = ", ".toList.intercalate (items.map literal) := by
  induction items with
  | nil => rfl
  | cons item rest inductionHypothesis =>
      rw [literalItems, inductionHypothesis]
      cases rest with
      | nil => simp
      | cons second others => simp [List.intercalate_cons_cons]

theorem literalFields_eq (fields : List (String × Json)) :
    literalFields fields = ", ".toList.intercalate (fields.map literalField) := by
  induction fields with
  | nil => rfl
  | cons field rest inductionHypothesis =>
      rw [literalFields, inductionHypothesis]
      cases rest with
      | nil => simp [literalField]
      | cons second others => simp [literalField, List.intercalate_cons_cons]

theorem literal_append_inj_of_word {first second : Json} (word : first.shape = .word)
    (ends : EndsWord rest) (otherEnds : EndsWord behind)
    (same : first.literal ++ rest = second.literal ++ behind) :
    first.literal = second.literal ∧ rest = behind := by
  have otherWord : second.shape = .word := (shape_eq same).symm.trans word
  exact append_inj_of_word (isWordChar_of_shape word) (isWordChar_of_shape otherWord) ends
    otherEnds same

theorem literal_arr_append (items : List Json) (after : List Char) :
    (Json.arr items).literal ++ after =
      '[' :: (", ".toList.intercalate (items.map literal) ++ ']' :: after) := by
  rw [literal, literalItems_eq, List.cons_append, List.append_assoc, List.singleton_append]

theorem literal_obj_append (fields : List (String × Json)) (after : List Char) :
    (Json.obj fields).literal ++ after =
      '\x7b' :: (", ".toList.intercalate (fields.map literalField) ++ '\x7d' :: after) := by
  rw [literal, literalFields_eq, List.cons_append, List.append_assoc, List.singleton_append]

/-- Literals that end where they should, in a row with commas. -/
theorem eq_of_intercalate_of_ends {close : Char} (notComma : close ≠ ',')
    (noLiteral : Shape.ofChar? close = none) (notInner : isWordChar close = false)
    {values others : List Json}
    (reads : ∀ value ∈ values, ∀ other : Json, ∀ {after later : List Char}, EndsWord after →
      EndsWord later → value.literal ++ after = other.literal ++ later →
      value.literal = other.literal ∧ after = later)
    (same : ", ".toList.intercalate (values.map literal) ++ close :: rest =
      ", ".toList.intercalate (others.map literal) ++ close :: behind) :
    values.map literal = others.map literal ∧ rest = behind := by
  have notClose : ∀ values : List Json, ∀ text ∈ values.map literal, ∀ after,
      (text ++ after).head? ≠ some close := fun values =>
    List.forall_mem_map.2 fun value _ => head?_literal_ne value noLiteral
  refine eq_of_intercalate notComma (notClose values) (notClose others) ?_ same
  refine List.forall_mem_map.2 fun value member => List.forall_mem_map.2 fun other _ => ?_
  intro after later continues alsoContinues sameText
  exact reads value member other (endsWord_of_continues notInner continues)
    (endsWord_of_continues notInner alsoContinues) sameText

theorem eq_of_intercalate_fields {fields others : List (String × Json)}
    (reads : ∀ field ∈ fields, ∀ other : Json, ∀ {after later : List Char}, EndsWord after →
      EndsWord later → field.2.literal ++ after = other.literal ++ later →
      field.2.literal = other.literal ∧ after = later)
    (same : ", ".toList.intercalate (fields.map literalField) ++ '\x7d' :: rest =
      ", ".toList.intercalate (others.map literalField) ++ '\x7d' :: behind) :
    fields.map literalField = others.map literalField ∧ rest = behind := by
  have inside (field : String × Json) (after : List Char) : literalField field ++ after =
      textLiteral field.1 ++ ([':', ' '] ++ (field.2.literal ++ after)) :=
    List.append_assoc _ _ _
  have notClose : ∀ fields : List (String × Json), ∀ text ∈ fields.map literalField, ∀ after,
      (text ++ after).head? ≠ some '\x7d' := by
    intro fields
    refine List.forall_mem_map.2 fun field _ after => ?_
    rw [inside]
    exact head?_literal_ne (.str field.1) rfl _
  refine eq_of_intercalate (by decide) (notClose fields) (notClose others) ?_ same
  refine List.forall_mem_map.2 fun field member => List.forall_mem_map.2 fun other _ => ?_
  intro after later continues alsoContinues sameField
  rw [inside, inside] at sameField
  obtain ⟨sameKey, sameValue⟩ := textLiteral_append_inj sameField
  obtain ⟨sameLiteral, sameAfter⟩ := reads field member other.2
    (endsWord_of_continues rfl continues) (endsWord_of_continues rfl alsoContinues)
    (List.append_cancel_left sameValue)
  rw [literalField, literalField, sameKey, sameLiteral]
  exact ⟨rfl, sameAfter⟩

/-- The literal of a value ends before a text that does not go on with a word. -/
theorem literal_append_inj {first second : Json} (ends : EndsWord rest)
    (otherEnds : EndsWord behind) (same : first.literal ++ rest = second.literal ++ behind) :
    first.literal = second.literal ∧ rest = behind := by
  induction first using Json.induction generalizing second rest behind with
  | null => exact literal_append_inj_of_word rfl ends otherEnds same
  | bool value => exact literal_append_inj_of_word rfl ends otherEnds same
  | int value => exact literal_append_inj_of_word rfl ends otherEnds same
  | float value => exact literal_append_inj_of_word rfl ends otherEnds same
  | str text =>
      cases second with
      | str other =>
          obtain ⟨rfl, sameRest⟩ := textLiteral_append_inj same
          exact ⟨rfl, sameRest⟩
      | _ => cases shape_eq same
  | arr items inductionHypothesis =>
      cases second with
      | arr others =>
          rw [literal_arr_append, literal_arr_append] at same
          obtain ⟨sameItems, sameRest⟩ := eq_of_intercalate_of_ends (by decide) rfl rfl
            (fun item member other _ _ => inductionHypothesis item member) (List.cons.inj same).2
          rw [literal, literal, literalItems_eq, literalItems_eq, sameItems]
          exact ⟨rfl, sameRest⟩
      | _ => cases shape_eq same
  | obj fields inductionHypothesis =>
      cases second with
      | obj others =>
          rw [literal_obj_append, literal_obj_append] at same
          obtain ⟨sameFields, sameRest⟩ := eq_of_intercalate_fields
            (fun field member other _ _ => inductionHypothesis field member) (List.cons.inj same).2
          rw [literal, literal, literalFields_eq, literalFields_eq, sameFields]
          exact ⟨rfl, sameRest⟩
      | _ => cases shape_eq same

/-- Literals in a row with commas. -/
theorem eq_of_intercalate_literal {close : Char} (notComma : close ≠ ',')
    (noLiteral : Shape.ofChar? close = none) (notInner : isWordChar close = false)
    {values others : List Json}
    (same : ", ".toList.intercalate (values.map literal) ++ close :: rest =
      ", ".toList.intercalate (others.map literal) ++ close :: behind) :
    values.map literal = others.map literal ∧ rest = behind :=
  eq_of_intercalate_of_ends notComma noLiteral notInner
    (fun _ _ _ _ _ ends otherEnds => literal_append_inj ends otherEnds) same

end ApiTools.Json
