import ApiTools.Proofs.Json.Literal
import ApiTools.Proofs.Json.Reading

/-!
# Literals tell values apart

A floating-point number has one proper form, in which reading a document stores it. Values whose
numbers are all stored like this have the same literal only if they are the same.
-/

namespace ApiTools.Json

open ApiTools.Text

/-! ## Numbers -/

mutual

/-- Every floating-point number in a value stands with the parts that are proper for it. -/
def isNormal : Json → Bool
  | .float number => number.isNormal
  | .arr items => areNormal items
  | .obj fields => haveNormal fields
  | .null | .bool _ | .int _ | .str _ => true
termination_by structural value => value

/-- Every floating-point number in some items stands with the parts that are proper for it. -/
def areNormal : List Json → Bool
  | [] => true
  | item :: rest => isNormal item && areNormal rest
termination_by structural items => items

/-- Every floating-point number in some members stands with the parts that are proper for it. -/
def haveNormal : List (String × Json) → Bool
  | [] => true
  | (_, value) :: rest => isNormal value && haveNormal rest
termination_by structural fields => fields

end

theorem isNormal_arr {items : List Json} :
    (Json.arr items).isNormal = true ↔ ∀ item ∈ items, item.isNormal = true := by
  rw [isNormal]
  induction items with
  | nil => simp [areNormal]
  | cons item rest inductionHypothesis => simp [areNormal, inductionHypothesis]

theorem isNormal_obj {fields : List (String × Json)} :
    (Json.obj fields).isNormal = true ↔ ∀ field ∈ fields, field.2.isNormal = true := by
  rw [isNormal]
  induction fields with
  | nil => simp [haveNormal]
  | cons field rest inductionHypothesis =>
      simp only [haveNormal, Bool.and_eq_true, inductionHypothesis, List.forall_mem_cons]

theorem hereditary_isNormal : Hereditary fun value => value.isNormal = true where
  null := rfl
  bool _ := rfl
  str _ := rfl
  emptyArr := rfl
  obj _ := isNormal_obj.2
  item := isNormal_arr.1
  field := isNormal_obj.1

/-! ## Reading -/

theorem isNormal_of_readUnsigned? {negative : Bool} {text : List Char} {value : Json}
    (done : readUnsigned? negative text = some value) : value.isNormal = true := by
  unfold readUnsigned? at done
  dsimp only at done
  split at done
  · cases done
  · split at done
    · exact Option.some.inj done ▸ rfl
    · obtain ⟨scale, -, rfl⟩ := Option.map_eq_some_iff.1 done
      exact Binary64.isNormal_ofDecimal _ _ _

theorem isNormal_of_readScalar? {text : List Char} {value : Json}
    (done : readScalar? text = some value) : value.isNormal = true := by
  unfold readScalar? at done
  repeat' split at done
  all_goals first
    | exact Option.some.inj done ▸ rfl
    | exact isNormal_of_readUnsigned? done

theorem composes_isNormal : Composes fun value => value.isNormal = true where
  scalar read := isNormal_of_readScalar? (readScalar?_of_readWord read)
  str _ := rfl
  arr := isNormal_arr.2
  obj _ := isNormal_obj.2

/-- Reading a document stores every number in its proper form. -/
theorem isNormal_of_read {document : List Char} {value : Json} (done : read document = .ok value) :
    value.isNormal = true :=
  composes_isNormal.of_read done

/-! ## Words -/

theorem notMem_toString {mark : Char} (isMark : mark ∈ ['.', 'e', 'n']) (value : Int) :
    mark ∉ (toString value).toList := by
  have others : ['.', 'e', 'n'].all (fun mark => !mark.isDigit && mark != '-') = true := by decide
  obtain ⟨notDigit, notMinus⟩ := Bool.and_eq_true_iff.1 (List.all_eq_true.1 others mark isMark)
  rw [toString_int, List.mem_append, not_or]
  constructor
  · split
    · exact fun member => bne_iff_ne.1 notMinus (List.mem_singleton.1 member)
    · exact List.not_mem_nil
  · intro member
    rw [Binary64.isDigits_toDigits _ mark member] at notDigit
    cases notDigit

/-- The words for numbers have no capitals, unlike all others. -/
theorem isUpper_eq_false {c : Char} (inNumber : isNumberChar c = true) : c.isUpper = false := by
  rcases isNumberChar_iff.1 inNumber with isDigit | isMark
  · have below : c.toNat ≤ 57 := by
      have bounds : 48 ≤ c.toNat ∧ c.toNat ≤ 57 := by
        simpa [Char.isDigit, UInt32.le_iff_toNat_le] using isDigit
      exact bounds.2
    cases upper : c.isUpper with
    | false => rfl
    | true =>
        have bounds : 65 ≤ c.val ∧ c.val ≤ 90 := of_decide_eq_true upper
        have above : 65 ≤ c.toNat := bounds.1
        omega
  · have marks : ['.', 'e', '+', '-', 'n', 'a', 'n', 'i', 'f'].all (!·.isUpper) = true := by decide
    have notUpper := List.all_eq_true.1 marks c isMark
    rwa [Bool.not_eq_true'] at notUpper

/-- The value is a number. -/
def isNumber : Json → Bool
  | .int _ | .float _ => true
  | _ => false

theorem isUpper_of_isNumber {value : Json} (number : isNumber value = true) :
    ∀ c ∈ value.literal, c.isUpper = false := by
  cases value with
  | int value => exact fun c member => isUpper_eq_false (isNumberChar_toString value c member)
  | float value => exact fun c member => isUpper_eq_false (isNumberChar_text value c member)
  | _ => cases number

theorem isUpper_of_isNumber_eq_false {value : Json} (word : value.shape = .word)
    (noNumber : isNumber value = false) : ∃ c ∈ value.literal, c.isUpper = true := by
  cases value with
  | null => exact ⟨'N', by decide, rfl⟩
  | bool value =>
      cases value with
      | false => exact ⟨'F', by decide, rfl⟩
      | true => exact ⟨'T', by decide, rfl⟩
  | int value => cases noNumber
  | float value => cases noNumber
  | _ => cases word

theorem isNumber_of_literal_eq {first second : Json} (word : first.shape = .word)
    (number : isNumber second = true) (same : first.literal = second.literal) :
    isNumber first = true := by
  by_contra noNumber
  obtain ⟨c, member, upper⟩ := isUpper_of_isNumber_eq_false word (Bool.eq_false_iff.2 noNumber)
  rw [same] at member
  rw [isUpper_of_isNumber number c member] at upper
  cases upper

theorem toDigits_injective {m n : Nat} (same : Nat.toDigits 10 m = Nat.toDigits 10 n) : m = n := by
  have sameValue := congrArg (fun digits => Nat.ofDigitChars 10 digits 0) same
  simpa only [Nat.ofDigitChars_ten_toDigits] using sameValue

theorem toDigits_ne_negative (m n : Nat) : Nat.toDigits 10 m ≠ '-' :: Nat.toDigits 10 n := by
  intro same
  have member : '-' ∈ Nat.toDigits 10 m := same ▸ List.mem_cons_self
  cases Binary64.isDigits_toDigits m '-' member

theorem toString_injective {first second : Int}
    (same : (toString first).toList = (toString second).toList) : first = second := by
  rw [toString_int, toString_int] at same
  by_cases negative : first < 0
  · by_cases otherNegative : second < 0
    · rw [if_pos negative, if_pos otherNegative] at same
      have sameSize := toDigits_injective (List.append_cancel_left same)
      omega
    · rw [if_pos negative, if_neg otherNegative] at same
      exact absurd same.symm (toDigits_ne_negative _ _)
  · by_cases otherNegative : second < 0
    · rw [if_neg negative, if_pos otherNegative] at same
      exact absurd same (toDigits_ne_negative _ _)
    · rw [if_neg negative, if_neg otherNegative] at same
      have sameSize := toDigits_injective (List.append_cancel_left same)
      omega

theorem toString_ne_text (value : Int) (number : Binary64) :
    (toString value).toList ≠ number.text "nan" "inf" := by
  intro same
  obtain ⟨mark, isMark, member⟩ := exists_mark_mem_text number
  rw [← same] at member
  exact notMem_toString isMark value member

theorem eq_of_literal_eq_of_isNumber {first second : Json} (number : isNumber first = true)
    (otherNumber : isNumber second = true) (normal : first.isNormal = true)
    (otherNormal : second.isNormal = true) (same : first.literal = second.literal) :
    first = second := by
  cases first with
  | int value =>
      cases second with
      | int other => rw [toString_injective same]
      | float other => exact absurd same (toString_ne_text value other)
      | _ => cases otherNumber
  | float value =>
      cases second with
      | int other => exact absurd same.symm (toString_ne_text other value)
      | float other => rw [Binary64.text_injective normal otherNormal same]
      | _ => cases otherNumber
  | _ => cases number

theorem eq_of_literal_eq_of_word {first second : Json} (word : first.shape = .word)
    (otherWord : second.shape = .word) (normal : first.isNormal = true)
    (otherNormal : second.isNormal = true) (same : first.literal = second.literal) :
    first = second := by
  cases number : isNumber first with
  | true =>
      exact eq_of_literal_eq_of_isNumber number (isNumber_of_literal_eq otherWord number same.symm)
        normal otherNormal same
  | false =>
      cases otherNumber : isNumber second with
      | true =>
          rw [isNumber_of_literal_eq word otherNumber same] at number
          cases number
      | false =>
          -- Only the three words that are no numbers are left.
          have constants : ∀ value : Json, value.shape = .word → isNumber value = false →
              value ∈ [.null, .bool false, .bool true] := by
            intro value word noNumber
            cases value with
            | null => decide
            | bool value => cases value <;> decide
            | int value => cases noNumber
            | float value => cases noNumber
            | _ => cases word
          have distinct : ∀ value ∈ [Json.null, .bool false, .bool true],
              ∀ other ∈ [Json.null, .bool false, .bool true], value.literal = other.literal →
              value = other := by decide
          exact distinct first (constants first word number) second
            (constants second otherWord otherNumber) same

/-! ## Values -/

/-- Values that have the same literal are the same, as long as their numbers are stored in the
proper form. -/
theorem eq_of_literal_eq {first second : Json} (normal : first.isNormal = true)
    (otherNormal : second.isNormal = true) (same : first.literal = second.literal) :
    first = second := by
  have sameShape : first.shape = second.shape := shape_eq (congrArg (· ++ []) same)
  induction first using Json.induction generalizing second with
  | null => exact eq_of_literal_eq_of_word rfl sameShape.symm normal otherNormal same
  | bool value => exact eq_of_literal_eq_of_word rfl sameShape.symm normal otherNormal same
  | int value => exact eq_of_literal_eq_of_word rfl sameShape.symm normal otherNormal same
  | float value => exact eq_of_literal_eq_of_word rfl sameShape.symm normal otherNormal same
  | str text =>
      cases second with
      | str other =>
          obtain ⟨rfl, -⟩ := textLiteral_append_inj (congrArg (· ++ []) same)
          rfl
      | _ => cases sameShape
  | arr items inductionHypothesis =>
      cases second with
      | arr others =>
          have sameText := congrArg (· ++ []) same
          rw [literal_arr_append, literal_arr_append] at sameText
          obtain ⟨sameItems, -⟩ :=
            eq_of_intercalate_literal (by decide) rfl rfl (List.cons.inj sameText).2
          rw [isNormal_arr] at normal otherNormal
          rw [eq_of_map_eq (fun item member other otherMember sameItem =>
            inductionHypothesis item member (normal item member) (otherNormal other otherMember)
              sameItem (shape_eq (congrArg (· ++ []) sameItem))) sameItems]
      | _ => cases sameShape
  | obj fields inductionHypothesis =>
      cases second with
      | obj others =>
          have sameText := congrArg (· ++ []) same
          rw [literal_obj_append, literal_obj_append] at sameText
          obtain ⟨sameFields, -⟩ := eq_of_intercalate_fields
            (fun _ _ _ _ _ ends otherEnds => literal_append_inj ends otherEnds)
            (List.cons.inj sameText).2
          rw [isNormal_obj] at normal otherNormal
          rw [eq_of_map_eq (fun field member other otherMember sameField => ?_) sameFields]
          obtain ⟨sameKey, sameValue⟩ := textLiteral_append_inj sameField
          have sameLiteral : field.2.literal = other.2.literal :=
            (List.append_right_inj [':', ' ']).1 sameValue
          exact Prod.ext sameKey (inductionHypothesis field member (normal field member)
            (otherNormal other otherMember) sameLiteral
            (shape_eq (congrArg (· ++ []) sameLiteral)))
      | _ => cases sameShape

end ApiTools.Json
