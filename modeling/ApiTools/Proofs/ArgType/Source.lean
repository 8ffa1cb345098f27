import ApiTools.Field
import ApiTools.Proofs.ArgType.Checking
import ApiTools.Proofs.Json.Literal

/-!
# Where type expressions end

No type expression is the beginning of another one: its first character says which form it has, and
its parts end where their own brackets and quotes do. So the annotation of an argument can be told
from what the compiled module says behind it.
-/

namespace ApiTools.ArgType

open ApiTools.Text

variable {rest behind : List Char}

/-! ## First characters -/

/-- The first character of a type expression. -/
def initial : ArgType → Char
  | .any => 'A'
  | .text => 's'
  | .number => 'U'
  | .flag => 'b'
  | .record => 'd'
  | .choice _ => 'L'
  | .list _ => 'l'
  | .model _ _ => 'c'

theorem head?_source (type : ArgType) (after : List Char) :
    (type.source ++ after).head? = some type.initial := by
  cases type <;> rfl

theorem initial_eq {first second : ArgType}
    (same : first.source ++ rest = second.source ++ behind) : first.initial = second.initial := by
  have sameHead := congrArg List.head? same
  rw [head?_source, head?_source, Option.some.injEq] at sameHead
  exact sameHead

/-! ## Optional types -/

/-- The type expression of something that may be required. -/
def annotated (required : Bool) (type : ArgType) : List Char :=
  if required then type.source else "Optional[".toList ++ type.source ++ [']']

theorem annotated_append_inj {required otherRequired : Bool} {type other : ArgType}
    (reads : ∀ {rest behind : List Char}, type.source ++ rest = other.source ++ behind →
      type.source = other.source ∧ rest = behind)
    (same : annotated required type ++ rest = annotated otherRequired other ++ behind) :
    required = otherRequired ∧ type.source = other.source ∧ rest = behind := by
  have notOptional : ∀ (type : ArgType) (after : List Char),
      (type.source ++ after).head? ≠ some 'O' := by
    intro type after
    rw [head?_source]
    cases type <;> simp [initial]
  cases required with
  | true =>
      cases otherRequired with
      | true => exact ⟨rfl, reads same⟩
      | false => exact absurd (congrArg List.head? same) (notOptional type rest)
  | false =>
      cases otherRequired with
      | true => exact absurd (congrArg List.head? same).symm (notOptional other behind)
      | false =>
          have inside (type : ArgType) (after : List Char) : annotated false type ++ after =
              "Optional[".toList ++ (type.source ++ (']' :: after)) := by
            rw [annotated, if_neg (by decide), List.append_assoc, List.append_assoc,
              List.singleton_append]
          rw [inside, inside] at same
          obtain ⟨sameSource, sameRest⟩ := reads (List.append_cancel_left same)
          exact ⟨rfl, sameSource, (List.cons.inj sameRest).2⟩

/-! ## Parts -/

/-- A property of an object type as a member of a mapping. -/
def sourceProperty (property : String × Bool × ArgType) : List Char :=
  Json.textLiteral property.1 ++ (": (".toList ++ (annotated property.2.1 property.2.2 ++
    if property.2.1 then ", ...)".toList else ", None)".toList))

theorem sourceProperties_cons (name : String) (required : Bool) (type : ArgType)
    (others : List (String × Bool × ArgType)) :
    sourceProperties ((name, required, type) :: others) =
      Json.textLiteral name ++ ": (".toList ++
        (if required then source type ++ ", ...)".toList
          else "Optional[".toList ++ source type ++ "], None)".toList) ++
        (if others.isEmpty then [] else ", ".toList ++ sourceProperties others) :=
  rfl

theorem sourceProperty_mk (name : String) (required : Bool) (type : ArgType) :
    sourceProperty (name, required, type) = Json.textLiteral name ++ ": (".toList ++
      (if required then source type ++ ", ...)".toList
        else "Optional[".toList ++ source type ++ "], None)".toList) := by
  have closing : "], None)".toList = [']'] ++ ", None)".toList := rfl
  cases required with
  | true => exact (List.append_assoc _ _ _).symm
  | false =>
      rw [sourceProperty, annotated, closing, if_neg Bool.false_ne_true, if_neg Bool.false_ne_true,
        if_neg Bool.false_ne_true]
      simp only [List.append_assoc]

theorem sourceProperties_eq (properties : List (String × Bool × ArgType)) :
    sourceProperties properties = ", ".toList.intercalate (properties.map sourceProperty) := by
  induction properties with
  | nil => rfl
  | cons property others inductionHypothesis =>
      obtain ⟨name, required, type⟩ := property
      rw [sourceProperties_cons, inductionHypothesis, ← sourceProperty_mk]
      cases others with
      | nil => simp
      | cons second more => simp [List.intercalate_cons_cons]

theorem sourceProperty_append_inj {property other : String × Bool × ArgType}
    (reads : ∀ {rest behind : List Char}, property.2.2.source ++ rest = other.2.2.source ++ behind →
      property.2.2.source = other.2.2.source ∧ rest = behind)
    (same : sourceProperty property ++ rest = sourceProperty other ++ behind) :
    sourceProperty property = sourceProperty other ∧ rest = behind := by
  have inside (property : String × Bool × ArgType) (after : List Char) :
      sourceProperty property ++ after = Json.textLiteral property.1 ++ (": (".toList ++
        (annotated property.2.1 property.2.2 ++
          ((if property.2.1 then ", ...)".toList else ", None)".toList) ++ after))) := by
    rw [sourceProperty, List.append_assoc, List.append_assoc, List.append_assoc]
  rw [inside, inside] at same
  obtain ⟨sameName, sameTyped⟩ := Json.textLiteral_append_inj same
  obtain ⟨sameRequired, sameSource, sameRest⟩ :=
    annotated_append_inj reads (List.append_cancel_left sameTyped)
  rw [sameRequired] at sameRest
  rw [sourceProperty, sourceProperty, annotated, annotated, sameName, sameRequired, sameSource]
  exact ⟨rfl, List.append_cancel_left sameRest⟩

/-! ## Expressions -/

theorem source_choice_append (values : List Json) (after : List Char) :
    (ArgType.choice values).source ++ after = "Literal[".toList ++
      (", ".toList.intercalate (values.map Json.literal) ++ ']' :: after) := by
  have parts : (ArgType.choice values).source = "Literal[".toList ++
      ", ".toList.intercalate (values.map Json.literal) ++ [']'] := rfl
  rw [parts, List.append_assoc, List.append_assoc, List.singleton_append]

theorem source_list_append (item : ArgType) (after : List Char) :
    (ArgType.list item).source ++ after = "list[".toList ++ (item.source ++ ']' :: after) := by
  have parts : (ArgType.list item).source = "list[".toList ++ item.source ++ [']'] := rfl
  rw [parts, List.append_assoc, List.append_assoc, List.singleton_append]

theorem source_model_append (name : String) (properties : List (String × Bool × ArgType))
    (after : List Char) :
    (ArgType.model name properties).source ++ after =
      "create_model(".toList ++ (Json.textLiteral name ++
        (", __config__=PASSTHROUGH, **\x7b".toList ++
          (", ".toList.intercalate (properties.map sourceProperty) ++
            '\x7d' :: ')' :: after))) := by
  have parts : (ArgType.model name properties).source =
      "create_model(".toList ++ Json.textLiteral name ++
        ", __config__=PASSTHROUGH, **\x7b".toList ++ sourceProperties properties ++ ['\x7d', ')'] :=
    rfl
  rw [parts, sourceProperties_eq]
  simp only [List.append_assoc, List.cons_append, List.nil_append]

/-- A type expression ends where its form says. -/
theorem source_append_inj {first second : ArgType}
    (same : first.source ++ rest = second.source ++ behind) :
    first.source = second.source ∧ rest = behind := by
  have sameInitial := initial_eq same
  induction first using ArgType.induction generalizing second rest behind with
  | any =>
      cases second with
      | any => exact ⟨rfl, List.append_cancel_left same⟩
      | _ => simp [initial] at sameInitial
  | text =>
      cases second with
      | text => exact ⟨rfl, List.append_cancel_left same⟩
      | _ => simp [initial] at sameInitial
  | number =>
      cases second with
      | number => exact ⟨rfl, List.append_cancel_left same⟩
      | _ => simp [initial] at sameInitial
  | flag =>
      cases second with
      | flag => exact ⟨rfl, List.append_cancel_left same⟩
      | _ => simp [initial] at sameInitial
  | record =>
      cases second with
      | record => exact ⟨rfl, List.append_cancel_left same⟩
      | _ => simp [initial] at sameInitial
  | choice values =>
      cases second with
      | choice others =>
          rw [source_choice_append, source_choice_append] at same
          obtain ⟨sameChoices, sameRest⟩ :=
            Json.eq_of_intercalate_literal (by decide) rfl rfl (List.append_cancel_left same)
          have sameSource := source_choice_append values []
          rw [sameChoices, ← source_choice_append, List.append_nil, List.append_nil] at sameSource
          exact ⟨sameSource, sameRest⟩
      | _ => simp [initial] at sameInitial
  | list item inductionHypothesis =>
      cases second with
      | list other =>
          rw [source_list_append, source_list_append] at same
          have sameItem := List.append_cancel_left same
          obtain ⟨sameItemSource, sameRest⟩ := inductionHypothesis sameItem (initial_eq sameItem)
          have sameSource := source_list_append item []
          rw [sameItemSource, ← source_list_append, List.append_nil, List.append_nil] at sameSource
          exact ⟨sameSource, (List.cons.inj sameRest).2⟩
      | _ => simp [initial] at sameInitial
  | model name properties inductionHypothesis =>
      cases second with
      | model otherName others =>
          rw [source_model_append, source_model_append] at same
          obtain ⟨rfl, sameBehind⟩ := Json.textLiteral_append_inj (List.append_cancel_left same)
          have notClose : ∀ properties : List (String × Bool × ArgType),
              ∀ text ∈ properties.map sourceProperty, ∀ after,
              (text ++ after).head? ≠ some '\x7d' := fun properties =>
            List.forall_mem_map.2 fun property _ after => by
              rw [sourceProperty, List.append_assoc]
              exact Json.head?_literal_ne (.str property.1) rfl _
          have reads : ∀ text ∈ properties.map sourceProperty,
              ∀ other ∈ others.map sourceProperty, ∀ after later,
              Continues '\x7d' after → Continues '\x7d' later →
              text ++ after = other ++ later → text = other ∧ after = later := by
            refine List.forall_mem_map.2 fun property member => List.forall_mem_map.2 ?_
            intro other _ after later _ _ sameProperty
            refine sourceProperty_append_inj (fun sameSource => ?_) sameProperty
            exact inductionHypothesis property member sameSource (initial_eq sameSource)
          obtain ⟨sameProperties, sameRest⟩ := eq_of_intercalate (by decide) (notClose properties)
            (notClose others) reads (List.append_cancel_left sameBehind)
          have sameSource := source_model_append name properties []
          rw [sameProperties, ← source_model_append, List.append_nil, List.append_nil] at sameSource
          exact ⟨sameSource, (List.cons.inj sameRest).2⟩
      | _ => simp [initial] at sameInitial

end ApiTools.ArgType
