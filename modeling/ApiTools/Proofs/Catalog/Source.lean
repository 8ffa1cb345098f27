import ApiTools.Proofs.ArgType.Source
import ApiTools.Proofs.Catalog.Module
import ApiTools.Proofs.Catalog.Version
import ApiTools.Proofs.Json.Normal

/-!
# What the compiled module says of its tools

The source of the compiled module is read from the front: every block of lines, every member of a
block and every literal ends where its own form says, whatever texts the description puts into it.
So two catalogs with the same source have the same tools, if their versions are single lines and no
path is listed twice.
-/

namespace ApiTools

open Text Binding

/-! ## What the module keeps -/

/-- The module says the same of two fields. -/
structure Field.Alike (field other : Field) : Prop where
  name : field.name = other.name
  annotation : field.annotation = other.annotation
  default : field.default = other.default
  description : field.description = other.description

/-- The module says the same of two tools. -/
structure Tool.Alike (tool other : Tool) : Prop where
  name : tool.name = other.name
  description : tool.description = other.description
  fields : List.Forall₂ Field.Alike tool.fields other.fields
  hints : tool.hints = other.hints
  handler : tool.handler = other.handler

namespace Catalog

variable {rest behind : List Char}

/-! ## Tuples -/

theorem endsWord_comma (after : List Char) : Json.EndsWord (',' :: after) :=
  ends_cons rfl after

theorem tupleLiteral_of_ne {values : List Json} (noSingle : values.length ≠ 1)
    (after : List Char) : tupleLiteral values ++ after =
      '(' :: (", ".toList.intercalate (values.map Json.literal) ++ ')' :: after) := by
  have parts : tupleLiteral values =
      '(' :: (", ".toList.intercalate (values.map Json.literal) ++ [')']) := by
    cases values with
    | nil => rfl
    | cons first others =>
        cases others with
        | nil => exact absurd rfl noSingle
        | cons second more => rfl
  rw [parts, List.cons_append, List.append_assoc, List.singleton_append]

theorem tupleLiteral_singleton (value : Json) (after : List Char) :
    tupleLiteral [value] ++ after = '(' :: (value.literal ++ ',' :: ')' :: after) := by
  rw [tupleLiteral, List.cons_append, List.append_assoc]
  rfl

/-- A single value in brackets has a comma behind it, as no other row of values has. -/
theorem tupleLiteral_singleton_ne (value : Json) {values : List Json}
    (noSingle : values.length ≠ 1) :
    tupleLiteral [value] ++ rest ≠ tupleLiteral values ++ behind := by
  intro same
  rw [tupleLiteral_singleton, tupleLiteral_of_ne noSingle] at same
  have sameInside := (List.cons.inj same).2
  cases values with
  | nil =>
      have closed : (value.literal ++ ',' :: ')' :: rest).head? = some ')' := by
        rw [sameInside]
        rfl
      exact Json.head?_literal_ne value rfl _ closed
  | cons first others =>
      cases others with
      | nil => exact noSingle rfl
      | cons second more =>
          rw [List.map_cons, List.map_cons, intercalate_cons_append] at sameInside
          obtain ⟨-, sameRest⟩ :=
            Json.literal_append_inj (endsWord_comma _) (endsWord_comma _) sameInside
          cases (List.cons.inj (List.cons.inj sameRest).2).1

theorem tupleLiteral_append_inj {values others : List Json}
    (same : tupleLiteral values ++ rest = tupleLiteral others ++ behind) :
    values.map Json.literal = others.map Json.literal ∧ rest = behind := by
  by_cases single : values.length = 1
  · obtain ⟨value, rfl⟩ := List.length_eq_one_iff.1 single
    by_cases otherSingle : others.length = 1
    · obtain ⟨other, rfl⟩ := List.length_eq_one_iff.1 otherSingle
      rw [tupleLiteral_singleton, tupleLiteral_singleton] at same
      obtain ⟨sameLiteral, sameRest⟩ := Json.literal_append_inj (endsWord_comma _)
        (endsWord_comma _) (List.cons.inj same).2
      rw [List.map_singleton, List.map_singleton, sameLiteral]
      exact ⟨rfl, (List.cons.inj (List.cons.inj sameRest).2).2⟩
    · exact absurd same (tupleLiteral_singleton_ne value otherSingle)
  · by_cases otherSingle : others.length = 1
    · obtain ⟨other, rfl⟩ := List.length_eq_one_iff.1 otherSingle
      exact absurd same.symm (tupleLiteral_singleton_ne other single)
    · rw [tupleLiteral_of_ne single, tupleLiteral_of_ne otherSingle] at same
      exact Json.eq_of_intercalate_literal (by decide) rfl rfl (List.cons.inj same).2

/-! ## Lines -/

theorem unlines_nil : unlines [] = [] :=
  rfl

theorem unlines_cons (first : List Char) (others : List (List Char)) :
    unlines (first :: others) = first ++ '\n' :: unlines others := by
  rw [unlines, List.flatMap_cons, List.append_assoc]
  rfl

theorem eq_behind_line {first : List Char}
    (same : first ++ '\n' :: rest = first ++ '\n' :: behind) : rest = behind :=
  (List.cons.inj (List.append_cancel_left same)).2

section

variable {name : String} {value other : List Char} {Same : Prop}

theorem member_append_inj {start : List Char}
    (reads : ∀ {after later : List Char}, value ++ ',' :: after = other ++ ',' :: later →
      Same ∧ ',' :: after = ',' :: later)
    (same : start ++ (value ++ [',']) ++ '\n' :: rest =
      start ++ (other ++ [',']) ++ '\n' :: behind) : Same ∧ rest = behind := by
  rw [List.append_assoc, List.append_assoc, List.append_assoc, List.append_assoc] at same
  obtain ⟨sameValue, sameRest⟩ := reads (List.append_cancel_left same)
  exact ⟨sameValue, (List.cons.inj (List.cons.inj sameRest).2).2⟩

/-- A member of a tool, if its value can be told from the comma behind it. -/
theorem toolMember_append_inj
    (reads : ∀ {after later : List Char}, value ++ ',' :: after = other ++ ',' :: later →
      Same ∧ ',' :: after = ',' :: later)
    (same : toolMember name value ++ '\n' :: rest = toolMember name other ++ '\n' :: behind) :
    Same ∧ rest = behind := by
  have parts (value : List Char) : toolMember name value =
      line 8 [['"'], name.toList, "\": ".toList] ++ (value ++ [',']) := by
    simp only [toolMember, line, List.flatten_cons, List.flatten_nil, List.append_assoc,
      List.append_nil]
  rw [parts, parts] at same
  exact member_append_inj reads same

/-- A member of a handler, if its value can be told from the comma behind it. -/
theorem handlerMember_append_inj
    (reads : ∀ {after later : List Char}, value ++ ',' :: after = other ++ ',' :: later →
      Same ∧ ',' :: after = ',' :: later)
    (same : handlerMember name value ++ '\n' :: rest = handlerMember name other ++ '\n' :: behind) :
    Same ∧ rest = behind := by
  have parts (value : List Char) : handlerMember name value =
      line 12 [name.toList, ['=']] ++ (value ++ [',']) := by
    simp only [handlerMember, line, List.flatten_cons, List.flatten_nil, List.append_assoc,
      List.append_nil]
  rw [parts, parts] at same
  exact member_append_inj reads same

end

/-! ## Fields -/

/-- The description of a field in its line. -/
def described (description : String) : List Char :=
  if description = "" then [] else ", description=".toList ++ Json.textLiteral description

theorem described_append_inj {description other : String}
    (same : described description ++ (")),".toList ++ rest) =
      described other ++ (")),".toList ++ behind)) : description = other ∧ rest = behind := by
  have notClose : ∀ {description : String} (_ : description ≠ "") (after : List Char),
      (described description ++ after).head? = some ',' := by
    intro description filled after
    rw [described, if_neg filled]
    rfl
  by_cases empty : description = ""
  · by_cases otherEmpty : other = ""
    · rw [empty, otherEmpty] at same
      rw [empty, otherEmpty]
      exact ⟨rfl, List.append_cancel_left (List.append_cancel_left same)⟩
    · have closed := notClose otherEmpty (")),".toList ++ behind)
      rw [← same, empty] at closed
      cases closed
  · by_cases otherEmpty : other = ""
    · have closed := notClose empty (")),".toList ++ rest)
      rw [same, otherEmpty] at closed
      cases closed
    · rw [described, described, if_neg empty, if_neg otherEmpty, List.append_assoc,
        List.append_assoc] at same
      obtain ⟨sameDescription, sameRest⟩ :=
        Json.textLiteral_append_inj (List.append_cancel_left same)
      exact ⟨sameDescription, List.append_cancel_left sameRest⟩

theorem fieldLine_append (field : Field) (after : List Char) :
    fieldLine field ++ '\n' :: after = List.replicate 8 ' ' ++ (field.name.literal ++
      (": (".toList ++ (ArgType.annotated field.required field.type ++ (", Field(".toList ++
        (field.default.toList ++ (described field.description ++
          (")),".toList ++ '\n' :: after))))))) := by
  simp only [fieldLine, line, described, Field.annotation, ArgType.annotated, List.flatten_cons,
    List.flatten_nil, List.append_assoc, List.append_nil]

/-- A field can be read from its line. -/
theorem fieldLine_append_inj {field other : Field} (normal : field.name.isNormal = true)
    (otherNormal : other.name.isNormal = true)
    (same : fieldLine field ++ '\n' :: rest = fieldLine other ++ '\n' :: behind) :
    field.Alike other ∧ rest = behind := by
  rw [fieldLine_append, fieldLine_append] at same
  have endsWord (after : List Char) : Json.EndsWord (": (".toList ++ after) :=
    ends_cons rfl (" (".toList ++ after)
  obtain ⟨sameName, sameTyped⟩ :=
    Json.literal_append_inj (endsWord _) (endsWord _) (List.append_cancel_left same)
  obtain ⟨sameRequired, sameSource, sameSettled⟩ :=
    ArgType.annotated_append_inj ArgType.source_append_inj (List.append_cancel_left sameTyped)
  have sameDefault : field.default = other.default := by
    rw [Field.default, Field.default, sameRequired]
  rw [sameDefault] at sameSettled
  obtain ⟨sameDescription, sameRest⟩ :=
    described_append_inj (List.append_cancel_left (List.append_cancel_left sameSettled))
  refine ⟨⟨Json.eq_of_literal_eq normal otherNormal sameName, ?_, sameDefault, sameDescription⟩,
    (List.cons.inj sameRest).2⟩
  rw [Field.annotation, Field.annotation, sameRequired, sameSource]

theorem row_fieldLine :
    Row (fun _ => True) (fun _ => True) (fun field => fieldLine field ++ ['\n'])
      (line 4 ["\x7d,".toList]) := by
  refine ⟨fun _ _ _ => trivial, fun _ => trivial, fun field _ after later same => ?_⟩
  -- The line of a field has eight blanks ahead of it, the mark that ends the fields four.
  have fifth : some ' ' = some '\x7d' := congrArg (fun text => text[4]?) same
  exact absurd fifth (by decide)

/-- The fields of a model can be read from their lines. -/
theorem fieldLines_append_inj {fields others : List Field}
    (normal : ∀ field ∈ fields, field.name.isNormal = true)
    (otherNormal : ∀ other ∈ others, other.name.isNormal = true)
    (same : unlines (fields.map fieldLine) ++ (line 4 ["\x7d,".toList] ++ rest) =
      unlines (others.map fieldLine) ++ (line 4 ["\x7d,".toList] ++ behind)) :
    List.Forall₂ Field.Alike fields others ∧ rest = behind := by
  rw [unlines, unlines, List.flatMap_map, List.flatMap_map] at same
  refine row_fieldLine.forall₂_of_eq (fun _ _ => trivial) (fun _ _ => trivial) ?_ same
  intro field member other isOther after later _ _ sameField
  rw [List.append_assoc, List.append_assoc] at sameField
  exact fieldLine_append_inj (normal field member) (otherNormal other isOther) sameField

/-! ## Argument models -/

theorem modelLines_append (tool : Tool) (after : List Char) :
    unlines (modelLines tool) ++ after = '\n' :: (tool.modelName.toList ++
      (" = create_model(".toList ++ '\n' :: (line 4 [Json.textLiteral tool.modelName, [',']] ++
        '\n' :: (line 4 ["**\x7b".toList] ++ '\n' :: (unlines (tool.fields.map fieldLine) ++
          (line 4 ["\x7d,".toList] ++ '\n' :: ')' :: '\n' :: after)))))) := by
  simp only [modelLines, unlines_append, unlines_cons, unlines_nil, line, List.replicate_zero,
    List.flatten_cons, List.flatten_nil, List.append_assoc, List.nil_append, List.append_nil,
    List.cons_append]

/-- The name of the tool's model is a word. -/
def HasWordModel (tool : Tool) : Prop :=
  ∀ c ∈ tool.modelName.toList, c.isAlpha = true

/-- The fields of a tool can be read from its model. -/
theorem modelLines_append_inj {tool other : Tool} (word : HasWordModel tool)
    (otherWord : HasWordModel other) (normal : ∀ field ∈ tool.fields, field.name.isNormal = true)
    (otherNormal : ∀ field ∈ other.fields, field.name.isNormal = true)
    (same : unlines (modelLines tool) ++ rest = unlines (modelLines other) ++ behind) :
    List.Forall₂ Field.Alike tool.fields other.fields ∧ rest = behind := by
  rw [modelLines_append, modelLines_append] at same
  have endsWord (after : List Char) :
      ∀ c ∈ (" = create_model(".toList ++ after).head?, c.isAlpha = false :=
    ends_cons rfl ("= create_model(".toList ++ after)
  obtain ⟨sameName, sameBehind⟩ := append_inj_of_word word otherWord (endsWord _) (endsWord _)
    (List.cons.inj same).2
  rw [String.toList_injective sameName] at sameBehind
  have sameFields := eq_behind_line (eq_behind_line (eq_behind_line sameBehind))
  obtain ⟨alike, sameRest⟩ := fieldLines_append_inj normal otherNormal sameFields
  exact ⟨alike, (List.cons.inj (List.cons.inj (List.cons.inj sameRest).2).2).2⟩

theorem row_modelLines :
    Row HasWordModel (fun _ => True) (fun tool => unlines (modelLines tool)) ['\n', '\n'] := by
  refine ⟨fun _ _ _ => trivial, fun _ => trivial, fun tool word after later same => ?_⟩
  rw [modelLines_append] at same
  have sameName := (List.cons.inj same).2
  cases named : tool.modelName.toList with
  | nil =>
      rw [named] at sameName
      cases (List.cons.inj sameName).1
  | cons c others =>
      have isLetter := word c (named ▸ List.mem_cons_self)
      rw [named] at sameName
      rw [(List.cons.inj sameName).1] at isLetter
      cases isLetter

/-! ## Handlers -/

theorem hints_of_literal_eq {hints others : List Hint}
    (same : (Json.obj (hints.map fun hint => (hint.label, .bool true))).literal =
      (Json.obj (others.map fun hint => (hint.label, .bool true))).literal) : hints = others := by
  have normal (hints : List Hint) :
      (Json.obj (hints.map fun hint => (hint.label, .bool true))).isNormal = true :=
    Json.isNormal_obj.2 (List.forall_mem_map.2 fun _ _ => rfl)
  have sameFields := Json.obj.inj (Json.eq_of_literal_eq (normal hints) (normal others) same)
  have labels : ∀ hint other : Hint, hint.label = other.label → hint = other := by
    intro hint other
    cases hint <;> cases other <;> decide
  exact eq_of_map_eq (fun hint _ other _ sameField => labels hint other
    (congrArg Prod.fst sameField)) sameFields

theorem flatten_of_literal_eq {flatten others : List (String × String)}
    (same : (Json.obj (flatten.map fun pair => (pair.1, .str pair.2))).literal =
      (Json.obj (others.map fun pair => (pair.1, .str pair.2))).literal) : flatten = others := by
  have normal (flatten : List (String × String)) :
      (Json.obj (flatten.map fun pair => (pair.1, .str pair.2))).isNormal = true :=
    Json.isNormal_obj.2 (List.forall_mem_map.2 fun _ _ => rfl)
  have sameFields := Json.obj.inj (Json.eq_of_literal_eq (normal flatten) (normal others) same)
  refine eq_of_map_eq (fun pair _ other _ samePair => ?_) sameFields
  obtain ⟨sameName, sameProperty⟩ := Prod.mk.inj samePair
  exact Prod.ext sameName (Json.str.inj sameProperty)

/-- The line that refers to the formatter of a tool, if it has one. -/
def formatterLines (tool : String) (formatter : Option Formatter) : List (List Char) :=
  if formatter.isSome then
    [handlerMember "formatter" ("FORMATTERS[".toList ++ Json.textLiteral tool ++ [']'])]
  else []

theorem formatterLines_append_inj {tool : String} {formatter other : Option Formatter}
    (same : unlines (formatterLines tool formatter) ++ (line 8 ["),".toList] ++ rest) =
      unlines (formatterLines tool other) ++ (line 8 ["),".toList] ++ behind)) : rest = behind := by
  -- A member has twelve blanks ahead of it, the mark that ends the handler eight.
  have isMember : ∀ {formatter : Option Formatter} (_ : formatter.isSome = true)
      (after : List Char), (unlines (formatterLines tool formatter) ++ after)[8]? = some ' ' := by
    intro formatter present after
    rw [formatterLines, if_pos present]
    rfl
  have isClose : ∀ {formatter : Option Formatter} (_ : formatter.isSome = false)
      (after : List Char), (unlines (formatterLines tool formatter) ++
        (line 8 ["),".toList] ++ after))[8]? = some ')' := by
    intro formatter absent after
    rw [formatterLines, absent]
    rfl
  cases present : formatter.isSome with
  | true =>
      cases otherPresent : other.isSome with
      | true =>
          rw [formatterLines, formatterLines, if_pos present, if_pos otherPresent] at same
          exact List.append_cancel_left (List.append_cancel_left same)
      | false =>
          have ninth := isMember present (line 8 ["),".toList] ++ rest)
          rw [same, isClose otherPresent] at ninth
          cases ninth
  | false =>
      cases otherPresent : other.isSome with
      | true =>
          have ninth := isMember otherPresent (line 8 ["),".toList] ++ behind)
          rw [← same, isClose present] at ninth
          cases ninth
      | false =>
          rw [formatterLines, formatterLines, present, otherPresent] at same
          exact List.append_cancel_left (List.append_cancel_left same)

theorem handlerLines_append (tool : String) (handler : Handler) (after : List Char) :
    unlines (handlerLines tool handler) ++ after =
      handlerMember "tool_name" (Json.textLiteral handler.toolName) ++ '\n' ::
        (handlerMember "method" (Json.textLiteral handler.method) ++ '\n' ::
        (handlerMember "path" (Json.textLiteral handler.path) ++ '\n' ::
        (handlerMember "query_keys" (tupleLiteral handler.queryKeys) ++ '\n' ::
        (handlerMember "flatten"
          (Json.obj (handler.flatten.map fun pair => (pair.1, .str pair.2))).literal ++ '\n' ::
        (handlerMember "response_type" (Json.textLiteral handler.responseFormat) ++ '\n' ::
        (unlines (formatterLines tool handler.formatter) ++ after)))))) := by
  simp only [handlerLines, formatterLines, unlines_cons, List.append_assoc, List.cons_append,
    List.nil_append]

/-- A handler can be read from its lines, but for the formatter that it refers to. -/
theorem handlerLines_append_inj {tool : String} {handler other : Handler}
    (normal : ∀ key ∈ handler.queryKeys, key.isNormal = true)
    (otherNormal : ∀ key ∈ other.queryKeys, key.isNormal = true)
    (same : unlines (handlerLines tool handler) ++ (line 8 ["),".toList] ++ rest) =
      unlines (handlerLines tool other) ++ (line 8 ["),".toList] ++ behind)) :
    { handler with formatter := none } = { other with formatter := none } ∧ rest = behind := by
  rw [handlerLines_append, handlerLines_append] at same
  obtain ⟨sameTool, same⟩ := handlerMember_append_inj Json.textLiteral_append_inj same
  obtain ⟨sameMethod, same⟩ := handlerMember_append_inj Json.textLiteral_append_inj same
  obtain ⟨samePath, same⟩ := handlerMember_append_inj Json.textLiteral_append_inj same
  obtain ⟨sameKeys, same⟩ := handlerMember_append_inj tupleLiteral_append_inj same
  obtain ⟨sameFlatten, same⟩ := handlerMember_append_inj
    (Json.literal_append_inj (endsWord_comma _) (endsWord_comma _)) same
  obtain ⟨sameFormat, same⟩ := handlerMember_append_inj Json.textLiteral_append_inj same
  refine ⟨?_, formatterLines_append_inj same⟩
  have sameQueryKeys : handler.queryKeys = other.queryKeys :=
    eq_of_map_eq (fun key member otherKey isOther =>
      Json.eq_of_literal_eq (normal key member) (otherNormal otherKey isOther)) sameKeys
  rw [sameTool, sameMethod, samePath, sameQueryKeys, flatten_of_literal_eq sameFlatten, sameFormat]

/-! ## Tools -/

theorem toolLines_append (tool : Tool) (after : List Char) :
    unlines (toolLines tool) ++ after =
      line 4 [['\x7b']] ++ '\n' ::
        (toolMember "name" (Json.textLiteral tool.name) ++ '\n' ::
        (toolMember "description" (Json.textLiteral tool.description) ++ '\n' ::
        (toolMember "arguments" tool.modelName.toList ++ '\n' ::
        (toolMember "annotations"
          (Json.obj (tool.hints.map fun hint => (hint.label, .bool true))).literal ++ '\n' ::
        (line 8 ["\"handler\": ToolHandler(".toList] ++ '\n' ::
        (unlines (handlerLines tool.name tool.handler) ++ (line 8 ["),".toList] ++ '\n' ::
        (line 4 ["\x7d,".toList] ++ '\n' :: after)))))))) := by
  simp only [toolLines, unlines_append, unlines_cons, unlines_nil, List.append_assoc,
    List.cons_append, List.nil_append]

/-- A tool can be read from its lines, but for its model and the formatter that it refers to. -/
theorem toolLines_append_inj {tool other : Tool}
    (normal : ∀ key ∈ tool.handler.queryKeys, key.isNormal = true)
    (otherNormal : ∀ key ∈ other.handler.queryKeys, key.isNormal = true)
    (same : unlines (toolLines tool) ++ rest = unlines (toolLines other) ++ behind) :
    (tool.name = other.name ∧ tool.description = other.description ∧ tool.hints = other.hints ∧
      { tool.handler with formatter := none } = { other.handler with formatter := none }) ∧
      rest = behind := by
  rw [toolLines_append, toolLines_append] at same
  obtain ⟨sameName, same⟩ := toolMember_append_inj Json.textLiteral_append_inj
    (eq_behind_line same)
  obtain ⟨sameDescription, same⟩ := toolMember_append_inj Json.textLiteral_append_inj same
  rw [Tool.modelName, Tool.modelName, sameName] at same
  obtain ⟨sameHints, same⟩ := toolMember_append_inj
    (Json.literal_append_inj (endsWord_comma _) (endsWord_comma _)) (eq_behind_line same)
  obtain ⟨sameHandler, sameRest⟩ :=
    handlerLines_append_inj normal otherNormal (eq_behind_line same)
  exact ⟨⟨sameName, sameDescription, hints_of_literal_eq sameHints, sameHandler⟩,
    eq_behind_line (List.cons.inj sameRest).2⟩

theorem row_toolLines :
    Row (fun _ => True) (fun _ => True) (fun tool => unlines (toolLines tool)) [']'] := by
  refine ⟨fun _ _ _ => trivial, fun _ => trivial, fun tool _ after later same => ?_⟩
  rw [toolLines_append] at same
  have first : some ' ' = some ']' := congrArg List.head? same
  exact absurd first (by decide)

/-! ## Formatters -/

/-- The line of a formatter that has a name. -/
def namedLine (entry : String × Formatter) : List Char :=
  line 4 [Json.textLiteral entry.1, ": tools_config.".toList, (entry.2.name?.getD "").toList, [',']]

theorem mem_named {formatter : Formatter} (isNamed : formatter.name?.isSome = true) :
    formatter ∈ Formatter.named := by
  cases formatter with
  | unnamed _ => cases isNamed
  | _ => decide

theorem namedLine_append_inj {entry other : String × Formatter}
    (isNamed : entry.2.name?.isSome = true) (otherNamed : other.2.name?.isSome = true)
    (same : namedLine entry ++ '\n' :: rest = namedLine other ++ '\n' :: behind) :
    entry = other ∧ rest = behind := by
  have parts (entry : String × Formatter) (after : List Char) :
      namedLine entry ++ '\n' :: after = List.replicate 4 ' ' ++ (Json.textLiteral entry.1 ++
        (": tools_config.".toList ++
          ((entry.2.name?.getD "").toList ++ ',' :: '\n' :: after))) := by
    simp only [namedLine, line, List.flatten_cons, List.flatten_nil, List.append_assoc,
      List.append_nil, List.cons_append, List.nil_append]
  have inner : ∀ formatter ∈ Formatter.named,
      (formatter.name?.getD "").toList.all (· != ',') = true := by decide
  have distinct : ∀ formatter ∈ Formatter.named, ∀ other ∈ Formatter.named,
      (formatter.name?.getD "").toList = (other.name?.getD "").toList → formatter = other := by
    decide +kernel
  have ends (after : List Char) : ∀ c ∈ (',' :: '\n' :: after).head?, (c != ',') = false :=
    ends_cons rfl _
  rw [parts, parts] at same
  obtain ⟨sameTool, sameBehind⟩ := Json.textLiteral_append_inj (List.append_cancel_left same)
  obtain ⟨sameName, sameRest⟩ := append_inj_of_word
    (List.all_eq_true.1 (inner _ (mem_named isNamed)))
    (List.all_eq_true.1 (inner _ (mem_named otherNamed))) (ends _) (ends _)
    (List.append_cancel_left sameBehind)
  have sameFormatter := distinct _ (mem_named isNamed) _ (mem_named otherNamed) sameName
  exact ⟨Prod.ext sameTool sameFormatter, (List.cons.inj (List.cons.inj sameRest).2).2⟩

theorem row_namedLine :
    Row (fun entry : String × Formatter => entry.2.name?.isSome = true) (fun _ => True)
      (fun entry => namedLine entry ++ ['\n']) ['\x7d'] := by
  refine ⟨fun _ _ _ => trivial, fun _ => trivial, fun entry _ after later same => ?_⟩
  have first : some ' ' = some '\x7d' := congrArg List.head? same
  exact absurd first (by decide)

theorem namedLine_of_formatterLine {entry : String × Formatter} {text : List Char}
    (done : formatterLine entry = .ok text) :
    entry.2.name?.isSome = true ∧ text = namedLine entry := by
  unfold formatterLine at done
  split at done
  · next name isNamed =>
      rw [namedLine, isNamed]
      exact ⟨rfl, (Except.ok.inj done).symm⟩
  · cases done

theorem lines_of_formatterLines {formatters : List (String × Formatter)}
    {lines : List (List Char)} (done : formatters.mapM formatterLine = .ok lines) :
    (∀ entry ∈ formatters, entry.2.name?.isSome = true) ∧ lines = formatters.map namedLine := by
  have related := mapM_eq_ok_iff.1 done
  constructor
  · intro entry member
    obtain ⟨text, -, lineDone⟩ := exists_of_forall₂_right related.flip entry member
    exact (namedLine_of_formatterLine lineDone).1
  · have sameLines : List.Forall₂ Eq lines (formatters.map namedLine) := by
      rw [List.forall₂_map_right_iff]
      exact related.flip.imp fun _ _ lineDone => (namedLine_of_formatterLine lineDone).2
    rwa [List.forall₂_eq_eq_eq] at sameLines

/-! ## The version -/

/-- What stands in the module ahead of the version. -/
def aheadOfVersion : List Char :=
  unlines ["# AUTOGENERATED - DO NOT EDIT".toList,
    "# Generated by `python -m generator` from the Simkl API description".toList] ++
    "# (version ".toList

theorem unlines_headerLines (version : Json) (after : List Char) :
    unlines (headerLines version) ++ after = aheadOfVersion ++
      ((version.shown ++ behindVersion) ++
        '\n' :: (unlines ((headerLines .null).drop 3) ++ after)) := by
  rw [headerLines_eq version, linesFor, aheadOfVersion]
  simp only [unlines_cons, unlines_nil, List.append_assoc, List.cons_append, List.nil_append]

theorem headerLines_append_inj {version other : Json} (oneLine : '\n' ∉ version.shown)
    (otherOneLine : '\n' ∉ other.shown)
    (same : unlines (headerLines version) ++ rest = unlines (headerLines other) ++ behind) :
    rest = behind := by
  have noFeed : '\n' ∉ behindVersion := by decide +kernel
  have inner : ∀ {version : List Char}, '\n' ∉ version →
      ∀ c ∈ version ++ behindVersion, (c != '\n') = true := by
    intro version notMem c member
    rw [bne_iff_ne]
    rintro rfl
    exact (List.mem_append.1 member).elim notMem noFeed
  have ends (after : List Char) : ∀ c ∈ ('\n' :: after).head?, (c != '\n') = false :=
    ends_cons rfl after
  rw [unlines_headerLines, unlines_headerLines] at same
  obtain ⟨-, sameRest⟩ := append_inj_of_word (inner oneLine) (inner otherOneLine) (ends _) (ends _)
    (List.append_cancel_left same)
  exact List.append_cancel_left (List.cons.inj sameRest).2

/-! ## The whole -/

/-- The module of the catalog can be read: it was compiled with distinct names, and its version is a
single line. -/
structure IsReadable (catalog : Catalog) : Prop where
  oneLine : '\n' ∉ catalog.version.shown
  wordModel : ∀ tool ∈ catalog.tools, HasWordModel tool
  normalNames : ∀ tool ∈ catalog.tools, ∀ field ∈ tool.fields, field.name.isNormal = true
  normalKeys : ∀ tool ∈ catalog.tools, ∀ key ∈ tool.handler.queryKeys, key.isNormal = true
  ownFormatter : ∀ tool ∈ catalog.tools,
    Keyed.get? tool.name catalog.formatters = tool.handler.formatter

theorem toList_of_source {catalog : Catalog} {text : String} (written : catalog.source = .ok text) :
    (∀ entry ∈ catalog.formatters, entry.2.name?.isSome = true) ∧
      text.toList = unlines (headerLines catalog.version) ++
        ("FORMATTERS = \x7b".toList ++ '\n' ::
        (catalog.formatters.flatMap (fun entry => namedLine entry ++ ['\n']) ++
        (['\x7d'] ++ '\n' :: '\n' ::
        (catalog.tools.flatMap (fun tool => unlines (modelLines tool)) ++
        (['\n', '\n'] ++ ("TOOLS = [".toList ++ '\n' ::
        (catalog.tools.flatMap (fun tool => unlines (toolLines tool)) ++
        ([']'] ++ '\n' :: unlines registrationLines)))))))) := by
  simp only [Catalog.source, sourceLines, bind_eq_ok_iff, pure_eq_ok, Except.ok.injEq] at written
  obtain ⟨_, ⟨formatters, formattersDone, rfl⟩, rfl⟩ := written
  obtain ⟨areNamed, rfl⟩ := lines_of_formatterLines formattersDone
  refine ⟨areNamed, ?_⟩
  have blocks (lines : Tool → List (List Char)) : unlines (catalog.tools.flatMap lines) =
      catalog.tools.flatMap fun tool => unlines (lines tool) :=
    List.flatMap_assoc
  have entries : unlines (catalog.formatters.map namedLine) =
      catalog.formatters.flatMap fun entry => namedLine entry ++ ['\n'] :=
    List.flatMap_map _ _ _
  rw [String.toList_ofList]
  simp only [unlines_append, unlines_cons, blocks, entries, List.append_assoc, List.cons_append,
    List.nil_append]

/-- Catalogs with the same module have the same tools. -/
theorem alike_of_toList_eq {catalog other : Catalog} {text : String} (readable : IsReadable catalog)
    (otherReadable : IsReadable other) (written : catalog.source = .ok text)
    (otherWritten : other.source = .ok text) :
    List.Forall₂ Tool.Alike catalog.tools other.tools := by
  obtain ⟨areNamed, spelled⟩ := toList_of_source written
  obtain ⟨othersNamed, otherSpelled⟩ := toList_of_source otherWritten
  have same := headerLines_append_inj readable.oneLine otherReadable.oneLine
    (spelled.symm.trans otherSpelled)
  obtain ⟨sameFormatters, same⟩ := row_namedLine.eq_of_eq areNamed othersNamed
    (fun entry member other isOther after later _ _ sameLine => by
      rw [List.append_assoc, List.append_assoc] at sameLine
      exact namedLine_append_inj (areNamed entry member) (othersNamed other isOther) sameLine)
    (eq_behind_line same)
  obtain ⟨sameFields, same⟩ := row_modelLines.forall₂_of_eq readable.wordModel
    otherReadable.wordModel
    (fun tool member other isOther after later _ _ sameModel =>
      modelLines_append_inj (readable.wordModel tool member) (otherReadable.wordModel other isOther)
        (readable.normalNames tool member) (otherReadable.normalNames other isOther) sameModel)
    (List.cons.inj (List.cons.inj same).2).2
  -- The tool's own block does not say its fields, nor which formatter it has: the fields come from
  -- the block of the models, the formatter from the block of the formatters, by the tool's name.
  have readsTool : ∀ tool ∈ catalog.tools, ∀ found ∈ other.tools, ∀ after later, True → True →
      unlines (toolLines tool) ++ after = unlines (toolLines found) ++ later →
      (List.Forall₂ Field.Alike tool.fields found.fields → tool.Alike found) ∧ after = later := by
    intro tool member found isFound after later _ _ sameLines
    obtain ⟨⟨sameName, sameDescription, sameHints, sameHandler⟩, sameRest⟩ :=
      toolLines_append_inj (readable.normalKeys tool member)
        (otherReadable.normalKeys found isFound) sameLines
    have sameFormatter : tool.handler.formatter = found.handler.formatter := by
      rw [← readable.ownFormatter tool member, ← otherReadable.ownFormatter found isFound,
        sameName, sameFormatters]
    have sameWhole : tool.handler = found.handler := calc
      tool.handler = { { tool.handler with formatter := none } with
        formatter := tool.handler.formatter } := rfl
      _ = { { found.handler with formatter := none } with
        formatter := found.handler.formatter } := by rw [sameHandler, sameFormatter]
      _ = found.handler := rfl
    refine ⟨fun sameFields => ?_, sameRest⟩
    exact ⟨sameName, sameDescription, sameFields, sameHints, sameWhole⟩
  obtain ⟨sameTools, -⟩ := row_toolLines.forall₂_of_eq (fun _ _ => trivial) (fun _ _ => trivial)
    readsTool (eq_behind_line same)
  exact sameTools.mp (fun _ _ alike => alike) sameFields

/-! ## Compiled catalogs -/

section

variable {description : Json} {whitelist : List WhitelistEntry} {catalog : Catalog}

theorem paths_of_compile (compiled : compile description whitelist = .ok catalog) :
    (catalog.tools.map fun tool => tool.handler.path).Sublist
      (whitelist.map WhitelistEntry.path) := by
  obtain ⟨entries, areAmong, related⟩ := exists_sublist_of_compile compiled
  have samePaths : List.Forall₂ Eq (entries.map WhitelistEntry.path)
      (catalog.tools.map fun tool => tool.handler.path) := by
    rw [List.forall₂_map_left_iff, List.forall₂_map_right_iff]
    refine related.imp fun entry tool entryDone => ?_
    obtain ⟨warnings, entryDone⟩ := entryDone
    obtain ⟨operation, parameters, set, compiles⟩ := compiles_of_compileEntry entryDone
    exact compiles.handler_path.symm
  rw [List.forall₂_eq_eq_eq] at samePaths
  rw [← samePaths]
  exact areAmong.map WhitelistEntry.path

theorem ofPath_of_mem_tools (compiled : compile description whitelist = .ok catalog) {tool : Tool}
    (member : tool ∈ catalog.tools) : ToolName.ofPath tool.handler.path = .ok tool.name := by
  obtain ⟨entry, -, warnings, entryDone⟩ := exists_compileEntry_of_mem compiled tool member
  obtain ⟨operation, parameters, set, compiles⟩ := compiles_of_compileEntry entryDone
  rw [compiles.handler_path]
  exact compiles.named

/-- Where no path is listed twice, no two tools have the same name. -/
theorem nodup_names_of_nodup_paths (compiled : compile description whitelist = .ok catalog)
    (distinct : (whitelist.map WhitelistEntry.path).Nodup) :
    (catalog.tools.map Tool.name).Nodup := by
  have distinctPaths := (paths_of_compile compiled).nodup distinct
  rw [List.nodup_map_iff_inj_on distinctPaths.of_map]
  intro first firstMember second secondMember sameName
  have firstNamed := ofPath_of_mem_tools compiled firstMember
  rw [sameName] at firstNamed
  have samePath :=
    ToolName.ofPath_injective firstNamed (ofPath_of_mem_tools compiled secondMember)
  exact List.inj_on_of_nodup_map distinctPaths firstMember secondMember samePath

theorem hasWordModel_of_ofPath {tool : Tool} {path : String}
    (named : ToolName.ofPath path = .ok tool.name) : HasWordModel tool := by
  have letters : ∀ entry ∈ ToolName.table, ((entry.2.toList.splitOn '_').flatMap
      Text.capitalized ++ "Arguments".toList).all Char.isAlpha = true := by
    decide +kernel
  intro c member
  have listed := ToolName.mem_table_of_ofPath named
  rw [Tool.modelName, ToolName.toList_modelName listed] at member
  exact List.all_eq_true.1 (letters (path, tool.name) listed) c member

theorem isReadable_of_compile (compiled : compile description whitelist = .ok catalog)
    (distinct : (whitelist.map WhitelistEntry.path).Nodup)
    (normal : description.isNormal = true) (oneLine : '\n' ∉ catalog.version.shown) :
    IsReadable catalog := by
  have parts : ∀ tool ∈ catalog.tools, (∀ field ∈ tool.fields, field.name.isNormal = true) ∧
      ∀ key ∈ tool.handler.queryKeys, key.isNormal = true := by
    intro tool member
    obtain ⟨entry, -, warnings, entryDone⟩ := exists_compileEntry_of_mem compiled tool member
    obtain ⟨operation, parameters, set, compiles⟩ := compiles_of_compileEntry entryDone
    have areNormal := compiles.holds_parameters Json.hereditary_isNormal normal
    rw [compiles.fields]
    exact ⟨FieldSet.holds_names Json.hereditary_isNormal areNormal compiles.collected,
      holds_queryKeys Json.hereditary_isNormal areNormal compiles.handled⟩
  refine ⟨oneLine, fun tool member => ?_, fun tool member => (parts tool member).1,
    fun tool member => (parts tool member).2, fun tool member => ?_⟩
  · exact hasWordModel_of_ofPath (ofPath_of_mem_tools compiled member)
  · rw [formatters_of_compile compiled]
    exact get?_formattersOf (nodup_names_of_nodup_paths compiled distinct) member

end

/-- Descriptions and whitelists with the same module give the same tools. -/
theorem alike_of_source_eq {description other : Json} {whitelist otherList : List WhitelistEntry}
    {catalog otherCatalog : Catalog} {text : String}
    (compiled : compile description whitelist = .ok catalog)
    (otherCompiled : compile other otherList = .ok otherCatalog)
    (normal : description.isNormal = true) (otherNormal : other.isNormal = true)
    (distinct : (whitelist.map WhitelistEntry.path).Nodup)
    (otherDistinct : (otherList.map WhitelistEntry.path).Nodup)
    (oneLine : '\n' ∉ catalog.version.shown) (otherOneLine : '\n' ∉ otherCatalog.version.shown)
    (written : catalog.source = .ok text) (otherWritten : otherCatalog.source = .ok text) :
    List.Forall₂ Tool.Alike catalog.tools otherCatalog.tools :=
  alike_of_toList_eq (isReadable_of_compile compiled distinct normal oneLine)
    (isReadable_of_compile otherCompiled otherDistinct otherNormal otherOneLine) written
    otherWritten

/-- An entry without an operation in the description adds nothing but a warning. -/
theorem compile_append_of_absent {description : Json} {whitelist : List WhitelistEntry}
    {catalog : Catalog} (compiled : compile description whitelist = .ok catalog)
    (entry : WhitelistEntry)
    (absent : operation description (String.ofList (Path.normalize entry.path.toList))
      entry.method = .ok .null) :
    compile description (whitelist ++ [entry]) = .ok { catalog with
      warnings := catalog.warnings ++ [.operationNotFound entry.method entry.path] } := by
  simp only [compile, bind_eq_ok_iff, pure_eq_ok, Except.ok.injEq] at compiled
  obtain ⟨results, resultsDone, information, informationLooked, version, versionLooked, rfl⟩ :=
    compiled
  have missing : compileEntry description entry =
      .ok (none, [.operationNotFound entry.method entry.path]) := by
    rw [compileEntry, absent]
    rfl
  have allDone : (whitelist ++ [entry]).mapM (compileEntry description) =
      .ok (results ++ [(none, [.operationNotFound entry.method entry.path])]) := by
    rw [mapM_eq_ok_iff] at resultsDone ⊢
    exact List.rel_append resultsDone (.cons missing .nil)
  rw [compile, allDone, ok_bind, informationLooked, ok_bind, versionLooked, ok_bind]
  simp

/-- A description whose texts are made of quotes, backslashes and line feeds. -/
def quotedSearch : Json :=
  .obj [("info", .obj [("version", .str "1.0")]),
    ("paths", .obj [("/search/\x7btype\x7d", .obj [("get", .obj [
      ("summary", .str "Say \"it's\" \\ or\n        ),"),
      ("parameters", .arr [
        .obj [("name", .str "a'\": (Any, Field("), ("in", .str "query"),
          ("description", .str "'), # \""),
          ("schema", .obj [
            ("enum", .arr [.str "', \"", .str "']\\", .float (.zero true)])])]])])])])]

/-- The operation of the description, whose responses are put into words. -/
def quotedEntry : WhitelistEntry :=
  .simple "/search/:type" "get" .searchResults

/-- The texts of the description do not hide where they end. -/
theorem alike_of_quotedSearch :
    ∃ catalog otherCatalog text,
      compile quotedSearch [quotedEntry] = .ok catalog ∧
      compile quotedSearch [quotedEntry, .json "/sync/history" "post"] = .ok otherCatalog ∧
      catalog.source = .ok text ∧ otherCatalog.source = .ok text ∧
      List.Forall₂ Tool.Alike catalog.tools otherCatalog.tools := by
  have computed : (compile quotedSearch [quotedEntry]).toOption.any (fun catalog =>
      catalog.source.isOk && decide ('\n' ∉ catalog.version.shown)) = true := by
    decide +kernel
  cases compiled : compile quotedSearch [quotedEntry] with
  | error fault =>
      rw [compiled] at computed
      cases computed
  | ok catalog =>
      simp only [compiled, Except.toOption, Option.any_some, Bool.and_eq_true, decide_eq_true_eq]
        at computed
      have otherCompiled :=
        compile_append_of_absent compiled (.json "/sync/history" "post") (by decide +kernel)
      cases written : catalog.source with
      | error fault =>
          rw [written] at computed
          cases computed.1
      | ok text =>
          exact ⟨catalog, _, text, rfl, otherCompiled, written, written,
            alike_of_source_eq compiled otherCompiled (by decide +kernel) (by decide +kernel)
              (by decide) (by decide) computed.2 computed.2 written written⟩

end Catalog

end ApiTools
