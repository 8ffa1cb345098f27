import ApiTools.Json.Printer
import ApiTools.Json.Token
import ApiTools.Proofs.Binding
import ApiTools.Proofs.Text.Percent

/-!
# The tokens of a written text

Quoted texts, marks and gaps end whatever word is under way before them; a word ends with what comes
after it. So the tokens of texts that stand one after another are put together from the tokens of
each.
-/

namespace ApiTools.Json

open ApiTools.Text

/-! ## Texts and their tokens -/

/-- No quoted text is under way. -/
def Place.isPlain : Place → Bool
  | .between | .bare _ => true
  | .quoted _ | .escaped _ | .numeric _ _ _ | .stuck => false

/-- Outside of quoted texts, the text adds the tokens and leaves no word under way. -/
def Separates (text : List Char) (added : List Token) : Prop :=
  ∀ scanner : Scanner, scanner.place.isPlain = true →
    scanner.run text = ⟨.between, added.reverse ++ scanner.settled⟩

/-- Between words, the text adds the tokens and leaves no word under way. -/
def Completes (text : List Char) (added : List Token) : Prop :=
  ∀ tokens, Scanner.run ⟨.between, tokens⟩ text = ⟨.between, added.reverse ++ tokens⟩

/-- Between words, the text adds the tokens, of which the last one may be a word that is still under
way. -/
def Spells (text : List Char) (added : List Token) : Prop :=
  ∀ tokens, (Scanner.run ⟨.between, tokens⟩ text).place.isPlain = true ∧
    (Scanner.run ⟨.between, tokens⟩ text).settled = added.reverse ++ tokens

variable {first second : List Char} {before after : List Token}

theorem Separates.completes (separates : Separates first before) : Completes first before :=
  fun tokens => separates ⟨.between, tokens⟩ rfl

theorem Completes.spells (completes : Completes first before) : Spells first before := by
  intro tokens
  rw [completes tokens]
  exact ⟨rfl, rfl⟩

theorem completes_nil : Completes [] [] :=
  fun _ => rfl

theorem Completes.append_spells (completes : Completes first before)
    (spells : Spells second after) :
    Spells (first ++ second) (before ++ after) := by
  intro tokens
  rw [Scanner.run_append, completes tokens, List.reverse_append, List.append_assoc]
  exact spells _

theorem Completes.append (completes : Completes first before) (others : Completes second after) :
    Completes (first ++ second) (before ++ after) := by
  intro tokens
  rw [Scanner.run_append, completes tokens, others, List.reverse_append, List.append_assoc]

theorem Separates.append (separates : Separates first before) (others : Completes second after) :
    Separates (first ++ second) (before ++ after) := by
  intro scanner isPlain
  rw [Scanner.run_append, separates scanner isPlain, others, List.reverse_append,
    List.append_assoc]

theorem Spells.append_separates (spells : Spells first before)
    (separates : Separates second after) : Completes (first ++ second) (before ++ after) := by
  intro tokens
  rw [Scanner.run_append, separates _ (spells tokens).1, (spells tokens).2, List.reverse_append,
    List.append_assoc]

/-- The tokens of a text that spells them. -/
theorem Spells.tokens_eq (spells : Spells first before) : tokens first = before := by
  rw [tokens, Scanner.start, (spells []).2, List.append_nil, List.reverse_reverse]

/-! ## Marks and gaps -/

theorem run_singleton {scanner : Scanner} (isPlain : scanner.place.isPlain = true) (c : Char) :
    scanner.run [c] = scanner.stepPlain c := by
  obtain ⟨place, tokens⟩ := scanner
  cases place with
  | between | bare _ => rfl
  | quoted _ | escaped _ | numeric _ _ _ | stuck => cases isPlain

theorem separates_gap {c : Char} (isGap : isGap c = true) : Separates [c] [] := by
  intro scanner isPlain
  rw [run_singleton isPlain, Scanner.stepPlain, if_pos isGap]
  rfl

theorem separates_mark {c : Char} {token : Token} (noGap : isGap c = false) (noQuote : c ≠ '"')
    (isMark : mark? c = some token) : Separates [c] [token] := by
  intro scanner isPlain
  rw [run_singleton isPlain, Scanner.stepPlain, if_neg (by rw [noGap]; decide), if_neg noQuote,
    isMark]
  rfl

theorem separates_openBracket : Separates ['['] [.openBracket] :=
  separates_mark (by decide) (by decide) rfl

theorem separates_closeBracket : Separates [']'] [.closeBracket] :=
  separates_mark (by decide) (by decide) rfl

theorem separates_openBrace : Separates ['{'] [.openBrace] :=
  separates_mark (by decide) (by decide) rfl

theorem separates_closeBrace : Separates ['}'] [.closeBrace] :=
  separates_mark (by decide) (by decide) rfl

theorem separates_comma : Separates [','] [.comma] :=
  separates_mark (by decide) (by decide) rfl

theorem separates_colon : Separates [':'] [.colon] :=
  separates_mark (by decide) (by decide) rfl

theorem completes_gaps {gaps : List Char} (areGaps : ∀ c ∈ gaps, isGap c = true) :
    Completes gaps [] := by
  induction gaps with
  | nil => exact completes_nil
  | cons c rest inductionHypothesis =>
      rw [List.forall_mem_cons] at areGaps
      exact (separates_gap areGaps.1).completes.append (inductionHypothesis areGaps.2)

theorem separates_newLine (level : Nat) : Separates (newLine level) [] := by
  have blanks : ∀ c ∈ List.replicate (2 * level) ' ', isGap c = true := by
    intro c member
    rw [List.eq_of_mem_replicate member]
    rfl
  exact (separates_gap (by decide : isGap '\n' = true)).append (completes_gaps blanks)

/-! ## Words -/

/-- A character of a word. -/
def isOrdinary (c : Char) : Bool :=
  !isGap c && c != '"' && (mark? c).isNone

theorem stepPlain_of_isOrdinary {scanner : Scanner} {c : Char} (ordinary : isOrdinary c = true) :
    scanner.stepPlain c =
      match scanner.place with
      | .bare chars => ⟨.bare (c :: chars), scanner.tokens⟩
      | _ => ⟨.bare [c], scanner.tokens⟩ := by
  simp only [isOrdinary, Bool.and_eq_true, Bool.not_eq_true', bne_iff_ne, ne_eq,
    Option.isNone_iff_eq_none] at ordinary
  obtain ⟨⟨noGap, noQuote⟩, noMark⟩ := ordinary
  rw [Scanner.stepPlain, if_neg (by rw [noGap]; decide), if_neg noQuote]
  split
  · next token isMark =>
      rw [noMark] at isMark
      cases isMark
  · rfl

theorem run_bare {text : List Char} (ordinary : ∀ c ∈ text, isOrdinary c = true) :
    ∀ (chars : List Char) (tokens : List Token),
      Scanner.run ⟨.bare chars, tokens⟩ text = ⟨.bare (text.reverse ++ chars), tokens⟩ := by
  induction text with
  | nil => exact fun _ _ => rfl
  | cons c rest inductionHypothesis =>
      rw [List.forall_mem_cons] at ordinary
      intro chars tokens
      have step : Scanner.step ⟨.bare chars, tokens⟩ c = ⟨.bare (c :: chars), tokens⟩ :=
        stepPlain_of_isOrdinary ordinary.1
      rw [Scanner.run, List.foldl_cons, step, ← Scanner.run, inductionHypothesis ordinary.2,
        List.reverse_cons, List.append_assoc, List.singleton_append]

theorem spells_word {text : List Char} (filled : text ≠ [])
    (ordinary : ∀ c ∈ text, isOrdinary c = true) : Spells text [readWord text] := by
  obtain ⟨c, rest, rfl⟩ := List.exists_cons_of_ne_nil filled
  rw [List.forall_mem_cons] at ordinary
  intro tokens
  have step : Scanner.step ⟨.between, tokens⟩ c = ⟨.bare [c], tokens⟩ :=
    stepPlain_of_isOrdinary ordinary.1
  rw [Scanner.run, List.foldl_cons, step, ← Scanner.run, run_bare ordinary.2]
  have isWord : (rest.reverse ++ [c]).reverse = c :: rest := by simp
  refine ⟨rfl, ?_⟩
  rw [Scanner.settled]
  dsimp only
  rw [isWord]
  rfl

/-! ## Quoted texts -/

theorem hexValue?_hexDigit (value : Nat) :
    hexValue? (hexDigit (value % 16)) = some (value % 16) := by
  have digits : ∀ digit : Fin 16, hexValue? (hexDigit digit.val) = some digit.val := by decide
  exact digits ⟨value % 16, Nat.mod_lt _ (by decide)⟩

theorem run_unitEscape {unit : Nat} (small : unit < 0x10000) (draft : Draft) (tokens : List Token) :
    Scanner.run ⟨.quoted draft, tokens⟩ (unitEscape unit) =
      ⟨.quoted (draft.pushUnit unit), tokens⟩ := by
  have opens : ((⟨.quoted draft, tokens⟩ : Scanner).step '\\').step 'u' =
      ⟨.numeric draft 4 0, tokens⟩ := rfl
  have digit (left unit value : Nat) :
      Scanner.step ⟨.numeric draft left unit, tokens⟩ (hexDigit (value % 16)) =
        if left ≤ 1 then ⟨.quoted (draft.pushUnit (16 * unit + value % 16)), tokens⟩
        else ⟨.numeric draft (left - 1) (16 * unit + value % 16), tokens⟩ := by
    rw [Scanner.step, hexValue?_hexDigit]
  have sameUnit : 16 * (16 * (16 * (16 * 0 + unit / 4096 % 16) + unit / 256 % 16) +
      unit / 16 % 16) + unit % 16 = unit := by
    omega
  rw [Scanner.run, unitEscape]
  simp only [List.foldl_cons, List.foldl_nil, opens]
  rw [digit, if_neg (by decide), digit, if_neg (by decide), digit, if_neg (by decide), digit,
    if_pos (by decide), sameUnit]

namespace Draft

variable {chars : List Char} {unit : Nat}

theorem pushUnit_single (single : unit < 0xD800 ∨ 0xE000 ≤ unit) :
    pushUnit ⟨chars, none⟩ unit = ⟨Char.ofNat unit :: chars, none⟩ := by
  rw [pushUnit, if_neg (by omega), if_neg (by omega)]
  rfl

theorem pushUnit_high (isHigh : 0xD800 ≤ unit ∧ unit < 0xDC00) :
    pushUnit ⟨chars, none⟩ unit = ⟨chars, some unit⟩ := by
  rw [pushUnit, if_pos isHigh]
  rfl

theorem pushUnit_low {high : Nat} (isLow : 0xDC00 ≤ unit ∧ unit < 0xE000) :
    pushUnit ⟨chars, some high⟩ unit =
      ⟨Char.ofNat (0x10000 + (high - 0xD800) * 0x400 + (unit - 0xDC00)) :: chars, none⟩ := by
  rw [pushUnit, if_neg (by omega), if_pos isLow]

end Draft

/-- A numeric escape is read as its character. -/
theorem run_numericEscape (c : Char) (chars : List Char) (tokens : List Token) :
    Scanner.run ⟨.quoted ⟨chars, none⟩, tokens⟩ (numericEscape c) =
      ⟨.quoted ⟨c :: chars, none⟩, tokens⟩ := by
  have valid : c.toNat < 0xD800 ∨ 0xDFFF < c.toNat ∧ c.toNat < 0x110000 := c.valid
  unfold numericEscape
  by_cases small : c.toNat < 0x10000
  · rw [if_pos small, run_unitEscape small, Draft.pushUnit_single (by omega), Char.ofNat_toNat]
  · have sameCode : 0x10000 + (0xD800 + (c.toNat - 0x10000) / 0x400 - 0xD800) * 0x400 +
        (0xDC00 + (c.toNat - 0x10000) % 0x400 - 0xDC00) = c.toNat := by
      omega
    rw [if_neg small, Scanner.run_append, run_unitEscape (by omega), run_unitEscape (by omega),
      Draft.pushUnit_high (by omega), Draft.pushUnit_low (by omega), sameCode, Char.ofNat_toNat]

theorem unescape?_of_shortEscape? {c letter : Char} (isShort : shortEscape? c = some letter) :
    letter ≠ 'u' ∧ unescape? letter = some c := by
  have listed : ∀ pair ∈ [('"', '"'), ('\\', '\\'), ('\x08', 'b'), ('\x0c', 'f'), ('\n', 'n'),
      ('\r', 'r'), ('\t', 't')], pair.2 ≠ 'u' ∧ unescape? pair.2 = some pair.1 := by
    decide
  obtain ⟨before, after, isList, -⟩ := List.lookup_eq_some_iff.1 isShort
  refine listed (c, letter) ?_
  rw [isList]
  exact List.mem_append_right before List.mem_cons_self

/-- A character within quotes is read as itself. -/
theorem run_escapeChar (ascii : Bool) (c : Char) (chars : List Char) (tokens : List Token) :
    Scanner.run ⟨.quoted ⟨chars, none⟩, tokens⟩ (escapeChar ascii c) =
      ⟨.quoted ⟨c :: chars, none⟩, tokens⟩ := by
  unfold escapeChar
  cases isShort : shortEscape? c with
  | some letter =>
      obtain ⟨notNumeric, isMeant⟩ := unescape?_of_shortEscape? isShort
      have opens : Scanner.step ⟨.quoted ⟨chars, none⟩, tokens⟩ '\\' =
          ⟨.escaped ⟨chars, none⟩, tokens⟩ := rfl
      have closes : Scanner.step ⟨.escaped ⟨chars, none⟩, tokens⟩ letter =
          ⟨.quoted ⟨c :: chars, none⟩, tokens⟩ := by
        rw [Scanner.step]
        dsimp only
        rw [if_neg notNumeric, isMeant]
        rfl
      rw [Scanner.run, List.foldl_cons, opens, List.foldl_cons, closes, List.foldl_nil]
  | none =>
      dsimp only
      split
      · exact run_numericEscape c chars tokens
      · next visible =>
          split
          · exact run_numericEscape c chars tokens
          · have noQuote : c ≠ '"' := by
              rintro rfl
              cases isShort
            have noBackslash : c ≠ '\\' := by
              rintro rfl
              cases isShort
            have step : Scanner.step ⟨.quoted ⟨chars, none⟩, tokens⟩ c =
                ⟨.quoted ⟨c :: chars, none⟩, tokens⟩ := by
              rw [Scanner.step]
              dsimp only
              rw [if_neg noQuote, if_neg noBackslash, if_neg visible]
              rfl
            rw [Scanner.run, List.foldl_cons, step, List.foldl_nil]

/-- A quoted text is read as the text. -/
theorem separates_quote (ascii : Bool) (text : String) :
    Separates (quote ascii text) [.text text] := by
  have inside : ∀ (rest chars : List Char) (tokens : List Token),
      Scanner.run ⟨.quoted ⟨chars, none⟩, tokens⟩ (rest.flatMap (escapeChar ascii)) =
        ⟨.quoted ⟨rest.reverse ++ chars, none⟩, tokens⟩ := by
    intro rest
    induction rest with
    | nil => exact fun _ _ => rfl
    | cons c rest inductionHypothesis =>
        intro chars tokens
        rw [List.flatMap_cons, Scanner.run_append, run_escapeChar, inductionHypothesis,
          List.reverse_cons, List.append_assoc, List.singleton_append]
  intro scanner isPlain
  have opens : scanner.run ['"'] = ⟨.quoted ⟨[], none⟩, scanner.settled⟩ :=
    run_singleton isPlain '"'
  have closes (chars : List Char) (tokens : List Token) :
      Scanner.run ⟨.quoted ⟨chars, none⟩, tokens⟩ ['"'] =
        ⟨.between, .text (String.ofList chars.reverse) :: tokens⟩ := rfl
  rw [quote, ← List.singleton_append, Scanner.run_append, opens, Scanner.run_append, inside, closes,
    List.append_nil, List.reverse_reverse, String.ofList_toList]
  rfl

end ApiTools.Json
