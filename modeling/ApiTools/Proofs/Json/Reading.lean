import ApiTools.Json.Reader
import ApiTools.Proofs.Binding
import ApiTools.Proofs.Keyed

/-!
# What holds of every value read

A document is put together from words and texts. So a property that these have, and that arrays and
objects take over from their parts, holds of the value of every document.
-/

namespace ApiTools.Json

/-- The property holds of what stands alone in a document, and goes up from the parts of a value to
the whole. -/
structure Composes (holds : Json → Prop) : Prop where
  scalar : ∀ {text : List Char} {value : Json}, readWord text = .scalar value → holds value
  str : ∀ text, holds (.str text)
  arr : ∀ {items : List Json}, (∀ item ∈ items, holds item) → holds (.arr items)
  obj : ∀ {fields : List (String × Json)}, (Keyed.keys fields).Nodup →
    (∀ field ∈ fields, holds field.2) → holds (.obj fields)

theorem readScalar?_of_readWord {text : List Char} {value : Json}
    (read : readWord text = .scalar value) : readScalar? text = some value := by
  unfold readWord at read
  split at read
  · cases read
  · split at read
    · next found done =>
        obtain rfl := Token.scalar.inj read
        exact done
    · cases read

namespace Composes

variable {holds : Json → Prop}

/-! ## Tokens -/

/-- The property holds of the value that a token gives. -/
def OfToken (holds : Json → Prop) : Token → Prop
  | .scalar value => holds value
  | _ => True

theorem ofToken_readWord (composes : Composes holds) (text : List Char) :
    OfToken holds (readWord text) := by
  cases read : readWord text with
  | scalar value => exact composes.scalar read
  | _ => trivial

theorem ofToken_of_mark? {c : Char} {token : Token} (found : mark? c = some token) :
    OfToken holds token := by
  obtain ⟨before, after, spelled, -⟩ := List.lookup_eq_some_iff.1 found
  have marks : ∀ pair ∈ [('\x7b', Token.openBrace), ('\x7d', .closeBrace), ('[', .openBracket),
      (']', .closeBracket), (',', .comma), (':', .colon)], OfToken holds pair.2 := by
    simp [OfToken]
  exact marks (c, token) (spelled ▸ List.mem_append_right before List.mem_cons_self)

section

variable {scanner : Scanner} (composes : Composes holds)
  (tokens : ∀ token ∈ scanner.tokens, OfToken holds token)

include composes tokens

theorem ofToken_settled : ∀ token ∈ scanner.settled, OfToken holds token := by
  unfold Scanner.settled
  split
  · exact tokens
  · exact List.forall_mem_cons.2 ⟨composes.ofToken_readWord _, tokens⟩
  all_goals exact List.forall_mem_cons.2 ⟨trivial, tokens⟩

theorem ofToken_stepPlain (c : Char) :
    ∀ token ∈ (scanner.stepPlain c).tokens, OfToken holds token := by
  have settled := composes.ofToken_settled tokens
  unfold Scanner.stepPlain
  split
  · exact settled
  · split
    · exact settled
    · split
      · next token found => exact List.forall_mem_cons.2 ⟨ofToken_of_mark? found, settled⟩
      · split
        · exact tokens
        · exact tokens

theorem ofToken_step (c : Char) : ∀ token ∈ (scanner.step c).tokens, OfToken holds token := by
  unfold Scanner.step
  split
  · exact composes.ofToken_stepPlain tokens c
  · exact composes.ofToken_stepPlain tokens c
  · split
    · exact List.forall_mem_cons.2 ⟨trivial, tokens⟩
    · repeat' split
      all_goals exact tokens
  all_goals
    repeat' split
    all_goals exact tokens

end

theorem ofToken_run (composes : Composes holds) (text : List Char) {scanner : Scanner}
    (tokens : ∀ token ∈ scanner.tokens, OfToken holds token) :
    ∀ token ∈ (scanner.run text).tokens, OfToken holds token := by
  induction text generalizing scanner with
  | nil => exact tokens
  | cons c rest inductionHypothesis =>
      exact inductionHypothesis (composes.ofToken_step tokens c)

theorem ofToken_tokens (composes : Composes holds) (document : List Char) :
    ∀ token ∈ tokens document, OfToken holds token := by
  intro token member
  exact composes.ofToken_settled (composes.ofToken_run document (List.forall_mem_nil _)) token
    (List.mem_reverse.1 member)

/-! ## Values -/

/-- The property holds of the values of a frame. -/
def OfFrame (holds : Json → Prop) : Frame → Prop
  | .items done => ∀ item ∈ done, holds item
  | .fields done _ => ∀ field ∈ done, holds field.2

/-- The property holds of the values that have been read ahead of the next token. -/
def OfAwaiting (holds : Json → Prop) : Awaiting → Prop
  | .value | .firstItem | .firstKey => True
  | .key done | .colon done _ => ∀ field ∈ done, holds field.2
  | .separator last => holds last

/-- The property holds of the values in the machine. -/
structure OfAssembly (holds : Json → Prop) (assembly : Assembly) : Prop where
  frames : ∀ frame ∈ assembly.frames, OfFrame holds frame
  awaiting : OfAwaiting holds assembly.awaiting

theorem emptyArr (composes : Composes holds) : holds (.arr []) :=
  composes.arr (List.forall_mem_nil _)

theorem emptyObj (composes : Composes holds) : holds (.obj []) :=
  composes.obj List.nodup_nil (List.forall_mem_nil _)

theorem ofAssembly_stepValue (composes : Composes holds) {frames : List Frame} {token : Token}
    {after : Assembly} (inFrames : ∀ frame ∈ frames, OfFrame holds frame)
    (inToken : OfToken holds token) (done : Assembly.stepValue frames token = .ok after) :
    OfAssembly holds after := by
  unfold Assembly.stepValue at done
  split at done
  · exact Except.ok.inj done ▸ ⟨inFrames, composes.str _⟩
  · exact Except.ok.inj done ▸ ⟨inFrames, inToken⟩
  · exact Except.ok.inj done ▸
      ⟨List.forall_mem_cons.2 ⟨List.forall_mem_nil _, inFrames⟩, trivial⟩
  · exact Except.ok.inj done ▸ ⟨inFrames, trivial⟩
  · cases done
  · cases done

theorem ofAssembly_step (composes : Composes holds) {before after : Assembly} {token : Token}
    (inAssembly : OfAssembly holds before) (inToken : OfToken holds token)
    (done : before.step token = .ok after) : OfAssembly holds after := by
  obtain ⟨frames, awaiting⟩ := before
  obtain ⟨inFrames, ahead⟩ := inAssembly
  unfold Assembly.step at done
  dsimp only at done inFrames ahead
  cases awaiting with
  | value => exact composes.ofAssembly_stepValue inFrames inToken done
  | firstItem =>
      dsimp only at done
      split at done
      · exact Except.ok.inj done ▸ ⟨(List.forall_mem_cons.1 inFrames).2, composes.emptyArr⟩
      · exact composes.ofAssembly_stepValue inFrames inToken done
  | firstKey =>
      dsimp only at done
      split at done
      · exact Except.ok.inj done ▸ ⟨inFrames, composes.emptyObj⟩
      · exact Except.ok.inj done ▸ ⟨inFrames, List.forall_mem_nil _⟩
      · cases done
  | key fields =>
      dsimp only at done
      split at done
      · exact Except.ok.inj done ▸ ⟨inFrames, ahead⟩
      · cases done
  | colon fields key =>
      dsimp only at done
      split at done
      · exact Except.ok.inj done ▸ ⟨List.forall_mem_cons.2 ⟨ahead, inFrames⟩, trivial⟩
      · cases done
  | separator value =>
      cases frames with
      | nil => cases done
      | cons frame others =>
          obtain ⟨inFrame, inOthers⟩ := List.forall_mem_cons.1 inFrames
          cases frame with
          | items reached =>
              have inAll : ∀ item ∈ value :: reached, holds item :=
                List.forall_mem_cons.2 ⟨ahead, inFrame⟩
              cases token with
              | comma =>
                  exact Except.ok.inj done ▸ ⟨List.forall_mem_cons.2 ⟨inAll, inOthers⟩, trivial⟩
              | closeBracket =>
                  have whole : holds (.arr (value :: reached).reverse) :=
                    composes.arr fun item member => inAll item (List.mem_reverse.1 member)
                  exact Except.ok.inj done ▸ ⟨inOthers, whole⟩
              | _ => cases done
          | fields reached key =>
              have inAll : ∀ field ∈ (key, value) :: reached, holds field.2 :=
                List.forall_mem_cons.2 ⟨ahead, inFrame⟩
              cases token with
              | comma => exact Except.ok.inj done ▸ ⟨inOthers, inAll⟩
              | closeBrace =>
                  have members : ∀ field ∈ Keyed.ofPairs ((key, value) :: reached).reverse,
                      holds field.2 := fun field member =>
                    inAll field (List.mem_reverse.1 (Keyed.mem_of_mem_ofPairs member))
                  exact Except.ok.inj done ▸
                    ⟨inOthers, composes.obj (Keyed.keys_ofPairs_nodup _) members⟩
              | _ => cases done

theorem ofAssembly_run (composes : Composes holds) {tokens : List Token}
    {before after : Assembly} (inTokens : ∀ token ∈ tokens, OfToken holds token)
    (inAssembly : OfAssembly holds before) (ran : before.run tokens = .ok after) :
    OfAssembly holds after := by
  induction tokens generalizing before with
  | nil => exact Except.ok.inj ran ▸ inAssembly
  | cons token rest inductionHypothesis =>
      rw [List.forall_mem_cons] at inTokens
      rw [Assembly.run, List.foldlM_cons, Binding.bind_eq_ok_iff] at ran
      obtain ⟨middle, stepped, ran⟩ := ran
      exact inductionHypothesis inTokens.2
        (composes.ofAssembly_step inAssembly inTokens.1 stepped) ran

/-- The property holds of the value of every document. -/
theorem of_read (composes : Composes holds) {document : List Char} {value : Json}
    (done : read document = .ok value) : holds value := by
  rw [read, Binding.bind_eq_ok_iff] at done
  obtain ⟨assembly, ran, result⟩ := done
  have start : OfAssembly holds Assembly.start := ⟨List.forall_mem_nil _, trivial⟩
  have inAssembly := composes.ofAssembly_run (composes.ofToken_tokens document) start ran
  unfold Assembly.result at result
  split at result
  · next isSeparator =>
      have ahead := inAssembly.awaiting
      rw [isSeparator] at ahead
      exact Except.ok.inj result ▸ ahead
  · cases result

end Composes

end ApiTools.Json
