import ApiTools.Http.Message
import Mathlib.Data.List.Basic

/-!
# The text of a body

A body is read chunk by chunk, and a character may begin in one chunk and end in another. What is
read in all does not depend on where the chunks end.
-/

namespace ApiTools

/-! ## The decoder -/

namespace Text.Utf8.Decoder

/-- The decoder that has read some characters more, last one first, before all others. -/
def behind (decoder : Decoder) (before : List Char) : Decoder :=
  ⟨decoder.chars ++ before, decoder.pending⟩

theorem stepFirst_append (chars before : List Char) (byte : Nat) :
    stepFirst (chars ++ before) byte = (stepFirst chars byte).behind before := by
  unfold stepFirst
  repeat' split
  all_goals rfl

/-- What has been read has no influence on how a byte is taken. -/
theorem step_behind (decoder : Decoder) (before : List Char) (byte : UInt8) :
    (decoder.behind before).step byte = (decoder.step byte).behind before := by
  obtain ⟨chars, pending⟩ := decoder
  cases pending with
  | none => exact stepFirst_append chars before byte.toNat
  | some part =>
      unfold step behind
      dsimp only
      split
      · split <;> rfl
      · exact stepFirst_append ('\uFFFD' :: chars) before byte.toNat

theorem foldl_step_behind (bytes : List UInt8) :
    ∀ (decoder : Decoder) (before : List Char),
      bytes.foldl step (decoder.behind before) = (bytes.foldl step decoder).behind before := by
  induction bytes with
  | nil =>
      intro decoder before
      rfl
  | cons byte rest inductionHypothesis =>
      intro decoder before
      rw [List.foldl_cons, List.foldl_cons, step_behind, inductionHypothesis]

theorem finish_behind (decoder : Decoder) (before : List Char) :
    (decoder.behind before).finish = before.reverse ++ decoder.finish := by
  obtain ⟨chars, pending⟩ := decoder
  cases pending with
  | none => exact List.reverse_append
  | some part =>
      unfold behind finish
      dsimp only
      rw [← List.cons_append, List.reverse_append]

end Text.Utf8.Decoder

/-! ## Chunks -/

namespace Http

open Text.Utf8

namespace Charset

theorem flatten_decodeChunks (chunks : List (List UInt8)) :
    ∀ decoder : Decoder,
      (decodeChunks decoder chunks).flatten =
        (chunks.flatten.foldl Decoder.step decoder).finish := by
  induction chunks with
  | nil =>
      intro decoder
      exact List.append_nil _
  | cons chunk rest inductionHypothesis =>
      intro decoder
      rw [decodeChunks, List.flatten_cons, inductionHypothesis, List.flatten_cons,
        List.foldl_append]
      -- The characters of the chunk are handed on at once, those of the rest are read from none.
      generalize chunk.foldl Decoder.step decoder = next
      have handedOn : next = Decoder.behind ⟨[], next.pending⟩ next.chars := rfl
      calc
        next.chars.reverse ++ (rest.flatten.foldl Decoder.step ⟨[], next.pending⟩).finish =
            (Decoder.behind (rest.flatten.foldl Decoder.step ⟨[], next.pending⟩)
              next.chars).finish := (Decoder.finish_behind _ _).symm
        _ = (rest.flatten.foldl Decoder.step next).finish := by
          rw [← Decoder.foldl_step_behind, ← handedOn]

/-- The text of all bytes of a body together. -/
def decodeAll (charset : Charset) (bytes : List UInt8) : List Char :=
  match charset with
  | .utf8 => Text.Utf8.decode bytes
  | _ => bytes.map charset.charOfByte

theorem flatten_decode (charset : Charset) (chunks : List (List UInt8)) :
    (charset.decode chunks).flatten = charset.decodeAll chunks.flatten := by
  cases charset with
  | utf8 => exact flatten_decodeChunks chunks .start
  | latin1 => exact List.map_flatten.symm
  | ascii => exact List.map_flatten.symm

end Charset

namespace Response

/-- The text of a response's body, however it arrives. -/
def text (response : Response) : List Char :=
  (Charset.ofResponse response).decodeAll response.chunks.flatten

/-- The pieces in which a body arrives make up its text. -/
theorem flatten_texts (response : Response) : response.texts.flatten = response.text :=
  Charset.flatten_decode _ _

/-- The response whose body arrives in other chunks. -/
def arriving (response : Response) (chunks : List (List UInt8)) : Response :=
  { response with chunks := chunks }

theorem text_arriving {response : Response} {chunks : List (List UInt8)}
    (sameBytes : chunks.flatten = response.chunks.flatten) :
    (response.arriving chunks).text = response.text :=
  congrArg (Charset.ofResponse response).decodeAll sameBytes

end Response

end Http

end ApiTools
