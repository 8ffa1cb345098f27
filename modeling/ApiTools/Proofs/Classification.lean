import ApiTools.Proofs.Answer
import ApiTools.Proofs.Client
import ApiTools.Proofs.Http.Body

/-!
# What a response means

The status and the text of a response decide what it means, and neither the chunks nor the pieces in
which the text arrives make a difference: the loop that reads them stops at the same length, and what
it keeps of a text that is too long is a first part of it.
-/

namespace ApiTools

open ApiTools.Binding
open ApiTools.Http

namespace Answer

/-! ## Pieces of a text -/

/-- The meaning of a response whose body arrives in the given pieces of text. -/
def ofPieces (response : Response) (pieces : List (List Char)) : Except Fault Answer := do
  checkLocation response
  if response.status = 204 then
    return ⟨.obj [], none⟩
  else if response.status = 302 then
    return ⟨.obj [("redirectUrl", location response)], none⟩
  else
    match gather 0 [] pieces with
    | .ok text => ofText response text
    | .error text =>
      throw (failure "simkl api error: response too large" response (text.take keptSize))

theorem ofResponse_eq_ofPieces (response : Response) :
    ofResponse response = ofPieces response response.texts := rfl

/-- The part that has been read when the loop stops exceeds the limit and is a first part. -/
theorem isPrefix_of_gather (pieces : List (List Char)) :
    ∀ {size : Nat} {read : List (List Char)} {part : List Char},
      size = read.reverse.flatten.length → gather size read pieces = .error part →
      sizeLimit < part.length ∧ part <+: read.reverse.flatten ++ pieces.flatten := by
  -- the loop keeps the length of what it has read beside it
  induction pieces with
  | nil =>
      intro size read part _ stopped
      cases stopped
  | cons piece rest inductionHypothesis =>
      intro size read part counted stopped
      have readOn : (piece :: read).reverse.flatten = read.reverse.flatten ++ piece := by
        rw [List.reverse_cons, List.flatten_append, List.flatten_singleton]
      rw [List.flatten_cons, ← List.append_assoc, ← readOn]
      have countedOn : size + piece.length = (piece :: read).reverse.flatten.length := by
        rw [readOn, List.length_append, counted]
      rw [gather] at stopped
      split at stopped
      · next exceeds =>
          rw [← Except.error.inj stopped, ← countedOn]
          exact ⟨exceeds, List.prefix_append _ _⟩
      · exact inductionHypothesis countedOn stopped

theorem keptSize_le_sizeLimit : keptSize ≤ sizeLimit := by decide

/-- Of a body that is read, the whole text decides, and of one that is too long its beginning. -/
theorem ofPieces_of_read {response : Response} (passes : checkLocation response = .ok ())
    (notEmpty : response.status ≠ 204) (notRedirection : response.status ≠ 302)
    (pieces : List (List Char)) :
    ofPieces response pieces =
      if sizeLimit < pieces.flatten.length then
        .error (failure "simkl api error: response too large" response
          (pieces.flatten.take keptSize))
      else ofText response pieces.flatten := by
  rw [ofPieces, passes, ok_bind, if_neg notEmpty, if_neg notRedirection]
  cases gathered : gather 0 [] pieces with
  | ok text =>
      obtain ⟨fits, rfl⟩ := gather_eq_ok_iff.1 gathered
      rw [if_neg (Nat.not_lt.2 fits)]
  | error part =>
      have nothingRead : 0 = ([] : List (List Char)).reverse.flatten.length := rfl
      obtain ⟨exceeds, isPrefix⟩ := isPrefix_of_gather pieces nothingRead gathered
      rw [List.reverse_nil, List.flatten_nil, List.nil_append] at isPrefix
      have tooLong : sizeLimit < pieces.flatten.length :=
        Nat.lt_of_lt_of_le exceeds isPrefix.length_le
      obtain ⟨unread, whole⟩ := isPrefix
      -- a part beyond the limit is longer than what is kept of it
      have sameStart : part.take keptSize = pieces.flatten.take keptSize := by
        have short : keptSize ≤ part.length := by
          have small := keptSize_le_sizeLimit
          omega
        rw [← List.take_append_of_le_length short, whole]
      rw [if_pos tooLong, ← sameStart]
      rfl

/-- It makes no difference where the pieces end. -/
theorem ofPieces_congr {response : Response} {pieces others : List (List Char)}
    (sameText : pieces.flatten = others.flatten) :
    ofPieces response pieces = ofPieces response others := by
  cases checked : checkLocation response with
  | error fault => rw [ofPieces, ofPieces, checked, error_bind, error_bind]
  | ok passed =>
      by_cases isEmpty : response.status = 204
      · rw [ofPieces, ofPieces, if_pos isEmpty, if_pos isEmpty]
      · by_cases isRedirection : response.status = 302
        · rw [ofPieces, ofPieces, if_neg isEmpty, if_neg isEmpty, if_pos isRedirection,
            if_pos isRedirection]
        · rw [ofPieces_of_read checked isEmpty isRedirection,
            ofPieces_of_read checked isEmpty isRedirection, sameText]

theorem ofResponse_of_pieces {response : Response} {pieces : List (List Char)}
    (whole : pieces.flatten = response.text) :
    ofResponse response = ofPieces response pieces := by
  rw [ofResponse_eq_ofPieces]
  exact ofPieces_congr (response.flatten_texts.trans whole.symm)

theorem ofResponse_arriving {response : Response} {chunks : List (List UInt8)}
    (sameBytes : chunks.flatten = response.chunks.flatten) :
    ofResponse (response.arriving chunks) = ofResponse response := by
  have sameText : (response.arriving chunks).texts.flatten = response.text := by
    rw [Response.flatten_texts, Response.text_arriving sameBytes]
  exact (ofResponse_of_pieces sameText).symm

/-! ## The meaning of a response -/

/-- The data or the failure that a status and a text mean. -/
def classify (response : Response) (text : List Char) : Except Fault Json :=
  if response.status = 204 then .ok (.obj [])
  else if response.status = 302 then .ok (.obj [("redirectUrl", location response)])
  else if sizeLimit < text.length then
    .error (failure "simkl api error: response too large" response (text.take keptSize))
  else if !response.isSuccess then
    .error (failure s!"simkl api error: {response.status} {reasonPhrase response.status}" response
      text)
  else if text.isEmpty then .ok .null
  else
    match Json.read text with
    | .ok data => .ok data
    | .error _ => .error (failure "simkl api error: invalid json response" response text)

theorem classify_eq_error {response : Response} {text : List Char} {fault : Fault}
    (fails : classify response text = .error fault) :
    ∃ failure, fault = .api failure ∧ failure.status = response.status := by
  unfold classify at fails
  split at fails
  · cases fails
  split at fails
  · cases fails
  split at fails
  · exact ⟨_, (Except.error.inj fails).symm, rfl⟩
  split at fails
  · exact ⟨_, (Except.error.inj fails).symm, rfl⟩
  split at fails
  · cases fails
  split at fails
  · cases fails
  · exact ⟨_, (Except.error.inj fails).symm, rfl⟩

/-- A response passes whose location, where it is needed, can be used and is an address. -/
theorem checkLocation_of_isReadable {response : Response} (readable : isReadable response = true)
    (directs : misdirects response = false) : checkLocation response = .ok () := by
  rw [isReadable, Bool.and_eq_true, ← isReported_checkLocation] at readable
  cases checked : checkLocation response with
  | ok passed => rfl
  | error fault =>
      rw [checked] at readable
      rcases checkLocation_eq_error checked with silent | ⟨_, -, -, misdirected⟩
      · rw [isReported, silent] at readable
        cases readable.1
      · rw [misdirected] at directs
        cases directs

/-- A redirection to what is no address counts as a request without a response. -/
theorem exists_ofResponse_of_misdirects {response : Response}
    (misdirected : misdirects response = true) :
    redirections.contains response.status = true ∧
      ∃ message, ofResponse response = .error (unanswered message) := by
  unfold misdirects at misdirected
  rw [ofResponse]
  unfold checkLocation
  cases found : response.header? "location" with
  | none =>
      rw [found] at misdirected
      cases misdirected
  | some address =>
      rw [found, Bool.and_eq_true] at misdirected
      refine ⟨misdirected.1, ?_⟩
      dsimp only
      rw [if_pos misdirected.1]
      cases read : Url.ofText address.toList with
      | error flaw => exact ⟨_, rfl⟩
      | ok url =>
          rw [read] at misdirected
          cases misdirected.2

theorem map_data_ofText {response : Response} {text : List Char}
    (headers : response.isSuccess = true → Pagination.hasReadableHeaders response = true)
    (document : response.isSuccess = true → Json.read text ≠ .error .badNumber)
    (fits : ¬ sizeLimit < text.length) (notEmpty : response.status ≠ 204)
    (notRedirection : response.status ≠ 302) :
    (ofText response text).map data = classify response text := by
  rw [classify, if_neg notEmpty, if_neg notRedirection, if_neg fits, ofText]
  cases success : response.isSuccess with
  | false => rfl
  | true =>
      rw [Bool.not_true, if_neg (by decide), if_neg (by decide)]
      have paginated := headers success
      rw [← Pagination.isOk_ofResponse] at paginated
      obtain ⟨pagination, paged⟩ := exists_eq_ok_of_isOk paginated
      rw [paged, ok_bind, dataOf]
      split
      · rfl
      · cases read : Json.read text with
        | ok value => rfl
        | error fault =>
            rcases Json.read_eq_error read with rfl | rfl
            · rfl
            · exact absurd read (document success)

/-- A response that can be read means what its status and its text say. -/
theorem map_data_ofResponse {response : Response} (readable : isReadable response = true)
    (directs : misdirects response = false) :
    (ofResponse response).map data = classify response response.text := by
  have passes := checkLocation_of_isReadable readable directs
  by_cases notEmpty : response.status ≠ 204
  · by_cases notRedirection : response.status ≠ 302
    · rw [ofResponse_eq_ofPieces, ofPieces_of_read passes notEmpty notRedirection,
        response.flatten_texts]
      by_cases exceeds : sizeLimit < response.text.length
      · rw [if_pos exceeds, classify, if_neg notEmpty, if_neg notRedirection, if_pos exceeds]
        rfl
      · have body : response.isSuccess = true →
            Pagination.hasReadableHeaders response = true ∧
              Json.read response.text ≠ .error .badNumber := by
          intro success
          rw [isReadable, Bool.and_eq_true, hasReadableBody, response.flatten_texts] at readable
          simpa [success, notEmpty, exceeds] using readable.2
        rw [if_neg exceeds]
        exact map_data_ofText (fun success => (body success).1) (fun success => (body success).2)
          exceeds notEmpty notRedirection
    · rw [not_not] at notRedirection
      have hasContent : response.status ≠ 204 := notEmpty
      rw [ofResponse, passes, ok_bind, classify, if_neg hasContent, if_neg hasContent,
        if_pos notRedirection, if_pos notRedirection]
      rfl
  · rw [not_not] at notEmpty
    rw [ofResponse, passes, ok_bind, classify, if_pos notEmpty, if_pos notEmpty]
    rfl

/-- Only a response that can be read, and is no redirection to what is no address, means what its
status and its text say. -/
theorem map_data_ofResponse_iff (response : Response) :
    (ofResponse response).map data = classify response response.text ↔
      isReadable response = true ∧ misdirects response = false := by
  constructor
  · intro same
    constructor
    · rw [← isReported_ofResponse]
      cases answered : ofResponse response with
      | ok answer => rfl
      | error fault =>
          rw [answered] at same
          obtain ⟨failure, rfl, -⟩ := classify_eq_error same.symm
          rfl
    · by_contra misdirected
      rw [Bool.not_eq_false] at misdirected
      obtain ⟨isRedirection, message, stopped⟩ := exists_ofResponse_of_misdirects misdirected
      rw [stopped] at same
      -- the failure would show the status of a redirection, and it shows none
      obtain ⟨failure, isApi, shown⟩ := classify_eq_error same.symm
      have noStatus : ¬ redirections.contains 0 = true := by decide
      cases isApi
      have isZero : response.status = 0 := Int.ofNat_eq_zero.1 shown.symm
      rw [isZero] at isRedirection
      exact noStatus isRedirection
  · rintro ⟨readable, directs⟩
    exact map_data_ofResponse readable directs

end Answer

namespace Client

/-- A call of an endpoint without parameters. -/
def plainCall : Call :=
  ⟨"/x", "GET", [], none⟩

/-- A quoted letter whose two bytes come in different chunks. -/
def splitResponse : Response :=
  ⟨200, [], [[0x22, 0xC3], [0xA9, 0x22]]⟩

/-- A redirection whose location has a port that is no number. -/
def brokenRedirection : Response :=
  ⟨302, [("Location", "http://a:b")], []⟩

end Client

end ApiTools
