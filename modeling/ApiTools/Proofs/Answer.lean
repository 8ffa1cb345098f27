import ApiTools.Answer
import ApiTools.Proofs.Fault

/-!
# Replies that can be read

A reply comes to an answer or to a failure that is reported, except where the client stops at it: at
an integer with too many digits, or at a redirection to what cannot be put beside an address.
-/

namespace ApiTools

open ApiTools.Binding
open ApiTools.Http

/-! ## Documents -/

namespace Json

theorem stepValue_eq_error {frames : List Frame} {token : Token} {fault : Fault}
    (stopped : Assembly.stepValue frames token = .error fault) :
    fault = .malformedJson ∨ fault = .badNumber := by
  cases token with
  | overlong => exact Or.inr (Except.error.inj stopped).symm
  | text _ | scalar _ | openBracket | openBrace => cases stopped
  | closeBracket | closeBrace | comma | colon | broken =>
      exact Or.inl (Except.error.inj stopped).symm

theorem step_eq_error {assembly : Assembly} {token : Token} {fault : Fault}
    (stopped : assembly.step token = .error fault) :
    fault = .malformedJson ∨ fault = .badNumber := by
  unfold Assembly.step at stopped
  split at stopped
  · exact stepValue_eq_error stopped
  · split at stopped
    · cases stopped
    · exact stepValue_eq_error stopped
  all_goals
    split at stopped <;> first
      | exact Or.inl (Except.error.inj stopped).symm
      | cases stopped

/-- A text is no document, or holds an integer with too many digits. -/
theorem read_eq_error {document : List Char} {fault : Fault}
    (stopped : read document = .error fault) : fault = .malformedJson ∨ fault = .badNumber := by
  rw [read, bind_eq_error_iff] at stopped
  rcases stopped with inRun | ⟨assembly, -, atEnd⟩
  · obtain ⟨before, token, -, atStep⟩ := foldlM_eq_error inRun
    exact step_eq_error atStep
  · unfold Assembly.result at atEnd
    split at atEnd
    · cases atEnd
    · exact Or.inl (Except.error.inj atEnd).symm

end Json

/-! ## Pages -/

namespace Http.Pagination

open ApiTools.Text

/-- A text without the sign that it starts with. -/
def unsigned : List Char → List Char
  | '-' :: rest | '+' :: rest => rest
  | text => text

/-- The digits with which the text of a header starts, after blanks and a sign. -/
def leadingDigits (text : List Char) : List Char :=
  (unsigned (trimLeft text)).takeWhile isDigit

/-- The headers that are read for the pagination. -/
def headerNames : List String :=
  ["x-pagination-page", "x-pagination-limit", "x-pagination-page-count",
    "x-pagination-item-count"]

/-- No header for the pagination starts with an integer of too many digits. -/
def hasReadableHeaders (response : Response) : Bool :=
  headerNames.all fun name =>
    match response.header? name with
    | some value => (leadingDigits value.toList).length ≤ Decimal.digitLimit
    | none => true

theorem isOk_leadingNumber (text : List Char) :
    (leadingNumber text).isOk = decide ((text.takeWhile isDigit).length ≤ Decimal.digitLimit) := by
  unfold leadingNumber
  dsimp only
  split
  · next noDigits => simp [List.isEmpty_iff.1 noDigits]
  · split
    · next exceeds => simp [Nat.not_le.2 exceeds]
    · next fits => simp [Nat.not_lt.1 fits]

theorem isOk_leadingInteger (text : List Char) : (leadingInteger text).isOk =
    decide ((leadingDigits text).length ≤ Decimal.digitLimit) := by
  unfold leadingInteger leadingDigits
  generalize trimLeft text = trimmed
  split
  · next rest =>
      have sameSuccess : ((leadingNumber rest).map fun value =>
          value.map fun size => -size).isOk = (leadingNumber rest).isOk := by
        cases leadingNumber rest <;> rfl
      exact sameSuccess.trans (isOk_leadingNumber rest)
  · next rest => exact isOk_leadingNumber rest
  · next noMinus noPlus =>
      have sameText : unsigned trimmed = trimmed := by
        unfold unsigned
        split
        · next rest => exact absurd rfl (noMinus rest)
        · next rest => exact absurd rfl (noPlus rest)
        · rfl
      rw [sameText]
      exact isOk_leadingNumber trimmed

theorem isOk_headerInteger (response : Response) (name : String) :
    (headerInteger response name).isOk =
      match response.header? name with
      | some value => decide ((leadingDigits value.toList).length ≤ Decimal.digitLimit)
      | none => true := by
  rw [headerInteger]
  cases response.header? name with
  | some value => exact isOk_leadingInteger value.toList
  | none => rfl

theorem isOk_ofResponse (response : Response) :
    (ofResponse response).isOk = hasReadableHeaders response := by
  have headers : hasReadableHeaders response =
      headerNames.all fun name => (headerInteger response name).isOk :=
    congrArg headerNames.all (funext fun name => (isOk_headerInteger response name).symm)
  rw [headers, ofResponse, isOk_bind _ fun page _ => isOk_bind _ fun limit _ =>
    isOk_bind _ fun pageCount _ => isOk_bind_pure]
  simp only [headerNames, List.all_cons, List.all_nil, Bool.and_true]

theorem leadingNumber_eq_error {text : List Char} {fault : Fault}
    (stopped : leadingNumber text = .error fault) : fault = .badNumber := by
  unfold leadingNumber at stopped
  dsimp only at stopped
  split at stopped
  · cases stopped
  · split at stopped
    · exact (Except.error.inj stopped).symm
    · cases stopped

theorem headerInteger_eq_error {response : Response} {name : String} {fault : Fault}
    (stopped : headerInteger response name = .error fault) : fault = .badNumber := by
  unfold headerInteger at stopped
  split at stopped
  · unfold leadingInteger at stopped
    split at stopped
    · exact leadingNumber_eq_error (map_eq_error_iff.1 stopped)
    · exact leadingNumber_eq_error stopped
    · exact leadingNumber_eq_error stopped
  · cases stopped

theorem ofResponse_eq_error {response : Response} {fault : Fault}
    (stopped : ofResponse response = .error fault) : fault = .badNumber := by
  simp only [ofResponse, bind_eq_error_iff, pure_eq_ok] at stopped
  rcases stopped with atPage | ⟨_, -, atLimit | ⟨_, -, atPageCount | ⟨_, -, atItemCount |
    ⟨_, -, impossible⟩⟩⟩⟩
  · exact headerInteger_eq_error atPage
  · exact headerInteger_eq_error atLimit
  · exact headerInteger_eq_error atPageCount
  · exact headerInteger_eq_error atItemCount
  · cases impossible

end Http.Pagination

/-! ## Bodies -/

namespace Answer

theorem gather_of_le (pieces : List (List Char)) :
    ∀ {size : Nat} {read : List (List Char)}, size + pieces.flatten.length ≤ sizeLimit →
      gather size read pieces = .ok (read.reverse.flatten ++ pieces.flatten) := by
  induction pieces with
  | nil =>
      intro size read fits
      rw [gather, List.flatten_nil, List.append_nil]
  | cons piece rest inductionHypothesis =>
      intro size read fits
      rw [List.flatten_cons, List.length_append] at fits
      rw [gather, if_neg (by omega), inductionHypothesis (by omega), List.reverse_cons,
        List.flatten_append, List.flatten_cons, List.flatten_cons, List.flatten_nil,
        List.append_nil, List.append_assoc]

theorem exists_gather_of_lt (pieces : List (List Char)) :
    ∀ {size : Nat} {read : List (List Char)}, size ≤ sizeLimit →
      sizeLimit < size + pieces.flatten.length →
      ∃ part, gather size read pieces = .error part := by
  induction pieces with
  | nil =>
      intro size read fits exceeds
      rw [List.flatten_nil, List.length_nil] at exceeds
      omega
  | cons piece rest inductionHypothesis =>
      intro size read fits exceeds
      rw [List.flatten_cons, List.length_append] at exceeds
      rw [gather]
      split
      · exact ⟨_, rfl⟩
      · exact inductionHypothesis (by omega) (by omega)

theorem isReported_dataOf (response : Response) (text : List Char) :
    isReported (dataOf response text) = decide (Json.read text ≠ .error .badNumber) := by
  unfold dataOf
  split
  · next isEmpty =>
      rw [List.isEmpty_iff.1 isEmpty]
      rfl
  · split
    · next data done => simp [done, isReported]
    · next malformed => simp [malformed, isReported, failure, Fault.isReported]
    · next fault notMalformed stopped =>
        rcases Json.read_eq_error stopped with rfl | rfl
        · exact absurd rfl notMalformed
        · rw [stopped]
          rfl

/-- The text of a body can be read, as far as it is: on success, and up to the limit of its size. -/
def hasReadableBody (response : Response) : Bool :=
  !response.isSuccess || response.status = 204 || sizeLimit < response.texts.flatten.length ||
    (Pagination.hasReadableHeaders response &&
      decide (Json.read response.texts.flatten ≠ .error .badNumber))

/-- Where a redirection refers to can be put beside an address. -/
def hasUsableLocation (response : Response) : Bool :=
  match response.header? "location" with
  | some address =>
    !redirections.contains response.status ||
      match Url.ofText address.toList with
      | .ok url => url.referenceFlaw?.isNone
      | .error _ => true
  | none => true

/-- A redirection to what is no address. -/
def misdirects (response : Response) : Bool :=
  match response.header? "location" with
  | some address => redirections.contains response.status && !(Url.ofText address.toList).isOk
  | none => false

theorem isReported_checkLocation (response : Response) :
    isReported (checkLocation response) = hasUsableLocation response := by
  unfold checkLocation hasUsableLocation
  cases response.header? "location" with
  | none => rfl
  | some address =>
      cases isRedirection : redirections.contains response.status with
      | false => rfl
      | true =>
          dsimp only
          rw [if_pos rfl, Bool.not_true, Bool.false_or]
          cases Url.ofText address.toList with
          | error flaw => rfl
          | ok url =>
              dsimp only
              cases url.referenceFlaw? <;> rfl

theorem isReported_ofText (response : Response) (text : List Char) :
    isReported (ofText response text) = (!response.isSuccess ||
      (Pagination.hasReadableHeaders response &&
        decide (Json.read text ≠ .error .badNumber))) := by
  unfold ofText
  cases success : response.isSuccess with
  | false => simp [isReported, failure, Fault.isReported]
  | true =>
      have silent : IsSilent (Pagination.ofResponse response) := by
        intro fault stopped
        rw [Pagination.ofResponse_eq_error stopped]
        rfl
      rw [Bool.not_true, if_neg (by decide), isReported_bind _ silent fun pagination _ => ?_,
        Pagination.isOk_ofResponse, Bool.false_or]
      rw [← isReported_dataOf response text]
      cases dataOf response text <;> rfl

/-- A response that the client can read, so that it comes to an answer or to a failure that is
reported. -/
def isReadable (response : Response) : Bool :=
  hasUsableLocation response && hasReadableBody response

theorem isSuccess_of_checkLocation_eq_error {response : Response} {fault : Fault}
    (stopped : checkLocation response = .error fault) : response.isSuccess = false := by
  have isRedirection : redirections.contains response.status = true := by
    unfold checkLocation at stopped
    split at stopped
    · split at stopped
      · assumption
      · cases stopped
    · cases stopped
  have noSuccess : ∀ status ∈ redirections,
      (200 ≤ status && status < 300) = false := by
    decide
  exact noSuccess response.status (List.contains_iff_mem.1 isRedirection)

theorem isReported_ofResponse (response : Response) :
    isReported (ofResponse response) = isReadable response := by
  rw [isReadable, ← isReported_checkLocation, ofResponse]
  cases checked : checkLocation response with
  | error fault =>
      have noSuccess := isSuccess_of_checkLocation_eq_error checked
      rw [error_bind, hasReadableBody, noSuccess, Bool.not_false, Bool.true_or, Bool.true_or,
        Bool.true_or, Bool.and_true]
      rfl
  | ok _ =>
      rw [ok_bind, isReported, Bool.true_and, hasReadableBody]
      split
      · next isEmpty => simp [isEmpty, isReported]
      · next notEmpty =>
          split
          · next isRedirection =>
              have noSuccess : response.isSuccess = false := by
                rw [Response.isSuccess, isRedirection]
                rfl
              rw [noSuccess]
              rfl
          · next notRedirection =>
              by_cases fits : response.texts.flatten.length ≤ sizeLimit
              · have gathered : gather 0 [] response.texts = .ok response.texts.flatten :=
                  gather_of_le response.texts (by omega)
                rw [gathered]
                dsimp only
                rw [isReported_ofText, decide_eq_false notEmpty,
                  decide_eq_false (Nat.not_lt.2 fits), Bool.or_false, Bool.or_false]
              · have stopped : ∃ part, gather 0 [] response.texts = .error part :=
                  exists_gather_of_lt response.texts (by omega) (by omega)
                obtain ⟨part, gathered⟩ := stopped
                rw [gathered, decide_eq_true (Nat.not_le.1 fits), Bool.or_true, Bool.true_or]
                rfl

/-- The reply to a request can be read. A response that can be read comes from an absolute
address. -/
def isReadableReply (request : Request) : Reply → Bool
  | .response response => request.address.isAbsolute && isReadable response
  | .failure _ => true

theorem isReported_ofReply (request : Request) (reply : Reply) :
    isReported (ofReply request reply) = isReadableReply request reply := by
  cases reply with
  | failure message => rfl
  | response response =>
      rw [ofReply, isReadableReply, ← isReported_ofResponse]
      cases request.address.isAbsolute <;> rfl

/-! ## Answers and failures -/

theorem misdirects_of_checkLocation {response : Response}
    (passes : checkLocation response = .ok ()) : misdirects response = false := by
  unfold checkLocation at passes
  unfold misdirects
  cases found : response.header? "location" with
  | none => rfl
  | some address =>
      rw [found] at passes
      dsimp only at passes ⊢
      cases isRedirection : redirections.contains response.status with
      | false => rfl
      | true =>
          rw [if_pos isRedirection] at passes
          cases read : Url.ofText address.toList with
          | ok url => rfl
          | error flaw =>
              rw [read] at passes
              cases passes

theorem checkLocation_eq_error {response : Response} {fault : Fault}
    (stopped : checkLocation response = .error fault) :
    fault.isReported = false ∨
      ∃ failure, fault = .api failure ∧ failure.status = 0 ∧ misdirects response = true := by
  unfold checkLocation at stopped
  split at stopped
  · next address found =>
      split at stopped
      · next isRedirection =>
          split at stopped
          · next flaw broken =>
              refine Or.inr ⟨_, (Except.error.inj stopped).symm, rfl, ?_⟩
              rw [misdirects, found]
              dsimp only
              rw [isRedirection, broken]
              rfl
          · split at stopped
            · rw [← Except.error.inj stopped]
              exact Or.inl rfl
            · cases stopped
      · cases stopped
  · cases stopped

theorem dataOf_eq_ok_iff {response : Response} {text : List Char} {data : Json} :
    dataOf response text = .ok data ↔
      text = [] ∧ data = .null ∨ text ≠ [] ∧ Json.read text = .ok data := by
  unfold dataOf
  cases text with
  | nil => simp [eq_comm]
  | cons first rest =>
      rw [List.isEmpty_cons, if_neg (by decide)]
      cases Json.read (first :: rest) with
      | ok read => simp
      | error fault => cases fault <;> simp

theorem dataOf_eq_error {response : Response} {text : List Char} {fault : Fault}
    (stopped : dataOf response text = .error fault) :
    fault.isReported = false ∨
      ∃ failure, fault = .api failure ∧ failure.status = response.status := by
  unfold dataOf at stopped
  split at stopped
  · cases stopped
  · split at stopped
    · cases stopped
    · exact Or.inr ⟨_, (Except.error.inj stopped).symm, rfl⟩
    · next other notMalformed broken =>
        rcases Json.read_eq_error broken with rfl | rfl
        · exact absurd rfl notMalformed
        · rw [← Except.error.inj stopped]
          exact Or.inl rfl

theorem ofText_eq_ok_iff {response : Response} {text : List Char} {answer : Answer} :
    ofText response text = .ok answer ↔
      response.isSuccess = true ∧ Pagination.ofResponse response = .ok answer.pagination ∧
        dataOf response text = .ok answer.data := by
  unfold ofText
  cases success : response.isSuccess with
  | false => simp
  | true =>
      obtain ⟨data, pagination⟩ := answer
      rw [Bool.not_true, if_neg (by decide)]
      simp only [bind_eq_ok_iff, pure_eq_ok, Except.ok.injEq, Answer.mk.injEq, true_and]
      constructor
      · rintro ⟨found, paged, read, done, rfl, rfl⟩
        exact ⟨paged, done⟩
      · rintro ⟨paged, done⟩
        exact ⟨pagination, paged, data, done, rfl, rfl⟩

theorem ofText_eq_error {response : Response} {text : List Char} {fault : Fault}
    (stopped : ofText response text = .error fault) :
    fault.isReported = false ∨
      ∃ failure, fault = .api failure ∧ failure.status = response.status := by
  unfold ofText at stopped
  split at stopped
  · exact Or.inr ⟨_, (Except.error.inj stopped).symm, rfl⟩
  · rcases bind_eq_error_iff.1 stopped with atHeaders | ⟨pagination, -, atData⟩
    · rw [Pagination.ofResponse_eq_error atHeaders]
      exact Or.inl rfl
    · rcases bind_eq_error_iff.1 atData with atText | ⟨data, -, impossible⟩
      · exact dataOf_eq_error atText
      · cases impossible

/-- A response whose body has to be read. -/
theorem ofResponse_of_read {response : Response} (passes : checkLocation response = .ok ())
    (notEmpty : response.status ≠ 204) (notRedirection : response.status ≠ 302) :
    ofResponse response =
      match gather 0 [] response.texts with
      | .ok text => ofText response text
      | .error text =>
        .error (failure "simkl api error: response too large" response (text.take keptSize)) := by
  rw [ofResponse, passes, ok_bind, if_neg notEmpty, if_neg notRedirection]
  rfl

theorem gather_eq_ok_iff {pieces : List (List Char)} {text : List Char} :
    gather 0 [] pieces = .ok text ↔ pieces.flatten.length ≤ sizeLimit ∧ text = pieces.flatten := by
  by_cases fits : pieces.flatten.length ≤ sizeLimit
  · have gathered : gather 0 [] pieces = .ok pieces.flatten := gather_of_le pieces (by omega)
    rw [gathered, Except.ok.injEq, eq_comm, and_iff_right fits]
  · obtain ⟨part, stopped⟩ : ∃ part, gather 0 [] pieces = .error part :=
      exists_gather_of_lt pieces (by omega) (by omega)
    rw [stopped]
    constructor
    · intro impossible
      cases impossible
    · intro both
      exact absurd both.1 fits

/-- What a response with an answer is: one without content, a redirection, or a success with a body
of admissible size that is empty or a document. -/
theorem ofResponse_eq_ok_iff {response : Response} {answer : Answer} :
    ofResponse response = .ok answer ↔
      (response.status = 204 ∧ answer = ⟨.obj [], none⟩) ∨
      (response.status = 302 ∧ checkLocation response = .ok () ∧
        answer = ⟨.obj [("redirectUrl", location response)], none⟩) ∨
      (response.status ≠ 204 ∧ response.isSuccess = true ∧
        response.texts.flatten.length ≤ sizeLimit ∧
        Pagination.ofResponse response = .ok answer.pagination ∧
        dataOf response response.texts.flatten = .ok answer.data) := by
  cases checked : checkLocation response with
  | error fault =>
      have noSuccess := isSuccess_of_checkLocation_eq_error checked
      have notEmpty : response.status ≠ 204 := by
        intro isEmpty
        rw [Response.isSuccess, isEmpty] at noSuccess
        cases noSuccess
      rw [ofResponse, checked, error_bind]
      simp [noSuccess, notEmpty]
  | ok passed =>
      by_cases isEmpty : response.status = 204
      · rw [ofResponse, checked, ok_bind, if_pos isEmpty]
        simp only [isEmpty, pure_eq_ok, Except.ok.injEq, true_and, ne_eq, not_true_eq_false,
          false_and, or_false, eq_comm, show (204 : Nat) ≠ 302 by decide]
      · by_cases isRedirection : response.status = 302
        · have noSuccess : response.isSuccess = false := by
            rw [Response.isSuccess, isRedirection]
            rfl
          rw [ofResponse, checked, ok_bind, if_neg isEmpty, if_pos isRedirection]
          simp only [isRedirection, noSuccess, pure_eq_ok, Except.ok.injEq, true_and, false_and,
            false_or, and_false, or_false, eq_comm, reduceCtorEq,
            show (204 : Nat) ≠ 302 by decide]
        · rw [ofResponse_of_read checked isEmpty isRedirection]
          cases gathered : gather 0 [] response.texts with
          | ok text =>
              obtain ⟨fits, rfl⟩ := gather_eq_ok_iff.1 gathered
              dsimp only
              rw [ofText_eq_ok_iff]
              simp only [isEmpty, isRedirection, fits, ne_eq, not_false_eq_true, true_and,
                false_and, false_or]
          | error part =>
              have exceeds : ¬response.texts.flatten.length ≤ sizeLimit := fun fits => by
                rw [gather_eq_ok_iff.2 ⟨fits, rfl⟩] at gathered
                cases gathered
              dsimp only
              simp only [isEmpty, isRedirection, exceeds, false_and, and_false, or_false,
                reduceCtorEq]

theorem ofResponse_eq_error {response : Response} {fault : Fault}
    (stopped : ofResponse response = .error fault) :
    fault.isReported = false ∨
      ∃ failure, fault = .api failure ∧
        failure.status = if misdirects response then 0 else (response.status : Int) := by
  cases checked : checkLocation response with
  | error earlier =>
      rw [ofResponse, checked, error_bind] at stopped
      obtain rfl := Except.error.inj stopped
      rcases checkLocation_eq_error checked with silent | ⟨failure, isApi, noStatus, misdirected⟩
      · exact Or.inl silent
      · refine Or.inr ⟨failure, isApi, ?_⟩
        rw [if_pos misdirected, noStatus]
  | ok passed =>
      rw [if_neg (by rw [misdirects_of_checkLocation checked]; decide)]
      by_cases isEmpty : response.status = 204
      · rw [ofResponse, checked, ok_bind, if_pos isEmpty] at stopped
        cases stopped
      · by_cases isRedirection : response.status = 302
        · rw [ofResponse, checked, ok_bind, if_neg isEmpty, if_pos isRedirection] at stopped
          cases stopped
        · rw [ofResponse_of_read checked isEmpty isRedirection] at stopped
          split at stopped
          · exact ofText_eq_error stopped
          · exact Or.inr ⟨_, (Except.error.inj stopped).symm, rfl⟩

/-- The status that a failure shows for a reply: none where no response came, and none for a
redirection to what is no address. -/
def shownStatus : Reply → Int
  | .response response => if misdirects response then 0 else response.status
  | .failure _ => 0

theorem ofReply_eq_error {request : Request} {reply : Reply} {fault : Fault}
    (stopped : ofReply request reply = .error fault) :
    fault.isReported = false ∨
      ∃ failure, fault = .api failure ∧ failure.status = shownStatus reply := by
  cases reply with
  | failure message => exact Or.inr ⟨_, (Except.error.inj stopped).symm, rfl⟩
  | response response =>
      rw [ofReply] at stopped
      split at stopped
      · exact ofResponse_eq_error stopped
      · rw [← Except.error.inj stopped]
        exact Or.inl rfl

end Answer

end ApiTools
