import ApiTools.Proofs.Answer
import ApiTools.Proofs.Json.RoundTrip
import ApiTools.Proofs.Text.Digit
import ApiTools.Proofs.Text.Prefix

/-!
# Reading the headers of a page

A header is read by the integer that it begins with, and the pagination counts if all of its headers
begin with one. This holds except where an integer has more digits than may be read: then there is
no answer at all, whatever the other headers say.
-/

namespace ApiTools.Http.Pagination

open ApiTools.Binding
open ApiTools.Text

/-! ## The integer at the start of a text -/

/-- The text begins with an integer: after blanks a sign or none, and then digits up to what is no
digit. -/
structure BeginsWith (text sign digits : List Char) : Prop where
  isSign : sign ∈ [[], ['+'], ['-']]
  filled : digits ≠ []
  areDigits : ∀ c ∈ digits, isDigit c = true
  split : ∃ blanks rest, (∀ c ∈ blanks, isBlank c = true) ∧ (∀ c ∈ rest.head?, isDigit c = false) ∧
    text = blanks ++ (sign ++ (digits ++ rest))

/-- The integer that a sign and digits denote. -/
def denoted (sign digits : List Char) : Int :=
  if sign = ['-'] then -(Nat.ofDigits 10 (decimalDigits digits) : Nat)
  else (Nat.ofDigits 10 (decimalDigits digits) : Nat)

theorem unsigned_of_ne {text : List Char} (noMinus : text.head? ≠ some '-')
    (noPlus : text.head? ≠ some '+') : unsigned text = text := by
  unfold unsigned
  split
  · exact absurd rfl noMinus
  · exact absurd rfl noPlus
  · rfl

theorem leadingInteger_of_ne {text : List Char} (noMinus : (trimLeft text).head? ≠ some '-')
    (noPlus : (trimLeft text).head? ≠ some '+') :
    leadingInteger text = leadingNumber (trimLeft text) := by
  unfold leadingInteger
  split
  · next trimmed => exact absurd (by rw [trimmed]; rfl) noMinus
  · next trimmed => exact absurd (by rw [trimmed]; rfl) noPlus
  · rfl

/-- A text is read by what stands behind its sign, which may be none. -/
theorem exists_sign (text : List Char) :
    ∃ sign ∈ [[], ['+'], ['-']], trimLeft text = sign ++ unsigned (trimLeft text) ∧
      leadingInteger text = (leadingNumber (unsigned (trimLeft text))).map fun value =>
        value.map fun size => if sign = ['-'] then -size else size := by
  have unchanged (read : Except Fault (Option Int)) :
      (read.map fun value => value.map fun size => size) = read := by
    rcases read with fault | value
    · rfl
    · cases value <;> rfl
  by_cases minus : (trimLeft text).head? = some '-'
  · obtain ⟨rest, trimmed⟩ := List.head?_eq_some_iff.1 minus
    refine ⟨['-'], by decide, ?_, ?_⟩
    · rw [trimmed]
      rfl
    · rw [leadingInteger, trimmed]
      rfl
  · by_cases plus : (trimLeft text).head? = some '+'
    · obtain ⟨rest, trimmed⟩ := List.head?_eq_some_iff.1 plus
      refine ⟨['+'], by decide, ?_, ?_⟩
      · rw [trimmed]
        rfl
      · rw [leadingInteger, trimmed]
        exact (unchanged _).symm
    · refine ⟨[], by decide, ?_, ?_⟩
      · rw [unsigned_of_ne minus plus]
        rfl
      · rw [leadingInteger_of_ne minus plus, unsigned_of_ne minus plus]
        exact (unchanged _).symm

theorem leadingNumber_of_takeWhile {text digits : List Char} (filled : digits ≠ [])
    (taken : text.takeWhile isDigit = digits) :
    leadingNumber text = if Decimal.digitLimit < digits.length then .error .badNumber
      else .ok (some (Nat.ofDigits 10 (decimalDigits digits) : Nat)) := by
  have notEmpty : ¬digits.isEmpty = true := by simpa using filled
  rw [leadingNumber, taken, if_neg notEmpty, numberOfDigits_eq]

namespace BeginsWith

variable {text sign digits : List Char}

theorem head?_ne (begins : BeginsWith text sign digits) {mark : Char}
    (notDigit : isDigit mark = false) (rest : List Char) :
    (digits ++ rest).head? ≠ some mark := by
  obtain ⟨c, others, rfl⟩ := List.exists_cons_of_ne_nil begins.filled
  intro isHead
  have digit := begins.areDigits c List.mem_cons_self
  rw [Option.some.inj isHead, notDigit] at digit
  cases digit

theorem exists_trimLeft (begins : BeginsWith text sign digits) :
    ∃ rest, trimLeft text = sign ++ (digits ++ rest) ∧
      (digits ++ rest).takeWhile isDigit = digits := by
  obtain ⟨isSign, filled, areDigits, blanks, rest, areBlanks, ends, rfl⟩ := begins
  refine ⟨rest, ?_, (span_of_ends areDigits ends).1⟩
  rw [trimLeft, List.dropWhile_append_of_pos areBlanks]
  obtain ⟨c, others, rfl⟩ := List.exists_cons_of_ne_nil filled
  have notBlank := isBlank_of_isDigit (areDigits c List.mem_cons_self)
  simp only [List.mem_cons, List.not_mem_nil, or_false] at isSign
  rcases isSign with rfl | rfl | rfl
  · exact List.dropWhile_cons_of_neg (ne_true_of_eq_false notBlank)
  · exact List.dropWhile_cons_of_neg (by decide)
  · exact List.dropWhile_cons_of_neg (by decide)

theorem exists_unsigned (begins : BeginsWith text sign digits) :
    trimLeft text = sign ++ unsigned (trimLeft text) ∧
      (unsigned (trimLeft text)).takeWhile isDigit = digits := by
  obtain ⟨rest, trimmed, taken⟩ := begins.exists_trimLeft
  have behind : unsigned (trimLeft text) = digits ++ rest := by
    have isSign := begins.isSign
    simp only [List.mem_cons, List.not_mem_nil, or_false] at isSign
    rw [trimmed]
    rcases isSign with rfl | rfl | rfl
    · exact unsigned_of_ne (begins.head?_ne (by decide) rest) (begins.head?_ne (by decide) rest)
    · rfl
    · rfl
  rw [behind]
  exact ⟨trimmed, taken⟩

theorem leadingDigits_eq (begins : BeginsWith text sign digits) : leadingDigits text = digits :=
  begins.exists_unsigned.2

/-- The text is read as the integer that it begins with, unless there are too many digits, and what
follows the digits does not matter. -/
theorem leadingInteger_eq (begins : BeginsWith text sign digits) :
    leadingInteger text = if Decimal.digitLimit < digits.length then .error .badNumber
      else .ok (some (denoted sign digits)) := by
  obtain ⟨trimmed, taken⟩ := begins.exists_unsigned
  obtain ⟨other, -, alsoTrimmed, read⟩ := exists_sign text
  obtain rfl : other = sign := List.append_cancel_right (alsoTrimmed.symm.trans trimmed)
  rw [read, leadingNumber_of_takeWhile begins.filled taken]
  by_cases exceeds : Decimal.digitLimit < digits.length
  · rw [if_pos exceeds, if_pos exceeds]
    rfl
  · rw [if_neg exceeds, if_neg exceeds]
    rfl

end BeginsWith

/-- A text with leading digits begins with an integer. -/
theorem exists_beginsWith {text : List Char} (filled : leadingDigits text ≠ []) :
    ∃ sign, BeginsWith text sign (leadingDigits text) := by
  obtain ⟨sign, isSign, trimmed, -⟩ := exists_sign text
  refine ⟨sign, isSign, filled, fun c member => List.mem_takeWhile_imp member,
    text.takeWhile isBlank, (unsigned (trimLeft text)).dropWhile isDigit,
    fun c member => List.mem_takeWhile_imp member, ends_dropWhile isDigit _, ?_⟩
  rw [leadingDigits, List.takeWhile_append_dropWhile, ← trimmed, trimLeft,
    List.takeWhile_append_dropWhile]

theorem leadingInteger_of_no_digits {text : List Char} (noDigits : leadingDigits text = []) :
    leadingInteger text = .ok none := by
  obtain ⟨sign, -, -, read⟩ := exists_sign text
  rw [leadingDigits] at noDigits
  rw [read, leadingNumber, noDigits]
  rfl

/-! ## Headers -/

/-- A header is there and begins with the integer. -/
def HeaderDenotes (response : Response) (name : String) (value : Int) : Prop :=
  ∃ text sign digits, response.header? name = some text ∧ BeginsWith text.toList sign digits ∧
    value = denoted sign digits

/-- A header is there and begins with an integer of more digits than may be read. -/
def IsOverlong (response : Response) (name : String) : Prop :=
  ∃ text sign digits, response.header? name = some text ∧ BeginsWith text.toList sign digits ∧
    Decimal.digitLimit < digits.length

/-- The headers are all there, and each begins with the integer that the pagination has. -/
structure Denotes (response : Response) (pagination : Pagination) : Prop where
  page : HeaderDenotes response "x-pagination-page" pagination.page
  limit : HeaderDenotes response "x-pagination-limit" pagination.limit
  pageCount : HeaderDenotes response "x-pagination-page-count" pagination.pageCount
  itemCount : HeaderDenotes response "x-pagination-item-count" pagination.itemCount

theorem denotes_iff {response : Response} {pagination : Pagination} :
    Denotes response pagination ↔
      HeaderDenotes response "x-pagination-page" pagination.page ∧
        HeaderDenotes response "x-pagination-limit" pagination.limit ∧
        HeaderDenotes response "x-pagination-page-count" pagination.pageCount ∧
        HeaderDenotes response "x-pagination-item-count" pagination.itemCount := by
  constructor
  · intro denotes
    exact ⟨denotes.page, denotes.limit, denotes.pageCount, denotes.itemCount⟩
  · rintro ⟨page, limit, pageCount, itemCount⟩
    exact ⟨page, limit, pageCount, itemCount⟩

theorem exists_headerInteger {response : Response} {name : String}
    (fits : ¬ IsOverlong response name) :
    ∃ read, headerInteger response name = .ok read ∧
      ∀ value, read = some value ↔ HeaderDenotes response name value := by
  rw [headerInteger]
  cases found : response.header? name with
  | none =>
      refine ⟨none, rfl, fun value => iff_of_false (Option.some_ne_none value).symm ?_⟩
      rintro ⟨text, sign, digits, isThere, -⟩
      cases found.symm.trans isThere
  | some text =>
      by_cases noDigits : leadingDigits text.toList = []
      · refine ⟨none, leadingInteger_of_no_digits noDigits,
          fun value => iff_of_false (Option.some_ne_none value).symm ?_⟩
        rintro ⟨other, sign, digits, isThere, begins, -⟩
        obtain rfl := Option.some.inj (found.symm.trans isThere)
        exact absurd (begins.leadingDigits_eq.symm.trans noDigits) begins.filled
      · obtain ⟨sign, begins⟩ := exists_beginsWith noDigits
        have reads {sign digits : List Char} (begins : BeginsWith text.toList sign digits) :
            leadingInteger text.toList = .ok (some (denoted sign digits)) := by
          have short : ¬Decimal.digitLimit < digits.length :=
            fun exceeds => fits ⟨text, sign, digits, found, begins, exceeds⟩
          rw [begins.leadingInteger_eq, if_neg short]
        refine ⟨_, reads begins, fun value => ⟨?_, ?_⟩⟩
        · intro same
          exact ⟨text, sign, _, found, begins, (Option.some.inj same).symm⟩
        · rintro ⟨other, otherSign, digits, isThere, beginsToo, rfl⟩
          obtain rfl := Option.some.inj (found.symm.trans isThere)
          exact Except.ok.inj ((reads begins).symm.trans (reads beginsToo))

theorem hasReadableHeaders_iff (response : Response) :
    hasReadableHeaders response = true ↔ ∀ name ∈ headerNames, ¬ IsOverlong response name := by
  rw [hasReadableHeaders, List.all_eq_true]
  refine forall₂_congr fun name _ => ?_
  cases found : response.header? name with
  | none =>
      refine ⟨?_, fun _ => rfl⟩
      rintro - ⟨text, sign, digits, isThere, -⟩
      cases found.symm.trans isThere
  | some text =>
      dsimp only
      rw [decide_eq_true_eq]
      constructor
      · rintro short ⟨other, sign, digits, isThere, begins, exceeds⟩
        obtain rfl := Option.some.inj (found.symm.trans isThere)
        rw [begins.leadingDigits_eq] at short
        exact Nat.not_lt.2 short exceeds
      · intro fits
        by_contra exceeds
        rw [Nat.not_le] at exceeds
        have filled : leadingDigits text.toList ≠ [] :=
          List.ne_nil_of_length_pos (Nat.zero_lt_of_lt exceeds)
        obtain ⟨sign, begins⟩ := exists_beginsWith filled
        exact fits ⟨text, sign, _, found, begins, exceeds⟩

theorem exists_ofResponse {response : Response}
    (fits : ∀ name ∈ headerNames, ¬ IsOverlong response name) :
    ∃ read, ofResponse response = .ok read ∧
      ∀ pagination, read = some pagination ↔ Denotes response pagination := by
  rw [headerNames] at fits
  simp only [List.forall_mem_cons] at fits
  obtain ⟨page, isPage, pageIff⟩ := exists_headerInteger fits.1
  obtain ⟨limit, isLimit, limitIff⟩ := exists_headerInteger fits.2.1
  obtain ⟨pageCount, isPageCount, pageCountIff⟩ := exists_headerInteger fits.2.2.1
  obtain ⟨itemCount, isItemCount, itemCountIff⟩ := exists_headerInteger fits.2.2.2.1
  refine ⟨_, by rw [ofResponse, isPage, isLimit, isPageCount, isItemCount]; rfl, ?_⟩
  intro pagination
  rw [denotes_iff, ← pageIff, ← limitIff, ← pageCountIff, ← itemCountIff]
  -- a header that denotes nothing leaves no pagination
  rcases page with _ | page
  · simp
  rcases limit with _ | limit
  · simp
  rcases pageCount with _ | pageCount
  · simp
  rcases itemCount with _ | itemCount
  · simp
  cases pagination
  simp

theorem ofResponse_of_isOverlong {response : Response}
    (overlong : ∃ name ∈ headerNames, IsOverlong response name) :
    ofResponse response = .error .badNumber := by
  have unreadable : (ofResponse response).isOk ≠ true := by
    rw [isOk_ofResponse, Ne, hasReadableHeaders_iff]
    push Not
    exact overlong
  cases read : ofResponse response with
  | ok pagination =>
      rw [read] at unreadable
      exact absurd rfl unreadable
  | error fault => rw [ofResponse_eq_error read]

/-! ## Integers as they are written -/

section

variable (n : Int)

theorem beginsWith_toString {blanks rest : List Char}
    (areBlanks : ∀ c ∈ blanks, isBlank c = true) (ends : ∀ c ∈ rest.head?, isDigit c = false) :
    BeginsWith (blanks ++ ((toString n).toList ++ rest)) (if n < 0 then ['-'] else [])
      (Nat.toDigits 10 n.natAbs) where
  isSign := by split <;> decide
  filled := Nat.toDigits_ne_nil
  areDigits := fun _ => isDigit_of_mem_toDigits
  split := ⟨blanks, rest, areBlanks, ends, by rw [Json.toString_int, List.append_assoc]⟩

theorem denoted_toDigits :
    denoted (if n < 0 then ['-'] else []) (Nat.toDigits 10 n.natAbs) = n := by
  rw [denoted, ← numberOfDigits_eq, numberOfDigits_toDigits]
  by_cases negative : n < 0
  · rw [if_pos negative, if_pos rfl]
    omega
  · rw [if_neg negative, if_neg (by decide)]
    omega

/-- Blanks before a written integer, and what follows it, make no difference. -/
theorem leadingInteger_toString {blanks rest : List Char}
    (areBlanks : ∀ c ∈ blanks, isBlank c = true) (ends : ∀ c ∈ rest.head?, isDigit c = false) :
    leadingInteger (blanks ++ ((toString n).toList ++ rest)) =
      if Json.IsShort n then .ok (some n) else .error .badNumber := by
  rw [(beginsWith_toString n areBlanks ends).leadingInteger_eq, denoted_toDigits]
  by_cases short : Json.IsShort n
  · rw [if_pos short, if_neg (Nat.not_lt.2 short)]
  · rw [if_neg short, if_pos (Nat.not_le.1 short)]

end

/-- The headers are read as the page that they denote, all of them or none, exactly if none of them
begins with an integer of too many digits. If one does, reading them fails, also where another one
is missing. A written integer is read from a header whatever blanks stand before it and whatever
follows its digits. -/
theorem ofResponse_reads_iff (response : Response) :
    ((∃ read, ofResponse response = .ok read ∧
        ∀ pagination, read = some pagination ↔ Denotes response pagination) ↔
      ∀ name ∈ headerNames, ¬ IsOverlong response name) ∧
    (ofResponse response = .error .badNumber ↔
      ∃ name ∈ headerNames, IsOverlong response name) ∧
    ∀ (name text : String) (n : Int) (blanks rest : List Char),
      response.header? name = some text → text.toList = blanks ++ ((toString n).toList ++ rest) →
      (∀ c ∈ blanks, isBlank c = true) → (∀ c ∈ rest.head?, isDigit c = false) →
      headerInteger response name = if Json.IsShort n then .ok (some n) else .error .badNumber := by
  refine ⟨⟨?_, exists_ofResponse⟩, ⟨?_, ofResponse_of_isOverlong⟩, ?_⟩
  · rintro ⟨read, isRead, -⟩
    rw [← hasReadableHeaders_iff, ← isOk_ofResponse, isRead]
    rfl
  · intro fails
    by_contra fits
    push Not at fits
    obtain ⟨read, isRead, -⟩ := exists_ofResponse fits
    cases fails.symm.trans isRead
  · intro name text n blanks rest isThere split areBlanks ends
    rw [headerInteger, isThere]
    exact (congrArg leadingInteger split).trans (leadingInteger_toString n areBlanks ends)

/-- A response whose headers begin with integers in several forms. -/
def oddPage : Response :=
  ⟨200, [("X-Pagination-Page", "\t-2 of 7"), ("x-pagination-limit", "+٢٠ items"),
    ("X-PAGINATION-PAGE-COUNT", "007.5"), ("X-Pagination-Item-Count", "12abc"),
    ("X-Pagination-Item-Count", "none")], []⟩

/-- Each header counts by the integer at its start. -/
theorem ofResponse_reads_of_oddPage :
    (∀ name ∈ headerNames, ¬ IsOverlong oddPage name) ∧
      Denotes oddPage ⟨-2, 20, 7, 12⟩ ∧
      headerInteger oddPage "x-pagination-page" = .ok (some (-2)) := by
  obtain ⟨readsIff, -, readsWritten⟩ := ofResponse_reads_iff oddPage
  have fits : ∀ name ∈ headerNames, ¬ IsOverlong oddPage name :=
    (hasReadableHeaders_iff oddPage).1 (by decide)
  obtain ⟨read, isRead, denotes⟩ := readsIff.2 fits
  have evaluated : ofResponse oddPage = .ok (some ⟨-2, 20, 7, 12⟩) := by decide
  have written := readsWritten "x-pagination-page" "\t-2 of 7" (-2) ['\t'] [' ', 'o', 'f', ' ', '7']
    rfl rfl (List.forall_mem_singleton.2 (by decide)) (ends_cons (by decide) _)
  exact ⟨fits, (denotes _).1 (Except.ok.inj (isRead.symm.trans evaluated)), written⟩

/-- A response with one of the headers, which is written with so many ones. -/
def longPage (count : Nat) : Response :=
  ⟨200, [("X-Pagination-Page", String.ofList (List.replicate count '1'))], []⟩

theorem isOverlong_longPage {count : Nat} (exceeds : Decimal.digitLimit < count) :
    IsOverlong (longPage count) "x-pagination-page" := by
  have begins : BeginsWith (List.replicate count '1') [] (List.replicate count '1') := by
    refine ⟨by decide, ?_, ?_, [], [], nofun, nofun, by rw [List.append_nil]; rfl⟩
    · exact List.ne_nil_of_length_pos (by rw [List.length_replicate]; omega)
    · intro c member
      rw [List.eq_of_mem_replicate member]
      decide
  refine ⟨String.ofList (List.replicate count '1'), [], List.replicate count '1', ?_, ?_, ?_⟩
  · simp [Response.header?, longPage]
  · rwa [String.toList_ofList]
  · rwa [List.length_replicate]

theorem not_denotes_longPage (count : Nat) (pagination : Pagination) :
    ¬ Denotes (longPage count) pagination := by
  have missing : (longPage count).header? "x-pagination-limit" = none := by
    simp [Response.header?, longPage]
  rintro ⟨-, ⟨text, sign, digits, found, -⟩, -, -⟩
  cases missing.symm.trans found

/-- Three headers are missing, so that there is no pagination to read, but reading it fails. -/
theorem ofResponse_eq_error_of_longPage :
    (∀ pagination, ¬ Denotes (longPage 4301) pagination) ∧
      ofResponse (longPage 4301) = .error .badNumber :=
  ⟨not_denotes_longPage 4301, ofResponse_of_isOverlong
    ⟨"x-pagination-page", by decide, isOverlong_longPage (by decide)⟩⟩

end ApiTools.Http.Pagination
