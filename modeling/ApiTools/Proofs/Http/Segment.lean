import ApiTools.Proofs.Http.Url

/-!
# Segments of an endpoint

The path of an endpoint is made of fixed words and of values. Words and encoded values stand in the
path of a request as they are written, and none of their characters ends a segment.
-/

namespace ApiTools.Http

open ApiTools.Text

/-- A segment of an endpoint. -/
inductive Segment where
  /-- A word of the endpoint. -/
  | fixed (text : List Char)
  /-- A value that is written in its form within a path. -/
  | value (text : List Char)
  /-- A value that is written as it is. -/
  | raw (text : List Char)
  deriving DecidableEq, Repr

namespace Segment

/-- The segment as it is written. -/
def written : Segment → List Char
  | .fixed text => text
  | .value text => Percent.encodeComponent text
  | .raw text => text

/-- The text of the endpoint that some segments make. -/
def endpoint (segments : List Segment) : List Char :=
  segments.flatMap fun segment => '/' :: segment.written

/-- A segment of a path says what the segment of the endpoint says: the same word, or the value once
it is decoded. -/
def IsMetBy : Segment → List Char → Prop
  | .fixed text, found => found = text
  | .value text, found => Percent.decode found = text
  | .raw text, found => Percent.decode found = text

/-- A word of an endpoint stands in a path as it is and is no dot segment. -/
def isPlain : Segment → Bool
  | .fixed text => (text.all fun c => Url.staysInPath c && c != '/') && !Url.isDots text
  | .value _ | .raw _ => true

/-- The value keeps to its segment: it is no dot segment, and one that is written as it is neither
holds an escape nor a character that ends the segment or the path. -/
def isSafe : Segment → Bool
  | .fixed _ => true
  | .value text => !Url.isDots text
  | .raw text =>
    !Url.isDots text && !Percent.hasEscape text &&
      text.all fun c => c != '/' && !Url.endsPath c

/-- The segment is written in a form that keeps to itself. -/
def isEncoded : Segment → Bool
  | .fixed _ | .value _ => true
  | .raw _ => false

/-! ## What is written -/

theorem endpoint_eq {segments : List Segment} (filled : segments ≠ []) :
    endpoint segments = '/' :: ['/'].intercalate (segments.map written) := by
  induction segments with
  | nil => exact absurd rfl filled
  | cons segment rest inductionHypothesis =>
      cases rest with
      | nil => simp [endpoint]
      | cons next others =>
          rw [endpoint, List.flatMap_cons, ← endpoint, inductionHypothesis (List.cons_ne_nil _ _),
            List.map_cons, List.map_cons, List.map_cons, List.intercalate_cons_cons]
          simp

theorem toNat_lt_of_isAlphanum {c : Char} (isAlphanum : c.isAlphanum = true) : c.toNat < 128 := by
  simp only [Percent.isAlphanum_iff, UInt32.le_iff_toNat_le] at isAlphanum
  have upper : ('Z'.val.toNat = 90 ∧ 'z'.val.toNat = 122 ∧ '9'.val.toNat = 57) := by decide
  show c.val.toNat < 128
  omega

/-- The characters that a value within a path keeps. -/
def isKept (c : Char) : Bool :=
  Percent.isUnreserved c || "!*'()".toList.contains c

theorem staysInPath_of_isKept {c : Char} (kept : isKept c = true) :
    Url.staysInPath c = true ∧ c ≠ '/' := by
  have table : ∀ code : Fin 128, isKept (Char.ofNat code.val) = true →
      Url.staysInPath (Char.ofNat code.val) = true ∧ Char.ofNat code.val ≠ '/' := by decide
  have small : c.toNat < 128 := by
    simp only [isKept, Percent.isUnreserved, Bool.or_eq_true, beq_iff_eq, List.contains_iff_mem]
      at kept
    rcases kept with ((((isAlphanum | rfl) | rfl) | rfl) | rfl) | listed
    · exact toNat_lt_of_isAlphanum isAlphanum
    · decide
    · decide
    · decide
    · decide
    · have all : ("!*'()".toList.all fun d => decide (d.toNat < 128)) = true := by decide
      exact of_decide_eq_true (List.all_eq_true.1 all c listed)
  have found := table ⟨c.toNat, small⟩
  simp only [Char.ofNat_toNat] at found
  exact found kept

theorem staysInPath_encodeByte {byte : UInt8} {c : Char} (member : c ∈ Percent.encodeByte byte) :
    Url.staysInPath c = true ∧ c ≠ '/' := by
  have digits : ∀ digit : Fin 16, Url.staysInPath (Percent.hexDigit digit.val) = true ∧
      Percent.hexDigit digit.val ≠ '/' := by decide
  have bound := byte.toNat_lt
  simp only [Percent.encodeByte, List.mem_cons, List.not_mem_nil, or_false] at member
  rcases member with rfl | rfl | rfl
  · decide
  · exact digits ⟨byte.toNat / 16, by omega⟩
  · exact digits ⟨byte.toNat % 16, by omega⟩

/-- What a value is written with stays in a path and does not end the segment. -/
theorem staysInPath_encodeComponent {text : List Char} {c : Char}
    (member : c ∈ Percent.encodeComponent text) : Url.staysInPath c = true ∧ c ≠ '/' := by
  obtain ⟨origin, -, written⟩ := List.mem_flatMap.1 member
  split at written
  · next kept =>
      obtain rfl : c = origin := by simpa using written
      exact staysInPath_of_isKept kept
  · obtain ⟨byte, -, inByte⟩ := List.mem_flatMap.1 written
    exact staysInPath_encodeByte inByte

theorem encode_eq_self {text : List Char} (stays : ∀ c ∈ text, Url.staysInPath c = true) :
    Percent.encode Url.staysInPath text = text := by
  induction text with
  | nil => rfl
  | cons c rest inductionHypothesis =>
      rw [List.forall_mem_cons] at stays
      rw [Percent.encode_cons, if_pos stays.1, inductionHypothesis stays.2, List.singleton_append]

/-- Encoding makes no dot segment. -/
theorem isDots_encodeComponent (text : List Char) :
    Url.isDots (Percent.encodeComponent text) = Url.isDots text := by
  have back := Percent.decode_encodeComponent text
  rw [Bool.eq_iff_iff]
  simp only [Url.isDots, Bool.or_eq_true, decide_eq_true_eq]
  constructor
  · rintro (one | two)
    · rw [one] at back
      exact Or.inl (back.symm.trans (by decide))
    · rw [two] at back
      exact Or.inr (back.symm.trans (by decide))
  · rintro (rfl | rfl)
    · exact Or.inl (by decide)
    · exact Or.inr (by decide)

/-- A word or an encoded value stands in a path as it is written and does not end its segment. -/
theorem staysInPath_written {segment : Segment} (plain : segment.isPlain = true)
    (encoded : segment.isEncoded = true) :
    ∀ c ∈ segment.written, Url.staysInPath c = true ∧ c ≠ '/' := by
  cases segment with
  | fixed text =>
      simp only [isPlain, Bool.and_eq_true, List.all_eq_true] at plain
      intro c member
      simpa using plain.1 c member
  | value text => exact fun c member => staysInPath_encodeComponent member
  | raw text => cases encoded

theorem isDots_written {segment : Segment} (plain : segment.isPlain = true)
    (encoded : segment.isEncoded = true) : Url.isDots segment.written = !segment.isSafe := by
  cases segment with
  | fixed text =>
      simp only [isPlain, Bool.and_eq_true, Bool.not_eq_true'] at plain
      exact plain.2
  | value text =>
      rw [isSafe, Bool.not_not]
      exact isDots_encodeComponent text
  | raw text => cases encoded

theorem isSafe_raw_iff {text : List Char} :
    (raw text).isSafe = true ↔ Url.isDots text = false ∧ Percent.hasEscape text = false ∧
      '/' ∉ text ∧ text.any Url.endsPath = false := by
  simp only [isSafe, Bool.and_eq_true, Bool.not_eq_true', List.all_eq_true, bne_iff_ne,
    List.any_eq_false, Bool.not_eq_true, and_assoc]
  constructor
  · rintro ⟨noDots, noEscape, stays⟩
    exact ⟨noDots, noEscape, fun inside => (stays '/' inside).1 rfl,
      fun c member => (stays c member).2⟩
  · rintro ⟨noDots, noEscape, noSlash, noEnd⟩
    refine ⟨noDots, noEscape, fun c member => ⟨?_, noEnd c member⟩⟩
    rintro rfl
    exact noSlash member

theorem endsPath_of_staysInPath {c : Char} (stays : Url.staysInPath c = true) :
    Url.endsPath c = false := by
  cases ends : Url.endsPath c with
  | false => rfl
  | true =>
      have isMark : c = '?' ∨ c = '#' := by simpa [Url.endsPath] using ends
      rcases isMark with rfl | rfl <;> exact absurd stays (by decide)

end Segment

end ApiTools.Http
