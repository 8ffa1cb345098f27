import ApiTools.Proofs.Http.Segment

/-!
# When a request is confined to its endpoint

Encoded values can only leave their place as dot segments, which make the path shorter. A value that
is written as it is can do so in more ways; whatever it does, no other segment of the path is read
as the value.
-/

namespace ApiTools.Http

open ApiTools.Text
open Url (staysInPath resolveDots endsPath beforeQuery)

/-- The path of an address is that of the root followed by the segments of an endpoint. -/
def Confined (root url : Url) (segments : List Segment) : Prop :=
  ∃ found, url.path.splitOn '/' = root.path.splitOn '/' ++ found ∧
    List.Forall₂ Segment.IsMetBy segments found

section

variable {base : List Char} {root url : Url} {segments : List Segment}

theorem splitOn_path_of_endpoint (isRoot : Url.ofText base = .ok root)
    (absolute : root.isAbsolute = true) (filled : segments ≠ [])
    (done : Url.ofText (base ++ Segment.endpoint segments) = .ok url) :
    ∃ kept, root.path.splitOn '/' = kept.map (Percent.encode staysInPath) ∧
      url.path.splitOn '/' = (if base.any endsPath then kept
        else resolveDots kept.reverse
          ((beforeQuery (['/'].intercalate (segments.map Segment.written))).splitOn '/')).map
            (Percent.encode staysInPath) := by
  rw [Segment.endpoint_eq filled] at done
  exact (Url.splitOn_path_of_append isRoot absolute done).2

/-- What is found after the path of the root comes from what is left after resolving. -/
theorem exists_of_map_eq_append {left kept : List (List Char)} {found : List (List Char)}
    (same : left.map (Percent.encode staysInPath) =
      kept.map (Percent.encode staysInPath) ++ found) :
    ∃ first later, left = first ++ later ∧ first.length = kept.length ∧
      later.map (Percent.encode staysInPath) = found := by
  obtain ⟨first, later, rfl, sameFirst, sameLater⟩ := List.map_eq_append_iff.1 same
  exact ⟨first, later, rfl, by simpa using congrArg List.length sameFirst, sameLater⟩

theorem eq_three_of_map_eq {later : List (List Char)} {second third fourth : List Char}
    (same : later.map (Percent.encode staysInPath) = [second, third, fourth]) :
    ∃ before piece after, later = [before, piece, after] ∧
      Percent.encode staysInPath piece = third := by
  match later, same with
  | [before, piece, after], same =>
      exact ⟨before, piece, after, rfl, (List.cons.inj (List.cons.inj same).2).1⟩

/-- A base with a query or a fragment confines no request. -/
theorem not_confined_of_endsPath (isRoot : Url.ofText base = .ok root)
    (absolute : root.isAbsolute = true) (filled : segments ≠ [])
    (done : Url.ofText (base ++ Segment.endpoint segments) = .ok url)
    (ends : base.any endsPath = true) : ¬ Confined root url segments := by
  rintro ⟨found, path, met⟩
  obtain ⟨kept, rootPath, urlPath⟩ := splitOn_path_of_endpoint isRoot absolute filled done
  rw [if_pos ends] at urlPath
  have lengths := congrArg List.length (urlPath.symm.trans path)
  rw [rootPath, List.length_append, ← met.length_eq] at lengths
  have isNil : segments.length = 0 := by omega
  exact filled (List.length_eq_zero_iff.1 isNil)

/-! ## Encoded values -/

theorem beforeQuery_eq_self {text : List Char} (plain : ∀ c ∈ text, endsPath c = false) :
    beforeQuery text = text := by
  rw [beforeQuery, List.takeWhile_eq_self_iff]
  intro c member
  rw [plain c member]
  rfl

theorem mem_intercalate {texts : List (List Char)} {c : Char}
    (member : c ∈ ['/'].intercalate texts) : c = '/' ∨ ∃ text ∈ texts, c ∈ text := by
  induction texts with
  | nil => simp at member
  | cons first rest inductionHypothesis =>
      cases rest with
      | nil => exact Or.inr ⟨first, List.mem_cons_self, by simpa using member⟩
      | cons second others =>
          rw [List.intercalate_cons_cons, List.append_assoc, List.mem_append, List.singleton_append,
            List.mem_cons] at member
          rcases member with inFirst | isMark | later
          · exact Or.inr ⟨first, List.mem_cons_self, inFirst⟩
          · exact Or.inl isMark
          · rcases inductionHypothesis later with isMark | ⟨text, textMember, inside⟩
            · exact Or.inl isMark
            · exact Or.inr ⟨text, List.mem_cons_of_mem first textMember, inside⟩

theorem splitOn_endpoint_of_encoded (filled : segments ≠ [])
    (plain : ∀ segment ∈ segments, segment.isPlain = true)
    (encoded : ∀ segment ∈ segments, segment.isEncoded = true) :
    (beforeQuery (['/'].intercalate (segments.map Segment.written))).splitOn '/' =
      segments.map Segment.written := by
  have stays : ∀ text ∈ segments.map Segment.written, ∀ c ∈ text,
      staysInPath c = true ∧ c ≠ '/' := by
    intro text member
    obtain ⟨segment, segmentMember, rfl⟩ := List.mem_map.1 member
    exact Segment.staysInPath_written (plain segment segmentMember) (encoded segment segmentMember)
  rw [beforeQuery_eq_self]
  · refine List.splitOn_intercalate '/' ?_ (by simpa using filled)
    exact fun text member inside => (stays text member '/' inside).2 rfl
  · intro c member
    rcases mem_intercalate member with rfl | ⟨text, textMember, inside⟩
    · decide
    · exact Segment.endsPath_of_staysInPath (stays text textMember c inside).1

theorem isMetBy_written {segment : Segment} (plain : segment.isPlain = true)
    (encoded : segment.isEncoded = true) :
    segment.IsMetBy (Percent.encode staysInPath segment.written) := by
  have stays := fun c member => (Segment.staysInPath_written plain encoded c member).1
  rw [Segment.encode_eq_self stays]
  cases segment with
  | fixed text => rfl
  | value text => exact Percent.decode_encodeComponent text
  | raw text => cases encoded

/-- A request whose values are all encoded is confined exactly when the base has neither a query nor
a fragment and no value is a dot segment. -/
theorem confined_iff_of_encoded (isRoot : Url.ofText base = .ok root)
    (absolute : root.isAbsolute = true) (filled : segments ≠ [])
    (plain : ∀ segment ∈ segments, segment.isPlain = true)
    (encoded : ∀ segment ∈ segments, segment.isEncoded = true)
    (done : Url.ofText (base ++ Segment.endpoint segments) = .ok url) :
    Confined root url segments ↔
      base.any endsPath = false ∧ ∀ segment ∈ segments, segment.isSafe = true := by
  cases ends : base.any endsPath with
  | true =>
      exact ⟨fun confined =>
        absurd confined (not_confined_of_endsPath isRoot absolute filled done ends),
        fun safe => absurd safe.1 (by decide)⟩
  | false =>
      obtain ⟨kept, rootPath, urlPath⟩ := splitOn_path_of_endpoint isRoot absolute filled done
      rw [if_neg (by simp [ends]), splitOn_endpoint_of_encoded filled plain encoded] at urlPath
      constructor
      · rintro ⟨found, path, met⟩
        refine ⟨rfl, fun segment member => ?_⟩
        rw [urlPath, rootPath] at path
        have lengths := congrArg List.length path
        rw [List.length_map, List.length_append, List.length_map, ← met.length_eq] at lengths
        by_contra notSafe
        have dots : Url.isDots segment.written = true := by
          rw [Segment.isDots_written (plain segment member) (encoded segment member)]
          simpa using notSafe
        have shorter := Url.length_resolveDots_lt (List.mem_map.2 ⟨segment, member, rfl⟩) dots
          kept.reverse
        rw [List.length_reverse, List.length_map] at shorter
        omega
      · rintro ⟨-, safe⟩
        have noDots : ∀ text ∈ segments.map Segment.written, Url.isDots text = false := by
          intro text member
          obtain ⟨segment, segmentMember, rfl⟩ := List.mem_map.1 member
          rw [Segment.isDots_written (plain segment segmentMember)
            (encoded segment segmentMember), safe segment segmentMember]
          rfl
        rw [Url.resolveDots_of_forall noDots, List.reverse_reverse, List.map_append,
          ← rootPath] at urlPath
        refine ⟨_, urlPath, ?_⟩
        rw [List.map_map, List.forall₂_map_right_iff, List.forall₂_same]
        exact fun segment member =>
          isMetBy_written (plain segment member) (encoded segment member)

/-! ## A value written as it is -/

theorem hexStays_inPath {c : Char} (isHex : (hexValue? c).isSome = true) : staysInPath c = true :=
  (Segment.staysInPath_of_isKept (by
    rw [Segment.isKept, Percent.isUnreserved_of_hexValue? isHex, Bool.true_or])).1

/-- What follows the word before the value: the pieces of the value, and the word after it unless
the value ends the path. -/
theorem splitOn_beforeQuery_raw {before text after : List Char}
    (beforePlain : ∀ c ∈ before, staysInPath c = true ∧ c ≠ '/')
    (afterPlain : ∀ c ∈ after, staysInPath c = true ∧ c ≠ '/') :
    (beforeQuery (before ++ '/' :: (text ++ '/' :: after))).splitOn '/' =
      before :: (if text.any endsPath then (beforeQuery text).splitOn '/'
        else text.splitOn '/' ++ [after]) := by
  have beforeStays : ∀ c ∈ before, (!endsPath c) = true := by
    intro c member
    rw [Segment.endsPath_of_staysInPath (beforePlain c member).1]
    rfl
  have noSlash : '/' ∉ before := fun inside => (beforePlain '/' inside).2 rfl
  have front : beforeQuery (before ++ '/' :: (text ++ '/' :: after)) =
      before ++ '/' :: beforeQuery (text ++ '/' :: after) := by
    rw [beforeQuery, List.takeWhile_append_of_pos beforeStays, List.takeWhile_cons,
      if_pos (by decide), beforeQuery]
  rw [front, List.splitOn_append_cons_self_of_not_mem noSlash]
  congr 1
  cases ends : text.any endsPath with
  | false =>
      have textStays : ∀ c ∈ text, (!endsPath c) = true := by simpa using ends
      have back : beforeQuery (text ++ '/' :: after) = text ++ '/' :: after := by
        refine beforeQuery_eq_self fun c member => ?_
        rcases List.mem_append.1 member with inText | later
        · simpa using textStays c inText
        · rcases List.mem_cons.1 later with rfl | inAfter
          · decide
          · exact Segment.endsPath_of_staysInPath (afterPlain c inAfter).1
      rw [back, if_neg (by decide), List.splitOn_append_cons_self,
        List.splitOn_eq_singleton fun inside => (afterPlain '/' inside).2 rfl]
  | true =>
      have cutInside : beforeQuery (text ++ '/' :: after) = beforeQuery text := by
        rw [beforeQuery, List.takeWhile_append, if_neg, beforeQuery]
        intro same
        have all := (List.takeWhile_prefix fun c => !endsPath c).eq_of_length same
        rw [List.takeWhile_eq_self_iff] at all
        obtain ⟨c, member, isMark⟩ := List.any_eq_true.1 ends
        simpa [isMark] using all c member
      rw [cutInside, if_pos rfl]

/-- Of the segments after the root only a piece of the value can be read as the value. -/
theorem exists_sublist_of_resolveDots {kept first pieces : List (List Char)}
    {before second third fourth : List Char} (beforePlain : Url.isDots before = false)
    (left : resolveDots kept.reverse (before :: pieces) = first ++ [second, third, fourth])
    (sameLength : first.length = kept.length) :
    ∃ front, (front ++ [third, fourth]).Sublist pieces := by
  rw [Url.resolveDots_cons_of_not_isDots beforePlain] at left
  obtain ⟨count, added, resolved, isSublist⟩ :=
    Url.exists_resolveDots_eq pieces (before :: kept.reverse)
  rw [left, List.reverse_cons, List.reverse_reverse] at resolved
  have bound : ((kept ++ [before]).take count).length ≤ (first ++ [second]).length := by
    simp only [List.length_take, List.length_append, List.length_singleton, sameLength]
    omega
  have regroup : first ++ [second, third, fourth] = (first ++ [second]) ++ [third, fourth] := by
    rw [List.append_assoc, List.singleton_append]
  rw [regroup] at resolved
  obtain ⟨front, -, addedEq⟩ : ∃ front, first ++ [second] = (kept ++ [before]).take count ++ front ∧
      added = front ++ [third, fourth] := by
    rcases List.append_eq_append_iff.1 resolved with ⟨extra, taken, rest⟩ | ⟨extra, taken, rest⟩
    · have isNil : extra = [] := by
        rw [taken, List.length_append] at bound
        exact List.length_eq_zero_iff.1 (by omega)
      subst isNil
      exact ⟨[], by simpa using taken.symm, by simpa using rest.symm⟩
    · exact ⟨extra, taken, rest⟩
  exact ⟨front, addedEq ▸ isSublist⟩

/-- What is read as the value is one of its pieces. -/
theorem mem_splitOn_of_sublist {front : List (List Char)} {text after third fourth : List Char}
    (isSublist : (front ++ [third, fourth]).Sublist (text.splitOn '/' ++ [after])) :
    third ∈ text.splitOn '/' := by
  obtain ⟨left, right, split, leftSublist, rightSublist⟩ := List.sublist_append_iff.1 isSublist
  have short : right.length ≤ 1 := rightSublist.length_le
  refine leftSublist.subset ?_
  rcases List.append_eq_append_iff.1 split with ⟨extra, isLeft, rest⟩ | ⟨extra, isFront, isRight⟩
  · match extra with
    | [] =>
        have lengths := congrArg List.length rest
        simp only [List.nil_append, List.length_cons, List.length_nil] at lengths
        omega
    | found :: others =>
        obtain rfl : third = found := by simpa using (List.cons.inj rest).1
        rw [isLeft]
        exact List.mem_append_right front List.mem_cons_self
  · have lengths := congrArg List.length isRight
    simp only [List.length_append, List.length_cons, List.length_nil] at lengths
    omega

/-- A value that is read back from one of its pieces is that piece. -/
theorem not_mem_slash_of_decode {text piece : List Char} (member : piece ∈ text.splitOn '/')
    (read : Percent.decode (Percent.encode staysInPath piece) = text) : '/' ∉ text := by
  have pieceBound := length_le_of_mem_splitOn member
  have readBound := Percent.decode_encode_length_le (fun _ => hexStays_inPath) (by decide) piece
  rw [read] at readBound
  intro inside
  rw [if_pos inside] at pieceBound
  omega

theorem not_endsPath_of_decode {text piece : List Char}
    (member : piece ∈ (beforeQuery text).splitOn '/')
    (read : Percent.decode (Percent.encode staysInPath piece) = text) :
    text.any endsPath = false := by
  have pieceBound := length_le_of_mem_splitOn member
  have readBound := Percent.decode_encode_length_le (fun _ => hexStays_inPath) (by decide) piece
  have isPrefix := List.takeWhile_prefix (fun c => !endsPath c) (l := text)
  rw [read] at readBound
  have whole : beforeQuery text = text := isPrefix.eq_of_length (by
    have shorter := isPrefix.length_le
    rw [beforeQuery] at pieceBound
    omega)
  rw [beforeQuery, List.takeWhile_eq_self_iff] at whole
  simpa using whole

/-- A value that is read back after the root keeps to its segment. -/
theorem isSafe_raw_of_resolveDots {kept first : List (List Char)}
    {before text after second piece fourth : List Char} (beforeDots : Url.isDots before = false)
    (left : resolveDots kept.reverse (before :: if text.any endsPath then
        (beforeQuery text).splitOn '/' else text.splitOn '/' ++ [after]) =
      first ++ [second, piece, fourth])
    (sameLength : first.length = kept.length)
    (read : Percent.decode (Percent.encode staysInPath piece) = text) :
    (Segment.raw text).isSafe = true := by
  obtain ⟨front, isSublist⟩ := exists_sublist_of_resolveDots beforeDots left sameLength
  have noEnd : text.any endsPath = false := by
    cases ends : text.any endsPath with
    | false => rfl
    | true =>
        rw [if_pos ends] at isSublist
        have member : piece ∈ (beforeQuery text).splitOn '/' := isSublist.subset (by simp)
        rw [not_endsPath_of_decode member read] at ends
        cases ends
  rw [if_neg (by simp [noEnd])] at isSublist left
  have member := mem_splitOn_of_sublist isSublist
  have noSlash := not_mem_slash_of_decode member read
  -- so the value is the piece itself
  rw [List.splitOn_eq_singleton noSlash] at member left
  obtain rfl := List.mem_singleton.1 member
  have noEscape : Percent.hasEscape piece = false :=
    (Percent.decode_encode_eq_iff (fun _ => hexStays_inPath) (by decide) piece).1 read
  have noDots : Url.isDots piece = false := by
    by_contra dots
    rw [Bool.not_eq_false] at dots
    have member : piece ∈ before :: ([piece] ++ [after]) := by simp
    have shorter := Url.length_resolveDots_lt member dots kept.reverse
    rw [left, List.length_append, List.length_reverse, sameLength] at shorter
    simp at shorter
  exact Segment.isSafe_raw_iff.2 ⟨noDots, noEscape, noSlash, noEnd⟩

/-- The three segments stand after the root if the value keeps to its own. -/
theorem resolveDots_of_isSafe_raw {kept : List (List Char)} {before text after : List Char}
    (beforeDots : Url.isDots before = false) (afterDots : Url.isDots after = false)
    (safe : (Segment.raw text).isSafe = true) :
    resolveDots kept.reverse (before :: if text.any endsPath then
        (beforeQuery text).splitOn '/' else text.splitOn '/' ++ [after]) =
      kept ++ [before, text, after] := by
  obtain ⟨noDots, -, noSlash, noEnd⟩ := Segment.isSafe_raw_iff.1 safe
  have plain : ∀ segment ∈ before :: ([text] ++ [after]), Url.isDots segment = false := by
    simp [beforeDots, noDots, afterDots]
  rw [if_neg (by simp [noEnd]), List.splitOn_eq_singleton noSlash, Url.resolveDots_of_forall plain,
    List.reverse_reverse]
  rfl

/-- A request with a value that is written as it is, is confined exactly when the base has neither a
query nor a fragment and the value keeps to its segment. -/
theorem confined_iff_of_raw {before text after : List Char} (isRoot : Url.ofText base = .ok root)
    (absolute : root.isAbsolute = true) (beforePlain : (Segment.fixed before).isPlain = true)
    (afterPlain : (Segment.fixed after).isPlain = true)
    (done : Url.ofText (base ++
      Segment.endpoint [.fixed before, .raw text, .fixed after]) = .ok url) :
    Confined root url [.fixed before, .raw text, .fixed after] ↔
      base.any endsPath = false ∧ (Segment.raw text).isSafe = true := by
  have filled : [Segment.fixed before, .raw text, .fixed after] ≠ [] := List.cons_ne_nil _ _
  have beforeStays : ∀ c ∈ before, staysInPath c = true ∧ c ≠ '/' :=
    Segment.staysInPath_written beforePlain rfl
  have afterStays : ∀ c ∈ after, staysInPath c = true ∧ c ≠ '/' :=
    Segment.staysInPath_written afterPlain rfl
  have beforeDots : Url.isDots before = false := Segment.isDots_written beforePlain rfl
  have afterDots : Url.isDots after = false := Segment.isDots_written afterPlain rfl
  cases ends : base.any endsPath with
  | true =>
      exact ⟨fun confined =>
        absurd confined (not_confined_of_endsPath isRoot absolute filled done ends),
        fun safe => absurd safe.1 (by decide)⟩
  | false =>
      obtain ⟨kept, rootPath, urlPath⟩ := splitOn_path_of_endpoint isRoot absolute filled done
      have isWritten : ['/'].intercalate
          ([Segment.fixed before, .raw text, .fixed after].map Segment.written) =
            before ++ '/' :: (text ++ '/' :: after) := by
        simp [Segment.written]
      rw [if_neg (by simp [ends]), isWritten, splitOn_beforeQuery_raw beforeStays afterStays]
        at urlPath
      constructor
      · rintro ⟨found, path, met⟩
        obtain ⟨second, _, -, fromThird, rfl⟩ := List.forall₂_cons_left_iff.1 met
        obtain ⟨third, _, read, fromFourth, rfl⟩ := List.forall₂_cons_left_iff.1 fromThird
        obtain ⟨fourth, _, -, afterwards, rfl⟩ := List.forall₂_cons_left_iff.1 fromFourth
        obtain rfl := List.forall₂_nil_left_iff.1 afterwards
        rw [urlPath, rootPath] at path
        obtain ⟨first, later, left, sameLength, sameLater⟩ := exists_of_map_eq_append path
        obtain ⟨_, piece, _, rfl, rfl⟩ := eq_three_of_map_eq sameLater
        exact ⟨rfl, isSafe_raw_of_resolveDots beforeDots left sameLength read⟩
      · rintro ⟨-, safe⟩
        rw [resolveDots_of_isSafe_raw beforeDots afterDots safe, List.map_append, ← rootPath]
          at urlPath
        refine ⟨_, urlPath, ?_⟩
        have beforeSame := Segment.encode_eq_self fun c member => (beforeStays c member).1
        have afterSame := Segment.encode_eq_self fun c member => (afterStays c member).1
        have noEscape := (Segment.isSafe_raw_iff.1 safe).2.1
        have read := (Percent.decode_encode_eq_iff (fun _ => hexStays_inPath) (by decide) text).2
          noEscape
        exact .cons beforeSame (.cons read (.cons afterSame .nil))

end

end ApiTools.Http
