import ApiTools.Http.Url
import ApiTools.Proofs.Binding
import ApiTools.Proofs.Text.Percent
import ApiTools.Proofs.Text.Search
import ApiTools.Proofs.Text.Split

/-!
# The path of an address

Resolving dot segments never makes a path longer, and it leaves one alone that has none. The path of
a text that begins with an absolute address is resolved and encoded from the path of that address
and what follows up to a question mark or number sign.
-/

namespace ApiTools.Http.Url

open ApiTools.Text

/-! ## Dot segments -/

/-- The segment is resolved away. -/
def isDots (segment : List Char) : Bool :=
  segment = ['.'] || segment = ['.', '.']

theorem resolveDots_cons (kept : List (List Char)) (segment : List Char)
    (rest : List (List Char)) :
    resolveDots kept (segment :: rest) =
      if segment = ['.'] then resolveDots kept rest
      else if segment = ['.', '.'] then
        resolveDots (if kept = [[]] then kept else kept.drop 1) rest
      else resolveDots (segment :: kept) rest := by
  rw [resolveDots]

theorem resolveDots_cons_of_not_isDots {segment : List Char} (plain : isDots segment = false)
    (kept rest : List (List Char)) :
    resolveDots kept (segment :: rest) = resolveDots (segment :: kept) rest := by
  simp only [isDots, Bool.or_eq_false_iff, decide_eq_false_iff_not] at plain
  rw [resolveDots_cons, if_neg plain.1, if_neg plain.2]

theorem resolveDots_append (first second : List (List Char)) :
    ∀ kept, resolveDots kept (first ++ second) =
      resolveDots (resolveDots kept first).reverse second := by
  induction first with
  | nil =>
      intro kept
      rw [List.nil_append, resolveDots, List.reverse_reverse]
  | cons segment rest inductionHypothesis =>
      intro kept
      rw [List.cons_append, resolveDots_cons, resolveDots_cons]
      split
      · exact inductionHypothesis kept
      split
      · exact inductionHypothesis _
      · exact inductionHypothesis _

theorem resolveDots_of_forall {segments : List (List Char)}
    (plain : ∀ segment ∈ segments, isDots segment = false) :
    ∀ kept, resolveDots kept segments = kept.reverse ++ segments := by
  induction segments with
  | nil =>
      intro kept
      rw [resolveDots, List.append_nil]
  | cons segment rest inductionHypothesis =>
      rw [List.forall_mem_cons] at plain
      intro kept
      rw [resolveDots_cons_of_not_isDots plain.1, inductionHypothesis plain.2, List.reverse_cons,
        List.append_assoc, List.singleton_append]

/-- What is left is a beginning of what was kept, followed by some of the segments. -/
theorem exists_resolveDots_eq (segments : List (List Char)) :
    ∀ kept, ∃ count added, resolveDots kept segments = kept.reverse.take count ++ added ∧
      added.Sublist segments := by
  induction segments with
  | nil =>
      intro kept
      refine ⟨kept.length, [], ?_, List.Sublist.refl []⟩
      rw [resolveDots, List.append_nil, List.take_of_length_le (by simp)]
  | cons segment rest inductionHypothesis =>
      intro kept
      rw [resolveDots_cons]
      split
      · obtain ⟨count, added, left, isSublist⟩ := inductionHypothesis kept
        exact ⟨count, added, left, isSublist.cons segment⟩
      split
      · split
        · obtain ⟨count, added, left, isSublist⟩ := inductionHypothesis kept
          exact ⟨count, added, left, isSublist.cons segment⟩
        · obtain ⟨count, added, left, isSublist⟩ := inductionHypothesis (kept.drop 1)
          refine ⟨min count (kept.length - 1), added, ?_, isSublist.cons segment⟩
          rw [left, List.reverse_drop, List.take_take]
      · obtain ⟨count, added, left, isSublist⟩ := inductionHypothesis (segment :: kept)
        rw [List.reverse_cons, List.take_append] at left
        cases excess : count - kept.reverse.length with
        | zero =>
            rw [excess, List.take_zero, List.append_nil] at left
            exact ⟨count, added, left, isSublist.cons segment⟩
        | succ more =>
            rw [excess, List.take_succ_cons, List.take_nil, List.append_assoc] at left
            exact ⟨count, [segment] ++ added, left, isSublist.cons_cons segment⟩

theorem length_resolveDots_le (segments : List (List Char)) :
    ∀ kept, (resolveDots kept segments).length ≤
      kept.length + (segments.filter fun segment => !isDots segment).length := by
  induction segments with
  | nil =>
      intro kept
      simp [resolveDots]
  | cons segment rest inductionHypothesis =>
      intro kept
      cases dots : isDots segment with
      | false =>
          rw [resolveDots_cons_of_not_isDots dots, List.filter_cons, if_pos (by simp [dots]),
            List.length_cons]
          have bound := inductionHypothesis (segment :: kept)
          rw [List.length_cons] at bound
          omega
      | true =>
          rw [List.filter_cons, if_neg (by simp [dots]), resolveDots_cons]
          split
          · exact inductionHypothesis kept
          split
          · split
            · exact inductionHypothesis kept
            · have bound := inductionHypothesis (kept.drop 1)
              rw [List.length_drop] at bound
              omega
          · simp_all [isDots]

/-- Dot segments make a path shorter. -/
theorem length_resolveDots_lt {segments : List (List Char)} {segment : List Char}
    (member : segment ∈ segments) (dots : isDots segment = true) (kept : List (List Char)) :
    (resolveDots kept segments).length < kept.length + segments.length := by
  have bound := length_resolveDots_le segments kept
  have dropped : (segments.filter fun segment => !isDots segment).length < segments.length :=
    List.length_filter_lt_length_iff_exists.2 ⟨segment, member, by simp [dots]⟩
  omega

/-- The empty segment before the leading slash is never taken back. -/
theorem head?_resolveDots (segments : List (List Char)) :
    ∀ kept, kept.getLast? = some [] → (resolveDots kept segments).head? = some [] := by
  induction segments with
  | nil =>
      intro kept rooted
      rw [resolveDots, List.head?_reverse, rooted]
  | cons segment rest inductionHypothesis =>
      intro kept rooted
      rw [resolveDots_cons]
      split
      · exact inductionHypothesis kept rooted
      split
      · split
        · exact inductionHypothesis kept rooted
        · next notAlone =>
            refine inductionHypothesis _ ?_
            match kept with
            | [] => cases rooted
            | [only] =>
                obtain rfl : only = [] := by simpa using rooted
                exact absurd rfl notAlone
            | first :: second :: others => simpa [List.getLast?_cons_cons] using rooted
      · refine inductionHypothesis _ ?_
        match kept with
        | [] => cases rooted
        | first :: others => rw [List.getLast?_cons_cons, rooted]

theorem mem_resolveDots {segments : List (List Char)} {segment : List Char}
    {kept : List (List Char)} (member : segment ∈ resolveDots kept segments) :
    segment ∈ kept ∨ segment ∈ segments := by
  obtain ⟨count, added, left, isSublist⟩ := exists_resolveDots_eq segments kept
  rw [left, List.mem_append] at member
  rcases member with before | later
  · exact Or.inl (List.mem_reverse.1 (List.mem_of_mem_take before))
  · exact Or.inr (isSublist.subset later)

/-! ## Segments of a path -/

theorem notMem_encodeByte (byte : UInt8) : '/' ∉ Percent.encodeByte byte := by
  have digits : ∀ digit : Fin 16, '/' ≠ Percent.hexDigit digit.val := by decide
  have bound := byte.toNat_lt
  simp only [Percent.encodeByte, List.mem_cons, List.not_mem_nil, or_false, not_or]
  exact ⟨by decide, digits ⟨byte.toNat / 16, by omega⟩, digits ⟨byte.toNat % 16, by omega⟩⟩

/-- Encoding a path encodes its segments. -/
theorem splitOn_encode (path : List Char) :
    (Percent.encode staysInPath path).splitOn '/' =
      (path.splitOn '/').map (Percent.encode staysInPath) := by
  refine splitOn_flatMap (by decide) ?_ path
  intro c different
  split
  · simpa using Ne.symm different
  · simpa using fun byte _ => notMem_encodeByte byte

theorem splitOn_resolvePath {path : List Char} (rooted : path = [] ∨ path.head? = some '/') :
    (resolvePath path).splitOn '/' = resolveDots [] (path.splitOn '/') := by
  have startsEmpty : ∃ others, path.splitOn '/' = [] :: others := by
    rcases rooted with rfl | starts
    · exact ⟨[], rfl⟩
    · cases path with
      | nil => cases starts
      | cons c rest =>
          obtain rfl := Option.some.inj starts
          exact ⟨_, splitOn_cons_self _ _⟩
  obtain ⟨others, split⟩ := startsEmpty
  refine List.splitOn_intercalate '/' ?_ ?_
  · intro segment member
    rcases mem_resolveDots member with impossible | fromPath
    · cases impossible
    · exact notMem_of_mem_splitOn fromPath
  · rw [split, resolveDots_cons_of_not_isDots rfl]
    intro isNil
    have rooted := head?_resolveDots others [[]] rfl
    rw [isNil] at rooted
    cases rooted

/-! ## Texts that begin with an address -/

/-- The character ends the path of an address. -/
def endsPath (c : Char) : Bool :=
  ['?', '#'].contains c

/-- The part of a text before its query and fragment. -/
def beforeQuery (text : List Char) : List Char :=
  text.takeWhile fun c => !endsPath c

theorem cutScheme_eq {text scheme rest : List Char} (cut : cutScheme text = (scheme, rest))
    (named : scheme ≠ []) :
    after? ':' text = some rest ∧ scheme = before ':' text ∧ ∀ c ∈ scheme, endsPath c = false := by
  unfold cutScheme at cut
  cases found : after? ':' text with
  | none =>
      simp only [found, Prod.mk.injEq] at cut
      exact absurd cut.1.symm named
  | some later =>
      simp only [found] at cut
      split at cut
      · next isScheme =>
          obtain ⟨rfl, rfl⟩ : before ':' text = scheme ∧ later = rest := by simpa using cut
          refine ⟨rfl, rfl, fun c member => ?_⟩
          rw [Bool.and_eq_true, List.all_eq_true] at isScheme
          have mayStand := isScheme.2 c member
          cases ends : endsPath c with
          | false => rfl
          | true =>
              have isMark : c = '?' ∨ c = '#' := by simpa [endsPath] using ends
              rcases isMark with rfl | rfl <;> exact absurd mayStand (by decide)
      · obtain ⟨rfl, -⟩ : [] = scheme ∧ text = rest := by simpa using cut
        exact absurd rfl named

theorem cutScheme_append {text scheme rest : List Char} (cut : cutScheme text = (scheme, rest))
    (named : scheme ≠ []) (tail : List Char) :
    cutScheme (text ++ tail) = (scheme, rest ++ tail) := by
  obtain ⟨found, isBefore, -⟩ := cutScheme_eq cut named
  unfold cutScheme at cut ⊢
  rw [after?_append_of_after? found, before_append_of_after? found]
  simp only [found] at cut ⊢
  split at cut
  · next isScheme => rw [if_pos isScheme, isBefore]
  · obtain ⟨rfl, -⟩ : [] = scheme ∧ text = rest := by simpa using cut
    exact absurd rfl named

/-- A text with an authority, taken apart. -/
theorem cutAuthority_eq {text authority rest : List Char}
    (cut : cutAuthority text = (authority, rest)) (named : authority ≠ []) :
    text = '/' :: '/' :: (authority ++ rest) ∧ (∀ c ∈ authority, endsPath c = false) ∧
      ∀ tail, cutAuthority (text ++ '/' :: tail) = (authority, rest ++ '/' :: tail) := by
  unfold cutAuthority at cut
  split at cut
  · next after =>
      obtain ⟨rfl, rfl⟩ : (after.takeWhile fun c => !(['/', '?', '#'].contains c)) = authority ∧
          (after.dropWhile fun c => !(['/', '?', '#'].contains c)) = rest := by
        simpa [cutBefore] using cut
      refine ⟨by rw [List.takeWhile_append_dropWhile], fun c member => ?_, fun tail => ?_⟩
      · have passes := List.mem_takeWhile_imp member
        simp only [List.contains_cons, Bool.not_eq_true', Bool.or_eq_false_iff] at passes
        simp only [endsPath, List.contains_cons, passes.2.1, passes.2.2.1, Bool.false_or]
        rfl
      · rw [List.cons_append, List.cons_append, cutAuthority, cutBefore,
          takeWhile_append_of_stop (by decide), dropWhile_append_of_stop (by decide)]
  · obtain ⟨rfl, -⟩ : [] = authority ∧ text = rest := by simpa using cut
    exact absurd rfl named

/-- Of a text that begins with an address only the path goes on after that of the address, and only
if the address has neither a query nor a fragment. -/
theorem cut_append {text : List Char} (hasScheme : (cut text).scheme ≠ [])
    (hasAuthority : (cut text).authority ≠ []) (tail : List Char) :
    (cut (text ++ '/' :: tail)).scheme = (cut text).scheme ∧
    (cut (text ++ '/' :: tail)).authority = (cut text).authority ∧
    (cut (text ++ '/' :: tail)).path = (cut text).path ++
      if text.any endsPath then [] else beforeQuery ('/' :: tail) := by
  obtain ⟨scheme, afterScheme, schemeCut⟩ : ∃ scheme rest, cutScheme text = (scheme, rest) :=
    ⟨_, _, rfl⟩
  obtain ⟨authority, rest, authorityCut⟩ :
      ∃ authority rest, cutAuthority afterScheme = (authority, rest) := ⟨_, _, rfl⟩
  have named : scheme ≠ [] := by simpa [cut, schemeCut] using hasScheme
  have authorityNamed : authority ≠ [] := by
    simpa [cut, schemeCut, authorityCut] using hasAuthority
  obtain ⟨found, isBefore, schemePlain⟩ := cutScheme_eq schemeCut named
  obtain ⟨isWhole, authorityPlain, authorityCutAppend⟩ :=
    cutAuthority_eq authorityCut authorityNamed
  have marks : text.any endsPath = rest.any endsPath := by
    have whole : text = scheme ++ ':' :: '/' :: '/' :: (authority ++ rest) := by
      rw [isBefore, ← isWhole]
      exact eq_before_of_after? found
    have schemeNone : scheme.any endsPath = false := by simpa using schemePlain
    have authorityNone : authority.any endsPath = false := by simpa using authorityPlain
    rw [whole]
    simp only [List.any_append, List.any_cons, schemeNone, authorityNone, Bool.false_or]
    rfl
  have sameMarks : (fun c => !(['?', '#'].contains c)) = fun c => !endsPath c := rfl
  simp only [cut, schemeCut, cutScheme_append schemeCut named, authorityCut, authorityCutAppend,
    cutBefore, marks, sameMarks, true_and]
  rw [List.takeWhile_append, beforeQuery]
  cases ends : rest.any endsPath with
  | false =>
      have all : (rest.takeWhile fun c => !endsPath c) = rest := by
        rw [List.takeWhile_eq_self_iff]
        simpa using ends
      rw [if_pos (by rw [all]), all, if_neg (by decide)]
  | true =>
      have notAll : (rest.takeWhile fun c => !endsPath c).length ≠ rest.length := by
        intro same
        have all := (List.takeWhile_prefix fun c => !endsPath c).eq_of_length same
        rw [List.takeWhile_eq_self_iff] at all
        obtain ⟨c, member, isMark⟩ := List.any_eq_true.1 ends
        simpa [isMark] using all c member
      rw [if_neg notAll, if_pos rfl, List.append_nil]

theorem head?_of_cutAuthority {text authority rest : List Char}
    (cut : cutAuthority text = (authority, rest)) (named : authority ≠ []) :
    ∀ c, rest.head? = some c → c = '/' ∨ endsPath c = true := by
  unfold cutAuthority at cut
  split at cut
  · next after =>
      obtain ⟨-, rfl⟩ : (after.takeWhile fun c => !(['/', '?', '#'].contains c)) = authority ∧
          (after.dropWhile fun c => !(['/', '?', '#'].contains c)) = rest := by
        simpa [cutBefore] using cut
      intro c isHead
      have stops := ends_dropWhile (fun c => !(['/', '?', '#'].contains c)) after c isHead
      have isMark : ¬ c = '/' → ¬ c = '?' → c = '#' := by simpa using stops
      rw [Decidable.or_iff_not_imp_left]
      intro notSlash
      have isEnd := Decidable.or_iff_not_imp_left.2 (isMark notSlash)
      simpa [endsPath] using isEnd
  · obtain ⟨rfl, -⟩ : [] = authority ∧ text = rest := by simpa using cut
    exact absurd rfl named

theorem head?_path_of_cut {text : List Char} (hasAuthority : (cut text).authority ≠ []) :
    (cut text).path = [] ∨ (cut text).path.head? = some '/' := by
  obtain ⟨authority, rest, authorityCut⟩ :
      ∃ authority rest, cutAuthority (cutScheme text).2 = (authority, rest) := ⟨_, _, rfl⟩
  have named : authority ≠ [] := by simpa [cut, authorityCut] using hasAuthority
  have heads := head?_of_cutAuthority authorityCut named
  have isPath : (cut text).path = beforeQuery rest := by
    simp only [cut, authorityCut, cutBefore]
    rfl
  rw [isPath, beforeQuery]
  cases rest with
  | nil => exact Or.inl rfl
  | cons c others =>
      rcases heads c rfl with rfl | ends
      · exact Or.inr (by rw [List.takeWhile_cons, if_pos (by decide)]; rfl)
      · exact Or.inl (by rw [List.takeWhile_cons, if_neg (by simp [ends])])

/-! ## Addresses of texts -/

theorem ofParts_of_ofText {text : List Char} {url : Url} (done : ofText text = .ok url) :
    ofParts (cut text) = .ok url := by
  unfold ofText at done
  split at done
  · cases done
  · split at done
    · cases done
    · exact done

/-- The parts of an address with a scheme. -/
theorem ofParts_eq_ok {parts : Parts} {url : Url} (done : ofParts parts = .ok url)
    (hasScheme : parts.scheme ≠ []) :
    url.scheme = Host.lowerAscii parts.scheme ∧
    Host.normal (cutPort (cutUser parts.authority).2).1 = .ok url.host ∧
    url.path = Percent.encode staysInPath (resolvePath parts.path) := by
  have notAlone : (Host.lowerAscii parts.scheme).isEmpty = false := by
    simpa [Host.lowerAscii] using hasScheme
  simp only [ofParts, Binding.bind_eq_ok_iff, Binding.pure_eq_ok, notAlone, Bool.false_and,
    Bool.false_eq_true, if_false, Except.ok.injEq] at done
  obtain ⟨host, hostDone, port, -, rfl⟩ := done
  exact ⟨rfl, hostDone, rfl⟩

theorem scheme_eq_of_ofParts {parts : Parts} {url : Url} (done : ofParts parts = .ok url) :
    url.scheme = Host.lowerAscii parts.scheme ∧
      Host.normal (cutPort (cutUser parts.authority).2).1 = .ok url.host := by
  simp only [ofParts, Binding.bind_eq_ok_iff, Binding.pure_eq_ok] at done
  obtain ⟨host, hostDone, port, -, done⟩ := done
  split at done
  · simp only [Binding.bind_eq_ok_iff, Except.ok.injEq] at done
    obtain ⟨_, -, rfl⟩ := done
    exact ⟨rfl, hostDone⟩
  · rw [← Except.ok.inj done]
    exact ⟨rfl, hostDone⟩

theorem hasParts_of_isAbsolute {parts : Parts} {url : Url} (done : ofParts parts = .ok url)
    (absolute : url.isAbsolute = true) : parts.scheme ≠ [] ∧ parts.authority ≠ [] := by
  obtain ⟨scheme, host⟩ := scheme_eq_of_ofParts done
  simp only [isAbsolute, Bool.and_eq_true, Bool.not_eq_true', List.isEmpty_eq_false_iff] at absolute
  constructor
  · intro isNil
    rw [isNil] at scheme
    exact absolute.1 scheme
  · intro isNil
    rw [isNil] at host
    exact absolute.2 (Except.ok.inj host).symm

theorem user_of_ofParts {parts : Parts} {url : Url} (done : ofParts parts = .ok url) :
    url.user = Percent.encode staysInUser (cutUser parts.authority).1 := by
  simp only [ofParts, Binding.bind_eq_ok_iff, Binding.pure_eq_ok] at done
  obtain ⟨host, -, port, -, done⟩ := done
  split at done
  · simp only [Binding.bind_eq_ok_iff, Except.ok.injEq] at done
    obtain ⟨_, -, rfl⟩ := done
    rfl
  · rw [← Except.ok.inj done]

/-- A text that begins with an absolute address names the same user. -/
theorem user_of_append {base tail : List Char} {root url : Url} (isRoot : ofText base = .ok root)
    (absolute : root.isAbsolute = true) (done : ofText (base ++ '/' :: tail) = .ok url) :
    url.user = root.user := by
  have rootParts := ofParts_of_ofText isRoot
  obtain ⟨hasScheme, hasAuthority⟩ := hasParts_of_isAbsolute rootParts absolute
  obtain ⟨-, sameAuthority, -⟩ := cut_append hasScheme hasAuthority tail
  rw [user_of_ofParts (ofParts_of_ofText done), user_of_ofParts rootParts, sameAuthority]

/-- The address of a request has the path and the user of the one that it is made from. -/
theorem path_of_addressed {url address : Url} {query : List Char} (absolute : url.isAbsolute = true)
    (done : url.addressed query = .ok address) :
    address.path = url.path ∧ address.user = url.user := by
  simp only [addressed, target, absolute, if_true] at done
  split at done
  · cases done
  · simp only [Binding.bind_eq_ok_iff, Binding.pure_eq_ok, Except.ok.injEq] at done
    obtain ⟨_, -, _, -, rfl⟩ := done
    exact ⟨rfl, rfl⟩

/-- Another query leads to the same address, unless it is too long. -/
theorem addressed_of_addressed {url address : Url} {first : List Char}
    (done : url.addressed first = .ok address) (second : List Char) :
    url.addressed second =
      if lengthLimit < second.length then .error .partTooLong else .ok address := by
  simp only [addressed, List.any_cons, List.any_nil, Bool.or_false] at done ⊢
  split at done
  · cases done
  · next admissible =>
      simp only [Bool.or_eq_true, decide_eq_true_eq, not_or] at admissible
      obtain ⟨authorityFits, pathFits, -, fragmentFits⟩ := admissible
      by_cases exceeds : lengthLimit < second.length
      · rw [if_pos exceeds, if_pos (by simp [exceeds])]
        rfl
      · rw [if_neg exceeds, if_neg (by simp [exceeds, authorityFits, pathFits, fragmentFits])]
        exact done

/-- The segments of a path that goes on after that of an absolute address. -/
theorem splitOn_path_of_append {base tail : List Char} {root url : Url}
    (isRoot : ofText base = .ok root) (absolute : root.isAbsolute = true)
    (done : ofText (base ++ '/' :: tail) = .ok url) :
    url.isAbsolute = true ∧ ∃ kept, root.path.splitOn '/' =
        kept.map (Percent.encode staysInPath) ∧
      url.path.splitOn '/' = (if base.any endsPath then kept
        else resolveDots kept.reverse ((beforeQuery tail).splitOn '/')).map
          (Percent.encode staysInPath) := by
  have rootDone := ofParts_of_ofText isRoot
  have urlDone := ofParts_of_ofText done
  obtain ⟨hasScheme, hasAuthority⟩ := hasParts_of_isAbsolute rootDone absolute
  obtain ⟨sameScheme, sameAuthority, path⟩ := cut_append hasScheme hasAuthority tail
  obtain ⟨rootScheme, rootHost, rootPath⟩ := ofParts_eq_ok rootDone hasScheme
  obtain ⟨urlScheme, urlHost, urlPath⟩ := ofParts_eq_ok urlDone (sameScheme ▸ hasScheme)
  rw [sameScheme, ← rootScheme] at urlScheme
  rw [sameAuthority, rootHost, Except.ok.injEq] at urlHost
  have rooted := head?_path_of_cut hasAuthority
  refine ⟨by rw [isAbsolute, urlScheme, ← urlHost, ← isAbsolute, absolute],
    resolveDots [] ((cut base).path.splitOn '/'), ?_, ?_⟩
  · rw [rootPath, splitOn_encode, splitOn_resolvePath rooted]
  · rw [urlPath, splitOn_encode, path]
    split
    · rw [List.append_nil, splitOn_resolvePath rooted]
    · have goesOn : beforeQuery ('/' :: tail) = '/' :: beforeQuery tail := by
        rw [beforeQuery, List.takeWhile_cons, if_pos (by decide), beforeQuery]
      have stillRooted : (cut base).path ++ '/' :: beforeQuery tail = [] ∨
          ((cut base).path ++ '/' :: beforeQuery tail).head? = some '/' := by
        rcases rooted with isNil | starts
        · exact Or.inr (by rw [isNil]; rfl)
        · exact Or.inr (by rw [List.head?_append, starts]; rfl)
      rw [goesOn, splitOn_resolvePath stillRooted, List.splitOn_append_cons_self,
        resolveDots_append]

end ApiTools.Http.Url
