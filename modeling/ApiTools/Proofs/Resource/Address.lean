import ApiTools.Proofs.Credentials
import ApiTools.Proofs.Text.Pattern
import ApiTools.Proofs.Text.Search

/-!
# Addresses of resources

A family's addresses are what fits a pattern that is made from its template. The values that the
pattern reads off an address are those that the address was made from, and no address belongs to two
families, so it does not matter in which order the families are asked.
-/

namespace ApiTools

namespace ResourceTemplate

open Binding
open Text

/-! ## Patterns -/

/-- The characters that the value of a variable may not have. -/
def marks : List Char :=
  ['/', '#', '?']

/-- A text that a variable can stand for in an address. -/
def IsValue (value : List Char) : Prop :=
  value ≠ [] ∧ ∀ c ∈ value, c ∉ marks

-- decided along the value: characters are finitely many, but too many to go through
instance : DecidablePred IsValue := fun value =>
  decidable_of_iff (value ≠ [] ∧ value.all (fun c => !marks.contains c) = true)
    (by simp [IsValue])

/-- The names of the variables. -/
def names (template : ResourceTemplate) : List (List Char) :=
  [template.first.1.toList, template.second.1.toList]

/-- The pattern of a family's addresses: the template as it is, but for the variables in braces,
which are found in what it was escaped to and become runs. -/
def pattern (template : ResourceTemplate) : List Char :=
  let body := template.names.foldl
    (fun body name => Pattern.replaceFrom (Pattern.escape ('\x7b' :: (name ++ ['\x7d'])))
      (Pattern.writeRun name marks) 0 body)
    (Pattern.escape template.uriTemplate.toList)
  '^' :: (body ++ ['$'])

/-- The values of the variables, with their names. -/
def named (template : ResourceTemplate) (first second : List Char) : List (String × Json) :=
  [(template.first.1, .str (String.ofList first)), (template.second.1, .str (String.ofList second))]

/-- The named values that the pattern of a family reads off an address. -/
def values? (template : ResourceTemplate) (uri : String) : Option (List (String × Json)) :=
  (Pattern.match? template.pattern uri.toList).map fun groups =>
    groups.map fun (name, value) => (String.ofList name, .str (String.ofList value))

theorem read?_pattern (template : ResourceTemplate) :
    Pattern.read? template.pattern = some (.start :: (template.start.map .char ++
      [.run template.first.1.toList marks, .char '/', .run template.second.1.toList marks,
        .finish])) := by
  cases template <;> decide +kernel

/-! ## Values of an address -/

variable {template other : ResourceTemplate} {first second rest uri : List Char}

theorem isValue_iff {value : List Char} :
    IsValue value ↔ value ≠ [] ∧ ∀ c ∈ value, isValueChar c = true := by
  simp [IsValue, marks, isValueChar, and_assoc]

theorem valuesOf?_eq_some_iff :
    valuesOf? rest = some (first, second) ↔
      IsValue first ∧ IsValue second ∧ rest = first ++ '/' :: second := by
  rw [isValue_iff, isValue_iff]
  constructor
  · intro found
    unfold valuesOf? at found
    dsimp only at found
    split at found
    · next after dropped =>
        split at found
        · next nonempty =>
            obtain ⟨rfl, rfl⟩ := Prod.mk.inj (Option.some.inj found)
            refine ⟨⟨nonempty.1, fun c member => List.mem_takeWhile_imp member⟩,
              ⟨nonempty.2.1, List.all_eq_true.1 nonempty.2.2⟩, ?_⟩
            rw [← dropped, List.takeWhile_append_dropWhile]
        · cases found
    · cases found
  · rintro ⟨⟨firstNonempty, firstAllowed⟩, ⟨secondNonempty, secondAllowed⟩, rfl⟩
    have taken : first.takeWhile isValueChar = first := List.takeWhile_eq_self_iff.2 firstAllowed
    have dropped : first.dropWhile isValueChar = [] := List.dropWhile_eq_nil_iff.2 firstAllowed
    have stops : isValueChar '/' = false := by decide
    simp only [valuesOf?, takeWhile_append_of_stop stops, dropWhile_append_of_stop stops, taken,
      dropped, List.nil_append]
    rw [if_pos ⟨firstNonempty, secondNonempty, List.all_eq_true.2 secondAllowed⟩]

/-- An address belongs to a family with some values exactly if it was made from these. -/
theorem match?_eq_some_iff :
    template.match? uri = some (first, second) ↔
      IsValue first ∧ IsValue second ∧ uri = template.address first second := by
  rw [match?]
  split
  · next starts =>
      obtain ⟨rest, rfl⟩ := List.isPrefixOf_iff_prefix.1 starts
      rw [List.drop_left, valuesOf?_eq_some_iff, address, List.append_assoc, List.append_right_inj]
  · next startsNot =>
      refine iff_of_false (by simp) ?_
      rintro ⟨-, -, rfl⟩
      rw [address, List.append_assoc] at startsNot
      exact startsNot (List.isPrefixOf_iff_prefix.2 (List.prefix_append _ _))

theorem start_ne_nil (template : ResourceTemplate) : template.start ≠ [] := by
  cases template <;> decide

/-- The pattern reads off an address what it was made from. -/
theorem pattern_match?_eq_some_iff {groups : List (List Char × List Char)} :
    Pattern.match? template.pattern uri = some groups ↔
      ∃ first second, template.match? uri = some (first, second) ∧
        groups = [(template.first.1.toList, first), (template.second.1.toList, second)] := by
  rw [Pattern.match?, read?_pattern, Option.bind_some, Pattern.ways, if_pos rfl]
  by_cases starts : template.start <+: uri
  · obtain ⟨rest, rfl⟩ := starts
    rw [Pattern.ways_char_append template.start_ne_nil,
      Pattern.head?_ways_run_char_run_finish (by decide) (by decide)]
    refine exists_congr fun first => exists_congr fun second => ?_
    rw [match?_eq_some_iff, address, List.append_assoc, List.append_right_inj, IsValue, IsValue]
    tauto
  · rw [Pattern.ways_char_of_not_prefix starts]
    refine iff_of_false (by simp) ?_
    rintro ⟨first, second, matched, -⟩
    rw [match?, if_neg (mt List.isPrefixOf_iff_prefix.1 starts)] at matched
    cases matched

/-- The pattern finds the values that are cut out of an address. -/
theorem values?_eq (template : ResourceTemplate) (uri : String) :
    template.values? uri =
      (template.match? uri.toList).map fun (first, second) => template.named first second := by
  rw [values?]
  cases matched : template.match? uri.toList with
  | none =>
      cases fits : Pattern.match? template.pattern uri.toList with
      | none => rfl
      | some groups =>
          obtain ⟨first, second, other, -⟩ := pattern_match?_eq_some_iff.1 fits
          rw [matched] at other
          cases other
  | some values =>
      rw [pattern_match?_eq_some_iff.2 ⟨_, _, matched, rfl⟩]
      simp [named]

/-! ## Addresses of values -/

theorem expand_named (template : ResourceTemplate) (first second : List Char) :
    template.expand (template.named first second) =
      .ok (String.ofList (template.address first second)) := by
  have isFirst : Keyed.get? template.first.1 (template.named first second) =
      some (.str (String.ofList first)) := by
    rw [named, Keyed.get?_cons, if_pos rfl]
  have isSecond : Keyed.get? template.second.1 (template.named first second) =
      some (.str (String.ofList second)) := by
    have different : template.first.1 ≠ template.second.1 := by cases template <;> decide
    rw [named, Keyed.get?_cons, if_neg different, Keyed.get?_cons, if_pos rfl]
  simp [expand, Json.memberThere, isFirst, isSecond, Json.shown]

theorem expand_named_eq_ok_iff {address : String} :
    template.expand (template.named first second) = .ok address ↔
      address.toList = template.address first second := by
  rw [expand_named, Except.ok.injEq, ← String.toList_inj, String.toList_ofList]
  exact eq_comm

/-- The pattern reads values off an address exactly if they make the address. -/
theorem values?_eq_some_iff {address : String} {values : List (String × Json)} :
    template.values? address = some values ↔
      ∃ first second, IsValue first ∧ IsValue second ∧ values = template.named first second ∧
        template.expand values = .ok address := by
  rw [values?_eq, Option.map_eq_some_iff]
  constructor
  · rintro ⟨⟨first, second⟩, matched, rfl⟩
    obtain ⟨isFirst, isSecond, isAddress⟩ := match?_eq_some_iff.1 matched
    exact ⟨first, second, isFirst, isSecond, rfl, expand_named_eq_ok_iff.2 isAddress⟩
  · rintro ⟨first, second, isFirst, isSecond, rfl, expanded⟩
    exact ⟨(first, second),
      match?_eq_some_iff.2 ⟨isFirst, isSecond, expand_named_eq_ok_iff.1 expanded⟩, rfl⟩

theorem match?_of_values? {address : String}
    (found : template.values? address = some (template.named first second)) :
    template.match? address.toList = some (first, second) := by
  rw [values?_eq, Option.map_eq_some_iff] at found
  obtain ⟨⟨otherFirst, otherSecond⟩, matched, same⟩ := found
  simp only [named, List.cons.injEq, Prod.mk.injEq, Json.str.injEq, String.ofList_inj] at same
  obtain ⟨⟨-, rfl⟩, ⟨-, rfl⟩, -⟩ := same
  exact matched

theorem isSome_match?_of_values? {address : String}
    (found : (template.values? address).isSome = true) :
    (template.match? address.toList).isSome = true := by
  rwa [values?_eq, Option.isSome_map] at found

/-- No address belongs to both families. -/
theorem eq_of_match? (matched : (template.match? uri).isSome = true)
    (alsoMatched : (other.match? uri).isSome = true) : template = other := by
  obtain ⟨values, matched⟩ := Option.isSome_iff_exists.1 matched
  obtain ⟨otherValues, alsoMatched⟩ := Option.isSome_iff_exists.1 alsoMatched
  cases template with
  | watchlist =>
      cases other with
      | watchlist => rfl
      | trending =>
          rw [match?_trending_of_watchlist matched] at alsoMatched
          cases alsoMatched
  | trending =>
      cases other with
      | watchlist =>
          rw [match?_trending_of_watchlist alsoMatched] at matched
          cases matched
      | trending => rfl

/-! ## Listed addresses -/

theorem mem_all (template : ResourceTemplate) : template ∈ all := by
  cases template <;> decide

/-- A listed resource has an address that was made from values listed for the variables. -/
theorem exists_of_mem_resources {entry : ResourceEntry} (listed : entry ∈ template.resources) :
    ∃ first ∈ template.first.2, ∃ second ∈ template.second.2,
      entry.name = s!"{template.name} {first} {second}" ∧
        entry.uri = String.ofList (template.address first.toList second.toList) := by
  rw [resources, List.mem_flatMap] at listed
  obtain ⟨first, isFirst, listed⟩ := listed
  obtain ⟨second, isSecond, rfl⟩ := List.mem_map.1 listed
  exact ⟨first, isFirst, second, isSecond, rfl, rfl⟩

theorem isValue_of_mem_listed (template : ResourceTemplate) :
    (∀ value ∈ template.first.2, IsValue value.toList) ∧
      ∀ value ∈ template.second.2, IsValue value.toList := by
  cases template <;> decide

end ResourceTemplate

/-! ## Reading by address -/

open Http

/-- Reads the resource at an address, where the families are asked in some order. -/
def readResourceAmong (templates : List ResourceTemplate) (client : Client)
    (token : Option String) (uri : String) : Talk (List ResourceContent) :=
  let found := templates.findSome? fun template =>
    (template.match? uri.toList).map fun values => (template, values)
  match found with
  | some (template, first, second) =>
    template.read client token uri (String.ofList first) (String.ofList second)
  | none => Talk.ofResult (.error (.unknownResource uri))

section

open ResourceTemplate

variable {templates : List ResourceTemplate} {template : ResourceTemplate} {client : Client}
  {token : Option String} {uri : String} {first second : List Char}

theorem readResourceAmong_all : readResourceAmong all = readResource := rfl

theorem readResourceAmong_of_match? (client : Client) (token : Option String)
    (member : template ∈ templates)
    (matched : template.match? uri.toList = some (first, second)) :
    readResourceAmong templates client token uri =
      template.read client token uri (String.ofList first) (String.ofList second) := by
  rw [readResourceAmong]
  cases found : templates.findSome? fun template =>
      (template.match? uri.toList).map fun values => (template, values) with
  | none =>
      have noMatch := List.findSome?_eq_none_iff.1 found template member
      rw [matched] at noMatch
      cases noMatch
  | some result =>
      obtain ⟨other, -, otherMatched⟩ := List.exists_of_findSome?_eq_some found
      obtain ⟨values, isMatch, rfl⟩ := Option.map_eq_some_iff.1 otherMatched
      obtain rfl : template = other := eq_of_match? (by rw [matched]; rfl) (by rw [isMatch]; rfl)
      rw [matched] at isMatch
      obtain rfl := Option.some.inj isMatch
      rfl

theorem readResourceAmong_of_noMatch (client : Client) (token : Option String)
    (noMatch : ∀ template ∈ templates, template.match? uri.toList = none) :
    readResourceAmong templates client token uri =
      Talk.ofResult (.error (.unknownResource uri)) := by
  have found : templates.findSome? (fun template =>
      (template.match? uri.toList).map fun values => (template, values)) = none := by
    rw [List.findSome?_eq_none_iff]
    intro template member
    rw [noMatch template member, Option.map_none]
  rw [readResourceAmong, found]

/-- Each family is asked at some time, and in which order makes no difference. -/
theorem readResourceAmong_of_perm (reordered : templates.Perm all) :
    readResourceAmong templates client token uri = readResource client token uri := by
  rw [← readResourceAmong_all]
  by_cases noMatch : ∀ template ∈ all, template.match? uri.toList = none
  · rw [readResourceAmong_of_noMatch client token noMatch,
      readResourceAmong_of_noMatch client token]
    exact fun template member => noMatch template (reordered.mem_iff.1 member)
  · push Not at noMatch
    obtain ⟨template, member, someMatch⟩ := noMatch
    obtain ⟨values, matched⟩ := Option.ne_none_iff_exists'.1 someMatch
    rw [readResourceAmong_of_match? client token member matched,
      readResourceAmong_of_match? client token (reordered.mem_iff.2 member) matched]

/-- What a family's pattern reads off an address are the values that the address is made from, which
are any that are not empty and have no mark in them. So an address is read by the one family that it
belongs to, with these values, in whatever order the families are asked; a listed one by the family
that lists it, with the values it is listed for. Any other address is refused before anything is
sent. -/
theorem address_decides_reading :
    (∀ (template : ResourceTemplate) (uri : String),
      template.values? uri =
          (template.match? uri.toList).map (fun (first, second) => template.named first second) ∧
        ∀ values, template.values? uri = some values ↔
          ∃ first second, IsValue first ∧ IsValue second ∧
            values = template.named first second ∧ template.expand values = .ok uri) ∧
      (∀ (template : ResourceTemplate) first second, IsValue first → IsValue second →
        ∃ uri, template.expand (template.named first second) = .ok uri ∧
          template.values? uri = some (template.named first second)) ∧
      (∀ (template other : ResourceTemplate) uri, (template.values? uri).isSome = true →
        (other.values? uri).isSome = true → template = other) ∧
      readResourceAmong all = readResource ∧
      (∀ templates : List ResourceTemplate, templates.Perm all → ∀ client token uri,
        (∀ (template : ResourceTemplate) first second,
          template.values? uri = some (template.named first second) →
          readResourceAmong templates client token uri =
            template.read client token uri (String.ofList first) (String.ofList second)) ∧
        ((∀ template : ResourceTemplate, template.values? uri = none) → ∀ wire,
          readResourceAmong templates client token uri wire =
            (.error (.unknownResource uri), wire))) ∧
      ∀ template : ResourceTemplate, ∀ entry ∈ template.resources,
        ∃ first ∈ template.first.2, ∃ second ∈ template.second.2,
          entry.name = s!"{template.name} {first} {second}" ∧
            template.expand (template.named first.toList second.toList) = .ok entry.uri ∧
            template.values? entry.uri = some (template.named first.toList second.toList) ∧
            ∀ client token, readResource client token entry.uri =
              template.read client token entry.uri first second := by
  refine ⟨fun template uri => ⟨values?_eq template uri, fun values => values?_eq_some_iff⟩, ?_, ?_,
    readResourceAmong_all, ?_, ?_⟩
  · intro template first second isFirst isSecond
    have expanded := expand_named template first second
    exact ⟨_, expanded, values?_eq_some_iff.2 ⟨first, second, isFirst, isSecond, rfl, expanded⟩⟩
  · intro template other uri found alsoFound
    exact eq_of_match? (isSome_match?_of_values? found) (isSome_match?_of_values? alsoFound)
  · intro templates reordered client token uri
    rw [readResourceAmong_of_perm reordered, ← readResourceAmong_all]
    constructor
    · intro template first second found
      exact readResourceAmong_of_match? client token template.mem_all (match?_of_values? found)
    · intro noValues wire
      rw [readResourceAmong_of_noMatch, Talk.ofResult_apply]
      intro template _
      have nothing := noValues template
      rwa [values?_eq, Option.map_eq_none_iff] at nothing
  · intro template entry listed
    obtain ⟨first, isFirst, second, isSecond, isName, isUri⟩ := exists_of_mem_resources listed
    have expanded := expand_named template first.toList second.toList
    rw [← isUri] at expanded
    have found : template.values? entry.uri =
        some (template.named first.toList second.toList) :=
      values?_eq_some_iff.2 ⟨_, _, template.isValue_of_mem_listed.1 first isFirst,
        template.isValue_of_mem_listed.2 second isSecond, rfl, expanded⟩
    refine ⟨first, isFirst, second, isSecond, isName, expanded, found, fun client token => ?_⟩
    have reads := readResourceAmong_of_match? client token template.mem_all
      (match?_of_values? found)
    rwa [readResourceAmong_all, String.ofList_toList, String.ofList_toList] at reads

/-- Values full of marks that patterns and templates use, and with line breaks. -/
def oddKind : String := "\x7b.*\x7d\n"

def oddStatus : String := "[^$]+\n"

def oddAddress : String := "simkl://watchlist/\x7b.*\x7d\n/[^$]+\n"

set_option maxRecDepth 20000 in
/-- The odd address is one of the user's lists and no other, whichever family is asked first, and
with the number of an item after it it is none at all. -/
theorem address_decides_reading_of_oddAddress :
    watchlist.values? oddAddress =
        some (watchlist.named oddKind.toList oddStatus.toList) ∧
      trending.values? oddAddress = none ∧
      readResourceAmong [.trending, .watchlist] ⟨"https://host", "id"⟩ none oddAddress =
        watchlist.read ⟨"https://host", "id"⟩ none oddAddress oddKind oddStatus ∧
      readResourceAmong [.trending, .watchlist] ⟨"https://host", "id"⟩ none (oddAddress ++ "#0")
        ⟨[], []⟩ = (.error (.unknownResource (oddAddress ++ "#0")), ⟨[], []⟩) := by
  obtain ⟨reads, -, onlyOne, -, routes, -⟩ := address_decides_reading
  have found : watchlist.values? oddAddress =
      some (watchlist.named oddKind.toList oddStatus.toList) :=
    (reads watchlist oddAddress).2 _ |>.2 ⟨_, _, by decide, by decide, rfl, by decide +kernel⟩
  have reordered : [trending, watchlist].Perm all := List.Perm.swap watchlist trending []
  refine ⟨found, ?_, ?_, ?_⟩
  · by_contra alsoFound
    have same := onlyOne watchlist trending oddAddress (by rw [found]; rfl)
      (Option.isSome_iff_ne_none.2 alsoFound)
    cases same
  · have routed := (routes _ reordered ⟨"https://host", "id"⟩ none oddAddress).1 _ _ _ found
    rwa [String.ofList_toList, String.ofList_toList] at routed
  · refine (routes _ reordered _ none _).2 (fun template => ?_) _
    rw [← Option.isNone_iff_eq_none]
    cases template <;> decide +kernel

end

end ApiTools
