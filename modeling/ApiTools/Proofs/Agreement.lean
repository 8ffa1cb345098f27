import ApiTools.Proofs.Catalog.Module
import ApiTools.Proofs.Delivery

/-!
# What the outcome of a call depends on

Two argument objects that agree under every declared name, where null counts as nothing unless the
argument is required, have the same outcome: the same refusal, or the same requests and the same
texts. So neither undeclared arguments nor the order of the arguments nor nulls in place of nothing
ever matter.
-/

namespace ApiTools

open ApiTools.Http

/-! ## Formatters -/

namespace Json

variable {args other : Arguments}

theorem member_congr (same : ∀ name, args.given? name = other.given? name) (key : String) :
    (Json.obj args).member key = (Json.obj other).member key := by
  have sameValue : (Keyed.get? key args).getD .null = (Keyed.get? key other).getD .null := by
    rw [← Arguments.getD_given?, ← Arguments.getD_given?, same key]
  rw [member, member, memberOr, memberOr, sameValue]

theorem part_congr (same : ∀ name, args.given? name = other.given? name) (key : String) :
    (Json.obj args).part key = (Json.obj other).part key := by
  rw [part, part, memberOrElse, memberOrElse, member_congr same]

end Json

namespace Formatter

variable {args other : Arguments}

theorem argumentTitle_congr (same : ∀ name, args.given? name = other.given? name) (body : Json)
    (kinds : List String) :
    argumentTitle (.obj args) body kinds = argumentTitle (.obj other) body kinds := by
  induction kinds with
  | nil => rfl
  | cons kind rest inductionHypothesis =>
      rw [argumentTitle, argumentTitle, Json.member_congr same, inductionHypothesis]

theorem titleOf_congr (same : ∀ name, args.given? name = other.given? name)
    (kinds : List String) : titleOf (.obj args) kinds = titleOf (.obj other) kinds := by
  rw [titleOf, titleOf, Json.part_congr same]
  exact congrArg _ (funext fun body => argumentTitle_congr same body kinds)

/-- A formatter looks at nothing in the arguments but the values that are not null. -/
theorem apply_congr (same : ∀ name, args.given? name = other.given? name) (formatter : Formatter)
    (response : Json) :
    formatter.apply response (.obj args) = formatter.apply response (.obj other) := by
  have sameMember := Json.member_congr same
  have samePart := Json.part_congr same
  have sameTitle := titleOf_congr same
  cases formatter with
  | searchResults => simp only [apply, searchContent, sameMember]
  | scrobbleStart => simp only [apply, playbackContent, sameTitle]
  | scrobblePause =>
      simp only [apply, pauseContent, playbackContent, sameMember, samePart, sameTitle]
  | scrobbleStop => simp only [apply, playbackContent, sameTitle]
  | addedToWatchlist => simp only [apply, sameTitle]
  | watchlist => simp only [apply, watchlistContent, sameMember]
  | titleList | bestList | airingList | unnamed text => rfl

end Formatter

/-! ## Requests and responses -/

namespace Handler

variable {args other : Arguments}

theorem format_congr (same : ∀ name, args.given? name = other.given? name) (handler : Handler)
    (response : Json) : handler.format args response = handler.format other response := by
  unfold format
  cases handler.formatter with
  | none => rfl
  | some formatter => simp only [formatter.apply_congr same response]

theorem runOperation_congr (same : ∀ name, args.given? name = other.given? name)
    (handler : Handler) (client : Client) (token : Option String) :
    Action.runOperation handler client token args =
      Action.runOperation handler client token other := by
  have sameCall : handler.call args = handler.call other := call_congr fun name _ => same name
  have sameFormat := handler.format_congr same
  simp only [Action.runOperation, sameCall, sameFormat]

end Handler

/-! ## Checking -/

namespace Checked

variable {α β γ : Type}

/-- Two results that complain of the same, if of anything. -/
def ComplainAlike (first second : Checked α) : Prop :=
  ∀ issues, first = .error issues ↔ second = .error issues

theorem complainAlike_ok (first second : α) : ComplainAlike (.ok first) (.ok second) := by
  intro issues
  simp

theorem complainAlike_of_eq {first second : Checked α} (same : first = second) :
    ComplainAlike first second := by
  rw [same]
  exact fun _ => Iff.rfl

theorem complainAlike_both (combine : α → β → γ) {first second : Checked α}
    {others otherSecond : Checked β} (heads : ComplainAlike first second)
    (rests : ComplainAlike others otherSecond) :
    ComplainAlike (both combine first others) (both combine second otherSecond) := by
  have sameHead : ∀ issues, first = .error issues → second = .error issues :=
    fun issues => (heads issues).1
  cases first with
  | error issues =>
      rw [sameHead issues rfl]
      cases others with
      | error otherIssues =>
          rw [(rests otherIssues).1 rfl]
          exact complainAlike_of_eq rfl
      | ok value =>
          cases otherSecond with
          | error otherIssues => cases (rests otherIssues).2 rfl
          | ok otherValue => exact complainAlike_of_eq rfl
  | ok value =>
      cases second with
      | error issues => cases (heads issues).2 rfl
      | ok secondValue =>
          cases others with
          | error otherIssues =>
              rw [(rests otherIssues).1 rfl]
              exact complainAlike_of_eq rfl
          | ok otherValue =>
              cases otherSecond with
              | error otherIssues => cases (rests otherIssues).2 rfl
              | ok last => exact complainAlike_ok _ _

end Checked

namespace ArgType

/-- Two argument objects hold the same under the name of a property, where null counts as nothing
unless the property is required. -/
def AgreeAt (name : String) (required : Bool) (first second : Arguments) : Prop :=
  if required then Keyed.get? name first = Keyed.get? name second
  else first.given? name = second.given? name

variable {first second : Arguments}

theorem given?_eq_of_agreeAt {name : String} {required : Bool}
    (agree : AgreeAt name required first second) : first.given? name = second.given? name := by
  cases required with
  | true =>
      have same : Keyed.get? name first = Keyed.get? name second := agree
      rw [Arguments.given?, Arguments.given?, same]
  | false => exact agree

/-- A property that is not required never complains where nothing is given. -/
theorem exists_checkProperty_of_given?_eq_none {name : String} {args : Arguments}
    (absent : args.given? name = none) (check : Json → Checked Json) :
    ∃ accepted, checkProperty name false check args = .ok accepted := by
  rw [Arguments.given?_eq_none_iff] at absent
  unfold checkProperty
  cases found : Keyed.get? name args with
  | none => exact ⟨[], rfl⟩
  | some value =>
      rw [found, Option.getD_some] at absent
      rw [absent]
      exact ⟨[(name, .null)], rfl⟩

/-- Where the values differ, neither says anything. -/
theorem absent_of_agreeAt {name : String} {required : Bool}
    (agree : AgreeAt name required first second)
    (different : Keyed.get? name first ≠ Keyed.get? name second) :
    required = false ∧ first.given? name = none ∧ second.given? name = none := by
  have sameGiven := given?_eq_of_agreeAt agree
  have absent : first.given? name = none := by
    by_contra present
    obtain ⟨value, given⟩ := Option.ne_none_iff_exists'.1 present
    have givenSecond : second.given? name = some value := sameGiven ▸ given
    apply different
    rw [Arguments.get?_of_given? given, Arguments.get?_of_given? givenSecond]
  refine ⟨?_, absent, sameGiven ▸ absent⟩
  cases required with
  | true => exact absurd agree different
  | false => rfl

theorem complainAlike_checkProperty {name : String} {required : Bool}
    {check : Json → Checked Json} (agree : AgreeAt name required first second) :
    Checked.ComplainAlike (checkProperty name required check first)
      (checkProperty name required check second) := by
  by_cases same : Keyed.get? name first = Keyed.get? name second
  · apply Checked.complainAlike_of_eq
    rw [checkProperty, checkProperty, same]
  · obtain ⟨rfl, absent, absentSecond⟩ := absent_of_agreeAt agree same
    obtain ⟨accepted, firstDone⟩ := exists_checkProperty_of_given?_eq_none absent check
    obtain ⟨other, secondDone⟩ := exists_checkProperty_of_given?_eq_none absentSecond check
    rw [firstDone, secondDone]
    exact Checked.complainAlike_ok accepted other

theorem complainAlike_checkProperties {properties : List (String × Bool × ArgType)}
    (agree : ∀ property ∈ properties, AgreeAt property.1 property.2.1 first second) :
    Checked.ComplainAlike (checkProperties properties first)
      (checkProperties properties second) := by
  induction properties with
  | nil => exact Checked.complainAlike_of_eq rfl
  | cons property rest inductionHypothesis =>
      rw [List.forall_mem_cons] at agree
      apply Checked.complainAlike_both
      · exact complainAlike_checkProperty agree.1
      · exact inductionHypothesis agree.2

section

variable {properties : List (String × Bool × ArgType)} {accepted other : Arguments}

theorem get?_checkProperties_congr {property : String × Bool × ArgType}
    (distinct : (properties.map Prod.fst).Nodup) (member : property ∈ properties)
    (same : Keyed.get? property.1 first = Keyed.get? property.1 second)
    (firstDone : checkProperties properties first = .ok accepted)
    (secondDone : checkProperties properties second = .ok other) :
    Keyed.get? property.1 accepted = Keyed.get? property.1 other := by
  obtain ⟨name, required, type⟩ := property
  have firstHolds := get?_of_checkProperties distinct firstDone member
  have secondHolds := get?_of_checkProperties distinct secondDone member
  rw [← same] at secondHolds
  rcases firstHolds with ⟨absent, -, firstLacks⟩ | ⟨value, checked, present, accepts, firstHas⟩
  · rcases secondHolds with ⟨-, -, secondLacks⟩ | ⟨value, _, present, -⟩
    · rw [firstLacks, secondLacks]
    · rw [absent] at present
      cases present
  · rcases secondHolds with
      ⟨absent, -⟩ | ⟨otherValue, otherChecked, again, othersAccepts, secondHas⟩
    · rw [absent] at present
      cases present
    · obtain rfl : value = otherValue := Option.some.inj (present.symm.trans again)
      obtain rfl : checked = otherChecked := Except.ok.inj (accepts.symm.trans othersAccepts)
      rw [firstHas, secondHas]

theorem given?_checkProperties_eq_none {name : String} {type : ArgType}
    (distinct : (properties.map Prod.fst).Nodup) (member : (name, false, type) ∈ properties)
    (absent : first.given? name = none) (done : checkProperties properties first = .ok accepted) :
    accepted.given? name = none := by
  rw [Arguments.given?_eq_none_iff] at absent ⊢
  rcases get?_of_checkProperties distinct done member with
    ⟨-, -, lacks⟩ | ⟨value, checked, present, accepts, has⟩
  · rw [lacks, Option.getD_none]
  · rw [present, Option.getD_some] at absent
    subst absent
    rw [has, Option.getD_some]
    exact (Except.ok.inj accepts).symm

/-- What is accepted under a name is decided by what is given there. -/
theorem given?_checkProperties_congr (distinct : (properties.map Prod.fst).Nodup)
    (agree : ∀ property ∈ properties, AgreeAt property.1 property.2.1 first second)
    (firstDone : checkProperties properties first = .ok accepted)
    (secondDone : checkProperties properties second = .ok other) (name : String) :
    accepted.given? name = other.given? name := by
  by_cases declared : name ∈ properties.map Prod.fst
  · obtain ⟨⟨key, required, type⟩, member, rfl⟩ := List.mem_map.1 declared
    have agreeHere : AgreeAt key required first second := agree _ member
    by_cases same : Keyed.get? key first = Keyed.get? key second
    · have sameAccepted := get?_checkProperties_congr distinct member same firstDone secondDone
      rw [Arguments.given?, Arguments.given?, sameAccepted]
    · obtain ⟨rfl, absent, absentSecond⟩ := absent_of_agreeAt agreeHere same
      have firstLacks := given?_checkProperties_eq_none distinct member absent firstDone
      have secondLacks := given?_checkProperties_eq_none distinct member absentSecond secondDone
      rw [firstLacks, secondLacks]
  · have lacks : ∀ {given result : Arguments}, checkProperties properties given = .ok result →
        result.given? name = none := by
      intro given result done
      have undeclared : Keyed.get? name result = none := by
        rw [Keyed.get?_eq_none_iff, keys_of_checkProperties done]
        exact fun member => declared (List.mem_filter.1 member).1
      rw [Arguments.given?_eq_none_iff, undeclared, Option.getD_none]
    rw [lacks firstDone, lacks secondDone]

end

end ArgType

/-! ## Calls -/

namespace ArgumentModel

/-- Two argument objects agree on all declared arguments. -/
def AgreeOn (model : ArgumentModel) (first second : Arguments) : Prop :=
  ∀ declared ∈ model.fields, ArgType.AgreeAt declared.1 declared.2.required first second

/-- The argument says something to the model: it is declared, and not null unless it is required. -/
def heeds (model : ArgumentModel) (argument : String × Json) : Bool :=
  (Keyed.get? argument.1 model.fields).any fun declared =>
    declared.required || !argument.2.isNull

variable {model : ArgumentModel} {first second : Arguments}

theorem agreeAt_of_agreeOn (agree : model.AgreeOn first second) :
    ∀ property ∈ model.properties, ArgType.AgreeAt property.1 property.2.1 first second := by
  intro property member
  obtain ⟨declared, isDeclared, rfl⟩ := List.mem_map.1 member
  exact agree declared isDeclared

theorem heeds_of_mem (distinct : (Keyed.keys model.fields).Nodup)
    {declared : String × ArgumentField} (isDeclared : declared ∈ model.fields) (value : Json) :
    model.heeds (declared.1, value) = (declared.2.required || !value.isNull) := by
  have found := Keyed.get?_of_mem distinct isDeclared
  rw [heeds, found, Option.any_some]

/-- Arguments that differ in their order, and in those that the model does not heed, agree. -/
theorem agreeOn_of_perm (distinct : (Keyed.keys model.fields).Nodup)
    (firstKeys : (Keyed.keys first).Nodup) (secondKeys : (Keyed.keys second).Nodup)
    (same : (first.filter model.heeds).Perm (second.filter model.heeds)) :
    model.AgreeOn first second := by
  have sameHeeded : ∀ argument, model.heeds argument = true →
      (Keyed.get? argument.1 first = some argument.2 ↔
        Keyed.get? argument.1 second = some argument.2) := by
    intro argument heeded
    have inBoth : argument ∈ first.filter model.heeds ↔ argument ∈ second.filter model.heeds :=
      same.mem_iff
    rw [List.mem_filter, List.mem_filter, and_iff_left heeded, and_iff_left heeded] at inBoth
    rw [Keyed.get?_eq_some_iff firstKeys, Keyed.get?_eq_some_iff secondKeys]
    exact inBoth
  intro declared isDeclared
  have heeded := heeds_of_mem distinct isDeclared
  unfold ArgType.AgreeAt
  split
  · next required =>
      apply Option.ext
      intro value
      apply sameHeeded (declared.1, value)
      rw [heeded, required, Bool.true_or]
  · apply Option.ext
    intro value
    rw [Arguments.given?, Arguments.given?, Option.filter_eq_some_iff, Option.filter_eq_some_iff]
    by_cases notNull : (!value.isNull) = true
    · have heededHere : model.heeds (declared.1, value) = true := by
        rw [heeded, notNull, Bool.or_true]
      rw [sameHeeded (declared.1, value) heededHere]
    · simp only [notNull, Bool.false_eq_true, and_false]

end ArgumentModel

namespace RegisteredTool

variable {tool : RegisteredTool} {handler : Handler} {first second : Arguments}

/-- A call ends in the same way for arguments that agree, whatever the service replies. -/
theorem call_congr (isOperation : tool.action = .operation handler)
    (distinct : (Keyed.keys tool.arguments.fields).Nodup)
    (agree : tool.arguments.AgreeOn first second) (client : Client) (token : Option String) :
    tool.call client token (.obj first) = tool.call client token (.obj second) := by
  have orItself : ∀ given : Arguments, (Json.obj given).orElse (.obj []) = .obj given := by
    intro given
    cases given <;> rfl
  have agreeAt := ArgumentModel.agreeAt_of_agreeOn agree
  have alike := ArgType.complainAlike_checkProperties agreeAt
  rw [← ArgumentModel.map_fst_properties] at distinct
  funext wire
  rw [call, call, orItself, orItself, ArgumentModel.check, ArgumentModel.check]
  cases firstDone : ArgType.checkProperties tool.arguments.properties first with
  | error issues => rw [(alike issues).1 firstDone]
  | ok accepted =>
      cases secondDone : ArgType.checkProperties tool.arguments.properties second with
      | error issues =>
          rw [(alike issues).2 secondDone] at firstDone
          cases firstDone
      | ok other =>
          have sameGiven :=
            ArgType.given?_checkProperties_congr distinct agreeAt firstDone secondDone
          have sameRun := handler.runOperation_congr sameGiven client token
          simp only [isOperation, Action.run, sameRun]

end RegisteredTool

namespace Server

/-- The outcome of a call of a compiled tool, and the requests it sends, depend on nothing but the
declared arguments, where null is nothing unless an argument is required. Undeclared arguments, the
order of the arguments and nulls in place of nothing make no difference. -/
theorem call_eq_of_agreeOn {description : Json} {whitelist : List WhitelistEntry}
    {catalog : Catalog} {client : Client} {server : Server}
    (compiled : Catalog.compile description whitelist = .ok catalog)
    (started : start client (some catalog) = .ok server) :
    ∀ definition ∈ server.definitions, ∀ (token : Option String) (first second : Arguments),
      (definition.arguments.AgreeOn first second →
        server.registry.call server.client token definition.name (.obj first) =
          server.registry.call server.client token definition.name (.obj second)) ∧
      ((Keyed.keys first).Nodup → (Keyed.keys second).Nodup →
        (first.filter definition.arguments.heeds).Perm
          (second.filter definition.arguments.heeds) →
        server.registry.call server.client token definition.name (.obj first) =
          server.registry.call server.client token definition.name (.obj second)) := by
  intro definition member token first second
  obtain ⟨tool, -, registers⟩ :=
    Catalog.exists_registers_of_start compiled started definition member
  have distinct : (Keyed.keys definition.arguments.fields).Nodup :=
    ArgumentModel.distinct_ofFields registers.arguments
  have registered := get?_of_mem_definitions started definition member
  have sameCall : definition.arguments.AgreeOn first second →
      server.registry.call server.client token definition.name (.obj first) =
        server.registry.call server.client token definition.name (.obj second) := by
    intro agree
    rw [Registry.call, Registry.call, registered]
    exact RegisteredTool.call_congr registers.action distinct agree server.client token
  refine ⟨sameCall, fun firstKeys secondKeys same => sameCall ?_⟩
  exact ArgumentModel.agreeOn_of_perm distinct firstKeys secondKeys same

set_option maxRecDepth 20000 in
/-- A search by two numbers, with a null and an argument that no one declared among them. -/
theorem call_eq_of_strayArgument :
    ∃ catalog server, Catalog.compile (Catalog.searchDescription
        [.obj [("name", .str "imdb"), ("in", .str "query")],
          .obj [("name", .str "tmdb"), ("in", .str "query")],
          .obj [("name", .str "mal"), ("in", .str "query")]]) standardWhitelist = .ok catalog ∧
      start (.make Client.defaultBaseUrl "id") (some catalog) = .ok server ∧
      server.registry.call server.client none "simkl_search_by_id"
          (.obj [("tmdb", .str "7"), ("stray", .int 5), ("mal", .null), ("imdb", .str "tt1")]) =
        server.registry.call server.client none "simkl_search_by_id"
          (.obj [("imdb", .str "tt1"), ("tmdb", .str "7")]) := by
  have starts : (ofDescription? (Catalog.searchDescription
      [.obj [("name", .str "imdb"), ("in", .str "query")],
        .obj [("name", .str "tmdb"), ("in", .str "query")],
        .obj [("name", .str "mal"), ("in", .str "query")]]) standardWhitelist
      (.make Client.defaultBaseUrl "id")).any (fun server =>
        server.definitions.any fun definition =>
          decide (definition.name = "simkl_search_by_id") &&
          decide (([("tmdb", .str "7"), ("stray", .int 5), ("mal", .null),
              ("imdb", .str "tt1")].filter definition.arguments.heeds).Perm
            ([("imdb", .str "tt1"), ("tmdb", .str "7")].filter definition.arguments.heeds))) =
      true := by
    decide +kernel
  obtain ⟨catalog, server, compiled, started, holds⟩ := exists_of_any_ofDescription? starts
  obtain ⟨definition, member, holds⟩ := List.any_eq_true.1 holds
  simp only [Bool.and_eq_true, decide_eq_true_eq] at holds
  obtain ⟨isSearch, samePart⟩ := holds
  refine ⟨catalog, server, compiled, started, ?_⟩
  rw [← isSearch]
  exact (call_eq_of_agreeOn compiled started definition member none _ _).2 (by decide) (by decide)
    samePart

end Server

end ApiTools
