import ApiTools.Proofs.Pages

/-!
# The last page

An answer of all pages of a list reports the number of a last page. That number comes from the first
reply and from the call before any further page is fetched. It is the number of the page that was
fetched last exactly if it does not lie before the first page.
-/

namespace ApiTools

open ApiTools.Binding
open ApiTools.Http

namespace Client

/-- The pages that are to be fetched after the first one. -/
def Paging.furtherPages (paging : Paging) (pagination : Pagination) : List Int :=
  Int.range (pagination.page + 1) (paging.lastPage pagination + 1)

/-- The page that is fetched last: the first one, if there are no further pages. -/
def Paging.lastFetched (paging : Paging) (pagination : Pagination) : Int :=
  (paging.furtherPages pagination).getLastD pagination.page

theorem getLastD_range (first last : Int) :
    (Int.range (first + 1) (last + 1)).getLastD first = max first last := by
  rw [Int.range]
  cases size : (last + 1 - (first + 1)).toNat with
  | zero =>
      rw [List.range_zero, List.map_nil, List.getLastD_nil]
      omega
  | succ count =>
      rw [List.range_succ, List.map_append, List.map_singleton, List.getLastD_concat]
      omega

/-- The page that is fetched last never lies before the first one. -/
theorem Paging.lastFetched_eq (paging : Paging) (pagination : Pagination) :
    paging.lastFetched pagination = max pagination.page (paging.lastPage pagination) :=
  getLastD_range pagination.page (paging.lastPage pagination)

theorem Paging.le_lastPage_iff (paging : Paging) (pagination : Pagination) (page : Int) :
    page ≤ paging.lastPage pagination ↔
      page ≤ pagination.pageCount ∧ ∀ most, paging.maxPages = some most → page ≤ most := by
  rw [Paging.lastPage]
  cases paging.maxPages with
  | none => simp
  | some most =>
      simp only [Option.some.injEq, forall_eq']
      omega

variable {client : Client} {token : Option String} {call : Call} {paging : Paging} {wire : Wire}
variable {first : Request} {begun answer : Answer} {pagination : Pagination}

/-- Where all pages are asked for, the first answer must be a list. -/
theorem exists_items_of_fetchPages (all : paging.all = true)
    (made : client.request token (paging.firstCall call) = .ok first)
    (answered : Answer.ofReply first wire.next = .ok begun)
    (paged : begun.pagination = some pagination)
    (succeeds : (client.fetchPages token call paging wire).1 = .ok answer) :
    ∃ items, begun.data = .arr items := by
  rw [fetchPages, Talk.bind_apply, ← Paging.firstCall, fetch_apply made, answered, all] at succeeds
  dsimp only at succeeds
  rw [paged] at succeeds
  dsimp only at succeeds
  rw [Talk.bind_apply, Talk.ofResult_apply] at succeeds
  cases isItems : itemsOf begun with
  | ok items => exact ⟨items, itemsOf_eq_ok_iff.1 isItems⟩
  | error fault =>
      rw [isItems] at succeeds
      cases succeeds

/-- The reported page count is the number of the page that was fetched last exactly if the first
page lies neither behind the page count of the service nor behind the last page asked for. -/
theorem pageCount_eq_lastFetched_iff (distinct : (Keyed.keys call.query).Nodup)
    (all : paging.all = true) (made : client.request token (paging.firstCall call) = .ok first)
    (answered : Answer.ofReply first wire.next = .ok begun)
    (paged : begun.pagination = some pagination)
    (succeeds : (client.fetchPages token call paging wire).1 = .ok answer) :
    ∃ requests reported,
      (client.fetchPages token call paging wire).2 = (wire.after first).afterAll requests ∧
      List.Forall₂ first.IsPage (paging.furtherPages pagination) requests ∧
      answer.pagination = some reported ∧
      reported = { pagination with pageCount := paging.lastPage pagination } ∧
      paging.lastFetched pagination = max pagination.page reported.pageCount ∧
      (reported.pageCount = paging.lastFetched pagination ↔
        pagination.page ≤ pagination.pageCount ∧
          ∀ most, paging.maxPages = some most → pagination.page ≤ most) := by
  obtain ⟨items, isList⟩ := exists_items_of_fetchPages all made answered paged succeeds
  obtain ⟨data, pagination?⟩ := begun
  obtain rfl : data = .arr items := isList
  obtain rfl : pagination? = some pagination := paged
  have run := fetchPages_apply all made answered
  rw [run] at succeeds ⊢
  obtain ⟨others, fetched, rfl⟩ := map_eq_ok_iff.1 succeeds
  obtain ⟨requests, sent, fetching⟩ := exists_fetching (paging.keys_firstCall_nodup distinct) made
    (paging.lastPage pagination - pagination.page).toNat (pagination.page + 1) (wire.after first)
  have samePages : Int.range (pagination.page + 1)
      (pagination.page + 1 + ((paging.lastPage pagination - pagination.page).toNat : Int)) =
        paging.furtherPages pagination := by
    rw [Paging.furtherPages, Int.range, Int.range]
    congr 2
    omega
  rw [samePages] at fetching
  have allFetched := (fetching.exists_ok_iff.1 ⟨others, fetched⟩).1
  have inOrder := fetching.inOrder
  rw [allFetched, List.take_length] at inOrder
  refine ⟨requests, _, sent, inOrder, rfl, rfl, paging.lastFetched_eq pagination, ?_⟩
  rw [← paging.le_lastPage_iff, paging.lastFetched_eq]
  exact eq_comm.trans max_eq_right_iff

/-! ## Five pages from the third one on -/

/-- A page of five, each with one item. -/
def pageOfFive (page : Nat) : Reply :=
  .response ⟨200, [("X-Pagination-Page", toString page), ("X-Pagination-Limit", "1"),
    ("X-Pagination-Page-Count", "5"), ("X-Pagination-Item-Count", "5")],
    ["[5]".toList.map fun c => UInt8.ofNat c.toNat]⟩

/-- All pages from the third one up to another one. -/
def fromThirdPage (last : Int) : Paging :=
  ⟨some 3, none, true, some last⟩

set_option maxRecDepth 20000 in
/-- Up to the fourth page one more request is made, and the page count is four. -/
theorem pageCount_eq_lastFetched_of_fourthPage :
    ∃ first requests reported,
      ((make defaultBaseUrl "id").fetchPages none showsCall (fromThirdPage 4)
        ⟨[pageOfFive 3, pageOfFive 4], []⟩).2 =
          ((Wire.mk [pageOfFive 3, pageOfFive 4] []).after first).afterAll requests ∧
      List.Forall₂ first.IsPage ((fromThirdPage 4).furtherPages ⟨3, 1, 5, 5⟩) requests ∧
      reported = (⟨3, 1, 4, 5⟩ : Pagination) ∧
      reported.pageCount = (fromThirdPage 4).lastFetched ⟨3, 1, 5, 5⟩ := by
  have runs : ((make defaultBaseUrl "id").request none
      ((fromThirdPage 4).firstCall showsCall)).toOption.any (fun first =>
        decide (Answer.ofReply first (pageOfFive 3) =
            .ok ⟨.arr [.int 5], some ⟨3, 1, 5, 5⟩⟩ ∧
          ((make defaultBaseUrl "id").fetchPages none showsCall (fromThirdPage 4)
            ⟨[pageOfFive 3, pageOfFive 4], []⟩).1 =
              .ok ⟨.arr [.int 5, .int 5], some ⟨3, 1, 4, 5⟩⟩)) = true := by
    decide +kernel
  obtain ⟨first, made, holds⟩ := exists_eq_ok_of_any runs
  obtain ⟨answered, succeeds⟩ := of_decide_eq_true holds
  have distinct : (Keyed.keys showsCall.query).Nodup := List.nodup_nil
  have isFirstPage : Answer.ofReply first
      (Wire.next ⟨[pageOfFive 3, pageOfFive 4], []⟩) =
        .ok ⟨.arr [.int 5], some ⟨3, 1, 5, 5⟩⟩ := answered
  obtain ⟨requests, reported, sent, inOrder, -, isReported, -, agrees⟩ :=
    pageCount_eq_lastFetched_iff distinct rfl made isFirstPage rfl succeeds
  exact ⟨first, requests, reported, sent, inOrder, isReported, agrees.2 (by decide)⟩

set_option maxRecDepth 20000 in
/-- Up to the second page only the third one is fetched, and yet the page count is two. -/
theorem fetchPages_reports_secondPage :
    ((make defaultBaseUrl "id").fetchPages none showsCall (fromThirdPage 2)
        ⟨[pageOfFive 3], []⟩).1 = .ok ⟨.arr [.int 5], some ⟨3, 1, 2, 5⟩⟩ ∧
      ((make defaultBaseUrl "id").fetchPages none showsCall (fromThirdPage 2)
        ⟨[pageOfFive 3], []⟩).2.sent.map Request.query = ["client_id=id&page=3".toList] ∧
      (2 : Int) ≠ (fromThirdPage 2).lastFetched ⟨3, 1, 5, 5⟩ := by
  decide +kernel

end Client

end ApiTools
