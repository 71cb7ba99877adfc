import ConcertTicketing.Listing.Visitors

/-!
# Answers that agree

At one moment the reads of the shop are the lists and the layout that are
answered over fixed tables, and the answers of different endpoints fit
together: an order is shown by its id exactly when it is on a page of the list
of an own event, with the same columns, and the numbers of the statistics are
those of the lists and of the layout.
-/

namespace ConcertTicketing.Listing

open Events Paging

section Moment

variable {reader : Reader} {shop : Shop}

private theorem answerAt_query {α : Type} (asked : Query)
    (next : Answer asked → Read α) :
    (query asked >>= next).answerAt reader.ask shop =
      (next (reader.ask asked shop)).answerAt reader.ask shop := rfl

/-- A row that is looked for and must be there. -/
theorem elim_eq_ok_iff {α : Type} {found : Option α} {error : ServiceError}
    {result : α} :
    found.elim (.error error) Except.ok = Except.ok result ↔
      found = some result := by
  cases found with
  | none => simp
  | some other => simp

private theorem answerAt_listPublic (query : EventListQueryDto) :
    (EventsService.listPublic query).answerAt reader.ask shop =
      listPublic reader.collation (reader.listing shop) reader.byStartTime
        query := by
  rw [EventsService.listPublic, Program.answerAt_bind,
    Program.answerAt_ofExcept, listPublic]
  rfl

/-- The seats of a layout stand as the columns sort them. -/
theorem answerAt_getLayout_iff {eventId : EventId}
    {seats : List (SeatId × SeatRow)} :
    (SeatsService.getLayout eventId).answerAt reader.ask shop =
        .ok (.seatMap seats) ↔
      getLayout reader.bySeat eventId shop.catalog = .ok (.seatMap seats) := by
  rw [SeatsService.getLayout, answerAt_query, getLayout, Reader.ask]
  cases shop.catalog.events.find? eventId with
  | none => rfl
  | some event =>
      rw [Option.map_some]
      dsimp only
      cases event.ticketModel with
      | none => rfl
      | some model =>
          cases model with
          | seatMap => rfl
          | zone =>
              constructor
              · intro zones
                cases zones
              · intro zones
                cases zones

private theorem answerAt_getOwnedProfile (userId : UserId) :
    (OrganizerService.getOwnedProfile userId).answerAt reader.ask shop =
      getOwnedProfile (reader.listing shop) userId := by
  rw [OrganizerService.getOwnedProfile, answerAt_query, getOwnedProfile,
    Reader.ask, Events.Db.profileOf, Reader.listing]
  cases shop.catalog.organizerProfiles.rows.find? fun entry =>
      decide (entry.2.userId = userId) with
  | none => rfl
  | some entry => rfl

/-- An event of the profile, as the lists find it. -/
theorem find?_ownEvent_listing (profileId : OrganizerId) (eventId : EventId) :
    ((reader.listing shop).events.find? eventId).filter
        (fun event => decide (event.organizerId = profileId)) =
      (shop.catalog.findEvent eventId profileId).map fun event =>
        { event with createdAt := reader.createdAt eventId } := by
  rw [Reader.listing, Table.find?_view, Option.filter_map]
  rfl

private theorem answerAt_assertEventOwner (profileId : OrganizerId)
    (eventId : EventId) :
    (OrganizerService.assertEventOwner profileId eventId).answerAt reader.ask
        shop =
      (assertEventOwner (reader.listing shop) profileId eventId).map
        EventRecord.toEvent := by
  rw [OrganizerService.assertEventOwner, answerAt_query, assertEventOwner,
    find?_ownEvent_listing, Reader.ask]
  cases shop.catalog.findEvent eventId profileId with
  | none => rfl
  | some event => rfl

private theorem answerAt_listOrders (organizerId : UserId) (eventId : EventId)
    (query : OrderListQueryDto) :
    (OrganizerService.listOrders organizerId eventId query).answerAt
        reader.ask shop =
      listOrders (reader.listing shop) reader.byCreatedAtDesc organizerId
        eventId query := by
  rw [OrganizerService.listOrders, Program.answerAt_bind,
    answerAt_getOwnedProfile, listOrders]
  refine congrArg _ (funext fun profileId => ?_)
  rw [Program.answerAt_bind, answerAt_assertEventOwner]
  cases assertEventOwner (reader.listing shop) profileId eventId with
  | error error => rfl
  | ok event =>
      rw [Except.map, Except.bind, Program.answerAt_bind,
        Program.answerAt_ofExcept]
      rfl

end Moment

def ShownOrder.listed (order : ShownOrder) : ListedOrder where
  id := order.id
  status := order.status
  totalAmount := order.totalAmount
  createdAt := order.createdAt
  user := order.user.map fun customer =>
    ⟨customer.id, customer.fullName, customer.email⟩

def allOrders (limit : Option ℕ+) : OrderListQueryDto :=
  ⟨none, none, none, none, none, limit⟩

def paidOrders (limit : Option ℕ+) : OrderListQueryDto :=
  ⟨some .paid, none, none, none, none, limit⟩

def orderPage (reader : Reader) (shop : Shop) (filter : OrderWhere)
    (limit : Option ℕ+) (index : Nat) : Page ListedOrder where
  total := ((reader.listing shop).matchingOrders filter).length
  page := index + 1
  limit := pageLimit limit
  items := (sortedPage (fun _ => reader.byCreatedAtDesc) (pageLimit limit)
    ((reader.listing shop).matchingOrders filter) index).map
      (reader.listing shop).orderSelect

section Orders

variable {reader : Reader} {shop : Shop} {organizerId : UserId}

private theorem listed_shownOrder (reader : Reader) (shop : Shop)
    (orderId : OrderId) (order : OrderRow) :
    (shop.shownOrder orderId order).listed =
      (reader.listing shop).orderSelect (orderId, order.record) := by
  have buyer : ((reader.listing shop).users.find? order.userId) =
      (shop.sales.users.find? order.userId).map UserRow.toUserRecord := by
    rw [Reader.listing, Table.find?_view]
  simp only [ShownOrder.listed, Shop.shownOrder, Shop.customer,
    Db.orderSelect, OrderRow.record, buyer, Option.map_map]
  rfl

/-- Every row of a sorted list is on a page. -/
theorem exists_page {α : Type} {rows : List α} {row : α} {limit : Nat}
    (member : row ∈ rows) (positive : 0 < limit) :
    ∃ index, row ∈ window (index * limit) limit rows := by
  obtain ⟨position, found⟩ := List.mem_iff_getElem?.mp member
  refine ⟨position / limit, ?_⟩
  rw [window, List.mem_iff_getElem?]
  refine ⟨position % limit, ?_⟩
  rw [List.getElem?_take, if_pos (Nat.mod_lt position positive),
    List.getElem?_drop, Nat.mul_comm, Nat.div_add_mod]
  exact found

/-- The organizer's profile, as the lists find it. -/
theorem getOwnedProfile_listing_iff (reader : Reader)
    {profile : OrganizerId} :
    getOwnedProfile (reader.listing shop) organizerId = .ok profile ↔
      shop.catalog.profileOf organizerId = some profile := by
  have answer : (OrganizerService.getOwnedProfile organizerId).answerAt
      reader.ask shop = (shop.catalog.profileOf organizerId).elim
        (.error (.forbidden "Bạn chưa có hồ sơ nhà tổ chức")) .ok := by
    rw [OrganizerService.getOwnedProfile, answerAt_query, Reader.ask]
    cases shop.catalog.profileOf organizerId with
    | none => rfl
    | some own => rfl
  rw [← answerAt_getOwnedProfile, answer, elim_eq_ok_iff]

/-- The answer to a request for one order of an own event. -/
theorem answerAt_getOrder_iff {orderId : OrderId} {shown : ShownOrder} :
    (OrganizerService.getOrder organizerId orderId).answerAt reader.ask shop =
        .ok shown ↔
      ∃ order, shop.sales.orders.find? orderId = some order ∧
        shop.catalog.Owns organizerId order.eventId ∧
        shop.shownOrder orderId order = shown := by
  rw [OrganizerService.getOrder, Program.answerAt_bind,
    answerAt_getOwnedProfile]
  cases profile : getOwnedProfile (reader.listing shop) organizerId with
  | error error =>
      constructor
      · intro answer
        cases answer
      · rintro ⟨order, _, owns, _⟩
        obtain ⟨event, _, known⟩ := owns_iff.mp owns
        rw [(getOwnedProfile_listing_iff reader).mpr known] at profile
        cases profile
  | ok own =>
      have known := (getOwnedProfile_listing_iff reader).mp profile
      have shows : shop.findOrder orderId own = some shown ↔
          ∃ order, shop.sales.orders.find? orderId = some order ∧
            shop.catalog.Owns organizerId order.eventId ∧
            shop.shownOrder orderId order = shown := by
        simp only [Shop.findOrder, Option.map_eq_some_iff,
          Option.filter_eq_some_iff, isSome_findEvent_iff known, and_assoc]
      rw [← shows, ← elim_eq_ok_iff]
      change (query (.findOrder orderId own) >>= _ :
        Read ShownOrder).answerAt reader.ask shop = .ok shown ↔ _
      rw [answerAt_query, Reader.ask]
      cases shop.findOrder orderId own with
      | none => exact Iff.refl (Except.error
          (ServiceError.notFound "Đơn hàng không tồn tại") = Except.ok shown)
      | some order => rfl

/-- Whose orders are listed. -/
theorem owns_iff_listing (reader : Reader) {profile : OrganizerId}
    {eventId : EventId}
    (known : shop.catalog.profileOf organizerId = some profile) :
    (∃ event, assertEventOwner (reader.listing shop) profile eventId =
      .ok event) ↔ shop.catalog.Owns organizerId eventId := by
  rw [← isSome_findEvent_iff known, assertEventOwner, find?_ownEvent_listing]
  cases shop.catalog.findEvent eventId profile with
  | none => simp
  | some event => simp

private theorem owns_of_listOrders {eventId : EventId}
    {query : OrderListQueryDto} {sorting : Sorting byCreatedAtDesc}
    {page : Page ListedOrder}
    (answer : listOrders (reader.listing shop) sorting organizerId eventId
      query = .ok page) : shop.catalog.Owns organizerId eventId := by
  rw [listOrders] at answer
  cases profile : getOwnedProfile (reader.listing shop) organizerId with
  | error error =>
      rw [profile] at answer
      cases answer
  | ok own =>
      have known := (getOwnedProfile_listing_iff reader).mp profile
      rw [profile] at answer
      cases owner : assertEventOwner (reader.listing shop) own eventId with
      | error error =>
          change (assertEventOwner (reader.listing shop) own eventId >>= _) =
            _ at answer
          rw [owner] at answer
          cases answer
      | ok event => exact (owns_iff_listing reader known).mp ⟨event, owner⟩

/-- A page of the orders of an own event. -/
theorem answerAt_orderPage {eventId : EventId}
    (owns : shop.catalog.Owns organizerId eventId)
    {query : OrderListQueryDto} {filter : OrderWhere}
    (filtered : query.toWhere eventId = .ok filter) (index : Nat) :
    (OrganizerService.listOrders organizerId eventId
        (query.atPage index)).answerAt reader.ask shop =
      .ok (orderPage reader shop filter query.limit index) := by
  obtain ⟨event, _, known⟩ := owns_iff.mp owns
  obtain ⟨row, owner⟩ := (owns_iff_listing reader known).mpr owns
  have profile := (getOwnedProfile_listing_iff reader).mpr known
  rw [answerAt_listOrders]
  exact listOrders_atPage profile owner filtered
    (fun _ => reader.byCreatedAtDesc) index

/-- The orders of an event are the rows of its list. -/
theorem mem_allOrders_iff {eventId : EventId} {orderId : OrderId}
    {record : OrderRecord} :
    (orderId, record) ∈ (reader.listing shop).matchingOrders
        (OrganizerService.ofEvent eventId) ↔
      ∃ order, shop.sales.orders.find? orderId = some order ∧
        order.eventId = eventId ∧ order.record = record := by
  have accepted : ∀ order : OrderRow, order.eventId = eventId →
      (OrganizerService.ofEvent eventId).accepts order.record = true := by
    intro order ofEvent
    simp [OrderWhere.accepts, OrganizerService.ofEvent, OrderRow.record,
      ofEvent, DateRange.contains]
  rw [matchingOrders_eq, List.mem_map]
  constructor
  · rintro ⟨⟨key, order⟩, member, same⟩
    cases same
    obtain ⟨stored, ofEvent⟩ :=
      Table.mem_select.mp (List.mem_of_mem_filter member)
    exact ⟨order, Table.find?_eq_some.mpr stored,
      of_decide_eq_true ofEvent, rfl⟩
  · rintro ⟨order, found, ofEvent, rfl⟩
    refine ⟨(orderId, order), List.mem_filter.mpr ⟨?_, ?_⟩, rfl⟩
    · exact Table.mem_select.mpr
        ⟨Table.find?_eq_some.mp found, decide_eq_true ofEvent⟩
    · exact accepted order ofEvent

/-- An order is shown by its id if and only if it is on a page of the list of
an event. -/
theorem order_listed_iff (reader : Reader) (shop : Shop)
    (organizerId : UserId) (limit : Option ℕ+) (item : ListedOrder) :
    (∃ shown, (OrganizerService.getOrder organizerId item.id).answerAt
        reader.ask shop = .ok shown ∧ shown.listed = item) ↔
      ∃ eventId index page,
        (OrganizerService.listOrders organizerId eventId
          ((allOrders limit).atPage index)).answerAt reader.ask shop =
            .ok page ∧
        item ∈ page.items := by
  constructor
  · rintro ⟨shown, answer, rfl⟩
    obtain ⟨order, found, owns, same⟩ := answerAt_getOrder_iff.mp answer
    have member : (shown.listed.id, order.record) ∈
        (reader.listing shop).matchingOrders
          (OrganizerService.ofEvent order.eventId) :=
      mem_allOrders_iff.mpr ⟨order, found, rfl, rfl⟩
    obtain ⟨index, onPage⟩ := exists_page
      ((reader.byCreatedAtDesc.perm _).symm.subset member)
      (pageLimit_pos limit)
    refine ⟨order.eventId, index, _, answerAt_orderPage owns rfl index, ?_⟩
    refine List.mem_map.mpr ⟨_, onPage, ?_⟩
    rw [← listed_shownOrder, same]
  · rintro ⟨eventId, index, page, answer, member⟩
    have listed := answer
    rw [answerAt_listOrders] at listed
    have owns := owns_of_listOrders listed
    have filtered : (allOrders limit).toWhere eventId =
        .ok (OrganizerService.ofEvent eventId) := rfl
    rw [answerAt_orderPage owns filtered] at answer
    cases answer
    obtain ⟨⟨orderId, record⟩, onPage, rfl⟩ := List.mem_map.mp member
    have inRows := (reader.byCreatedAtDesc.perm _).subset
      (List.mem_of_mem_drop (List.mem_of_mem_take onPage))
    obtain ⟨order, found, ofEvent, rfl⟩ := mem_allOrders_iff.mp inRows
    rw [← ofEvent] at owns
    exact ⟨shop.shownOrder orderId order,
      answerAt_getOrder_iff.mpr ⟨order, found, owns, rfl⟩,
      listed_shownOrder reader shop orderId order⟩

end Orders

def allEvents (limit : Option ℕ+) : EventListQueryDto :=
  ⟨none, none, none, none, none, none, limit⟩

def eventPage (reader : Reader) (shop : Shop) (limit : Option ℕ+)
    (index : Nat) : Page PublicEvent where
  total := ((reader.listing shop).matchingEvents reader.collation
    ⟨none, none, none, ⟨none, none⟩⟩).length
  page := index + 1
  limit := pageLimit limit
  items := (sortedPage (fun _ => reader.byStartTime) (pageLimit limit)
    ((reader.listing shop).matchingEvents reader.collation
      ⟨none, none, none, ⟨none, none⟩⟩) index).map publicEventSelect

section Visits

variable {reader : Reader} {shop : Shop}

private theorem answerAt_eventPage (limit : Option ℕ+) (index : Nat) :
    (EventsService.listPublic ((allEvents limit).atPage index)).answerAt
        reader.ask shop =
      .ok (eventPage reader shop limit index) := by
  have filtered : (allEvents limit).toWhere =
      .ok ⟨none, none, none, ⟨none, none⟩⟩ := rfl
  rw [answerAt_listPublic]
  exact listPublic_atPage filtered (fun _ => reader.byStartTime) index

/-- All `ACTIVE` events are the rows of the list. -/
theorem mem_allEvents_iff {eventId : EventId} {record : EventRecord} :
    (eventId, record) ∈ (reader.listing shop).matchingEvents reader.collation
        ⟨none, none, none, ⟨none, none⟩⟩ ↔
      ∃ event, shop.catalog.events.find? eventId = some event ∧
        event.status = .active ∧
        reader.eventRecord eventId event = record := by
  have accepted : ∀ event : Event, event.status = .active →
      EventWhere.accepts reader.collation ⟨none, none, none, ⟨none, none⟩⟩
        (reader.eventRecord eventId event) = true := by
    intro event active
    simp [EventWhere.accepts, Reader.eventRecord, active, DateRange.contains]
  rw [matchingEvents_eq, List.mem_filter, List.mem_map]
  constructor
  · rintro ⟨⟨⟨key, event⟩, member, same⟩, _⟩
    cases same
    obtain ⟨stored, active⟩ := Table.mem_select.mp member
    exact ⟨event, Table.find?_eq_some.mpr stored, of_decide_eq_true active,
      rfl⟩
  · rintro ⟨event, found, active, rfl⟩
    exact ⟨⟨(eventId, event), Table.mem_select.mpr
      ⟨Table.find?_eq_some.mp found, decide_eq_true active⟩, rfl⟩,
      accepted event active⟩

/-- The answer to a request for the details of an event. -/
theorem answerAt_getPublicDetail_iff {eventId : EventId}
    {detail : PublicDetail} :
    (EventsService.getPublicDetail eventId).answerAt reader.ask shop =
        .ok detail ↔
      ∃ event, shop.catalog.events.find? eventId = some event ∧
        event.status = .active ∧
        reader.eventDetail shop.catalog eventId event = detail := by
  have shows : reader.publicDetail shop eventId = some detail ↔
      ∃ event, shop.catalog.events.find? eventId = some event ∧
        event.status = .active ∧
        reader.eventDetail shop.catalog eventId event = detail := by
    rw [publicDetail_eq, Option.map_eq_some_iff]
    simp only [Option.filter_eq_some_iff, decide_eq_true_eq, and_assoc]
  have answer : (EventsService.getPublicDetail eventId).answerAt reader.ask
      shop = (reader.publicDetail shop eventId).elim (.error (.notFound
        "Sự kiện không tồn tại hoặc chưa được công khai")) .ok := by
    rw [EventsService.getPublicDetail, answerAt_query, Reader.ask]
    cases reader.publicDetail shop eventId with
    | none => rfl
    | some other => rfl
  rw [answer, elim_eq_ok_iff, shows]

/-- The details of an event are shown if and only if it is on a page of the
list. -/
theorem detail_listed_iff (reader : Reader) (shop : Shop)
    (limit : Option ℕ+) (item : PublicEvent) :
    (∃ detail, (EventsService.getPublicDetail item.id).answerAt reader.ask
        shop = .ok detail ∧ detail.toPublicEvent = item) ↔
      ∃ index page,
        (EventsService.listPublic ((allEvents limit).atPage index)).answerAt
          reader.ask shop = .ok page ∧
        item ∈ page.items := by
  constructor
  · rintro ⟨detail, answer, rfl⟩
    obtain ⟨event, found, active, same⟩ :=
      answerAt_getPublicDetail_iff.mp answer
    have member := mem_allEvents_iff.mpr
      ⟨event, found, active, Eq.refl (reader.eventRecord detail.id event)⟩
    obtain ⟨index, onPage⟩ := exists_page
      ((reader.byStartTime.perm _).symm.subset member) (pageLimit_pos limit)
    refine ⟨index, _, answerAt_eventPage limit index, ?_⟩
    refine List.mem_map.mpr ⟨_, onPage, ?_⟩
    exact congrArg PublicDetail.toPublicEvent same
  · rintro ⟨index, page, answer, member⟩
    rw [answerAt_eventPage] at answer
    cases answer
    obtain ⟨⟨eventId, record⟩, onPage, rfl⟩ := List.mem_map.mp member
    have inRows := (reader.byStartTime.perm _).subset
      (List.mem_of_mem_drop (List.mem_of_mem_take onPage))
    obtain ⟨event, found, active, rfl⟩ := mem_allEvents_iff.mp inRows
    exact ⟨_, answerAt_getPublicDetail_iff.mpr ⟨event, found, active, rfl⟩,
      rfl⟩

end Visits

/-- Orders and events are shown on their own if and only if they are listed,
with the same columns. -/
theorem shown_iff_listed (reader : Reader) (shop : Shop)
    (limit : Option ℕ+) :
    (∀ (organizerId : UserId) (item : ListedOrder),
      (∃ shown, (OrganizerService.getOrder organizerId item.id).answerAt
          reader.ask shop = .ok shown ∧ shown.listed = item) ↔
        ∃ eventId index page,
          (OrganizerService.listOrders organizerId eventId
            ((allOrders limit).atPage index)).answerAt reader.ask shop =
              .ok page ∧
          item ∈ page.items) ∧
    ∀ item : PublicEvent,
      (∃ detail, (EventsService.getPublicDetail item.id).answerAt reader.ask
          shop = .ok detail ∧ detail.toPublicEvent = item) ↔
        ∃ index page,
          (EventsService.listPublic ((allEvents limit).atPage
            index)).answerAt reader.ask shop = .ok page ∧
          item ∈ page.items :=
  ⟨fun organizerId item => order_listed_iff reader shop organizerId limit
    item, detail_listed_iff reader shop limit⟩

/-! ## The statistics -/

def exactNumbers {ν : Type} [AddCommMonoid ν] (ofAmount : Cents → ν) :
    Numbers ν := ⟨0, (· + ·), ofAmount⟩

private theorem revenue_exactNumbers {ν : Type} [AddCommMonoid ν]
    (ofAmount : Cents → ν) (orders : List PaidOrder) :
    OrganizerService.revenue (exactNumbers ofAmount) orders =
      (orders.map fun order => ofAmount order.totalAmount).sum := by
  rw [OrganizerService.revenue, List.sum_eq_foldl, List.foldl_map]
  rfl

/-- `seatCounts[status] ?? 0`. -/
def seatCount (groups : List SeatGroup) (status : SeatStatus) : Nat :=
  ((groups.find? fun group => decide (group.status = status)).map
    SeatGroup.count).getD 0

/-- The groups of the statuses that occur. -/
theorem seatCount_groups (count : SeatStatus → Nat)
    (statuses : List SeatStatus) (status : SeatStatus) :
    seatCount (statuses.filterMap fun status =>
        if count status = 0 then none else some ⟨status, count status⟩)
      status = if status ∈ statuses then count status else 0 := by
  induction statuses with
  | nil => rfl
  | cons first rest inductionHypothesis =>
      by_cases absent : count first = 0
      · rw [List.filterMap_cons_none (by rw [if_pos absent]),
          inductionHypothesis]
        by_cases same : status = first
        · simp [same, absent]
        · simp [same]
      · rw [List.filterMap_cons_some (by rw [if_neg absent])]
        by_cases same : status = first
        · simp [seatCount, same]
        · have other : first ≠ status := fun equal => same equal.symm
          rw [seatCount, List.find?_cons_of_neg (by simpa using other),
            ← seatCount, inductionHypothesis]
          simp [same]

private theorem seatCount_seatGroups (seats : List (SeatId × SeatRow))
    (status : SeatStatus) :
    seatCount (seatGroups seats) status =
      seats.countP fun entry => decide (entry.2.status = status) := by
  have every : status ∈
      [SeatStatus.available, SeatStatus.locked, SeatStatus.sold] := by
    cases status <;> decide
  exact (seatCount_groups _ _ status).trans (if_pos every)

private theorem sum_groups (count : SeatStatus → Nat)
    (statuses : List SeatStatus) : ((statuses.filterMap fun status =>
        if count status = 0 then none
        else some (SeatGroup.mk status (count status))).map
          SeatGroup.count).sum = (statuses.map count).sum := by
  induction statuses with
  | nil => rfl
  | cons first rest inductionHypothesis =>
      by_cases absent : count first = 0
      · rw [List.filterMap_cons_none (by rw [if_pos absent]),
          inductionHypothesis, List.map_cons, List.sum_cons, absent, zero_add]
      · rw [List.filterMap_cons_some (by rw [if_neg absent]), List.map_cons,
          List.sum_cons, inductionHypothesis, List.map_cons, List.sum_cons]

/-- Every seat is in one group. -/
theorem sum_seatGroups (seats : List (SeatId × SeatRow)) :
    ((seatGroups seats).map SeatGroup.count).sum = seats.length := by
  rw [seatGroups, sum_groups]
  induction seats with
  | nil => rfl
  | cons seat rest inductionHypothesis =>
      simp only [List.map_cons, List.map_nil, List.sum_cons, List.sum_nil,
        List.countP_cons, List.length_cons] at inductionHypothesis ⊢
      cases seat.2.status <;> simp <;> omega

section Stats

variable {ν : Type} {reader : Reader} {shop : Shop} {organizerId : UserId}
  {eventId : EventId}

/-- What the statistics of an own event are. -/
theorem answerAt_getStats_iff {numbers : Numbers ν} {stats : Stats ν} :
    (OrganizerService.getStats numbers organizerId eventId).answerAt
        reader.ask shop = .ok stats ↔
      shop.catalog.Owns organizerId eventId ∧
      stats =
        ⟨((reader.listing shop).matchingOrders
            (OrganizerService.ofEvent eventId)).length,
          ((reader.orderRows.sort ((reader.listing shop).matchingOrders
            (OrganizerService.paidOf eventId))).map paidOrder).length,
          OrganizerService.revenue numbers
            ((reader.orderRows.sort ((reader.listing shop).matchingOrders
              (OrganizerService.paidOf eventId))).map paidOrder),
          (reader.ticketTypeRows.sort
            (shop.catalog.ticketTypesOf eventId)).map soldTicketType,
          seatGroups (shop.catalog.seatRowsOf eventId)⟩ := by
  rw [OrganizerService.getStats, Program.answerAt_bind,
    answerAt_getOwnedProfile]
  cases profile : getOwnedProfile (reader.listing shop) organizerId with
  | error error =>
      constructor
      · intro answer
        cases answer
      · rintro ⟨owns, _⟩
        obtain ⟨event, _, known⟩ := owns_iff.mp owns
        rw [(getOwnedProfile_listing_iff reader).mpr known] at profile
        cases profile
  | ok own =>
      have known := (getOwnedProfile_listing_iff reader).mp profile
      rw [← owns_iff_listing reader known, Except.bind,
        Program.answerAt_bind, answerAt_assertEventOwner]
      cases assertEventOwner (reader.listing shop) own eventId with
      | error error => simp [Except.map, Except.bind]
      | ok event =>
          constructor
          · intro same
            exact ⟨⟨event, rfl⟩, (Except.ok.inj same).symm⟩
          · rintro ⟨_, rfl⟩
            rfl

/-- The items of enough pages are all paid orders. -/
theorem revenue_paidPages [AddCommMonoid ν] (ofAmount : Cents → ν)
    (limit : Option ℕ+) {count : Nat}
    (enough : ((reader.listing shop).matchingOrders
      (OrganizerService.paidOf eventId)).length ≤ count * pageLimit limit) :
    ((readPages (fun index => (orderPage reader shop
        (OrganizerService.paidOf eventId) limit index).items) count).map
          fun item => ofAmount item.totalAmount).sum =
      OrganizerService.revenue (exactNumbers ofAmount)
        ((reader.orderRows.sort ((reader.listing shop).matchingOrders
          (OrganizerService.paidOf eventId))).map paidOrder) := by
  have whole : readPages (sortedPage (fun _ => reader.byCreatedAtDesc)
      (pageLimit limit) ((reader.listing shop).matchingOrders
        (OrganizerService.paidOf eventId))) count =
      reader.byCreatedAtDesc.sort ((reader.listing shop).matchingOrders
        (OrganizerService.paidOf eventId)) := by
    refine (readPages_window _ _ count).trans (List.take_of_length_le ?_)
    rw [(reader.byCreatedAtDesc.perm _).length_eq]
    exact enough
  rw [revenue_exactNumbers]
  simp only [orderPage]
  rw [readPages_map, whole, List.map_map, List.map_map]
  have sameRows := (reader.byCreatedAtDesc.perm ((reader.listing
    shop).matchingOrders (OrganizerService.paidOf eventId))).trans
      (reader.orderRows.perm _).symm
  exact (sameRows.map _).sum_eq

/-- The statistics of an own event are those of its lists and of its
layout. -/
theorem stats_agree [AddCommMonoid ν] (reader : Reader)
    (ofAmount : Cents → ν) {stats : Stats ν}
    (answer : (OrganizerService.getStats (exactNumbers ofAmount) organizerId
      eventId).answerAt reader.ask shop = .ok stats) (limit : Option ℕ+) :
    (∀ index, ∃ page, (OrganizerService.listOrders organizerId eventId
        ((allOrders limit).atPage index)).answerAt reader.ask shop =
          .ok page ∧ page.total = stats.totalOrders) ∧
    (∃ pages : Nat → Page ListedOrder,
      (∀ index, (OrganizerService.listOrders organizerId eventId
        ((paidOrders limit).atPage index)).answerAt reader.ask shop =
          .ok (pages index) ∧ (pages index).total = stats.paidOrders) ∧
      ∀ count, stats.paidOrders ≤ count * pageLimit limit →
        ((readPages (fun index => (pages index).items) count).map
          fun item => ofAmount item.totalAmount).sum = stats.revenue) ∧
    ∀ seats, (SeatsService.getLayout eventId).answerAt reader.ask shop =
        .ok (.seatMap seats) →
      (∀ status, seatCount stats.seatCounts status =
        seats.countP fun entry => decide (entry.2.status = status)) ∧
      (stats.seatCounts.map SeatGroup.count).sum = seats.length := by
  obtain ⟨owns, rfl⟩ := answerAt_getStats_iff.mp answer
  have ofAll : (allOrders limit).toWhere eventId =
      .ok (OrganizerService.ofEvent eventId) := rfl
  have ofPaid : (paidOrders limit).toWhere eventId =
      .ok (OrganizerService.paidOf eventId) := rfl
  refine ⟨?_, ⟨orderPage reader shop (OrganizerService.paidOf eventId) limit,
    ?_, ?_⟩, ?_⟩
  · intro index
    exact ⟨_, answerAt_orderPage owns ofAll index, rfl⟩
  · intro index
    refine ⟨answerAt_orderPage owns ofPaid index, ?_⟩
    rw [List.length_map, (reader.orderRows.perm _).length_eq]
    rfl
  · intro count enough
    rw [List.length_map, (reader.orderRows.perm _).length_eq] at enough
    exact revenue_paidPages ofAmount limit enough
  · intro seats laidOut
    have sorted := (Answers.layout [] shop.catalog seats
      (answerAt_getLayout_iff.mp laidOut)).eq_sort
    have rows := reader.bySeat.perm (shop.catalog.seatRowsOf eventId)
    rw [← sorted] at rows
    constructor
    · intro status
      rw [seatCount_seatGroups, rows.countP_eq]
    · rw [sum_seatGroups, rows.length_eq]

end Stats

def elsewhereStats : Stats Int where
  totalOrders := 1
  paidOrders := 1
  revenue := 500
  ticketTypes := [⟨1, "Seated", 100, 1, 50000⟩]
  seatCounts := [⟨.available, 2⟩]

private theorem elsewhereStats_answer :
    (OrganizerService.getStats (exactNumbers fun amount => amount / 100) 20
        1).answerAt plainReader.ask afterElsewhere.2.shop =
      .ok elsewhereStats := by
  decide +kernel

private theorem elsewhereLayout_answer :
    (SeatsService.getLayout 1).answerAt plainReader.ask
        afterElsewhere.2.shop =
      .ok (.seatMap (plainReader.bySeat.sort
        (afterElsewhere.2.catalog.seatRowsOf 1))) := by
  decide +kernel

theorem stats_agree_elsewhere :
    (∃ page, (OrganizerService.listOrders 20 1
        ((allOrders none).atPage 0)).answerAt plainReader.ask
          afterElsewhere.2.shop = .ok page ∧ page.total = 1) ∧
    (∃ pages : Nat → Page ListedOrder,
      ((OrganizerService.listOrders 20 1
        ((paidOrders none).atPage 0)).answerAt plainReader.ask
          afterElsewhere.2.shop = .ok (pages 0) ∧ (pages 0).total = 1) ∧
      ((readPages (fun index => (pages index).items) 1).map
        fun item => item.totalAmount / 100).sum = 500) ∧
    seatCount elsewhereStats.seatCounts .available = 2 ∧
    (elsewhereStats.seatCounts.map SeatGroup.count).sum = 2 := by
  obtain ⟨totals, ⟨pages, ofPage, revenue⟩, counts⟩ :=
    stats_agree plainReader (fun amount => amount / 100)
      elsewhereStats_answer none
  obtain ⟨available, every⟩ := counts _ elsewhereLayout_answer
  have oneOrder : elsewhereStats.paidOrders ≤ 1 * pageLimit none := by decide
  exact ⟨totals 0, ⟨pages, ofPage 0, revenue 1 oneOrder⟩,
    (available .available).trans (by decide +kernel),
    every.trans (by decide +kernel)⟩

end ConcertTicketing.Listing
