import ConcertTicketing.Library.Reading
import ConcertTicketing.Listing.Shop

/-!
# What an organizer reads

The answers to an organizer depend on the own part of the tables alone: the
organizer's profile and events, the ticket types and seats of these events,
their orders, and the users who have placed them.
-/

namespace ConcertTicketing.Listing

open Events

/-- The organizer's own part of the tables is the same. -/
structure SameFor (organizerId : UserId) (before after : Shop) : Prop where
  profile : after.catalog.profileOf organizerId =
    before.catalog.profileOf organizerId
  events : ∀ eventId, after.catalog.ownEvent organizerId eventId =
    before.catalog.ownEvent organizerId eventId
  ticketTypes : ∀ eventId, before.catalog.Owns organizerId eventId →
    after.catalog.ticketTypesOf eventId = before.catalog.ticketTypesOf eventId
  seats : ∀ eventId, before.catalog.Owns organizerId eventId →
    after.catalog.seatRowsOf eventId = before.catalog.seatRowsOf eventId
  orders : ∀ eventId, before.catalog.Owns organizerId eventId →
    after.ordersOf eventId = before.ordersOf eventId
  customers : ∀ eventId, before.catalog.Owns organizerId eventId →
    ∀ entry ∈ before.ordersOf eventId,
      after.sales.users.find? entry.2.userId =
        before.sales.users.find? entry.2.userId

namespace SameFor

variable {organizerId : UserId} {before middle after : Shop}

theorem refl (organizerId : UserId) (shop : Shop) :
    SameFor organizerId shop shop :=
  ⟨rfl, fun _ => rfl, fun _ _ => rfl, fun _ _ => rfl, fun _ _ => rfl,
    fun _ _ _ _ => rfl⟩

theorem owns (same : SameFor organizerId before after) {eventId : EventId}
    (owns : before.catalog.Owns organizerId eventId) :
    after.catalog.Owns organizerId eventId := by
  obtain ⟨event, own⟩ := owns
  exact ⟨event, (same.events eventId).trans own⟩

theorem trans (early : SameFor organizerId before middle)
    (late : SameFor organizerId middle after) :
    SameFor organizerId before after where
  profile := late.profile.trans early.profile
  events := fun eventId =>
    (late.events eventId).trans (early.events eventId)
  ticketTypes := fun eventId owns =>
    (late.ticketTypes eventId (early.owns owns)).trans
      (early.ticketTypes eventId owns)
  seats := fun eventId owns =>
    (late.seats eventId (early.owns owns)).trans (early.seats eventId owns)
  orders := fun eventId owns =>
    (late.orders eventId (early.owns owns)).trans (early.orders eventId owns)
  customers := by
    intro eventId owns entry member
    have later : entry ∈ middle.ordersOf eventId := by
      rw [early.orders eventId owns]
      exact member
    exact (late.customers eventId (early.owns owns) entry later).trans
      (early.customers eventId owns entry member)

/-- The rows of an own event, one by one. -/
theorem ticketType (same : SameFor organizerId before after)
    {ticketTypeId : TicketTypeId} {row : TicketType}
    (owns : before.catalog.Owns organizerId row.eventId)
    (found : before.catalog.ticketTypes.find? ticketTypeId = some row) :
    after.catalog.ticketTypes.find? ticketTypeId = some row := by
  have listed : (ticketTypeId, row) ∈
      before.catalog.ticketTypesOf row.eventId :=
    Table.mem_select.mpr
      ⟨Table.find?_eq_some.mp found, decide_eq_true rfl⟩
  rw [← same.ticketTypes row.eventId owns] at listed
  exact Table.find?_eq_some.mpr (Table.mem_select.mp listed).1

theorem seat (same : SameFor organizerId before after) {seatId : SeatId}
    {row : SeatRow} (owns : before.catalog.Owns organizerId row.eventId)
    (found : before.catalog.seats.find? seatId = some row) :
    after.catalog.seats.find? seatId = some row := by
  have listed : (seatId, row) ∈ before.catalog.seatRowsOf row.eventId :=
    Table.mem_select.mpr
      ⟨Table.find?_eq_some.mp found, decide_eq_true rfl⟩
  rw [← same.seats row.eventId owns] at listed
  exact Table.find?_eq_some.mpr (Table.mem_select.mp listed).1

end SameFor

/-- The query is about the organizer, or about an own event. -/
def IsFor (organizerId : UserId) (shop : Shop) : Query → Prop
  | .findProfile userId => userId = organizerId
  | .findEvent _ profile =>
      shop.catalog.profileOf organizerId = some profile
  | .findOrder _ profile =>
      shop.catalog.profileOf organizerId = some profile
  | .countOrders filter => shop.catalog.Owns organizerId filter.eventId
  | .findOrders filter _ _ => shop.catalog.Owns organizerId filter.eventId
  | .findAmounts filter => shop.catalog.Owns organizerId filter.eventId
  | .findTicketTypes eventId => shop.catalog.Owns organizerId eventId
  | .groupSeats eventId => shop.catalog.Owns organizerId eventId
  | _ => False

section Answers

variable {reader : Reader} {organizerId : UserId} {before after : Shop}

/-- A list of orders is cut out of the orders of its event. -/
theorem matchingOrders_eq (reader : Reader) (shop : Shop)
    (filter : OrderWhere) :
    (reader.listing shop).matchingOrders filter =
      ((shop.ordersOf filter.eventId).filter fun entry =>
        filter.accepts entry.2.record).map
          fun entry => (entry.1, entry.2.record) := by
  have ofEvent : ∀ entry : OrderId × OrderRow,
      (filter.accepts entry.2.record &&
        decide (entry.2.eventId = filter.eventId)) =
          filter.accepts entry.2.record := by
    intro entry
    by_cases same : entry.2.eventId = filter.eventId
    · rw [decide_eq_true same, Bool.and_true]
    · have rejected : filter.accepts entry.2.record = false := by
        simp [OrderWhere.accepts, OrderRow.record, same]
      rw [rejected, Bool.false_and]
  rw [Db.matchingOrders, Reader.listing, Table.select_view, Shop.ordersOf,
    Table.select, List.filter_filter]
  simp only [ofEvent]

private theorem matchingOrders_same (same : SameFor organizerId before after)
    (reader : Reader) {filter : OrderWhere}
    (owns : before.catalog.Owns organizerId filter.eventId) :
    (reader.listing after).matchingOrders filter =
      (reader.listing before).matchingOrders filter := by
  rw [matchingOrders_eq, matchingOrders_eq, same.orders _ owns]

/-- The buyers in a list of the event's orders. -/
theorem orderSelect_same (same : SameFor organizerId before after)
    {filter : OrderWhere}
    (owns : before.catalog.Owns organizerId filter.eventId)
    {entry : OrderId × OrderRecord}
    (member : entry ∈ (reader.listing before).matchingOrders filter) :
    (reader.listing after).orderSelect entry =
      (reader.listing before).orderSelect entry := by
  rw [matchingOrders_eq] at member
  obtain ⟨row, listed, rfl⟩ := List.mem_map.mp member
  have known := same.customers _ owns row (List.mem_of_mem_filter listed)
  have buyer : (reader.listing after).users.find? row.2.userId =
      (reader.listing before).users.find? row.2.userId := by
    rw [Reader.listing, Reader.listing, Table.find?_view, Table.find?_view,
      known]
  simp only [Db.orderSelect, OrderRow.record, buyer]

theorem isSome_findEvent_iff {db : Events.Db} {profile : OrganizerId}
    (known : db.profileOf organizerId = some profile) (eventId : EventId) :
    (db.findEvent eventId profile).isSome = true ↔
      db.Owns organizerId eventId := by
  rw [Events.Db.Owns, Events.Db.ownEvent, known, Option.bind_some]
  exact Option.isSome_iff_exists

/-- An order of an own event. -/
theorem find?_order_iff (same : SameFor organizerId before after)
    {orderId : OrderId} {order : OrderRow}
    (owns : before.catalog.Owns organizerId order.eventId) :
    after.sales.orders.find? orderId = some order ↔
      before.sales.orders.find? orderId = some order := by
  have listed : ∀ shop : Shop, shop.sales.orders.find? orderId = some order ↔
      (orderId, order) ∈ shop.ordersOf order.eventId := by
    intro shop
    rw [Table.find?_eq_some, Shop.ordersOf, Table.mem_select]
    simp
  rw [listed, listed, same.orders _ owns]

/-- An item is shown with its ticket type and its seat. -/
theorem shownItem_same (same : SameFor organizerId before after)
    {eventId : EventId} (owns : before.catalog.Owns organizerId eventId)
    {line : OrderLine} (refers : line.RefersTo before.catalog eventId) :
    after.shownItem line = before.shownItem line := by
  obtain ⟨row, found, rfl⟩ := refers.ticketType
  have named : after.namedTicketType line.ticketTypeId =
      before.namedTicketType line.ticketTypeId := by
    rw [Shop.namedTicketType, Shop.namedTicketType,
      same.ticketType owns found, found]
  have labelled : line.seatId.bind after.labelledSeat =
      line.seatId.bind before.labelledSeat := by
    cases isSeat : line.seatId with
    | none => rfl
    | some seatId =>
        obtain ⟨seat, foundSeat, ofEvent⟩ := refers.seat seatId isSeat
        rw [← ofEvent] at owns
        rw [Option.bind_some, Option.bind_some, Shop.labelledSeat,
          Shop.labelledSeat, same.seat owns foundSeat, foundSeat]
  rw [Shop.shownItem, Shop.shownItem, named, labelled]

private theorem shownOrder_same (same : SameFor organizerId before after)
    (refer : OrdersReferOwn before) {orderId : OrderId} {order : OrderRow}
    (owns : before.catalog.Owns organizerId order.eventId)
    (found : before.sales.orders.find? orderId = some order) :
    after.shownOrder orderId order = before.shownOrder orderId order := by
  have listed : (orderId, order) ∈ before.ordersOf order.eventId :=
    Table.mem_select.mpr
      ⟨Table.find?_eq_some.mp found, decide_eq_true rfl⟩
  have buyer : after.customer order.userId = before.customer order.userId := by
    rw [Shop.customer, Shop.customer, same.customers _ owns _ listed]
  have items : order.orderItems.map after.shownItem =
      order.orderItems.map before.shownItem :=
    List.map_congr_left fun line member =>
      shownItem_same same owns (refer orderId order found line member)
  rw [Shop.shownOrder, Shop.shownOrder, buyer, items]

private theorem findOrder_same (same : SameFor organizerId before after)
    (refer : OrdersReferOwn before) {profile : OrganizerId}
    (known : before.catalog.profileOf organizerId = some profile)
    (orderId : OrderId) :
    after.findOrder orderId profile = before.findOrder orderId profile := by
  have knownAfter := same.profile.trans known
  apply Option.ext
  intro shown
  simp only [Shop.findOrder, Option.map_eq_some_iff,
    Option.filter_eq_some_iff, isSome_findEvent_iff known,
    isSome_findEvent_iff knownAfter]
  constructor
  · rintro ⟨order, ⟨found, owns⟩, rfl⟩
    have ownsBefore : before.catalog.Owns organizerId order.eventId := by
      obtain ⟨event, own⟩ := owns
      exact ⟨event, (same.events order.eventId).symm.trans own⟩
    have foundBefore := (find?_order_iff same ownsBefore).mp found
    exact ⟨order, ⟨foundBefore, ownsBefore⟩,
      (shownOrder_same same refer ownsBefore foundBefore).symm⟩
  · rintro ⟨order, ⟨found, owns⟩, rfl⟩
    exact ⟨order, ⟨(find?_order_iff same owns).mpr found, same.owns owns⟩,
      shownOrder_same same refer owns found⟩

private theorem findEvent_same (same : SameFor organizerId before after)
    {profile : OrganizerId}
    (known : before.catalog.profileOf organizerId = some profile)
    (eventId : EventId) :
    after.catalog.findEvent eventId profile =
      before.catalog.findEvent eventId profile := by
  have own := same.events eventId
  rw [Events.Db.ownEvent, Events.Db.ownEvent, same.profile, known] at own
  exact own

/-- A query for the organizer is answered from the own part. -/
theorem ask_same (same : SameFor organizerId before after)
    (refer : OrdersReferOwn before) (reader : Reader) {query : Query}
    (isFor : IsFor organizerId before query) :
    reader.ask query after = reader.ask query before := by
  cases query with
  | findProfile userId =>
      rw [show userId = organizerId from isFor]
      exact same.profile
  | findEvent eventId profile => exact findEvent_same same isFor eventId
  | countOrders filter =>
      exact congrArg List.length (matchingOrders_same same reader isFor)
  | findOrders filter skip take =>
      have rows := matchingOrders_same same reader isFor
      rw [Reader.ask, rows]
      refine List.map_congr_left ?_
      intro entry onPage
      have sorted := List.mem_of_mem_drop (List.mem_of_mem_take onPage)
      exact orderSelect_same same isFor
        ((reader.byCreatedAtDesc.perm _).subset sorted)
  | findOrder orderId profile =>
      exact findOrder_same same refer isFor orderId
  | findAmounts filter =>
      rw [Reader.ask, matchingOrders_same same reader isFor]
      rfl
  | findTicketTypes eventId =>
      rw [Reader.ask, same.ticketTypes eventId isFor]
      rfl
  | groupSeats eventId =>
      exact congrArg seatGroups (same.seats eventId isFor)
  | _ => exact isFor.elim

end Answers

/-! ## The reads of an organizer -/

inductive OrganizerRead where
  | listOrders (eventId : EventId) (query : OrderListQueryDto)
  | getOrder (orderId : OrderId)
  | getStats (eventId : EventId)
  deriving DecidableEq

inductive OrganizerAnswer (ν : Type) where
  | orders (page : Page ListedOrder)
  | order (order : ShownOrder)
  | stats (stats : Stats ν)
  deriving DecidableEq, Repr

def OrganizerRead.program {ν : Type} (numbers : Numbers ν)
    (organizerId : UserId) : OrganizerRead → Read (OrganizerAnswer ν)
  | .listOrders eventId query => do
      return .orders
        (← OrganizerService.listOrders organizerId eventId query)
  | .getOrder orderId => do
      return .order (← OrganizerService.getOrder organizerId orderId)
  | .getStats eventId => do
      return .stats
        (← OrganizerService.getStats numbers organizerId eventId)

section Reads

variable {reader : Reader} {organizerId : UserId} {shop : Shop}

abbrev AsksFor {α : Type} (reader : Reader) (organizerId : UserId)
    (shop : Shop) (program : Read α) : Prop :=
  program.OnlyAsks reader.ask (IsFor organizerId shop) shop

private theorem asksFor_getOwnedProfile :
    AsksFor reader organizerId shop
      (OrganizerService.getOwnedProfile organizerId) := by
  refine Program.OnlyAsks.bind (Program.onlyAsks_call rfl) ?_
  intro reply _
  cases reply with
  | none => trivial
  | some profile => trivial

private theorem profileOf_of_getOwnedProfile {profile : OrganizerId}
    (answer : (OrganizerService.getOwnedProfile organizerId).answerAt
      reader.ask shop = .ok profile) :
    shop.catalog.profileOf organizerId = some profile := by
  rw [OrganizerService.getOwnedProfile, Program.answerAt_bind, query,
    Program.answerAt_call] at answer
  change Except.bind (.ok (shop.catalog.profileOf organizerId)) _ = _
    at answer
  cases known : shop.catalog.profileOf organizerId with
  | none =>
      rw [known] at answer
      cases answer
  | some other =>
      rw [known] at answer
      cases answer
      rfl

/-- What goes on with the organizer's profile. -/
theorem AsksFor.withProfile {α : Type} {next : OrganizerId → Read α}
    (goesOn : ∀ profile,
      shop.catalog.profileOf organizerId = some profile →
      AsksFor reader organizerId shop (next profile)) :
    AsksFor reader organizerId shop
      (OrganizerService.getOwnedProfile organizerId >>= next) :=
  asksFor_getOwnedProfile.bind fun profile answer =>
    goesOn profile (profileOf_of_getOwnedProfile answer)

/-- What goes on with an own event. -/
theorem AsksFor.withEvent {α : Type} {profile : OrganizerId}
    {eventId : EventId} {next : Event → Read α}
    (known : shop.catalog.profileOf organizerId = some profile)
    (goesOn : ∀ event, shop.catalog.Owns organizerId eventId →
      AsksFor reader organizerId shop (next event)) :
    AsksFor reader organizerId shop
      (OrganizerService.assertEventOwner profile eventId >>= next) := by
  have asks : AsksFor reader organizerId shop
      (OrganizerService.assertEventOwner profile eventId) := by
    refine Program.OnlyAsks.bind (Program.onlyAsks_call known) ?_
    intro reply _
    cases reply with
    | none => trivial
    | some event => trivial
  refine asks.bind ?_
  intro event answer
  apply goesOn
  rw [OrganizerService.assertEventOwner, Program.answerAt_bind, query,
    Program.answerAt_call] at answer
  change Except.bind (.ok (shop.catalog.findEvent eventId profile)) _ = _
    at answer
  cases found : shop.catalog.findEvent eventId profile with
  | none =>
      rw [found] at answer
      cases answer
  | some own =>
      exact (isSome_findEvent_iff known eventId).mp
        (Option.isSome_iff_exists.mpr ⟨own, found⟩)

/-- What goes on with the answer to a query. -/
theorem AsksFor.withAnswer {α : Type} {asked : Query}
    {next : Answer asked → Read α} (isFor : IsFor organizerId shop asked)
    (goesOn : ∀ reply, AsksFor reader organizerId shop (next reply)) :
    AsksFor reader organizerId shop (query asked >>= next) :=
  (Program.onlyAsks_call isFor).bind fun reply _ => goesOn reply

private theorem asksFor_listOrders (eventId : EventId)
    (query : OrderListQueryDto) :
    AsksFor reader organizerId shop
      (OrganizerService.listOrders organizerId eventId query) := by
  refine AsksFor.withProfile fun profile known => ?_
  refine AsksFor.withEvent known fun event owns => ?_
  refine (Program.onlyAsks_ofExcept (query.toWhere eventId)).bind ?_
  intro filter filtered
  rw [Program.answerAt_ofExcept] at filtered
  have ofEvent : filter.eventId = eventId := by
    rw [OrderListQueryDto.toWhere] at filtered
    cases range : toDateRange query.dateFrom query.dateTo with
    | error error =>
        rw [range] at filtered
        cases filtered
    | ok range' =>
        rw [range] at filtered
        cases filtered
        rfl
  rw [← ofEvent] at owns
  refine AsksFor.withAnswer owns fun total => ?_
  exact AsksFor.withAnswer owns fun items => trivial

private theorem asksFor_getOrder (orderId : OrderId) :
    AsksFor reader organizerId shop
      (OrganizerService.getOrder organizerId orderId) := by
  refine AsksFor.withProfile fun profile known => ?_
  refine AsksFor.withAnswer known fun reply => ?_
  cases reply with
  | none => trivial
  | some order => trivial

private theorem asksFor_getStats {ν : Type} (numbers : Numbers ν)
    (eventId : EventId) :
    AsksFor reader organizerId shop
      (OrganizerService.getStats numbers organizerId eventId) := by
  refine AsksFor.withProfile fun profile known => ?_
  refine AsksFor.withEvent known fun event owns => ?_
  refine AsksFor.withAnswer owns fun totalOrders => ?_
  refine AsksFor.withAnswer owns fun paidOrders => ?_
  refine AsksFor.withAnswer owns fun ticketTypes => ?_
  exact AsksFor.withAnswer owns fun seats => trivial

theorem asksFor_program {ν : Type} (numbers : Numbers ν)
    (read : OrganizerRead) :
    AsksFor reader organizerId shop (read.program numbers organizerId) := by
  cases read with
  | listOrders eventId query =>
      exact (asksFor_listOrders eventId query).bind fun _ _ => trivial
  | getOrder orderId =>
      exact (asksFor_getOrder orderId).bind fun _ _ => trivial
  | getStats eventId =>
      exact (asksFor_getStats numbers eventId).bind fun _ _ => trivial

end Reads

end ConcertTicketing.Listing
