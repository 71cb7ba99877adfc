import ConcertTicketing.Listing.OwnPart
import ConcertTicketing.Listing.Pages

/-!
# What others do to an organizer's answers

Nothing that other organizers ask for, or that happens to their events, to
orders of these and to users without an order, changes an answer to the
organizer, even while the queries of the read are under way.
-/

namespace ConcertTicketing.Listing

open Events

/-- The command is to write to events, ticket types, seats or zones. -/
def isWrite : Command → Bool
  | .findProfile _ => false
  | .findEvent _ _ => false
  | .findTicketType _ _ => false
  | .countTicketTypes _ _ => false
  | .createAuditLog _ => false
  | _ => true

/-- A command of the organizer that is to write, or something that happens to
the organizer, to an own event, or to an order of one. -/
def Concerns (organizerId : UserId) (state : ShopState) : ShopAction → Prop
  | .organizers (.external (.registered userId)) => userId = organizerId
  | .organizers (.external (.reviewed eventId _)) =>
      state.catalog.Owns organizerId eventId
  | .organizers (.external (.sold ticketTypeId _)) =>
      ∃ row ∈ state.catalog.ticketTypes.find? ticketTypeId,
        state.catalog.Owns organizerId row.eventId
  | .organizers (.external (.ordered _)) => False
  | .organizers action =>
      ∃ applied ∈ appliedFor state.organizers action,
        applied.1.organizerId = organizerId ∧ isWrite applied.2 = true
  | .join _ => False
  | .edit userId _ =>
      ∃ entry ∈ state.sales.orders.rows, entry.2.userId = userId ∧
        state.catalog.Owns organizerId entry.2.eventId
  | .price _ _ => False
  | .order order => state.catalog.Owns organizerId order.eventId
  | .settle orderId _ _ _ =>
      ∃ order ∈ state.sales.orders.find? orderId,
        state.catalog.Owns organizerId order.eventId

instance (db : Events.Db) (organizerId : UserId) (eventId : EventId) :
    Decidable (db.Owns organizerId eventId) :=
  decidable_of_iff ((db.ownEvent organizerId eventId).isSome = true)
    Option.isSome_iff_exists

instance (organizerId : UserId) (state : ShopState) :
    DecidablePred (Concerns organizerId state)
  | .organizers (.external (.registered _)) =>
      inferInstanceAs (Decidable (_ = _))
  | .organizers (.external (.reviewed _ _)) =>
      inferInstanceAs (Decidable (state.catalog.Owns _ _))
  | .organizers (.external (.sold ticketTypeId _)) =>
      inferInstanceAs
        (Decidable (∃ row ∈ state.catalog.ticketTypes.find? ticketTypeId, _))
  | .organizers (.external (.ordered _)) => isFalse id
  | .organizers (.request input) =>
      inferInstanceAs (Decidable
        (∃ applied ∈ appliedFor state.organizers (.request input), _))
  | .organizers (.await index outcome) =>
      inferInstanceAs (Decidable
        (∃ applied ∈ appliedFor state.organizers (.await index outcome), _))
  | .join _ => isFalse id
  | .edit _ _ =>
      inferInstanceAs (Decidable (∃ entry ∈ state.sales.orders.rows, _))
  | .price _ _ => isFalse id
  | .order _ => inferInstanceAs (Decidable (state.catalog.Owns _ _))
  | .settle orderId _ _ _ =>
      inferInstanceAs
        (Decidable (∃ order ∈ state.sales.orders.find? orderId, _))

section Catalog

variable {organizerId : UserId} {db after : Events.Db}

/-- A user has at most one profile. -/
theorem profileOf_inj {other : UserId} {profile : OrganizerId}
    (own : db.profileOf organizerId = some profile)
    (others : db.profileOf other = some profile) : other = organizerId := by
  obtain ⟨⟨ownKey, ownRow⟩, first, rfl⟩ := Option.map_eq_some_iff.mp own
  obtain ⟨⟨otherKey, otherRow⟩, second, same⟩ :=
    Option.map_eq_some_iff.mp others
  dsimp only at same
  subst same
  have ofOwn : ownRow.userId = organizerId := by
    simpa using List.find?_some first
  have ofOther : otherRow.userId = other := by
    simpa using List.find?_some second
  have equal := Table.unique (List.mem_of_find?_eq_some first)
    (List.mem_of_find?_eq_some second)
  rw [← ofOther, ← ofOwn, equal]

/-- An own event is foreign to everybody else. -/
theorem foreign_of_owns {other : UserId} {eventId : EventId}
    (different : other ≠ organizerId) (owns : db.Owns organizerId eventId) :
    Foreign db other eventId := by
  obtain ⟨event, found, known⟩ := owns_iff.mp owns
  refine ⟨event, found, ?_⟩
  intro others
  exact different (profileOf_inj known others)

/-- No command changes a profile. -/
theorem profileOf_written {command : Command}
    (writes : Written db command after) (userId : UserId) :
    after.profileOf userId = db.profileOf userId := by
  cases writes <;> rfl

/-- The events of the organizer's profile are the same. -/
theorem ownEvent_same
    (profile : after.profileOf organizerId = db.profileOf organizerId)
    (events : ∀ eventId event,
      db.profileOf organizerId = some event.organizerId →
      (after.events.find? eventId = some event ↔
        db.events.find? eventId = some event)) (eventId : EventId) :
    after.ownEvent organizerId eventId = db.ownEvent organizerId eventId := by
  apply Option.ext
  intro event
  have isOwn : ∀ tables : Events.Db,
      tables.ownEvent organizerId eventId = some event ↔
        tables.events.find? eventId = some event ∧
          tables.profileOf organizerId = some event.organizerId := by
    intro tables
    constructor
    · intro own
      exact ⟨find?_of_ownEvent own, profileOf_of_ownEvent own⟩
    · rintro ⟨found, known⟩
      rw [Events.Db.ownEvent, known, Option.bind_some, Events.Db.findEvent,
        found]
      exact Option.filter_eq_some_iff.mpr ⟨rfl, decide_eq_true rfl⟩
  rw [isOwn, isOwn, profile]
  constructor
  · rintro ⟨found, known⟩
    exact ⟨(events eventId event known).mp found, known⟩
  · rintro ⟨found, known⟩
    exact ⟨(events eventId event known).mpr found, known⟩

/-- The sales stay, and the organizer's part of the catalog does. -/
theorem SameFor.ofCatalog {sales : Sales}
    (profile : after.profileOf organizerId = db.profileOf organizerId)
    (events : ∀ eventId event,
      db.profileOf organizerId = some event.organizerId →
      (after.events.find? eventId = some event ↔
        db.events.find? eventId = some event))
    (ticketTypes : ∀ eventId, db.Owns organizerId eventId →
      after.ticketTypesOf eventId = db.ticketTypesOf eventId)
    (seats : ∀ eventId, db.Owns organizerId eventId →
      after.seatRowsOf eventId = db.seatRowsOf eventId) :
    SameFor organizerId ⟨db, sales⟩ ⟨after, sales⟩ where
  profile := profile
  events := ownEvent_same profile events
  ticketTypes := ticketTypes
  seats := seats
  orders := fun _ _ => rfl
  customers := fun _ _ _ _ => rfl

/-- A write for another organizer. -/
theorem sameFor_written {sales : Sales} {command : Command} {other : UserId}
    (different : other ≠ organizerId) (seatsOwn : SeatsReferOwn db)
    (allowed : Allows other command db) (writes : Written db command after) :
    SameFor organizerId ⟨db, sales⟩ ⟨after, sales⟩ := by
  have spares := sparesOthers_written seatsOwn allowed writes
  refine .ofCatalog (profileOf_written writes organizerId) ?_ ?_ ?_
  · intro eventId event known
    apply spares.events
    intro others
    exact different (profileOf_inj known others)
  · intro eventId owns
    exact spares.ticketTypes eventId (foreign_of_owns different owns)
  · intro eventId owns
    exact spares.seats eventId (foreign_of_owns different owns)

/-- Reads, and entries of the audit log. -/
theorem sameFor_read {sales : Sales} {command : Command}
    (reads : isWrite command = false) (writes : Written db command after) :
    SameFor organizerId ⟨db, sales⟩ ⟨after, sales⟩ := by
  cases writes with
  | nothing command => exact .refl organizerId _
  | logged entry =>
      exact .ofCatalog rfl (fun _ _ _ => Iff.rfl) (fun _ _ => rfl)
        fun _ _ => rfl
  | _ => cases reads

/-- Something else happens to somebody else. -/
theorem sameFor_outside {state : ShopState} {event : Outside}
    (apart : ¬ Concerns organizerId state (.organizers (.external event))) :
    SameFor organizerId state.shop
      ⟨event.apply state.catalog, state.sales⟩ := by
  cases event with
  | registered userId =>
      rw [Outside.apply]
      split
      · exact .refl organizerId state.shop
      · have different : ¬ userId = organizerId := apart
        have profile : (state.catalog.organizerProfiles.insert
            ⟨userId⟩).rows.find? (fun entry =>
              decide (entry.2.userId = organizerId)) =
            state.catalog.organizerProfiles.rows.find? fun entry =>
              decide (entry.2.userId = organizerId) := by
          rw [Table.insert, List.find?_append, List.find?_singleton,
            if_neg (by simpa using different), Option.or_none]
        exact .ofCatalog (congrArg (Option.map Prod.fst) profile)
          (fun _ _ _ => Iff.rfl) (fun _ _ => rfl) fun _ _ => rfl
  | reviewed eventId status =>
      refine .ofCatalog rfl ?_ (fun _ _ => rfl) fun _ _ => rfl
      intro other event known
      rw [Outside.apply, Table.find?_modify]
      by_cases same : other = eventId
      · subst same
        have notOwn : ∀ row, state.catalog.events.find? other = some row →
            row.organizerId ≠ event.organizerId := by
          intro row found owner
          rw [← owner] at known
          exact apart (owns_iff.mpr ⟨row, found, known⟩)
        constructor
        · intro changed
          obtain ⟨row, found, isEvent⟩ := Option.map_eq_some_iff.mp changed
          rw [if_pos rfl] at isEvent
          cases isEvent
          exact (notOwn row found rfl).elim
        · intro found
          exact (notOwn event found rfl).elim
      · simp only [if_neg same, Option.map_id']
  | sold ticketTypeId count =>
      refine .ofCatalog rfl (fun _ _ _ => Iff.rfl) ?_ fun _ _ => rfl
      intro eventId owns
      simp only [Outside.apply, Events.Db.ticketTypesOf]
      apply Table.select_modify
      · intro row
        rfl
      · intro row member
        refine decide_eq_false ?_
        intro ofEvent
        rw [← ofEvent] at owns
        exact apart ⟨row, Table.find?_eq_some.mpr member, owns⟩
  | ordered ticketTypeId =>
      rw [Outside.apply]
      split
      · exact .ofCatalog rfl (fun _ _ _ => Iff.rfl) (fun _ _ => rfl)
          fun _ _ => rfl
      · exact .refl organizerId state.shop

end Catalog

section Step

variable {organizerId : UserId} {state next : ShopState}

/-- The organizers' services take a step. -/
theorem sameFor_organizers {action : OrganizerAction}
    {organizers : OrganizerState} (sound : ShopSound state)
    (stepped : organizerServer.step state.organizers action =
      some organizers)
    (apart : ¬ Concerns organizerId state (.organizers action)) :
    SameFor organizerId state.shop ⟨organizers.stores, state.sales⟩ := by
  rcases stores_cases stepped with
    ⟨event, rfl, same⟩ | ⟨input, command, applies, same⟩ | ⟨_, _, same⟩
  · rw [same]
    exact sameFor_outside apart
  · have allowed := sound.organizers.allowed OwnersStay.refl applies
    have writes := written state.catalog command
    rw [same]
    cases isRead : isWrite command with
    | false => exact sameFor_read isRead writes
    | true =>
        have different : input.organizerId ≠ organizerId := by
          intro isOwn
          apply apart
          obtain ⟨index, outcome, _, _, rfl, _⟩ :=
            appliedFor_eq_some.mp applies
          exact ⟨(input, command), applies, isOwn, isRead⟩
        exact sameFor_written different sound.organizers.stores.seats allowed
          writes
  · rw [same]
    exact .refl organizerId state.shop

/-- Something happens to the users or the orders. -/
theorem SameFor.ofSales {catalog : Events.Db} {sales after : Sales}
    (orders : ∀ eventId, catalog.Owns organizerId eventId →
      Shop.ordersOf ⟨catalog, after⟩ eventId =
        Shop.ordersOf ⟨catalog, sales⟩ eventId)
    (customers : ∀ eventId, catalog.Owns organizerId eventId →
      ∀ entry ∈ Shop.ordersOf ⟨catalog, sales⟩ eventId,
        after.users.find? entry.2.userId =
          sales.users.find? entry.2.userId) :
    SameFor organizerId ⟨catalog, sales⟩ ⟨catalog, after⟩ where
  profile := rfl
  events := fun _ => rfl
  ticketTypes := fun _ _ => rfl
  seats := fun _ _ => rfl
  orders := orders
  customers := customers

private theorem sameFor_join (sound : ShopSound state) (user : UserRow) :
    SameFor organizerId state.shop ⟨state.catalog,
      { state.sales with users := state.sales.users.insert user }⟩ := by
  refine .ofSales (fun _ _ => rfl) ?_
  rintro eventId _ ⟨orderId, order⟩ listed
  have member := (Table.mem_select.mp listed).1
  obtain ⟨customer, known⟩ :=
    sound.users orderId order (Table.find?_eq_some.mpr member)
  exact (Table.find?_insert known user).trans known.symm

private theorem sameFor_edit {userId : UserId} {user : UserRow}
    (apart : ¬ Concerns organizerId state (.edit userId user)) :
    SameFor organizerId state.shop ⟨state.catalog,
      { state.sales with
        users := state.sales.users.modify userId fun _ => user }⟩ := by
  refine .ofSales (fun _ _ => rfl) ?_
  rintro eventId owns ⟨orderId, order⟩ listed
  obtain ⟨member, ofEvent⟩ := Table.mem_select.mp listed
  have different : order.userId ≠ userId := by
    intro same
    rw [← of_decide_eq_true ofEvent] at owns
    exact apart ⟨(orderId, order), member, same, owns⟩
  rw [Table.find?_modify]
  simp only [if_neg different, Option.map_id']

private theorem sameFor_order {order : NewOrder}
    (apart : ¬ Concerns organizerId state (.order order)) :
    SameFor organizerId state.shop (state.withOrder order).shop := by
  have items : SameFor organizerId state.shop
      ⟨ShopState.withItems state.catalog order.orderItems, state.sales⟩ := by
    rw [withItems_eq]
    exact .ofCatalog rfl (fun _ _ _ => Iff.rfl) (fun _ _ => rfl)
      fun _ _ => rfl
  refine items.trans (.ofSales ?_ fun _ _ _ _ => rfl)
  intro eventId owns
  apply Table.select_insert
  refine decide_eq_false ?_
  intro ofEvent
  apply apart
  rw [withItems_eq] at owns
  rw [← ofEvent] at owns
  exact owns

private theorem sameFor_settle {orderId : OrderId}
    {status : Booking.OrderStatus} {tickets : List Ticket}
    {payment : Option PaymentTransaction} (apart : ¬ Concerns organizerId state
      (.settle orderId status tickets payment)) :
    SameFor organizerId state.shop ⟨state.catalog,
      { state.sales with
        orders := state.sales.orders.modify orderId
          (OrderRow.settle status tickets payment) }⟩ := by
  refine .ofSales ?_ fun _ _ _ _ => rfl
  intro eventId owns
  apply Table.select_modify
  · intro row
    rfl
  · intro row member
    refine decide_eq_false ?_
    intro ofEvent
    rw [← ofEvent] at owns
    exact apart ⟨row, Table.find?_eq_some.mpr member, owns⟩

/-- A step that does not concern the organizer leaves the own part alone. -/
theorem sameFor_step {action : ShopAction} (sound : ShopSound state)
    (stepped : shopStep state action = some next)
    (apart : ¬ Concerns organizerId state action) :
    SameFor organizerId state.shop next.shop := by
  cases action with
  | organizers action =>
      obtain ⟨organizers, taken, rfl⟩ := Option.map_eq_some_iff.mp stepped
      exact sameFor_organizers sound taken apart
  | join user =>
      cases stepped
      exact sameFor_join sound user
  | edit userId user =>
      cases stepped
      exact sameFor_edit apart
  | price eventId seatId =>
      obtain ⟨priced, _, rfl⟩ := Option.map_eq_some_iff.mp stepped
      exact .refl organizerId state.shop
  | order order =>
      rw [shopStep] at stepped
      split at stepped
      · cases stepped
        exact sameFor_order apart
      · cases stepped
  | settle orderId status tickets payment =>
      cases stepped
      exact sameFor_settle apart

end Step

/-! ## Runs -/

section Runs

variable {ν : Type} {organizerId : UserId} {state last : ShopState}
  {history later : ShopHistory}

private theorem sameFor_run (sound : ShopSound state)
    (continuation : Trace shopStep state later last)
    (apart : StepsMeet (fun before action =>
      ¬ Concerns organizerId before action) later) :
    ∀ reached ∈ visited later last,
      SameFor organizerId state.shop reached.shop := by
  intro reached isVisited
  have both : ShopSound reached ∧
      SameFor organizerId state.shop reached.shop := by
    refine continuation.invariantVisited _ (fun current => ShopSound current ∧
      SameFor organizerId state.shop current.shop)
      ⟨sound, .refl organizerId state.shop⟩ ?_ apart reached isVisited
    intro before action after holds unconcerned stepped
    exact ⟨holds.1.step stepped,
      holds.2.trans (sameFor_step holds.1 stepped unconcerned)⟩
  exact both.2

/-- However the queries of a read are spread over what happens to others, the
organizer gets the answer of the moment before. -/
theorem reads_unmoved (run : Trace shopStep .init history state)
    (continuation : Trace shopStep state later last)
    (apart : StepsMeet (fun before action =>
      ¬ Concerns organizerId before action) later)
    (reader : Reader) (numbers : Numbers ν) (read : OrganizerRead)
    {answer : Except ServiceError (OrganizerAnswer ν)}
    (answered : (read.program numbers organizerId).Answered reader.ask
      (fun shop => ∃ reached ∈ visited later last, reached.shop = shop)
      answer) :
    answer = (read.program numbers organizerId).answerAt reader.ask
      state.shop := by
  have sound := shopSound_of_run run
  refine answered.eq_answerAt ?_ (asksFor_program numbers read)
  rintro _ ⟨reached, isVisited, rfl⟩ query isFor
  exact ask_same (sameFor_run sound continuation apart reached isVisited)
    sound.orders reader isFor

end Runs

def served (index commands : Nat) : List ShopAction :=
  (answered index commands).map .organizers

def seatedEvent (organizerId : UserId) (eventId : EventId)
    (calls : Nat) : List ShopAction :=
  [.organizers (.request ⟨organizerId, .createEvent Events.concert⟩)] ++
    served calls 3 ++
    [.organizers (.request
      ⟨organizerId, .createTicketType eventId standing⟩)] ++
    served (calls + 1) 3 ++
    [.organizers (.request
      ⟨organizerId, .createSeatMap eventId [⟨1, 2, none, eventId⟩]⟩)] ++
    served (calls + 2) 4

def purchaseOf (eventId : EventId) (seatId : SeatId) : NewOrder where
  userId := 0
  eventId := eventId
  totalAmount := 50000
  createdAt := 5
  expiresAt := 605
  orderItems := [⟨⟨some seatId, eventId, 50000⟩, seatId, 1⟩]

/-- The organizers 10 and 20 have an event each, and a user buys a seat of the
first one. -/
def selling : List ShopAction :=
  [.organizers (.external (.registered 10)),
    .organizers (.external (.registered 20))] ++
    seatedEvent 10 0 0 ++ seatedEvent 20 1 3 ++
    [.join ⟨⟨"An", "an@concert"⟩, none⟩, .price 0 0, .order (purchaseOf 0 0)]

private theorem selling_enabled :
    (replay shopStep [] .init selling).isSome = true := by
  decide +kernel

def afterSelling : ShopHistory × ShopState :=
  (replay shopStep [] .init selling).get selling_enabled

/-- The second organizer renames a ticket type, and the user buys a seat
there.  A request of the first organizer reads what it checks. -/
def elsewhere : List ShopAction :=
  [.organizers (.request ⟨20, .updateTicketType 1
      { name := .value "Seated" }⟩)] ++
    served 6 3 ++
    [.organizers (.external (.reviewed 1 .active)), .price 1 2,
      .order (purchaseOf 1 2), .settle 1 .paid [] none,
      .organizers (.external (.sold 1 1)),
      .organizers (.request ⟨10, .submitEvent 0⟩)] ++ served 7 2

private theorem elsewhere_enabled :
    (replay shopStep [] afterSelling.2 elsewhere).isSome = true := by
  decide +kernel

def afterElsewhere : ShopHistory × ShopState :=
  (replay shopStep [] afterSelling.2 elsewhere).get elsewhere_enabled

private theorem elsewhere_apart :
    StepsMeet (fun before action => ¬ Concerns 10 before action)
      afterElsewhere.1 := by
  decide +kernel

def plainReader : Reader where
  collation := plainCollation
  createdAt := fun _ => 0
  byStartTime := Sorting.stable
  byCreatedAtDesc := Sorting.stable
  bySeat := Sorting.stable
  ticketTypeRows := .asStored
  zoneRows := .asStored
  orderRows := .asStored

def wholeNumbers : Numbers Int := ⟨0, (· + ·), fun amount => amount / 100⟩

theorem reads_unmoved_elsewhere :
    ((OrganizerRead.getStats 0).program wholeNumbers 10).answerAt
        plainReader.ask afterElsewhere.2.shop =
      ((OrganizerRead.getStats 0).program wholeNumbers 10).answerAt
        plainReader.ask afterSelling.2.shop :=
  reads_unmoved (Trace.of_replay_get selling selling_enabled)
    (Trace.of_replay_get elsewhere elsewhere_enabled) elsewhere_apart
    plainReader wholeNumbers (.getStats 0)
    (Program.answered_answerAt
      ⟨afterElsewhere.2, List.mem_cons_self, rfl⟩ _)

end ConcertTicketing.Listing
