import ConcertTicketing.Listing.Services

/-!
# What the pages of a list hold together

Both lists sort by one column that several rows can share, and every page is
a query of its own.  The pages hold every matching row once, whatever the
queries make of equal rows, as long as equal rows stay on one page.
-/

namespace ConcertTicketing.Listing

open Events Paging

instance : DecidableRel byStartTime :=
  fun first second =>
    inferInstanceAs (Decidable (first.2.startTime ≤ second.2.startTime))

instance : Std.Total byStartTime :=
  ⟨fun first second => Int.le_total first.2.startTime second.2.startTime⟩

instance : IsTrans (EventId × EventRecord) byStartTime :=
  ⟨fun _ _ _ => Int.le_trans⟩

instance : DecidableRel byCreatedAtDesc :=
  fun first second =>
    inferInstanceAs (Decidable (second.2.createdAt ≤ first.2.createdAt))

instance : Std.Total byCreatedAtDesc :=
  ⟨fun first second => Int.le_total second.2.createdAt first.2.createdAt⟩

instance : IsTrans (OrderId × OrderRecord) byCreatedAtDesc :=
  ⟨fun _ _ _ below above => Int.le_trans above below⟩

private theorem nodup_select {ρ : Type} (table : Table ρ)
    (condition : ρ → Bool) : (table.select condition).Nodup :=
  (List.Nodup.of_map _ table.distinct).filter _

/-- The key tells the rows apart. -/
theorem select_apart {ρ β : Type} {table : Table ρ} {condition : ρ → Bool}
    {select : Nat × ρ → β} (key : β → Nat)
    (keeps : ∀ entry, key (select entry) = entry.1) :
    ∀ first ∈ table.select condition, ∀ second ∈ table.select condition,
      select first = select second → first = second := by
  intro first member second memberToo same
  have sameKey : first.1 = second.1 := by
    rw [← keeps first, ← keeps second, same]
  exact List.inj_on_of_nodup_map table.distinct
    (List.mem_of_mem_filter member) (List.mem_of_mem_filter memberToo) sameKey

private theorem publicEvents_apart (collation : Collation) (db : Db)
    (filter : EventWhere) :
    ∀ first ∈ db.matchingEvents collation filter,
      ∀ second ∈ db.matchingEvents collation filter,
        publicEventSelect first = publicEventSelect second →
          first = second :=
  select_apart PublicEvent.id fun _ => rfl

private theorem listedOrders_apart (db : Db) (filter : OrderWhere) :
    ∀ first ∈ db.matchingOrders filter, ∀ second ∈ db.matchingOrders filter,
      db.orderSelect first = db.orderSelect second → first = second :=
  select_apart ListedOrder.id fun _ => rfl

/-- The page after `index` others. -/
def EventListQueryDto.atPage (query : EventListQueryDto) (index : Nat) :
    EventListQueryDto :=
  { query with page := some index.succPNat }

def OrderListQueryDto.atPage (query : OrderListQueryDto) (index : Nat) :
    OrderListQueryDto :=
  { query with page := some index.succPNat }

/-- Every page is answered, and reading on until there are `total` items gives
every row once. -/
def ListsOnce {ρ : Type} (answer : Nat → Except ServiceError (Page ρ))
    (rows : List ρ) : Prop :=
  ∃ pages : Nat → Page ρ,
    (∀ index, answer index = .ok (pages index)) ∧
      (∀ index, (pages index).total = rows.length) ∧
      Partitions (fun index => (pages index).items) rows.length rows

/-- Answers that are the pages of sorted rows. -/
theorem listsOnce_iff {α ρ : Type} {le : α → α → Prop} {rows : List α}
    {select : α → ρ} {limit : Nat} {sortings : Nat → Sorting le}
    {answer : Nat → Except ServiceError (Page ρ)}
    (answered : ∀ index, answer index =
      .ok ⟨rows.length, index + 1, limit,
        (sortedPage sortings limit rows index).map select⟩) :
    ListsOnce answer (rows.map select) ↔
      Partitions
        (fun index => (sortedPage sortings limit rows index).map select)
        rows.length (rows.map select) := by
  constructor
  · rintro ⟨pages, same, _, partitions⟩
    have items : ∀ index, (pages index).items =
        (sortedPage sortings limit rows index).map select := by
      intro index
      have equal := (same index).symm.trans (answered index)
      rw [Except.ok.inj equal]
    simpa only [items, List.length_map] using partitions
  · intro partitions
    refine ⟨_, answered, ?_, ?_⟩
    · intro index
      rw [List.length_map]
    · rw [List.length_map]
      exact partitions

variable {collation : Collation} {db : Db}

theorem listPublic_atPage {query : EventListQueryDto} {filter : EventWhere}
    (filtered : query.toWhere = .ok filter)
    (sortings : Nat → Sorting byStartTime) (index : Nat) :
    listPublic collation db (sortings index) (query.atPage index) =
      .ok ⟨(db.matchingEvents collation filter).length, index + 1,
        pageLimit query.limit,
        (sortedPage sortings (pageLimit query.limit)
          (db.matchingEvents collation filter) index).map
            publicEventSelect⟩ := by
  have sameFilter : (query.atPage index).toWhere = .ok filter := filtered
  simp only [listPublic, sameFilter]
  rfl

theorem listOrders_atPage {organizerId : UserId} {eventId : EventId}
    {profileId : OrganizerId} {event : EventRecord}
    {query : OrderListQueryDto} {filter : OrderWhere}
    (owned : getOwnedProfile db organizerId = .ok profileId)
    (owner : assertEventOwner db profileId eventId = .ok event)
    (filtered : query.toWhere eventId = .ok filter)
    (sortings : Nat → Sorting byCreatedAtDesc) (index : Nat) :
    listOrders db (sortings index) organizerId eventId (query.atPage index) =
      .ok ⟨(db.matchingOrders filter).length, index + 1,
        pageLimit query.limit,
        (sortedPage sortings (pageLimit query.limit)
          (db.matchingOrders filter) index).map db.orderSelect⟩ := by
  have sameFilter : (query.atPage index).toWhere eventId = .ok filter :=
    filtered
  simp only [listOrders, owned, bind, Except.bind, owner, sameFilter]
  rfl

/-- However the query of each page sorts events with one start time. -/
def EventPagesPartition (collation : Collation) (db : Db)
    (query : EventListQueryDto) (filter : EventWhere) : Prop :=
  ∀ sortings : Nat → Sorting byStartTime,
    ListsOnce
      (fun index =>
        listPublic collation db (sortings index) (query.atPage index))
      ((db.matchingEvents collation filter).map publicEventSelect)

/-- However the query of each page sorts orders with one creation time. -/
def OrderPagesPartition (db : Db) (organizerId : UserId) (eventId : EventId)
    (query : OrderListQueryDto) (filter : OrderWhere) : Prop :=
  ∀ sortings : Nat → Sorting byCreatedAtDesc,
    ListsOnce
      (fun index =>
        listOrders db (sortings index) organizerId eventId
          (query.atPage index))
      ((db.matchingOrders filter).map db.orderSelect)

def concert (title : String) : EventRecord where
  organizerId := 0
  title := title
  description := none
  category := none
  startTime := 0
  endTime := 1
  venue := none
  bannerUrl := none
  status := .active
  ticketModel := none
  maxTicketsPerUser := 4
  createdAt := 0

def purchase : OrderRecord := ⟨7, 0, .paid, 5000, 0, []⟩

/-- Two events and two orders of the first event, by the owner 7. -/
def twins : Db where
  events := (Table.empty.insert (concert "A")).insert (concert "B")
  organizerProfiles := Table.empty.insert ⟨7⟩
  orders := (Table.empty.insert purchase).insert purchase
  users := Table.empty

/-- Texts are compared by their lower-case letters. -/
def plainCollation : Collation where
  contains text pattern :=
    text.toLower.toList.tails.any (pattern.toLower.toList.isPrefixOf ·)
  equals text pattern := decide (text.toLower = pattern.toLower)

def eventsPerPage (limit : ℕ+) : EventListQueryDto :=
  ⟨none, none, none, none, none, none, some limit⟩

def ordersPerPage (limit : ℕ+) : OrderListQueryDto :=
  ⟨none, none, none, none, none, some limit⟩

def anyEvent : EventWhere := ⟨none, none, none, ⟨none, none⟩⟩

def anyOrder : OrderWhere := ⟨0, none, ⟨none, none⟩, none⟩

def otherWayRound (index : Nat) : Sorting byStartTime :=
  if index = 0 then Sorting.stable else Sorting.last (0, concert "A")

end ConcertTicketing.Listing
