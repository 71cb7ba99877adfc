import ConcertTicketing.Booking.OrderContent
import Mathlib.Algebra.Order.BigOperators.Group.List
import Mathlib.Algebra.Order.Ring.Int
import Mathlib.Data.Nat.Log

/-!
# The total of an order

`Order.totalAmount` is the sum of columns of its own type, `DECIMAL(10,2)`:
the insert of an order fails on the amount exactly if the prices add up to
`10^8` or more.  `Prisma.Decimal` keeps 20 significant digits, and what it
rounds away lies far beyond the column.
-/

namespace ConcertTicketing.Booking

open SeatLock

/-- Round to 20 significant digits, half away from zero. -/
def roundSignificant (amount : Int) : Int :=
  let unit := 10 ^ (Nat.log 10 amount.natAbs - 19)
  amount.sign * ((amount.natAbs + unit / 2) / unit * unit : Nat)

/-- The `reduce` of `PrismaOrderAdapter.create` with the precision of
`Prisma.Decimal`. -/
def CreateOrderData.decimalTotal (data : CreateOrderData) : Int :=
  data.items.foldl (fun acc item => roundSignificant (acc + item.unitPrice)) 0

private theorem roundSignificant_of_lt {amount : Int} (nonnegative : 0 ≤ amount)
    (small : amount < 10 ^ 20) : roundSignificant amount = amount := by
  have digits : Nat.log 10 amount.natAbs ≤ 19 := by
    have fewer : Nat.log 10 amount.natAbs < 20 := by
      refine Nat.log_lt_of_lt_pow' (by decide) ?_
      omega
    omega
  have unit : Nat.log 10 amount.natAbs - 19 = 0 := Nat.sub_eq_zero_of_le digits
  simp only [roundSignificant, unit, pow_zero, Nat.div_one, Nat.mul_one]
  exact Int.sign_mul_natAbs amount

/-- Rounding does not go below a power of ten. -/
theorem le_roundSignificant {amount : Int} (large : 10 ^ 20 ≤ amount) :
    10 ^ 20 ≤ roundSignificant amount := by
  have positive : 0 < amount := by omega
  have nonzero : amount.natAbs ≠ 0 := by omega
  have digits : 20 ≤ Nat.log 10 amount.natAbs := by
    refine Nat.le_log_of_pow_le (by decide) ?_
    omega
  obtain ⟨extra, more⟩ := Nat.exists_eq_add_of_le digits
  have leading : 10 ^ (20 + extra) ≤ amount.natAbs := by
    rw [← more]
    exact Nat.pow_log_le_self 10 nonzero
  have exponent : Nat.log 10 amount.natAbs - 19 = extra + 1 := by omega
  have unitPositive : 0 < 10 ^ (extra + 1) := Nat.pow_pos (by decide)
  have split : 10 ^ (20 + extra) = 10 ^ 19 * 10 ^ (extra + 1) := by
    rw [← Nat.pow_add]
    congr 1
    omega
  have quotient :
      10 ^ 19 ≤
        (amount.natAbs + 10 ^ (extra + 1) / 2) / 10 ^ (extra + 1) := by
    rw [Nat.le_div_iff_mul_le unitPositive, ← split]
    omega
  have rounded :
      10 ^ 19 * 10 ≤
        (amount.natAbs + 10 ^ (extra + 1) / 2) / 10 ^ (extra + 1) *
          10 ^ (extra + 1) := by
    refine Nat.mul_le_mul quotient ?_
    exact Nat.le_self_pow (Nat.succ_ne_zero extra) 10
  simp only [roundSignificant, exponent, Int.sign_eq_one_of_pos positive,
    one_mul]
  omega

/-- As far as the column is concerned the two amounts are the same. -/
def AgreeInColumn (first second : Int) : Prop :=
  first = second ∨ ¬ Storable first ∧ ¬ Storable second

/-- The exact sum of the prices. -/
def pricesSum (items : List SeatPricing) : Int :=
  (items.map SeatPricing.unitPrice).sum

private theorem totalAmount_eq_pricesSum (data : CreateOrderData) :
    data.totalAmount = pricesSum data.items := by
  have folded : ∀ (items : List SeatPricing) (start : Int),
      items.foldl (fun acc item => acc + item.unitPrice) start =
        start + pricesSum items := by
    intro items
    induction items with
    | nil =>
        intro start
        exact (Int.add_zero start).symm
    | cons item rest inductionHypothesis =>
        intro start
        rw [List.foldl_cons, inductionHypothesis]
        simp only [pricesSum, List.map_cons, List.sum_cons]
        omega
  unfold CreateOrderData.totalAmount
  rw [folded, Int.zero_add]

/-- The rounded fold is exact as long as no sum needs more than 20 digits, and
from then on both folds are beyond them. -/
theorem decimalFold_cases {items : List SeatPricing}
    (nonnegative : ∀ item ∈ items, (0 : Int) ≤ item.unitPrice) :
    ∀ rounded exact : Int,
      (0 ≤ exact ∧ rounded = exact ∨ 10 ^ 20 ≤ exact ∧ 10 ^ 20 ≤ rounded) →
      let after :=
        items.foldl
          (fun acc item => roundSignificant (acc + item.unitPrice)) rounded
      let sum := exact + pricesSum items
      after = sum ∨ 10 ^ 20 ≤ sum ∧ 10 ^ 20 ≤ after := by
  induction items with
  | nil =>
      intro rounded exact start
      simp only [List.foldl_nil, pricesSum, List.map_nil, List.sum_nil,
        Int.add_zero]
      rcases start with ⟨_, same⟩ | large
      · exact Or.inl same
      · exact Or.inr large
  | cons item rest inductionHypothesis =>
      intro rounded exact start
      have price : (0 : Int) ≤ item.unitPrice :=
        nonnegative item List.mem_cons_self
      have others := inductionHypothesis
        (fun other member => nonnegative other (List.mem_cons_of_mem _ member))
        (roundSignificant (rounded + item.unitPrice)) (exact + item.unitPrice)
      have regroup : exact + pricesSum (item :: rest) =
          exact + item.unitPrice + pricesSum rest := by
        simp only [pricesSum, List.map_cons, List.sum_cons]
        omega
      simp only [List.foldl_cons, regroup]
      apply others
      rcases start with ⟨atLeast, rfl⟩ | ⟨large, largeRounded⟩
      · by_cases small : rounded + item.unitPrice < 10 ^ 20
        · exact Or.inl
            ⟨by omega, roundSignificant_of_lt (by omega) small⟩
        · exact Or.inr ⟨by omega, le_roundSignificant (by omega)⟩
      · exact Or.inr ⟨by omega, le_roundSignificant (by omega)⟩

private theorem decimalTotal_agrees {data : CreateOrderData}
    (nonnegative : ∀ item ∈ data.items, (0 : Int) ≤ item.unitPrice) :
    AgreeInColumn data.decimalTotal data.totalAmount := by
  have cases := decimalFold_cases nonnegative 0 0 (Or.inl ⟨le_refl 0, rfl⟩)
  simp only [Int.zero_add] at cases
  rw [totalAmount_eq_pricesSum]
  rcases cases with same | ⟨large, largeRounded⟩
  · exact Or.inl same
  · refine Or.inr ⟨?_, ?_⟩
    · intro storable
      have bound : data.decimalTotal < 10000000000 := storable.2
      unfold CreateOrderData.decimalTotal at bound
      omega
    · intro storable
      have bound : pricesSum data.items < 10000000000 := storable.2
      omega

/-- The seat is a seat of the event whose ticket type has the price. -/
def PricedSeat (env : Environment) (eventId : EventId) (seatId : SeatId)
    (price : Cents) : Prop :=
  ∃ ticketTypeId,
    env.seat seatId = some ⟨eventId, some ticketTypeId⟩ ∧
      env.price ticketTypeId = some price

def priceOf (env : Environment) (seatId : SeatId) : Int :=
  (((env.seat seatId).bind Seat.ticketTypeId).bind env.price).getD 0

def seatTotal (env : Environment) (seatIds : List SeatId) : Int :=
  (seatIds.map (priceOf env)).sum

/-- The insert does not fail on the amount, and an inserted row carries the
exact sum of the prices of its items. -/
def InsertsExactTotal (env : Environment) (uncommitted : List Order)
    (input : CreateOrderInput) (stores : Stores) (data : CreateOrderData) :
    Prop :=
  ∀ after progress,
    (createOrder env uncommitted input).resolve stores (.insertOrder data) =
      some (after, progress) →
    (∀ applied, progress ≠ .failed (.insertOrder data) applied) ∧
      ∀ row, progress = .running (.extendHold row) →
        Storable row.totalAmount ∧
          row.totalAmount = (row.orderItems.map OrderItem.unitPrice).sum

private theorem PricedSeat.priceOf_eq {env : Environment} {eventId : EventId}
    {seatId : SeatId} {price : Cents}
    (priced : PricedSeat env eventId seatId price) :
    priceOf env seatId = price := by
  obtain ⟨ticketTypeId, found, costs⟩ := priced
  simp only [priceOf, found, Option.bind_some, costs, Option.getD_some]

private theorem PricedSeat.priceSeat_eq {env : Environment} {eventId : EventId}
    {seatId : SeatId} {price : Cents}
    (priced : PricedSeat env eventId seatId price) :
    ∃ pricing, priceSeat env eventId seatId = .ok pricing ∧
      pricing.unitPrice = priceOf env seatId := by
  have same := priced.priceOf_eq
  obtain ⟨ticketTypeId, found, costs⟩ := priced
  refine ⟨⟨seatId, ticketTypeId, price⟩, ?_, same.symm⟩
  simp [priceSeat, found, costs]

/-- Pricing succeeds for seats of the event that have a price. -/
theorem loadSeatPricing_of_priced {env : Environment} {eventId : EventId}
    {seatIds : List SeatId}
    (priced : ∀ seatId ∈ seatIds, ∃ price,
      PricedSeat env eventId seatId price) :
    ∃ pricing, loadSeatPricing env eventId seatIds = .ok pricing ∧
      pricing.map SeatPricing.unitPrice = seatIds.map (priceOf env) := by
  induction seatIds with
  | nil => exact ⟨[], rfl, rfl⟩
  | cons seatId rest inductionHypothesis =>
      obtain ⟨price, here⟩ := priced seatId List.mem_cons_self
      obtain ⟨first, ok, costs⟩ := here.priceSeat_eq
      obtain ⟨others, loaded, same⟩ := inductionHypothesis
        (fun other member => priced other (List.mem_cons_of_mem _ member))
      refine ⟨first :: others, ?_, ?_⟩
      · simp only [loadSeatPricing, ok, loaded]
      · rw [List.map_cons, List.map_cons, costs, same]

private theorem toRow_unitPrices (data : CreateOrderData) (id : OrderId) :
    ((data.toRow id).orderItems.map OrderItem.unitPrice).sum =
      pricesSum data.items := by
  simp only [CreateOrderData.toRow, List.map_map, pricesSum]
  rfl

/-- The insert is as it should be exactly if the column can hold the total. -/
theorem insertsExactTotal_iff_storable {env : Environment}
    {uncommitted : List Order} {input : CreateOrderInput} {stores : Stores}
    {data : CreateOrderData} :
    InsertsExactTotal env uncommitted input stores data ↔
      Storable data.totalAmount := by
  constructor
  · intro inserts
    by_contra overflow
    have fails :
        (createOrder env uncommitted input).resolve stores
            (.insertOrder data) =
          some (stores, .failed (.insertOrder data) false) := by
      simp only [createOrder, if_pos overflow]
    exact (inserts _ _ fails).1 false rfl
  · intro storable after progress resolved
    cases createOrder_resolved resolved with
    | notStorable _ overflow => exact absurd storable overflow
    | duplicate =>
        refine ⟨fun applied => by simp, ?_⟩
        intro row inserted
        cases inserted
    | inserted =>
        refine ⟨fun applied => by simp, ?_⟩
        intro row inserted
        cases inserted
        refine ⟨storable, ?_⟩
        rw [toRow_unitPrices, ← totalAmount_eq_pricesSum]
        rfl

/-- The call passes its checks: the hold check in the stores `stores` and the
pricing in the stores `between`. -/
def ReachesInsert (env : Environment) (input : CreateOrderInput)
    (stores between : Stores) (data : CreateOrderData) : Prop :=
  ∀ uncommitted,
    (createOrder env uncommitted input).resolve stores .verifyHeld =
        some (stores, .running .loadSeatPricing) ∧
      (createOrder env uncommitted input).resolve between .loadSeatPricing =
        some (between, .running (.insertOrder data))

private theorem reachesInsert_of_held {env : Environment}
    {input : CreateOrderInput} {stores : Stores} (between : Stores)
    {pricing : List SeatPricing}
    (held : AllHeld stores.redis input.eventId input.seatIds input.userId)
    (loaded :
      loadSeatPricing env input.eventId input.seatIds = .ok pricing) :
    ReachesInsert env input stores between
      (input.data (between.now + env.bookingWindowSeconds * 1000)
        pricing) := by
  intro uncommitted
  have verified :=
    (verifyHeld_ok_iff stores.redis input.eventId input.seatIds
      input.userId).mpr held
  constructor
  · simp only [createOrder, if_pos verified]
  · simp only [createOrder, loaded]

/-- For every list of held seats of the event with non-negative prices, and
whatever happens between the steps of the call, it reaches the insert, and the
insert takes the exact total exactly if the prices add up to less than
`10^8`. -/
theorem insertsExactTotal_iff {env : Environment} {input : CreateOrderInput}
    {stores : Stores} (between : Stores)
    (held : AllHeld stores.redis input.eventId input.seatIds input.userId)
    (priced : ∀ seatId ∈ input.seatIds, ∃ price,
      PricedSeat env input.eventId seatId price ∧ 0 ≤ price ∧
        Storable price) :
    ∃ data,
      ReachesInsert env input stores between data ∧
      AgreeInColumn data.decimalTotal data.totalAmount ∧
      ∀ uncommitted later,
        InsertsExactTotal env uncommitted input later data ↔
          seatTotal env input.seatIds < 10000000000 := by
  have hasPrice : ∀ seatId ∈ input.seatIds, ∃ price,
      PricedSeat env input.eventId seatId price := by
    intro seatId member
    obtain ⟨price, costs, _⟩ := priced seatId member
    exact ⟨price, costs⟩
  have nonnegative : ∀ seatId ∈ input.seatIds, 0 ≤ priceOf env seatId := by
    intro seatId member
    obtain ⟨price, costs, atLeast, _⟩ := priced seatId member
    rw [costs.priceOf_eq]
    exact atLeast
  obtain ⟨pricing, loaded, prices⟩ := loadSeatPricing_of_priced hasPrice
  refine ⟨_, reachesInsert_of_held between held loaded, ?_, ?_⟩
  · apply decimalTotal_agrees
    intro item member
    have price : item.unitPrice ∈ input.seatIds.map (priceOf env) := by
      rw [← prices]
      exact List.mem_map_of_mem member
    obtain ⟨seatId, ordered, same⟩ := List.mem_map.mp price
    rw [← same]
    exact nonnegative seatId ordered
  · intro uncommitted later
    have total : pricesSum
        (input.data (between.now + env.bookingWindowSeconds * 1000)
          pricing).items = seatTotal env input.seatIds := by
      simp only [CreateOrderInput.data, pricesSum, prices, seatTotal]
    have atLeast : 0 ≤ seatTotal env input.seatIds := by
      apply List.sum_nonneg
      intro price member
      obtain ⟨seatId, ordered, rfl⟩ := List.mem_map.mp member
      exact nonnegative seatId ordered
    rw [insertsExactTotal_iff_storable, totalAmount_eq_pricesSum, total]
    constructor
    · exact fun storable => storable.2
    · intro below
      exact ⟨lt_of_lt_of_le (by decide) atLeast, below⟩

/-- The small venue at the highest price that the column can hold. -/
def dearestVenue : Environment :=
  { smallVenue with
    price := fun ticketTypeId =>
      if ticketTypeId = 3 then some 9999999999 else none }

private theorem lockBothSeats_enabled :
    (replay (step dearestVenue) [] (World.init 0)
      (lockSeatRun 0 ⟨10, 1, 7⟩ ++ lockSeatRun 1 ⟨10, 1, 8⟩)).isSome =
        true := by
  decide

def bothSeatsHeld : Stores :=
  ((replay (step dearestVenue) [] (World.init 0)
      (lockSeatRun 0 ⟨10, 1, 7⟩ ++ lockSeatRun 1 ⟨10, 1, 8⟩)).get
    lockBothSeats_enabled).2.toStores

private theorem bothSeatsHeld_allHeld :
    AllHeld bothSeatsHeld.redis 1 [7, 8] 10 := by
  decide

private theorem dearestVenue_priced :
    ∀ seatId ∈ [7, 8], ∃ price,
      PricedSeat dearestVenue 1 seatId price ∧ 0 ≤ price ∧
        Storable price := by
  intro seatId member
  refine ⟨9999999999, ⟨3, ?_, rfl⟩, by decide, by decide⟩
  rcases List.mem_pair.mp member with rfl | rfl <;> rfl

theorem insertsExactTotal_dearestVenue :
    ∃ data,
      ReachesInsert dearestVenue ⟨10, 1, [7, 8], "first"⟩ bothSeatsHeld
        bothSeatsHeld data ∧
      AgreeInColumn data.decimalTotal data.totalAmount ∧
      ∀ uncommitted later,
        InsertsExactTotal dearestVenue uncommitted ⟨10, 1, [7, 8], "first"⟩
            later data ↔
          seatTotal dearestVenue [7, 8] < 10000000000 :=
  insertsExactTotal_iff bothSeatsHeld bothSeatsHeld_allHeld
    dearestVenue_priced

/-- Two storable prices can add up to a total that is not storable. -/
theorem insert_can_overflow :
    ¬ ∀ (env : Environment) (input : CreateOrderInput)
        (stores between later : Stores) (uncommitted : List Order)
        (data : CreateOrderData),
      input.seatIds ≠ [] →
      input.seatIds.Nodup →
      AllHeld stores.redis input.eventId input.seatIds input.userId →
      (∀ seatId ∈ input.seatIds, ∃ price,
        PricedSeat env input.eventId seatId price ∧ 0 ≤ price ∧
          Storable price) →
      ReachesInsert env input stores between data →
      InsertsExactTotal env uncommitted input later data := by
  intro always
  have loaded : loadSeatPricing dearestVenue 1 [7, 8] =
      .ok [⟨7, 3, 9999999999⟩, ⟨8, 3, 9999999999⟩] := by
    decide
  have inserts := always dearestVenue ⟨10, 1, [7, 8], "first"⟩ bothSeatsHeld
    bothSeatsHeld bothSeatsHeld [] _ (by decide) (by decide)
    bothSeatsHeld_allHeld dearestVenue_priced
    (reachesInsert_of_held bothSeatsHeld bothSeatsHeld_allHeld loaded)
  exact absurd (insertsExactTotal_iff_storable.mp inserts) (by decide)

end ConcertTicketing.Booking
