import ConcertTicketing.Booking.Expiry

/-!
# One execution expires an order

An order may be expired by any number of executions of `ExpireOrder`, beside
any other requests.  At most one of them learns that it moved the order, the
order moves to `EXPIRED` at most once, and it stays there.
-/

namespace ConcertTicketing.Booking

def orderStatus (orderId : OrderId) (world : World) : Option OrderStatus :=
  (findOrder orderId world.orders).map Order.status

/-- The step moves the order from `PENDING` to `EXPIRED`. -/
def MovesToExpired (env : Environment) (orderId : OrderId) (world : World)
    (action : Action) : Prop :=
  orderStatus orderId world = some .pending ∧
    (step env world action).bind (orderStatus orderId) = some .expired

instance (env : Environment) (orderId : OrderId) (world : World)
    (action : Action) : Decidable (MovesToExpired env orderId world action) :=
  inferInstanceAs (Decidable (_ ∧ _))

def movesToExpired (env : Environment) (orderId : OrderId)
    (history : List (World × Action)) : Nat :=
  history.countP fun entry =>
    decide (MovesToExpired env orderId entry.1 entry.2)

/-- The execution has observed `changed = true`.  All its releases lie behind
this observation. -/
def ObservesChanged (orderId : OrderId) (index : Nat) (world : World) :
    Prop :=
  ∃ call stage,
    world.expireCalls[index]? = some call ∧
    call.input.orderId = orderId ∧
    call.progress.stage? = some stage ∧ stage.Moved

/-- The order is expired once, and by one execution. -/
structure ExpiresOnce (env : Environment) (orderId : OrderId)
    (history : List (World × Action)) (world : World) : Prop where
  oneObserver : ∀ reached ∈ visited history world,
    ∀ other ∈ visited history world,
    ∀ first second,
      ObservesChanged orderId first reached →
      ObservesChanged orderId second other →
      first = second
  oneMove : movesToExpired env orderId history ≤ 1
  staysExpired : ∀ reached ∈ visited history world,
    ∀ order ∈ reached.orders,
      order.id = orderId →
      order.status = .expired →
      order ∈ world.orders

/-- No execution but the given one has observed, or will observe, that it
moved the order. -/
structure MovedBy (env : Environment) (orderId : OrderId) (index : Nat)
    (world : World) : Prop where
  sound : Sound env world
  settled : ∃ order ∈ world.orders,
    order.id = orderId ∧ order.status ≠ .pending
  alone : ∀ other, ObservesChanged orderId other world → other = index

private theorem MovedBy.of_observes {env : Environment} {orderId : OrderId}
    {index : Nat} {world : World} (sound : Sound env world)
    (observes : ObservesChanged orderId index world) :
    MovedBy env orderId index world where
  sound := sound
  settled := by
    obtain ⟨call, stage, found, rfl, current, moved⟩ := observes
    exact sound.cleanups.moved index call stage found current moved
  alone := by
    rintro other ⟨twin, twinStage, foundTwin, twinId, currentTwin, movedTwin⟩
    obtain ⟨call, stage, found, rfl, current, moved⟩ := observes
    exact sound.cleanups.alone other index twin call twinStage stage
      foundTwin found currentTwin current movedTwin moved twinId

private theorem MovedBy.step_next {env : Environment} {orderId : OrderId}
    {index : Nat} {world next : World} {action : Action}
    (movedBy : MovedBy env orderId index world)
    (stepped : step env world action = some next) :
    MovedBy env orderId index next where
  sound := sound_step movedBy.sound stepped
  settled := by
    obtain ⟨order, member, identified, settled⟩ := movedBy.settled
    exact ⟨order, (step_orders stepped).order_kept member settled,
      identified, settled⟩
  alone := by
    rintro other ⟨call, stage, reached, rfl, current, moved⟩
    rcases step_moved movedBy.sound.ids stepped reached current moved with
      ⟨earlier, earlierStage, found, sameId, before, movedBefore⟩ |
        ⟨_, _, order, member, identified, pending⟩
    · exact movedBy.alone other
        ⟨earlier, earlierStage, found, sameId, before, movedBefore⟩
    · obtain ⟨known, knownMember, knownId, settled⟩ := movedBy.settled
      have same : order = known :=
        movedBy.sound.ids.unique member knownMember
          (identified.trans knownId.symm)
      rw [same] at pending
      exact absurd pending settled

private theorem Trace.oneObserver {env : Environment} {origin : Instant}
    {history : List (World × Action)} {world : World}
    (run : Trace (step env) (World.init origin) history world)
    (orderId : OrderId) :
    ∀ reached ∈ visited history world, ∀ other ∈ visited history world,
      ∀ first second,
        ObservesChanged orderId first reached →
        ObservesChanged orderId second other →
        first = second := by
  refine Trace.forall_pairs
    (fun reached other => ∀ first second,
      ObservesChanged orderId first reached →
      ObservesChanged orderId second other →
      first = second)
    ?_ ?_ run
  · intro reached other related first second observes observesOther
    exact (related second first observesOther observes).symm
  · intro earlier state runHere reached member first second observes
      observesLater
    have sound : Sound env reached :=
      Trace.forall_reached (fun _ _ => Trace.sound) runHere reached member
    have movedBy : MovedBy env orderId first state :=
      Trace.persists (MovedBy env orderId first)
        (fun _ _ _ movedBefore => movedBefore.step_next) runHere reached
        member (MovedBy.of_observes sound observes)
    exact (movedBy.alone second observesLater).symm

private theorem orderStatus_expired_next {env : Environment} {orderId : OrderId}
    {world next : World} {action : Action} (sound : Sound env world)
    (stepped : step env world action = some next)
    (expired : orderStatus orderId world = some .expired) :
    orderStatus orderId next = some .expired := by
  simp only [orderStatus, Option.map_eq_some_iff] at expired ⊢
  obtain ⟨order, found, status⟩ := expired
  have facts := findOrder_some found
  have settled : order.status ≠ .pending := by
    rw [status]
    exact OrderStatus.noConfusion
  have kept : order ∈ next.orders :=
    (step_orders stepped).order_kept facts.1 settled
  have matched : (findOrder orderId next.orders).isSome := by
    rw [findOrder, List.find?_isSome]
    exact ⟨order, kept, decide_eq_true facts.2⟩
  obtain ⟨row, foundRow⟩ := Option.isSome_iff_exists.mp matched
  have rowFacts := findOrder_some foundRow
  have same : row = order :=
    (sound_step sound stepped).ids.unique rowFacts.1 kept
      (rowFacts.2.trans facts.2.symm)
  rw [same] at foundRow
  exact ⟨order, foundRow, status⟩

private theorem movesToExpired_cons {env : Environment} {orderId : OrderId}
    {world : World} {action : Action} {history : List (World × Action)} :
    movesToExpired env orderId ((world, action) :: history) =
      movesToExpired env orderId history +
        if MovesToExpired env orderId world action then 1 else 0 := by
  simp only [movesToExpired, List.countP_cons, decide_eq_true_iff]

/-- The order has not moved yet, or it has moved once and is `EXPIRED`. -/
theorem Trace.movedOnce {env : Environment} {origin : Instant}
    {history : List (World × Action)} {world : World}
    (run : Trace (step env) (World.init origin) history world)
    (orderId : OrderId) :
    movesToExpired env orderId history = 0 ∨
      (movesToExpired env orderId history = 1 ∧
        orderStatus orderId world = some .expired) := by
  refine Trace.invariantHistory
    (fun history world =>
      movesToExpired env orderId history = 0 ∨
        (movesToExpired env orderId history = 1 ∧
          orderStatus orderId world = some .expired)) (Or.inl rfl) ?_ run
  intro earlier before action next runBefore inductionHypothesis stepped
  rw [movesToExpired_cons]
  by_cases moves : MovesToExpired env orderId before action
  · have expiredNext : orderStatus orderId next = some .expired := by
      have reached := moves.2
      rw [stepped] at reached
      exact reached
    rcases inductionHypothesis with none | ⟨_, expired⟩
    · right
      rw [if_pos moves, none]
      exact ⟨rfl, expiredNext⟩
    · have pending := moves.1
      rw [expired] at pending
      cases pending
  · rw [if_neg moves, Nat.add_zero]
    rcases inductionHypothesis with none | ⟨once, expired⟩
    · exact Or.inl none
    · right
      exact ⟨once,
        orderStatus_expired_next (Trace.sound runBefore) stepped expired⟩

private theorem Trace.staysExpired {env : Environment} {start : World}
    {history : List (World × Action)} {world : World}
    (run : Trace (step env) start history world) :
    ∀ reached ∈ visited history world, ∀ order ∈ reached.orders,
      order.status = .expired → order ∈ world.orders := by
  intro reached visitedState order member expired
  have settled : order.status ≠ .pending := by
    rw [expired]
    exact OrderStatus.noConfusion
  exact Trace.persists (fun current => order ∈ current.orders)
    (fun _ _ _ memberBefore stepped =>
      (step_orders stepped).order_kept memberBefore settled)
    run reached visitedState member

theorem Trace.expiresOnce {env : Environment} {origin : Instant}
    {history : List (World × Action)} {world : World}
    (run : Trace (step env) (World.init origin) history world)
    (orderId : OrderId) : ExpiresOnce env orderId history world where
  oneObserver := Trace.oneObserver run orderId
  oneMove := by
    rcases Trace.movedOnce run orderId with none | ⟨once, _⟩ <;> omega
  staysExpired := by
    intro reached visitedState order member _ expired
    exact Trace.staysExpired run reached visitedState order member expired

end ConcertTicketing.Booking
