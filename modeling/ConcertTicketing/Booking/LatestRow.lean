import ConcertTicketing.Booking.Stores

/-!
# The latest active row

`findActive` looks for the `ACTIVE` row of a seat and a user with the latest
`lockedAt`.  What it finds after a row has been inserted or rows have been
settled depends on that seat and user alone.
-/

namespace ConcertTicketing.Booking

/-- The `ACTIVE` rows of the seat and the user, with their ids. -/
def activeEntries (seatId : SeatId) (userId : UserId)
    (rows : List SeatLockRow) : List (SeatLockRow × Nat) :=
  rows.zipIdx.filter fun entry =>
    decide (entry.1.seatId = seatId ∧ entry.1.userId = userId ∧
      entry.1.status = .active)

/-- The entry of the two with the later `lockedAt`, the second at a tie. -/
def laterLocked (latest : Option (SeatLockRow × Nat))
    (entry : SeatLockRow × Nat) : Option (SeatLockRow × Nat) :=
  match latest with
  | none => some entry
  | some best =>
      if best.1.lockedAt ≤ entry.1.lockedAt then some entry else some best

private theorem findActive_eq (seatId : SeatId) (userId : UserId)
    (rows : List SeatLockRow) :
    findActive seatId userId rows =
      (activeEntries seatId userId rows).foldl laterLocked none := rfl

private theorem mem_of_foldl_laterLocked {entries : List (SeatLockRow × Nat)}
    {start : Option (SeatLockRow × Nat)} {best : SeatLockRow × Nat}
    (folded : entries.foldl laterLocked start = some best) :
    start = some best ∨ best ∈ entries := by
  induction entries generalizing start with
  | nil => exact Or.inl folded
  | cons entry rest inductionHypothesis =>
      rw [List.foldl_cons] at folded
      rcases inductionHypothesis folded with first | member
      · unfold laterLocked at first
        split at first
        · cases first
          exact Or.inr List.mem_cons_self
        · next earlier =>
            split at first
            · cases first
              exact Or.inr List.mem_cons_self
            · exact Or.inl first
      · exact Or.inr (List.mem_cons_of_mem entry member)

private theorem foldl_laterLocked_isSome {entries : List (SeatLockRow × Nat)}
    {start : Option (SeatLockRow × Nat)}
    (nonempty : start.isSome = true ∨ entries ≠ []) :
    (entries.foldl laterLocked start).isSome = true := by
  induction entries generalizing start with
  | nil => simpa using nonempty
  | cons entry rest inductionHypothesis =>
      rw [List.foldl_cons]
      apply inductionHypothesis
      left
      unfold laterLocked
      split
      · rfl
      · split <;> rfl

private theorem findActive_eq_none_iff {seatId : SeatId} {userId : UserId}
    {rows : List SeatLockRow} :
    findActive seatId userId rows = none ↔
      activeEntries seatId userId rows = [] := by
  rw [findActive_eq]
  constructor
  · intro missing
    by_contra found
    have isSome : ((activeEntries seatId userId rows).foldl laterLocked
        none).isSome = true :=
      foldl_laterLocked_isSome (Or.inr found)
    rw [missing] at isSome
    cases isSome
  · intro empty
    rw [empty]
    rfl

/-- A row of another seat or user is not found. -/
theorem findActive_append_other {seatId : SeatId} {userId : UserId}
    {row : SeatLockRow}
    (other : ¬ (row.seatId = seatId ∧ row.userId = userId))
    (rows : List SeatLockRow) :
    findActive seatId userId (rows ++ [row]) =
      findActive seatId userId rows := by
  have unseen : ¬ (row.seatId = seatId ∧ row.userId = userId ∧
      row.status = .active) := by
    rintro ⟨sameSeat, sameUser, _⟩
    exact other ⟨sameSeat, sameUser⟩
  rw [findActive_eq, findActive_eq, activeEntries, List.zipIdx_append,
    List.filter_append]
  simp only [List.zipIdx_singleton, List.filter_cons, unseen, decide_false,
    List.filter_nil]
  simp [activeEntries]

/-- A new row that is locked after all others is the one that is found. -/
theorem findActive_append_latest {rows : List SeatLockRow}
    {row : SeatLockRow} (active : row.status = .active)
    (latest : ∀ earlier ∈ rows, earlier.lockedAt ≤ row.lockedAt) :
    findActive row.seatId row.userId (rows ++ [row]) =
      some (row, rows.length) := by
  have split : activeEntries row.seatId row.userId (rows ++ [row]) =
      activeEntries row.seatId row.userId rows ++ [(row, rows.length)] := by
    simp [activeEntries, List.zipIdx_append, List.filter_append, active]
  rw [findActive_eq, split, List.foldl_append, List.foldl_cons,
    List.foldl_nil]
  cases found : (activeEntries row.seatId row.userId rows).foldl
      laterLocked none with
  | none => rfl
  | some best =>
      rcases mem_of_foldl_laterLocked found with impossible | member
      · cases impossible
      · have inRows : best.1 ∈ rows :=
          List.fst_mem_of_mem_zipIdx (List.mem_filter.mp member).1
        rw [laterLocked, if_pos (latest best.1 inRows)]

@[simp]
theorem SeatLockRow.settle_lockedAt {status : SeatLockStatus}
    {now : Instant} {selected : SeatLockRow → Bool} {row : SeatLockRow} :
    (row.settle status now selected).lockedAt = row.lockedAt := by
  unfold settle
  split <;> rfl

section Settled

variable {seatId : SeatId} {userId : UserId} {status : SeatLockStatus}
  {now : Instant} {selected : SeatLockRow → Bool}

/-- When all rows of the seat and the user are settled, none is found. -/
theorem findActive_settled (settles : status ≠ .active)
    (covers : ∀ row : SeatLockRow,
      row.seatId = seatId → row.userId = userId → selected row = true)
    (rows : List SeatLockRow) :
    findActive seatId userId
      (rows.map (SeatLockRow.settle status now selected)) = none := by
  rw [findActive_eq_none_iff, activeEntries, List.filter_eq_nil_iff]
  rintro entry member matched
  obtain ⟨row, _, settled⟩ :=
    List.mem_map.mp (List.fst_mem_of_mem_zipIdx member)
  obtain ⟨sameSeat, sameUser, active⟩ := of_decide_eq_true matched
  rw [← settled] at sameSeat sameUser active
  have kept := (SeatLockRow.active_of_settle settles active).2
  rw [covers row (by simpa using sameSeat) (by simpa using sameUser)] at kept
  cases kept

/-- Settling rows of other seats or users changes nothing. -/
theorem findActive_settled_other
    (spares : ∀ row : SeatLockRow,
      row.seatId = seatId → row.userId = userId → selected row = false)
    (rows : List SeatLockRow) :
    findActive seatId userId
        (rows.map (SeatLockRow.settle status now selected)) =
      findActive seatId userId rows := by
  have spared : ∀ row : SeatLockRow, row.seatId = seatId →
      row.userId = userId → row.settle status now selected = row := by
    intro row sameSeat sameUser
    unfold SeatLockRow.settle
    rw [spares row sameSeat sameUser]
    simp
  have sameTest :
      ((fun entry : SeatLockRow × Nat =>
          decide (entry.1.seatId = seatId ∧ entry.1.userId = userId ∧
            entry.1.status = .active)) ∘
        Prod.map (SeatLockRow.settle status now selected) id) =
      fun entry : SeatLockRow × Nat =>
        decide (entry.1.seatId = seatId ∧ entry.1.userId = userId ∧
          entry.1.status = .active) := by
    funext entry
    simp only [Function.comp_apply, Prod.map_fst, decide_eq_decide,
      SeatLockRow.settle_seatId, SeatLockRow.settle_userId]
    constructor
    · rintro ⟨sameSeat, sameUser, active⟩
      rw [spared entry.1 sameSeat sameUser] at active
      exact ⟨sameSeat, sameUser, active⟩
    · rintro ⟨sameSeat, sameUser, active⟩
      rw [spared entry.1 sameSeat sameUser]
      exact ⟨sameSeat, sameUser, active⟩
  have sameEntries :
      activeEntries seatId userId
          (rows.map (SeatLockRow.settle status now selected)) =
        activeEntries seatId userId rows := by
    unfold activeEntries
    rw [List.zipIdx_map, List.filter_map, sameTest]
    apply (List.map_congr_left ?_).trans (List.map_id _)
    intro entry member
    obtain ⟨sameSeat, sameUser, _⟩ :=
      of_decide_eq_true (List.mem_filter.mp member).2
    exact Prod.ext (spared entry.1 sameSeat sameUser) rfl
  rw [findActive_eq, findActive_eq, sameEntries]

end Settled

theorem findActive_recordReleased (released : SeatId) (releaser : UserId)
    (now : Instant) (rows : List SeatLockRow) (seatId : SeatId)
    (userId : UserId) :
    findActive seatId userId (recordReleased released releaser now rows) =
      if seatId = released ∧ userId = releaser then none
      else findActive seatId userId rows := by
  unfold recordReleased
  by_cases same : seatId = released ∧ userId = releaser
  · rw [if_pos same]
    apply findActive_settled SeatLockStatus.noConfusion
    intro row sameSeat sameUser
    exact decide_eq_true
      ⟨sameSeat.trans same.1, sameUser.trans same.2⟩
  · rw [if_neg same]
    apply findActive_settled_other
    intro row sameSeat sameUser
    refine decide_eq_false ?_
    rintro ⟨chosenSeat, chosenUser⟩
    exact same ⟨sameSeat.symm.trans chosenSeat,
      sameUser.symm.trans chosenUser⟩

theorem findActive_expireSeatLockAudit (seatIds : List SeatId)
    (expired : UserId) (now : Instant) (rows : List SeatLockRow)
    (seatId : SeatId) (userId : UserId) :
    findActive seatId userId
        (expireSeatLockAudit seatIds expired now rows) =
      if seatId ∈ seatIds ∧ userId = expired then none
      else findActive seatId userId rows := by
  unfold expireSeatLockAudit
  by_cases none : seatIds = []
  · simp [none]
  · rw [if_neg none]
    by_cases same : seatId ∈ seatIds ∧ userId = expired
    · rw [if_pos same]
      apply findActive_settled SeatLockStatus.noConfusion
      intro row sameSeat sameUser
      rw [sameSeat, sameUser]
      exact decide_eq_true same
    · rw [if_neg same]
      apply findActive_settled_other
      intro row sameSeat sameUser
      rw [sameSeat, sameUser]
      exact decide_eq_false same

end ConcertTicketing.Booking
