import ConcertTicketing.Library.RelyGuarantee

/-!
# Programs and those who ask for them

In a server of programs what a command may do can depend on the request that
it is for.  Under everything that they rely on, all programs keep to what
their own requests allow.  And a program that leaves one receipt before it
returns leaves one for each request: the receipts are at least as many as the
programs that have returned, and at most as many as the requests.
-/

namespace ConcertTicketing

universe u v w x y z u₁

section Callers

variable {ι : Type z} {κ : Type u} {Reply : κ → Type v} {ε : Type w}
  {α : Type x} {τ : Type y} {η : Type u₁}

/-- The command that a step applies to the stores, and the request it is
for. -/
def appliedFor (state : ServerState τ (ProgramCall ι κ Reply ε α)) :
    ServerAction η ι → Option (ι × κ)
  | .await index outcome =>
      if outcome.Applies then
        (state.calls[index]?).bind fun call =>
          call.pending.map fun pending => (call.input, pending.command)
      else none
  | _ => none

/-- Which call the command belongs to. -/
theorem appliedFor_eq_some
    {state : ServerState τ (ProgramCall ι κ Reply ε α)}
    {action : ServerAction η ι} {input : ι} {command : κ} :
    appliedFor state action = some (input, command) ↔
      ∃ index outcome call pending,
        action = .await index outcome ∧ outcome.Applies = true ∧
        state.calls[index]? = some call ∧
        call.pending = some pending ∧ call.input = input ∧
        pending.command = command := by
  constructor
  · intro applies
    cases action with
    | external event => cases applies
    | request other => cases applies
    | await index outcome =>
        simp only [appliedFor, Option.ite_none_right_eq_some,
          Option.bind_eq_some_iff, Option.map_eq_some_iff,
          Prod.mk.injEq] at applies
        obtain ⟨effective, call, found, pending, waits, same⟩ := applies
        exact ⟨index, outcome, call, pending, rfl, effective, found, waits,
          same⟩
  · rintro ⟨index, outcome, call, pending, rfl, effective, found, waits, rfl,
      rfl⟩
    simp only [appliedFor, effective, if_true, found, waits,
      Option.bind_some, Option.map_some]

variable {external : η → τ → τ} {program : ι → Program κ Reply ε α}
  {perform : (command : κ) → τ → Reply command × τ} {failure : ε}

/-- A step from outside, a command for a request, or neither. -/
theorem stores_cases
    {before after : ServerState τ (ProgramCall ι κ Reply ε α)}
    {action : ServerAction η ι}
    (stepped : (programServer external program perform failure).step before
      action = some after) :
    (∃ event, action = .external event ∧
      after.stores = external event before.stores) ∨
    (∃ input command, appliedFor before action = some (input, command) ∧
      after.stores = (perform command before.stores).2) ∨
    ((∀ event, action ≠ .external event) ∧
      appliedFor before action = none ∧ after.stores = before.stores) := by
  cases Server.step_cases stepped with
  | external event => exact Or.inl ⟨event, rfl, rfl⟩
  | requested input call accepted => exact Or.inr (Or.inr ⟨nofun, rfl, rfl⟩)
  | awaited index outcome call pending found waits =>
      right
      rw [Server.answer_stores]
      by_cases applies : outcome.Applies = true
      · left
        refine ⟨call.input, pending.command, ?_, if_pos applies⟩
        exact appliedFor_eq_some.mpr
          ⟨index, outcome, call, pending, rfl, applies, found, waits, rfl,
            rfl⟩
      · right
        refine ⟨nofun, ?_, if_neg applies⟩
        simp only [appliedFor, if_neg applies]

/-- The shared invariant holds, and every program is safe for its request. -/
structure EachSafe (perform : (command : κ) → τ → Reply command × τ)
    (rely : τ → τ → Prop) (allows : ι → κ → τ → Prop) (invariant : τ → Prop)
    (state : ServerState τ (ProgramCall ι κ Reply ε α)) : Prop where
  stores : invariant state.stores
  calls : ∀ call ∈ state.calls,
    call.rest.Safe perform rely (allows call.input) (fun _ _ => True)
      state.stores

/-- What holds of the programs, of what is outside and of the commands that
are allowed, for all programs to stay safe. -/
structure Cooperates (external : η → τ → τ)
    (program : ι → Program κ Reply ε α)
    (perform : (command : κ) → τ → Reply command × τ)
    (rely : τ → τ → Prop) (allows : ι → κ → τ → Prop)
    (invariant : τ → Prop) : Prop where
  reflexive : ∀ stores, rely stores stores
  transitive : ∀ first second third,
    rely first second → rely second third → rely first third
  accepts : ∀ input stores, invariant stores →
    (program input).Safe perform rely (allows input) (fun _ _ => True) stores
  outside : ∀ event stores, invariant stores →
    invariant (external event stores) ∧ rely stores (external event stores)
  guarantees : ∀ input command stores, invariant stores →
    allows input command stores →
    invariant (perform command stores).2 ∧
      rely stores (perform command stores).2

variable {rely : τ → τ → Prop} {allows : ι → κ → τ → Prop}
  {invariant : τ → Prop}

/-- A command that is applied is one that its request allows. -/
theorem EachSafe.allowed
    {state : ServerState τ (ProgramCall ι κ Reply ε α)}
    {action : ServerAction η ι} {input : ι} {command : κ}
    (sound : EachSafe perform rely allows invariant state)
    (reflexive : ∀ stores, rely stores stores)
    (applies : appliedFor state action = some (input, command)) :
    allows input command state.stores := by
  obtain ⟨index, outcome, call, pending, _, _, found, waits, rfl, rfl⟩ :=
    appliedFor_eq_some.mp applies
  exact good_of_safe waits reflexive
    (sound.calls call (List.mem_of_getElem? found))

theorem EachSafe.stores_step
    {before after : ServerState τ (ProgramCall ι κ Reply ε α)}
    {action : ServerAction η ι}
    (sound : EachSafe perform rely allows invariant before)
    (cooperates : Cooperates external program perform rely allows invariant)
    (stepped : (programServer external program perform failure).step before
      action = some after) :
    invariant after.stores ∧ rely before.stores after.stores := by
  rcases stores_cases stepped with
    ⟨event, _, same⟩ | ⟨input, command, applies, same⟩ | ⟨_, _, same⟩
  · rw [same]
    exact cooperates.outside event _ sound.stores
  · rw [same]
    exact cooperates.guarantees input command _ sound.stores
      (sound.allowed cooperates.reflexive applies)
  · rw [same]
    exact ⟨sound.stores, cooperates.reflexive _⟩

/-- A step keeps the programs safe. -/
theorem EachSafe.step
    {before after : ServerState τ (ProgramCall ι κ Reply ε α)}
    {action : ServerAction η ι}
    (sound : EachSafe perform rely allows invariant before)
    (cooperates : Cooperates external program perform rely allows invariant)
    (stepped : (programServer external program perform failure).step before
      action = some after) :
    EachSafe perform rely allows invariant after := by
  obtain ⟨kept, relied⟩ := sound.stores_step cooperates stepped
  refine ⟨kept, ?_⟩
  have later : ∀ call ∈ before.calls,
      call.rest.Safe perform rely (allows call.input) (fun _ _ => True)
        after.stores := by
    intro call member
    exact (sound.calls call member).later cooperates.transitive
      (fun _ holds => holds) relied
  cases Server.step_cases stepped with
  | external event => exact later
  | requested input call accepted =>
      intro other member
      rcases List.mem_append.mp member with old | new
      · exact later other old
      · rw [List.mem_singleton.mp new, ← Option.some.inj accepted]
        exact cooperates.accepts input before.stores sound.stores
  | awaited index outcome call pending found waits =>
      intro other member
      rcases List.mem_or_eq_of_mem_set member with old | new
      · exact later other old
      · have safe := sound.calls call (List.mem_of_getElem? found)
        rw [new, input_answer waits]
        exact safe_answer waits cooperates.reflexive safe outcome

theorem EachSafe.of_run {start : τ} (holds : invariant start)
    (cooperates : Cooperates external program perform rely allows invariant)
    {history : List (ServerState τ (ProgramCall ι κ Reply ε α) ×
      ServerAction η ι)}
    {state : ServerState τ (ProgramCall ι κ Reply ε α)}
    (run : Trace (programServer external program perform failure).step
      ⟨start, []⟩ history state) :
    EachSafe perform rely allows invariant state := by
  refine Trace.invariant _ ?_ ?_ run
  · exact ⟨holds, by simp⟩
  · intro before action after sound stepped
    exact sound.step cooperates stepped

end Callers

/-! ## Receipts -/

namespace Program

variable {κ : Type u} {Reply : κ → Type v} {ε : Type w} {α β : Type x}

/-- No command of the program is a receipt, whatever it is answered. -/
def Silent (receipt : κ → Bool) : Program κ Reply ε α → Prop
  | .done _ => True
  | .throw _ => True
  | .perform command next =>
      receipt command = false ∧ ∀ reply, Silent receipt (next reply)

/-- The program leaves one receipt before it returns, and no second one. -/
def LeavesOne (receipt : κ → Bool) : Program κ Reply ε α → Prop
  | .done _ => False
  | .throw _ => True
  | .perform command next =>
      if receipt command = true then ∀ reply, Silent receipt (next reply)
      else ∀ reply, LeavesOne receipt (next reply)

variable {receipt : κ → Bool}

theorem Silent.bind {program : Program κ Reply ε α}
    {next : α → Program κ Reply ε β} (silent : program.Silent receipt)
    (later : ∀ result, (next result).Silent receipt) :
    (program >>= next).Silent receipt := by
  change (program.bind next).Silent receipt
  induction program with
  | done result => exact later result
  | throw error => trivial
  | perform command rest inductionHypothesis =>
      exact ⟨silent.1, fun reply => inductionHypothesis reply (silent.2 reply)⟩

theorem LeavesOne.bind {program : Program κ Reply ε α}
    {next : α → Program κ Reply ε β} (silent : program.Silent receipt)
    (later : ∀ result, (next result).LeavesOne receipt) :
    (program >>= next).LeavesOne receipt := by
  change (program.bind next).LeavesOne receipt
  induction program with
  | done result => exact later result
  | throw error => trivial
  | perform command rest inductionHypothesis =>
      change if receipt command = true then _ else _
      rw [silent.1, if_neg Bool.false_ne_true]
      exact fun reply => inductionHypothesis reply (silent.2 reply)

theorem silent_call {command : κ} (plain : receipt command = false) :
    (call command : Program κ Reply ε (Reply command)).Silent receipt :=
  ⟨plain, fun _ => trivial⟩

/-- One receipt when the program owes one, and none otherwise. -/
def Leaves (receipt : κ → Bool) (owes : Bool) (program : Program κ Reply ε α) :
    Prop :=
  if owes = true then program.LeavesOne receipt else program.Silent receipt

theorem Leaves.bind {program : Program κ Reply ε α}
    {next : α → Program κ Reply ε β} {owes : Bool}
    (silent : program.Silent receipt)
    (later : ∀ result, (next result).Leaves receipt owes) :
    (program >>= next).Leaves receipt owes := by
  cases owes with
  | true => exact LeavesOne.bind silent later
  | false => exact silent.bind later

theorem leaves_throw (error : ε) (owes : Bool) :
    (Program.throw error : Program κ Reply ε α).Leaves receipt owes := by
  cases owes <;> trivial

/-- A command, and then nothing that is a receipt. -/
theorem leaves_call {Reply : κ → Type x} {command : κ}
    {next : Reply command → Program κ Reply ε β}
    (later : ∀ reply, (next reply).Silent receipt) :
    (call command >>= next).Leaves receipt (receipt command) := by
  unfold Leaves
  split
  · next isReceipt =>
      change if receipt command = true then
        ∀ reply, (next reply).Silent receipt else _
      rw [if_pos isReceipt]
      exact later
  · next plain => exact ⟨Bool.eq_false_of_not_eq_true plain, later⟩

theorem LeavesOne.not_isDone {program : Program κ Reply ε α}
    (leaves : program.LeavesOne receipt) : program.isDone = false := by
  cases program with
  | done result => exact leaves.elim
  | throw error => rfl
  | perform command next => rfl

end Program

section Receipts

variable {ι : Type z} {κ : Type u} {Reply : κ → Type v} {ε : Type w}
  {α : Type x} {τ : Type y} {η : Type u₁}

/-- A call that has left its receipt, one that owes it, and one that leaves
none. -/
inductive ProgramCall.Fits (receipt : κ → Bool) (counts : ι → Bool)
    (call : ProgramCall ι κ Reply ε α) : Bool → Prop
  | left (counted : counts call.input = true)
      (silent : call.rest.Silent receipt) : Fits receipt counts call true
  | owes (counted : counts call.input = true)
      (leaves : call.rest.LeavesOne receipt) : Fits receipt counts call false
  | apart (uncounted : counts call.input = false)
      (silent : call.rest.Silent receipt) : Fits receipt counts call false

/-- The receipts in the stores are those of the calls that have left one. -/
def Accounted (receipt : κ → Bool) (counts : ι → Bool) (tally : τ → Nat)
    (state : ServerState τ (ProgramCall ι κ Reply ε α)) : Prop :=
  ∃ marked : List (ProgramCall ι κ Reply ε α × Bool),
    marked.map Prod.fst = state.calls ∧
    (∀ entry ∈ marked, entry.1.Fits receipt counts entry.2) ∧
    tally state.stores = marked.countP Prod.snd

variable {external : η → τ → τ} {program : ι → Program κ Reply ε α}
  {perform : (command : κ) → τ → Reply command × τ} {failure : ε}
  {receipt : κ → Bool} {counts : ι → Bool} {tally : τ → Nat}

/-- There are as many receipts as programs that have returned, or more, and as
many as requests, or fewer. -/
theorem Accounted.bounds
    {state : ServerState τ (ProgramCall ι κ Reply ε α)}
    (accounted : Accounted receipt counts tally state) :
    returned counts state.calls ≤ tally state.stores ∧
      tally state.stores ≤
        state.calls.countP fun call => counts call.input := by
  obtain ⟨marked, sameCalls, fits, total⟩ := accounted
  rw [total, ← sameCalls, returned, List.countP_map, List.countP_map]
  constructor
  · apply List.countP_mono_left
    rintro ⟨call, hasLeft⟩ member hasReturned
    obtain ⟨counted, isDone⟩ := Bool.and_eq_true_iff.mp hasReturned
    cases fits (call, hasLeft) member with
    | left _ _ => rfl
    | owes _ leaves =>
        rw [ProgramCall.succeeded, leaves.not_isDone] at isDone
        cases isDone
    | apart uncounted _ => cases counted.symm.trans uncounted
  · apply List.countP_mono_left
    rintro ⟨call, hasLeft⟩ member isLeft
    cases fits (call, hasLeft) member with
    | left counted _ => exact counted
    | owes _ _ => cases isLeft
    | apart _ _ => cases isLeft

/-- How the programs, the world outside and the commands account for the
receipts. -/
structure LeavesReceipts (external : η → τ → τ)
    (program : ι → Program κ Reply ε α)
    (perform : (command : κ) → τ → Reply command × τ) (receipt : κ → Bool)
    (counts : ι → Bool) (tally : τ → Nat) : Prop where
  leaves : ∀ input, (program input).Leaves receipt (counts input)
  outside : ∀ event stores, tally (external event stores) = tally stores
  commands : ∀ command stores,
    tally (perform command stores).2 =
      tally stores + (receipt command).toNat

def leavesReceipt (receipt : κ → Bool) (command : κ) (outcome : Await) :
    Bool :=
  outcome.Applies && receipt command

variable (external program perform failure) in
/-- The rest of a silent program is silent. -/
theorem silent_answer {call : ProgramCall ι κ Reply ε α}
    {pending : Pending κ Reply (ProgramCall ι κ Reply ε α)}
    (silent : call.rest.Silent receipt) (waits : call.pending = some pending)
    (stores : τ) (outcome : Await) :
    receipt pending.command = false ∧
      ((programServer external program perform failure).answer call pending
        stores outcome).2.rest.Silent receipt := by
  obtain ⟨next, rest, answers⟩ := ProgramCall.pending_eq_some waits
  rw [rest] at silent
  refine ⟨silent.1, ?_⟩
  cases outcome with
  | resolves =>
      simp only [Server.answer, answers]
      exact silent.2 _
  | rejects applied => cases applied <;> trivial
  | stops => trivial

variable (external program perform failure) in
/-- A program that owes a receipt owes it still, unless its command was one
and has taken effect. -/
theorem leavesOne_answer {call : ProgramCall ι κ Reply ε α}
    {pending : Pending κ Reply (ProgramCall ι κ Reply ε α)}
    (leaves : call.rest.LeavesOne receipt)
    (waits : call.pending = some pending) (stores : τ) (outcome : Await) :
    if leavesReceipt receipt pending.command outcome = true then
      ((programServer external program perform failure).answer call pending
        stores outcome).2.rest.Silent receipt
    else
      ((programServer external program perform failure).answer call pending
        stores outcome).2.rest.LeavesOne receipt := by
  obtain ⟨next, rest, answers⟩ := ProgramCall.pending_eq_some waits
  rw [rest, Program.LeavesOne] at leaves
  cases outcome with
  | resolves =>
      simp only [Server.answer, answers, leavesReceipt, Await.Applies,
        Bool.true_and]
      split
      · next isReceipt =>
          rw [if_pos isReceipt] at leaves
          exact leaves _
      · next plain =>
          rw [if_neg plain] at leaves
          exact leaves _
  | rejects applied =>
      cases applied with
      | true => split <;> trivial
      | false => split <;> trivial
  | stops => split <;> trivial

variable (external program perform failure) in
theorem ProgramCall.Fits.answer {call : ProgramCall ι κ Reply ε α}
    {pending : Pending κ Reply (ProgramCall ι κ Reply ε α)} {hasLeft : Bool}
    (fits : call.Fits receipt counts hasLeft)
    (waits : call.pending = some pending) (stores : τ) (outcome : Await) :
    ((programServer external program perform failure).answer call pending
        stores outcome).2.Fits receipt counts
      (hasLeft || leavesReceipt receipt pending.command outcome) ∧
    (hasLeft = true →
      leavesReceipt receipt pending.command outcome = false) := by
  have sameInput : ((programServer external program perform failure).answer
      call pending stores outcome).2.input = call.input :=
    input_answer waits stores outcome
  cases fits with
  | left counted silent =>
      obtain ⟨plain, rest⟩ := silent_answer external program perform failure
        silent waits stores outcome
      have noReceipt :
          leavesReceipt receipt pending.command outcome = false := by
        rw [leavesReceipt, plain, Bool.and_false]
      exact ⟨.left (by rw [sameInput, counted]) rest, fun _ => noReceipt⟩
  | owes counted leaves =>
      have rest := leavesOne_answer external program perform failure leaves
        waits stores outcome
      refine ⟨?_, nofun⟩
      rw [Bool.false_or]
      split at rest
      · next isReceipt =>
          rw [isReceipt]
          exact .left (by rw [sameInput, counted]) rest
      · next plain =>
          rw [Bool.eq_false_of_not_eq_true plain]
          exact .owes (by rw [sameInput, counted]) rest
  | apart uncounted silent =>
      obtain ⟨plain, rest⟩ := silent_answer external program perform failure
        silent waits stores outcome
      have noReceipt :
          leavesReceipt receipt pending.command outcome = false := by
        rw [leavesReceipt, plain, Bool.and_false]
      rw [Bool.false_or, noReceipt]
      exact ⟨.apart (by rw [sameInput, uncounted]) rest, nofun⟩

/-- A marked call is marked anew. -/
theorem countP_set_marked
    {marked : List (ProgramCall ι κ Reply ε α × Bool)} {index : Nat}
    {call answered : ProgramCall ι κ Reply ε α} {hasLeft leaves : Bool}
    (found : marked[index]? = some (call, hasLeft))
    (once : hasLeft = true → leaves = false) :
    (marked.set index (answered, hasLeft || leaves)).countP Prod.snd =
      marked.countP Prod.snd + leaves.toNat := by
  obtain ⟨inside, same⟩ := List.getElem?_eq_some_iff.mp found
  rw [List.countP_set inside, same]
  cases hasLeft with
  | true =>
      have positive : 0 < marked.countP Prod.snd :=
        List.countP_pos_iff.mpr ⟨_, List.mem_of_getElem? found, rfl⟩
      rw [once rfl]
      simp only [Bool.or_false, if_true, Bool.toNat_false]
      omega
  | false => cases leaves <;> rfl

theorem Accounted.step
    {before after : ServerState τ (ProgramCall ι κ Reply ε α)}
    {action : ServerAction η ι}
    (accounted : Accounted receipt counts tally before)
    (leaves : LeavesReceipts external program perform receipt counts tally)
    (stepped : (programServer external program perform failure).step before
      action = some after) :
    Accounted receipt counts tally after := by
  obtain ⟨marked, sameCalls, fits, total⟩ := accounted
  cases Server.step_cases stepped with
  | external event =>
      exact ⟨marked, sameCalls, fits, (leaves.outside _ _).trans total⟩
  | requested input call accepted =>
      have made : call = ⟨input, program input⟩ :=
        (Option.some.inj accepted).symm
      refine ⟨marked ++ [(call, false)], ?_, ?_, ?_⟩
      · simp [sameCalls]
      · intro entry member
        rcases List.mem_append.mp member with old | new
        · exact fits entry old
        · rw [List.mem_singleton.mp new, made]
          have leavesIt := leaves.leaves input
          cases counted : counts input with
          | true =>
              rw [counted] at leavesIt
              exact .owes counted leavesIt
          | false =>
              rw [counted] at leavesIt
              exact .apart counted leavesIt
      · simp [total]
  | awaited index outcome call pending found waits =>
      have foundMarked : ∃ hasLeft, marked[index]? = some (call, hasLeft) := by
        rw [← sameCalls, List.getElem?_map, Option.map_eq_some_iff] at found
        obtain ⟨⟨other, hasLeft⟩, atIndex, rfl⟩ := found
        exact ⟨hasLeft, atIndex⟩
      obtain ⟨hasLeft, atIndex⟩ := foundMarked
      have member : (call, hasLeft) ∈ marked := List.mem_of_getElem? atIndex
      obtain ⟨fitsAfter, once⟩ := (fits _ member).answer external
        program perform failure waits before.stores outcome
      refine ⟨marked.set index
        (((programServer external program perform failure).answer call pending
          before.stores outcome).2,
          hasLeft || leavesReceipt receipt pending.command outcome),
        ?_, ?_, ?_⟩
      · rw [List.map_set, sameCalls]
      · intro entry isEntry
        rcases List.mem_or_eq_of_mem_set isEntry with old | new
        · exact fits entry old
        · rw [new]
          exact fitsAfter
      · rw [countP_set_marked atIndex once, ← total, Server.answer_stores,
          leavesReceipt]
        by_cases applies : outcome.Applies = true
        · rw [if_pos applies, applies, Bool.true_and]
          exact leaves.commands pending.command before.stores
        · rw [if_neg applies, Bool.eq_false_of_not_eq_true applies]
          rfl

theorem Accounted.of_run {start : τ} (none : tally start = 0)
    (leaves : LeavesReceipts external program perform receipt counts tally)
    {history : List (ServerState τ (ProgramCall ι κ Reply ε α) ×
      ServerAction η ι)}
    {state : ServerState τ (ProgramCall ι κ Reply ε α)}
    (run : Trace (programServer external program perform failure).step
      ⟨start, []⟩ history state) :
    Accounted receipt counts tally state := by
  refine Trace.invariant _ ?_ ?_ run
  · exact ⟨[], rfl, by simp, none⟩
  · intro before action after accounted stepped
    exact accounted.step leaves stepped

end Receipts

end ConcertTicketing
