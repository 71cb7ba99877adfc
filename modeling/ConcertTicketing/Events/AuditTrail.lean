import ConcertTicketing.Events.Tenants

/-!
# The audit log of the organizers

`EventsService` writes an entry into `audit_logs` after it has created, changed
or submitted an event.  The entry is a call of its own: the process may stop
before it, and another request may come in between.
-/

namespace ConcertTicketing.Events

inductive AuditKind where
  | created (organizerId : UserId)
  | updated (organizerId : UserId) (eventId : EventId)
  | submitted (organizerId : UserId) (eventId : EventId)
  deriving DecidableEq, Repr

def AuditLog.kind? (entry : AuditLog) : Option AuditKind :=
  if entry.action = "CREATE_EVENT" then some (.created entry.userId)
  else if entry.action = "UPDATE_EVENT" then
    some (.updated entry.userId entry.resourceId)
  else if entry.action = "SUBMIT_EVENT" then
    some (.submitted entry.userId entry.resourceId)
  else none

namespace OrganizerRequest

/-- The entry that a request leaves. -/
def kind? (input : OrganizerRequest) : Option AuditKind :=
  match input.request with
  | .createEvent _ => some (.created input.organizerId)
  | .updateEvent eventId _ => some (.updated input.organizerId eventId)
  | .submitEvent eventId => some (.submitted input.organizerId eventId)
  | _ => none

def leaves (kind : AuditKind) (input : OrganizerRequest) : Bool :=
  decide (input.kind? = some kind)

end OrganizerRequest

def AuditKind.ofEntry (kind : AuditKind) (entry : AuditLog) : Bool :=
  decide (entry.kind? = some kind)

/-- The command writes such an entry. -/
def AuditKind.writes (kind : AuditKind) : Command → Bool
  | .createAuditLog entry => kind.ofEntry entry
  | _ => false

/-- The number of such entries. -/
def Db.entriesOf (kind : AuditKind) (db : Db) : Nat :=
  db.auditLogs.countP kind.ofEntry

section Requests

variable {α : Type} {kind : AuditKind} {organizerId : UserId}
  {eventId : EventId}

theorem silent_orThrow (reply : Except PrismaError α) :
    (orThrow reply).Silent kind.writes := by
  cases reply with
  | ok result => trivial
  | error error => trivial

private theorem silent_findProfile :
    (findProfile organizerId).Silent kind.writes := by
  refine .bind (Program.silent_call rfl) ?_
  intro reply
  split <;> trivial

private theorem silent_findOwnedEvent :
    (findOwnedEvent organizerId eventId).Silent kind.writes := by
  refine silent_findProfile.bind ?_
  intro profile
  refine .bind (Program.silent_call rfl) ?_
  intro reply
  split <;> trivial

private theorem silent_findOwnedTicketType {ticketTypeId : TicketTypeId} :
    (TicketTypesService.findOwnedTicketType organizerId ticketTypeId).Silent
      kind.writes := by
  refine silent_findProfile.bind ?_
  intro profile
  refine .bind (Program.silent_call rfl) ?_
  intro reply
  split <;> trivial

private theorem silent_assertOwnerAndStatus {message : String}
    {allowedStatuses : List EventStatus} :
    (assertOwnerAndStatus message organizerId eventId
      allowedStatuses).Silent kind.writes := by
  refine silent_findOwnedEvent.bind ?_
  intro event
  split <;> trivial

private theorem silent_assertTicketTypesOwnership {ids : List TicketTypeId} :
    (SeatsService.assertTicketTypesOwnership eventId ids).Silent
      kind.writes := by
  refine .bind (Program.silent_call rfl) ?_
  intro reply
  split <;> trivial

private theorem silent_addSections {event : Event}
    {sections : List SeatMapConfigDto} :
    (SeatsService.addSections eventId event sections).Silent kind.writes := by
  rw [SeatsService.addSections]
  split
  · trivial
  · split
    · trivial
    · refine silent_assertTicketTypesOwnership.bind ?_
      intro _
      refine .bind (Program.silent_call rfl) ?_
      intro written
      exact (silent_orThrow _).bind fun _ => trivial

private theorem silent_addZones {event : Event} {zones : List ZoneConfigDto} :
    (SeatsService.addZones eventId event zones).Silent kind.writes := by
  rw [SeatsService.addZones]
  split
  · trivial
  · split
    · trivial
    · refine .bind (Program.silent_call rfl) ?_
      intro written
      exact (silent_orThrow _).bind fun _ => trivial

/-- The requests about ticket types and layouts write no entry. -/
theorem silent_of_kind?_none {input : OrganizerRequest}
    (none : input.kind? = none) : input.operation.Silent kind.writes := by
  obtain ⟨organizerId, request⟩ := input
  cases request with
  | createEvent dto => cases none
  | updateEvent eventId dto => cases none
  | submitEvent eventId => cases none
  | createTicketType eventId dto =>
      refine silent_assertOwnerAndStatus.bind ?_
      intro event
      refine .bind (Program.silent_call rfl) ?_
      intro written
      exact (silent_orThrow _).bind fun _ => trivial
  | updateTicketType ticketTypeId dto =>
      refine silent_findOwnedTicketType.bind ?_
      intro row
      split
      · trivial
      · split
        · trivial
        · refine .bind (Program.silent_call rfl) ?_
          intro written
          exact (silent_orThrow _).bind fun _ => trivial
  | removeTicketType ticketTypeId =>
      refine silent_findOwnedTicketType.bind ?_
      intro row
      split
      · trivial
      · refine .bind (Program.silent_call rfl) ?_
        intro written
        exact (silent_orThrow _).bind fun _ => trivial
  | hideTicketType ticketTypeId =>
      refine silent_findOwnedTicketType.bind ?_
      intro row
      refine .bind (Program.silent_call rfl) ?_
      intro written
      exact (silent_orThrow _).bind fun _ => trivial
  | createSeatMap eventId sections =>
      refine silent_assertOwnerAndStatus.bind ?_
      intro event
      split
      · trivial
      · refine silent_assertTicketTypesOwnership.bind ?_
        intro _
        refine .bind (Program.silent_call rfl) ?_
        intro written
        exact (silent_orThrow _).bind fun _ => trivial
  | createZones eventId zones =>
      refine silent_assertOwnerAndStatus.bind ?_
      intro event
      split
      · trivial
      · refine .bind (Program.silent_call rfl) ?_
        intro written
        exact (silent_orThrow _).bind fun _ => trivial
  | updateLayout eventId dto =>
      refine silent_assertOwnerAndStatus.bind ?_
      intro event
      split
      · trivial
      · refine silent_addSections.bind ?_
        intro addedSeats
        refine silent_addZones.bind ?_
        intro addedZones
        trivial

/-- The entry at the end of a request. -/
theorem leaves_logged (entry : AuditLog) (result : α) :
    (do
      prisma (.createAuditLog entry)
      return result).Leaves kind.writes (kind.ofEntry entry) := by
  change Program.Leaves kind.writes (kind.writes (.createAuditLog entry)) _
  exact Program.leaves_call fun _ => trivial

/-- Every request leaves the entry of its own kind, and no other one. -/
theorem leaves_operation (input : OrganizerRequest) :
    input.operation.Leaves kind.writes (input.leaves kind) := by
  cases isKind : input.kind? with
  | none =>
      have other : input.leaves kind = false := by
        rw [OrganizerRequest.leaves, isKind]
        rfl
      rw [other]
      exact silent_of_kind?_none isKind
  | some own =>
      obtain ⟨organizerId, request⟩ := input
      cases request with
      | createEvent dto =>
          refine .bind silent_findProfile ?_
          intro profile
          refine .bind (Program.silent_call rfl) ?_
          intro created
          refine .bind (silent_orThrow created) ?_
          rintro ⟨id, event⟩
          exact leaves_logged
            ⟨organizerId, "CREATE_EVENT", "events", id⟩ _
      | updateEvent eventId dto =>
          refine .bind silent_findOwnedEvent ?_
          intro event
          split
          · exact Program.leaves_throw _ _
          · split
            · exact Program.leaves_throw _ _
            · refine .bind (Program.silent_call rfl) ?_
              intro updated
              refine .bind (silent_orThrow updated) ?_
              intro row
              exact leaves_logged
                ⟨organizerId, "UPDATE_EVENT", "events", eventId⟩ _
      | submitEvent eventId =>
          refine .bind silent_findOwnedEvent ?_
          intro event
          split
          · exact Program.leaves_throw _ _
          · refine .bind (Program.silent_call rfl) ?_
            intro updated
            refine .bind (silent_orThrow updated) ?_
            intro row
            exact leaves_logged
              ⟨organizerId, "SUBMIT_EVENT", "events", eventId⟩ _
      | _ => cases isKind

end Requests

private theorem entriesOf_outside (kind : AuditKind) (event : Outside)
    (db : Db) : (event.apply db).entriesOf kind = db.entriesOf kind := by
  have same : (event.apply db).auditLogs = db.auditLogs := by
    cases event with
    | registered userId =>
        rw [Outside.apply]
        split <;> rfl
    | reviewed eventId status => rfl
    | sold ticketTypeId count => rfl
    | ordered ticketTypeId =>
        rw [Outside.apply]
        split <;> rfl
  rw [Db.entriesOf, same]
  rfl

theorem Written.auditLogs {db after : Db} {command : Command}
    (writes : Written db command after)
    (other : ∀ entry, command ≠ .createAuditLog entry) :
    after.auditLogs = db.auditLogs := by
  cases writes with
  | logged entry => exact absurd rfl (other entry)
  | _ => rfl

/-- Only a command that writes an entry adds one. -/
theorem entriesOf_perform (kind : AuditKind) (command : Command) (db : Db) :
    (perform command db).2.entriesOf kind =
      db.entriesOf kind + (kind.writes command).toNat := by
  by_cases isEntry : ∃ entry, command = .createAuditLog entry
  · obtain ⟨entry, rfl⟩ := isEntry
    change (db.auditLogs ++ [entry]).countP kind.ofEntry =
      db.auditLogs.countP kind.ofEntry + (kind.ofEntry entry).toNat
    rw [List.countP_append, List.countP_singleton]
    cases kind.ofEntry entry <;> rfl
  · have same := (written db command).auditLogs
      fun entry is => isEntry ⟨entry, is⟩
    have plain : kind.writes command = false := by
      cases command with
      | createAuditLog entry => exact absurd ⟨entry, rfl⟩ isEntry
      | _ => rfl
    rw [Db.entriesOf, same, plain]
    rfl

private theorem organizers_leaveReceipts (kind : AuditKind) :
    LeavesReceipts Outside.apply OrganizerRequest.operation perform
      kind.writes (OrganizerRequest.leaves kind) (Db.entriesOf kind) where
  leaves := leaves_operation
  outside := entriesOf_outside kind
  commands := entriesOf_perform kind

/-- However the requests overlap, fail or stop: every entry is about an event
of its user, there is an entry for each request that has been answered, and
none without a request. -/
theorem audits_account {history : OrganizerHistory} {state : OrganizerState}
    (run : Trace organizerServer.step ⟨Db.empty, []⟩ history state) :
    AuditsOwn state.stores ∧
    ∀ kind : AuditKind,
      returned (OrganizerRequest.leaves kind) state.calls ≤
        state.stores.entriesOf kind ∧
      state.stores.entriesOf kind ≤
        state.calls.countP fun call => call.input.leaves kind := by
  refine ⟨(organizers_of_run run).stores.audits, ?_⟩
  intro kind
  have none : Db.empty.entriesOf kind = 0 := rfl
  have accounted : Accounted kind.writes (OrganizerRequest.leaves kind)
      (Db.entriesOf kind) state :=
    .of_run none (organizers_leaveReceipts kind) run
  exact accounted.bounds

theorem audits_account_atOnce :
    returned (OrganizerRequest.leaves (.created 10)) afterAtOnce.2.calls ≤
        afterAtOnce.2.stores.entriesOf (.created 10) ∧
      afterAtOnce.2.stores.entriesOf (.created 10) ≤
        afterAtOnce.2.calls.countP fun call =>
          call.input.leaves (.created 10) :=
  (audits_account atOnce_run).2 (.created 10)

end ConcertTicketing.Events
