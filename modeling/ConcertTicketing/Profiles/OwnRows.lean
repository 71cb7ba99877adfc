import ConcertTicketing.Profiles.Reviews

/-!
# Own rows and the audit log

A request of a user writes the profile columns of this user, the profile of
this organizer and entries about this user.  The columns that the login and
the roles depend on it leaves alone, whatever its body holds.
-/

namespace ConcertTicketing.Profiles

open Events (AuditLog OrganizerId PrismaError)

/-- The columns that no profile request writes. -/
def User.account (user : User) :
    String × Accounts.UserStatus × List Accounts.RoleName × Instant :=
  (user.email, user.status, user.roles, user.createdAt)

/-- The other users' rows are the same, and of the user's own the account. -/
structure OnlyOwn (before after : Db) (userId : UserId) : Prop where
  users : ∀ other ≠ userId,
    after.users.find? other = before.users.find? other
  account : ∀ other, (after.users.find? other).map User.account =
    (before.users.find? other).map User.account
  profiles : ∀ id profile,
    before.organizerProfiles.find? id = some profile →
    profile.userId ≠ userId → after.organizerProfiles.find? id = some profile
  owners : ∀ id,
    (after.organizerProfiles.find? id).map OrganizerProfile.userId =
      (before.organizerProfiles.find? id).map OrganizerProfile.userId
  entries : ∃ added, after.auditLogs = before.auditLogs ++ added ∧
    ∀ entry ∈ added, entry = updateEntry userId

section Own

variable {db after : Db} {userId : UserId} {command : Command}

private theorem onlyOwn_refl (db : Db) (userId : UserId) :
    OnlyOwn db db userId where
  users _ _ := rfl
  account _ := rfl
  profiles _ _ found _ := found
  owners _ := rfl
  entries := ⟨[], by simp, by simp⟩

private theorem userId_of_hasProfile {id : OrganizerId}
    {profile : OrganizerProfile} (has : db.HasProfile userId id)
    (found : db.organizerProfiles.find? id = some profile) :
    profile.userId = userId := by
  obtain ⟨own, first⟩ := has
  have member := List.mem_of_find?_eq_some first
  have isOwn := List.find?_some first
  have same := Table.unique (Table.find?_eq_some.mp found) member
  rw [same]
  simpa using isOwn

private theorem onlyOwn_written (allowed : Allows userId command db)
    (writes : Written db command after) : OnlyOwn db after userId := by
  cases writes with
  | nothing => exact onlyOwn_refl db userId
  | user id data =>
      obtain rfl : id = userId := allowed
      refine { onlyOwn_refl db id with users := ?_, account := ?_ }
      · intro other differs
        rw [Db.withUser, Table.find?_modify]
        simp [differs]
      · intro other
        rw [Db.withUser, Table.find?_modify, Option.map_map]
        congr 1
        funext user
        simp only [Function.comp_apply]
        split <;> rfl
  | entry entry =>
      obtain rfl : entry = updateEntry userId := allowed
      exact { onlyOwn_refl db userId with
        entries := ⟨[updateEntry userId], rfl, by simp⟩ }
  | profile id data accepted =>
      refine { onlyOwn_refl db userId with profiles := ?_, owners := ?_ }
      · intro other profile found foreign
        rw [Db.withProfile, Table.find?_modify, found]
        have differs : other ≠ id := by
          rintro rfl
          exact foreign (userId_of_hasProfile allowed.1 found)
        simp [differs]
      · intro other
        rw [Db.withProfile, Table.find?_modify, Option.map_map]
        congr 1
        funext profile
        simp only [Function.comp_apply]
        split <;> rfl

end Own

/-- However the requests overlap, a step of a request writes only what belongs
to its user. -/
theorem only_own_written {history : ProfileHistory}
    {state next : ProfileState}
    (run : Trace profileServer.step ⟨.empty, []⟩ history state)
    {index : Nat} {outcome : Await} {call : ProfileCall}
    (stepped : profileServer.step state (.await index outcome) = some next)
    (found : state.calls[index]? = some call) :
    OnlyOwn state.stores next.stores call.input.userId := by
  have sound := profiles_of_run run
  rcases stores_cases stepped with
    ⟨event, external, _⟩ | ⟨input, command, applies, same⟩ | ⟨_, _, same⟩
  · cases external
  · have allowed := sound.allowed profilesStay_refl applies
    obtain ⟨position, _, other, _, awaits, _, reached, _, rfl, _⟩ :=
      appliedFor_eq_some.mp applies
    cases awaits
    rw [found] at reached
    cases Option.some.inj reached
    rw [same]
    exact onlyOwn_written allowed (written state.stores command)
  · rw [same]
    exact onlyOwn_refl state.stores call.input.userId

def writesEntry (userId : UserId) : Command → Bool
  | .createAuditLog entry => decide (entry = updateEntry userId)
  | _ => false

def UserRequest.updates (userId : UserId) (input : UserRequest) : Bool :=
  match input.request with
  | .updateUser _ => decide (input.userId = userId)
  | _ => false

def Db.updatesOf (userId : UserId) (db : Db) : Nat :=
  db.auditLogs.count (updateEntry userId)

section Audits

variable {userId : UserId}

theorem silent_orThrow {α : Type} (reply : Except PrismaError α) :
    (orThrow reply).Silent (writesEntry userId) := by
  cases reply with
  | ok result => trivial
  | error error => trivial

private theorem silent_getProfile (ownId : UserId) :
    (UsersService.getProfile ownId).Silent (writesEntry userId) := by
  refine .bind (Program.silent_call rfl) ?_
  intro reply
  split <;> trivial

private theorem silent_getOwnedProfile (ownId : UserId) :
    (OrganizerService.getOwnedProfile ownId).Silent (writesEntry userId) := by
  refine .bind (Program.silent_call rfl) ?_
  intro reply
  split <;> trivial

private theorem writesEntry_updateEntry (ownId : UserId) :
    writesEntry userId (.createAuditLog (updateEntry ownId)) =
      decide (ownId = userId) := by
  rw [writesEntry, decide_eq_decide]
  constructor
  · intro same
    exact congrArg AuditLog.userId same
  · rintro rfl
    rfl

/-- An update leaves one entry about its user, the other requests leave
none. -/
theorem leaves_updates (input : UserRequest) :
    input.operation.Leaves (writesEntry userId) (input.updates userId) := by
  obtain ⟨ownId, request⟩ := input
  cases request with
  | getUser => exact silent_getProfile ownId
  | updateUser dto =>
      change (UsersService.updateProfile ownId dto).Leaves _
        (decide (ownId = userId))
      rw [UsersService.updateProfile]
      split
      · exact Program.leaves_throw _ _
      · refine .bind (Program.silent_call rfl) ?_
        intro updated
        refine .bind (silent_orThrow updated) ?_
        intro _
        rw [← writesEntry_updateEntry]
        exact Program.leaves_call fun _ => silent_getProfile ownId
  | getOrganizer =>
      refine (silent_getOwnedProfile ownId).bind ?_
      intro entry
      trivial
  | updateOrganizer dto =>
      refine (silent_getOwnedProfile ownId).bind ?_
      rintro ⟨id, profile⟩
      dsimp only
      split
      · trivial
      · refine .bind (Program.silent_call rfl) ?_
        intro updated
        exact (silent_orThrow updated).bind fun _ => trivial

theorem Written.auditLogs {db after : Db} {command : Command}
    (writes : Written db command after)
    (other : ∀ entry, command ≠ .createAuditLog entry) :
    after.auditLogs = db.auditLogs := by
  cases writes with
  | entry entry => exact absurd rfl (other entry)
  | _ => rfl

private theorem updatesOf_perform (command : Command) (db : Db) :
    (perform command db).2.updatesOf userId =
      db.updatesOf userId + (writesEntry userId command).toNat := by
  by_cases isEntry : ∃ entry, command = .createAuditLog entry
  · obtain ⟨entry, rfl⟩ := isEntry
    change (db.auditLogs ++ [entry]).count (updateEntry userId) =
      db.auditLogs.count (updateEntry userId) +
        (decide (entry = updateEntry userId)).toNat
    rw [List.count_append, List.count_singleton]
    by_cases same : entry = updateEntry userId
    · simp [same]
    · simp [same]
  · have same := (written db command).auditLogs
      fun entry is => isEntry ⟨entry, is⟩
    have plain : writesEntry userId command = false := by
      cases command with
      | createAuditLog entry => exact absurd ⟨entry, rfl⟩ isEntry
      | _ => rfl
    rw [Db.updatesOf, same, plain]
    rfl

private theorem updatesOf_outside (event : Outside) (db : Db) :
    (event.apply db).updatesOf userId = db.updatesOf userId := by
  cases event with
  | applied ownId orgName =>
      rw [Outside.apply]
      split <;> rfl
  | _ => rfl

private theorem profiles_leaveReceipts :
    LeavesReceipts Outside.apply UserRequest.operation perform
      (writesEntry userId) (UserRequest.updates userId)
      (Db.updatesOf userId) where
  leaves := leaves_updates
  outside := updatesOf_outside
  commands := updatesOf_perform

end Audits

/-- However the requests overlap, fail or stop, a user has an entry for each
update that has been answered, and none without a request. -/
theorem updates_audited {history : ProfileHistory} {state : ProfileState}
    (run : Trace profileServer.step ⟨.empty, []⟩ history state)
    (userId : UserId) :
    returned (UserRequest.updates userId) state.calls ≤
        state.stores.updatesOf userId ∧
      state.stores.updatesOf userId ≤
        state.calls.countP fun call => call.input.updates userId := by
  have none : Db.empty.updatesOf userId = 0 := rfl
  have accounted : Accounted (writesEntry userId)
      (UserRequest.updates userId) (Db.updatesOf userId) state :=
    .of_run none profiles_leaveReceipts run
  exact accounted.bounds

def newUser (email : String) : User where
  email := email
  fullName := "An"
  phone := none
  avatarUrl := none
  status := .active
  roles := [.user]
  createdAt := 0

/-- Two updates of one user and one of an organizer, one Prisma call at a
time; the process of the first one stops after its write. -/
def overlapping : List ProfileAction :=
  [.external (.registered (newUser "an@example.com")),
    .external (.registered (newUser "binh@example.com")),
    .external (.applied 1 "Sao Mai"),
    .request ⟨0, .updateUser { phone := .value "0901" }⟩,
    .request ⟨1, .updateOrganizer { orgName := .value "Sao Hôm" }⟩,
    .request ⟨0, .updateUser { phone := .null }⟩,
    .await 1 .resolves, .await 0 .resolves, .await 2 .resolves,
    .await 2 .resolves, .await 0 .stops, .await 2 .resolves]

private theorem overlapping_enabled :
    (replay profileServer.step [] ⟨.empty, []⟩ overlapping).isSome =
      true := by
  decide +kernel

def afterOverlapping : ProfileHistory × ProfileState :=
  (replay profileServer.step [] ⟨.empty, []⟩ overlapping).get
    overlapping_enabled

private theorem overlapping_run :
    Trace profileServer.step ⟨.empty, []⟩ afterOverlapping.1
      afterOverlapping.2 :=
  Trace.of_replay_get overlapping overlapping_enabled

theorem updates_audited_overlapping :
    returned (UserRequest.updates 0) afterOverlapping.2.calls = 1 ∧
      returned (UserRequest.updates 0) afterOverlapping.2.calls ≤
        afterOverlapping.2.stores.updatesOf 0 ∧
      afterOverlapping.2.stores.updatesOf 0 ≤
        afterOverlapping.2.calls.countP fun call => call.input.updates 0 :=
  ⟨by decide +kernel, updates_audited overlapping_run 0⟩

private theorem renaming_enabled :
    (profileServer.step afterOverlapping.2 (.await 1 .resolves)).isSome =
      true := by
  decide +kernel

private theorem renaming_isCall :
    (afterOverlapping.2.calls[1]?).isSome = true := by
  decide +kernel

theorem only_own_written_renaming :
    OnlyOwn afterOverlapping.2.stores
      ((profileServer.step afterOverlapping.2 (.await 1 .resolves)).get
        renaming_enabled).stores 1 := by
  have bySecond : ((afterOverlapping.2.calls[1]?).get
      renaming_isCall).input.userId = 1 := by
    decide +kernel
  have own := only_own_written overlapping_run
    (Option.some_get renaming_enabled).symm
    (Option.some_get renaming_isCall).symm
  rw [bySecond] at own
  exact own

end ConcertTicketing.Profiles
