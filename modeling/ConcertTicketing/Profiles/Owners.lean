import ConcertTicketing.Profiles.Services

/-!
# Whose profile a request writes

Any number of requests of any users, served one Prisma call at a time.  A
request reads the profile of its user and writes it later; it is still the same
one then, for a user keeps the profile.
-/

namespace ConcertTicketing.Profiles

open Events (AuditLog OrganizerId PrismaError)

def Db.HasProfile (db : Db) (userId : UserId) (profileId : OrganizerId) :
    Prop :=
  ∃ profile, db.profileOf userId = some (profileId, profile)

/-- The entry that `updateProfile` writes. -/
def updateEntry (userId : UserId) : AuditLog :=
  ⟨userId, "UPDATE_PROFILE", "users", userId⟩

/-- The name is written together with `PENDING`, or not at all. -/
def OrganizerProfileUpdateInput.Resets (data : OrganizerProfileUpdateInput) :
    Prop :=
  data.status = .value .pending ∨
    (data.status = .undefined ∧ data.orgName = .undefined)

def Allows (userId : UserId) : Command → Db → Prop
  | .findUser _, _ => True
  | .updateUser id _, _ => id = userId
  | .createAuditLog entry, _ => entry = updateEntry userId
  | .findProfile _, _ => True
  | .updateProfile id data, db => db.HasProfile userId id ∧ data.Resets

def ProfilesStay (db later : Db) : Prop :=
  ∀ userId profileId, db.HasProfile userId profileId →
    later.HasProfile userId profileId

inductive Written (db : Db) : Command → Db → Prop
  | nothing (command : Command) : Written db command db
  | user (userId : UserId) (data : UserUpdateInput) :
      Written db (.updateUser userId data)
        (db.withUser userId data.writeOver)
  | entry (entry : AuditLog) :
      Written db (.createAuditLog entry) (db.logged entry)
  | profile (profileId : OrganizerId) (data : OrganizerProfileUpdateInput)
      (accepted : data.isAccepted = true) :
      Written db (.updateProfile profileId data)
        (db.withProfile profileId data.writeOver)

theorem written (db : Db) (command : Command) :
    Written db command (perform command db).2 := by
  cases command with
  | findUser userId => exact .nothing _
  | updateUser userId data =>
      simp only [perform, Db.updateUser]
      cases db.users.find? userId with
      | none => exact .nothing _
      | some user =>
          by_cases accepted : data.isAccepted = true
          · simp only [accepted, if_true, commit]
            exact .user userId data
          · simp only [accepted, commit]
            exact .nothing _
  | createAuditLog entry => exact .entry entry
  | findProfile userId => exact .nothing _
  | updateProfile profileId data =>
      simp only [perform, Db.updateProfile]
      cases db.organizerProfiles.find? profileId with
      | none => exact .nothing _
      | some profile =>
          by_cases accepted : data.isAccepted = true
          · simp only [accepted, if_true, commit]
            exact .profile profileId data accepted
          · simp only [accepted, commit]
            exact .nothing _

section Stay

variable {db later : Db} {userId : UserId} {profileId : OrganizerId}

theorem profilesStay_refl (db : Db) : ProfilesStay db db :=
  fun _ _ has => has

private theorem profilesStay_trans (first second third : Db)
    (early : ProfilesStay first second) (late : ProfilesStay second third) :
    ProfilesStay first third :=
  fun userId profileId has =>
    late userId profileId (early userId profileId has)

/-- A write that leaves the owner of the profile. -/
theorem profileOf_withProfile (db : Db) (userId : UserId)
    (profileId : OrganizerId) {change : OrganizerProfile → OrganizerProfile}
    (owner : ∀ profile, (change profile).userId = profile.userId) :
    (db.withProfile profileId change).profileOf userId =
      (db.profileOf userId).map fun entry =>
        (entry.1,
          if entry.1 = profileId then change entry.2 else entry.2) := by
  simp only [Db.profileOf, Db.withProfile, Table.modify, Table.mapRows,
    List.find?_map]
  congr 2
  funext entry
  simp only [Function.comp_apply]
  split
  · rw [owner]
  · rfl

private theorem profilesStay_withProfile (db : Db) (profileId : OrganizerId)
    {change : OrganizerProfile → OrganizerProfile}
    (owner : ∀ profile, (change profile).userId = profile.userId) :
    ProfilesStay db (db.withProfile profileId change) := by
  rintro userId ownId ⟨profile, first⟩
  refine ⟨if ownId = profileId then change profile else profile, ?_⟩
  rw [profileOf_withProfile db userId profileId owner, first]
  rfl

private theorem Written.profilesStay {command : Command} {after : Db}
    (written : Written db command after) : ProfilesStay db after := by
  cases written with
  | nothing => exact profilesStay_refl db
  | user userId data => exact profilesStay_refl db
  | entry entry => exact profilesStay_refl db
  | profile profileId data accepted =>
      exact profilesStay_withProfile db profileId fun _ => rfl

private theorem profilesStay_outside (event : Outside) (db : Db) :
    ProfilesStay db (event.apply db) := by
  cases event with
  | registered user => exact profilesStay_refl db
  | account userId email status roles => exact profilesStay_refl db
  | applied userId orgName =>
      rw [Outside.apply]
      split
      · exact profilesStay_refl db
      · rintro other profileId ⟨profile, first⟩
        refine ⟨profile, ?_⟩
        rw [Db.profileOf] at first ⊢
        rw [Table.insert, List.find?_append, first, Option.some_or]
  | reviewed profileId status =>
      exact profilesStay_withProfile db profileId fun _ => rfl

end Stay

section Safety

variable {userId : UserId} {db : Db}

abbrev SafeFor {α : Type} (userId : UserId) (operation : Operation α)
    (post : α → Db → Prop) (db : Db) : Prop :=
  operation.Safe perform ProfilesStay (Allows userId) post db

theorem safeFor_orThrow {α : Type} {post : α → Db → Prop}
    {reply : Except PrismaError α}
    (holds : ∀ result, reply = .ok result → post result db) :
    SafeFor userId (orThrow reply) post db := by
  cases reply with
  | ok result => exact holds result rfl
  | error error => trivial

private theorem safeFor_getUser :
    SafeFor userId (UsersService.getProfile userId) (fun _ _ => True) db := by
  refine Program.Safe.bind (Program.Safe.call ?_)
  intro later _
  refine ⟨trivial, ?_⟩
  split <;> trivial

private theorem safeFor_updateUser (dto : UpdateProfileDto) :
    SafeFor userId (UsersService.updateProfile userId dto)
      (fun _ _ => True) db := by
  rw [UsersService.updateProfile]
  split
  · trivial
  · refine Program.Safe.bind (Program.Safe.call ?_)
    intro later _
    refine ⟨rfl, Program.Safe.bind (safeFor_orThrow ?_)⟩
    intro _ _
    refine Program.Safe.bind (Program.Safe.call ?_)
    intro last _
    exact ⟨rfl, safeFor_getUser⟩

private theorem safeFor_getOwnedProfile :
    SafeFor userId (OrganizerService.getOwnedProfile userId)
      (fun entry later => later.HasProfile userId entry.1) db := by
  refine Program.Safe.bind (Program.Safe.call ?_)
  intro later _
  refine ⟨trivial, ?_⟩
  split
  · trivial
  · next entry first => exact ⟨entry.2, first⟩

private theorem resets_updateData (dto : UpdateOrganizerProfileDto) :
    (OrganizerService.updateData dto).Resets := by
  by_cases named : dto.orgName = .undefined
  · right
    simp [OrganizerService.updateData, named]
  · left
    simp [OrganizerService.updateData, named]

private theorem safeFor_updateOrganizer (dto : UpdateOrganizerProfileDto) :
    SafeFor userId (OrganizerService.updateProfile userId dto)
      (fun _ _ => True) db := by
  refine Program.Safe.bind (safeFor_getOwnedProfile.weaken ?_)
  rintro ⟨id, profile⟩ early has
  dsimp only
  split
  · trivial
  · refine Program.Safe.bind (Program.Safe.call ?_)
    intro later stay
    refine ⟨⟨stay userId id has, resets_updateData dto⟩, ?_⟩
    refine Program.Safe.bind (safeFor_orThrow ?_)
    intro updated _
    trivial

theorem safeFor_operation (input : UserRequest) :
    SafeFor input.userId input.operation (fun _ _ => True) db := by
  obtain ⟨userId, request⟩ := input
  cases request with
  | getUser => exact safeFor_getUser
  | updateUser dto => exact safeFor_updateUser dto
  | getOrganizer =>
      refine Program.Safe.bind (safeFor_getOwnedProfile.weaken ?_)
      intro entry later has
      trivial
  | updateOrganizer dto => exact safeFor_updateOrganizer dto

end Safety

private theorem profiles_cooperate :
    Cooperates Outside.apply UserRequest.operation perform ProfilesStay
      (fun input => Allows input.userId) (fun _ => True) where
  reflexive := profilesStay_refl
  transitive := profilesStay_trans
  accepts input _ _ := safeFor_operation input
  outside event db _ := ⟨trivial, profilesStay_outside event db⟩
  guarantees _ command db _ _ :=
    ⟨trivial, (written db command).profilesStay⟩

abbrev ProfileHistory := List (ProfileState × ProfileAction)

theorem profiles_of_run {history : ProfileHistory} {state : ProfileState}
    (run : Trace profileServer.step ⟨.empty, []⟩ history state) :
    EachSafe perform ProfilesStay (fun input => Allows input.userId)
      (fun _ => True) state :=
  EachSafe.of_run trivial profiles_cooperate run

end ConcertTicketing.Profiles
