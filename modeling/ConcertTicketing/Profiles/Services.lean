import ConcertTicketing.Accounts.Stores
import ConcertTicketing.Events.Services
import ConcertTicketing.Library.Callers

/-!
# Profiles

`getProfile` and `updateProfile` of `UsersService` and of `OrganizerService`,
each as the sequence of its Prisma calls.  An optional member of a body may be
missing, `null` or a value; the services look only at whether it is missing.
The rest of the system registers users, changes the columns of their accounts,
and reviews organizers.
-/

namespace ConcertTicketing.Profiles

open Accounts (UserStatus RoleName)
open Events (AuditLog Member OrganizerId PrismaError ServiceError)

structure User where
  email : String
  fullName : String
  phone : Option String
  avatarUrl : Option String
  status : UserStatus
  roles : List RoleName
  createdAt : Instant
  deriving DecidableEq, Repr

inductive OrganizerStatus where
  | pending
  | approved
  | rejected
  deriving DecidableEq, Repr

structure OrganizerProfile where
  userId : UserId
  orgName : String
  description : Option String
  logoUrl : Option String
  bannerUrl : Option String
  website : Option String
  contactEmail : Option String
  contactPhone : Option String
  status : OrganizerStatus
  deriving DecidableEq, Repr

structure Db where
  users : Table User
  organizerProfiles : Table OrganizerProfile
  auditLogs : List AuditLog

def Db.empty : Db := ⟨.empty, .empty, []⟩

structure UpdateProfileDto where
  fullName : Member String := .undefined
  phone : Member String := .undefined
  avatarUrl : Member String := .undefined
  deriving DecidableEq, Repr

structure UpdateOrganizerProfileDto where
  orgName : Member String := .undefined
  description : Member String := .undefined
  logoUrl : Member String := .undefined
  bannerUrl : Member String := .undefined
  website : Member String := .undefined
  contactEmail : Member String := .undefined
  contactPhone : Member String := .undefined
  deriving DecidableEq, Repr

/-- The `data` of `user.update`. -/
structure UserUpdateInput where
  fullName : Member String := .undefined
  phone : Member String := .undefined
  avatarUrl : Member String := .undefined
  deriving DecidableEq, Repr

namespace UserUpdateInput

def isAccepted (data : UserUpdateInput) : Bool :=
  data.fullName.accepts fun _ => true

def writeOver (data : UserUpdateInput) (user : User) : User :=
  { user with
    fullName := data.fullName.writeOver user.fullName
    phone := data.phone.overNullable user.phone
    avatarUrl := data.avatarUrl.overNullable user.avatarUrl }

end UserUpdateInput

/-- The `data` of `organizerProfile.update`. -/
structure OrganizerProfileUpdateInput where
  orgName : Member String := .undefined
  description : Member String := .undefined
  logoUrl : Member String := .undefined
  bannerUrl : Member String := .undefined
  website : Member String := .undefined
  contactEmail : Member String := .undefined
  contactPhone : Member String := .undefined
  status : Member OrganizerStatus := .undefined
  deriving DecidableEq, Repr

namespace OrganizerProfileUpdateInput

def isAccepted (data : OrganizerProfileUpdateInput) : Bool :=
  data.orgName.accepts (fun _ => true) && data.status.accepts fun _ => true

def writeOver (data : OrganizerProfileUpdateInput)
    (profile : OrganizerProfile) : OrganizerProfile where
  userId := profile.userId
  orgName := data.orgName.writeOver profile.orgName
  description := data.description.overNullable profile.description
  logoUrl := data.logoUrl.overNullable profile.logoUrl
  bannerUrl := data.bannerUrl.overNullable profile.bannerUrl
  website := data.website.overNullable profile.website
  contactEmail := data.contactEmail.overNullable profile.contactEmail
  contactPhone := data.contactPhone.overNullable profile.contactPhone
  status := data.status.writeOver profile.status

end OrganizerProfileUpdateInput

namespace Db

/-- `organizerProfile.findUnique({ where: { userId } })`. -/
def profileOf (db : Db) (userId : UserId) :
    Option (OrganizerId × OrganizerProfile) :=
  db.organizerProfiles.rows.find? fun entry =>
    decide (entry.2.userId = userId)

def withUser (db : Db) (userId : UserId) (change : User → User) : Db :=
  { db with users := db.users.modify userId change }

def withProfile (db : Db) (profileId : OrganizerId)
    (change : OrganizerProfile → OrganizerProfile) : Db :=
  { db with
    organizerProfiles := db.organizerProfiles.modify profileId change }

def updateUser (db : Db) (userId : UserId) (data : UserUpdateInput) :
    Except PrismaError (Unit × Db) :=
  match db.users.find? userId with
  | none => .error .recordNotFound
  | some _ =>
      if data.isAccepted then .ok ((), db.withUser userId data.writeOver)
      else .error .validation

def updateProfile (db : Db) (profileId : OrganizerId)
    (data : OrganizerProfileUpdateInput) :
    Except PrismaError (OrganizerProfile × Db) :=
  match db.organizerProfiles.find? profileId with
  | none => .error .recordNotFound
  | some profile =>
      if data.isAccepted then
        .ok (data.writeOver profile, db.withProfile profileId data.writeOver)
      else .error .validation

/-- The user of the entry is there: the row has just been written, and rows of
users are never deleted. -/
def logged (db : Db) (entry : AuditLog) : Db :=
  { db with auditLogs := db.auditLogs ++ [entry] }

end Db

inductive Command where
  | findUser (userId : UserId)
  | updateUser (userId : UserId) (data : UserUpdateInput)
  | createAuditLog (entry : AuditLog)
  | findProfile (userId : UserId)
  | updateProfile (profileId : OrganizerId)
      (data : OrganizerProfileUpdateInput)
  deriving DecidableEq, Repr

abbrev Reply : Command → Type
  | .findUser _ => Option User
  | .updateUser _ _ => Except PrismaError Unit
  | .createAuditLog _ => Unit
  | .findProfile _ => Option (OrganizerId × OrganizerProfile)
  | .updateProfile _ _ => Except PrismaError OrganizerProfile

def commit {α : Type} (db : Db) :
    Except PrismaError (α × Db) → Except PrismaError α × Db
  | .ok (reply, after) => (.ok reply, after)
  | .error error => (.error error, db)

def perform : (command : Command) → Db → Reply command × Db
  | .findUser userId, db => (db.users.find? userId, db)
  | .updateUser userId data, db => commit db (db.updateUser userId data)
  | .createAuditLog entry, db => ((), db.logged entry)
  | .findProfile userId, db => (db.profileOf userId, db)
  | .updateProfile profileId data, db =>
      commit db (db.updateProfile profileId data)

/-! ## The services -/

inductive Response where
  | user (id : UserId) (user : User)
  | organizer (id : OrganizerId) (profile : OrganizerProfile)
  | updatedOrganizer (id : OrganizerId) (profile : OrganizerProfile)
      (note : Option String)
  deriving DecidableEq, Repr

abbrev Operation (α : Type) := Program Command Reply ServiceError α

def prisma (command : Command) : Operation (Reply command) :=
  Program.call command

def orThrow {α : Type} : Except PrismaError α → Operation α
  | .ok reply => .done reply
  | .error error => .throw (.prisma error)

namespace UsersService

def getProfile (userId : UserId) : Operation Response := do
  match ← prisma (.findUser userId) with
  | none => .throw (.notFound "Người dùng không tồn tại")
  | some user => return .user userId user

def updateData (dto : UpdateProfileDto) : UserUpdateInput where
  fullName := dto.fullName
  phone := dto.phone
  avatarUrl := dto.avatarUrl

def updateProfile (userId : UserId) (dto : UpdateProfileDto) :
    Operation Response := do
  if updateData dto = {} then
    .throw (.badRequest "Không có trường nào được cập nhật")
  else
    let written ← prisma (.updateUser userId (updateData dto))
    orThrow written
    prisma (.createAuditLog ⟨userId, "UPDATE_PROFILE", "users", userId⟩)
    getProfile userId

end UsersService

namespace OrganizerService

def getOwnedProfile (userId : UserId) :
    Operation (OrganizerId × OrganizerProfile) := do
  match ← prisma (.findProfile userId) with
  | none => .throw (.forbidden "Bạn chưa có hồ sơ nhà tổ chức")
  | some entry => return entry

def getProfile (organizerId : UserId) : Operation Response := do
  let (id, profile) ← getOwnedProfile organizerId
  return .organizer id profile

/-- `dto.orgName !== undefined && dto.orgName !== profile.orgName`. -/
def requiresReview (dto : UpdateOrganizerProfileDto)
    (profile : OrganizerProfile) : Bool :=
  decide (dto.orgName ≠ .undefined ∧ dto.orgName ≠ .value profile.orgName)

/-- A given name takes the status back to `PENDING`, the same one as well. -/
def updateData (dto : UpdateOrganizerProfileDto) :
    OrganizerProfileUpdateInput where
  orgName := dto.orgName
  description := dto.description
  logoUrl := dto.logoUrl
  bannerUrl := dto.bannerUrl
  website := dto.website
  contactEmail := dto.contactEmail
  contactPhone := dto.contactPhone
  status := if dto.orgName = .undefined then .undefined else .value .pending

def updateProfile (organizerId : UserId) (dto : UpdateOrganizerProfileDto) :
    Operation Response := do
  let (id, profile) ← getOwnedProfile organizerId
  if updateData dto = {} then
    .throw (.badRequest "Không có trường nào được cập nhật")
  else
    let written ← prisma (.updateProfile id (updateData dto))
    let updated ← orThrow written
    return .updatedOrganizer id updated
      (if requiresReview dto profile then
        some ("Tên tổ chức đã thay đổi. Trạng thái đã được reset về " ++
          "PENDING và cần Admin duyệt lại.")
      else none)

end OrganizerService

inductive Request where
  | getUser
  | updateUser (dto : UpdateProfileDto)
  | getOrganizer
  | updateOrganizer (dto : UpdateOrganizerProfileDto)
  deriving DecidableEq, Repr

structure UserRequest where
  userId : UserId
  request : Request
  deriving DecidableEq, Repr

def UserRequest.operation (input : UserRequest) : Operation Response :=
  match input.request with
  | .getUser => UsersService.getProfile input.userId
  | .updateUser dto => UsersService.updateProfile input.userId dto
  | .getOrganizer => OrganizerService.getProfile input.userId
  | .updateOrganizer dto => OrganizerService.updateProfile input.userId dto

/-- A registration, changed columns of an account, a new organizer, whose
profile is `PENDING`, and a review. -/
inductive Outside where
  | registered (user : User)
  | account (userId : UserId) (email : String) (status : UserStatus)
      (roles : List RoleName)
  | applied (userId : UserId) (orgName : String)
  | reviewed (profileId : OrganizerId) (status : OrganizerStatus)
  deriving DecidableEq, Repr

def Outside.apply : Outside → Db → Db
  | .registered user, db => { db with users := db.users.insert user }
  | .account userId email status roles, db =>
      db.withUser userId fun user =>
        { user with email := email, status := status, roles := roles }
  | .applied userId orgName, db =>
      if (db.profileOf userId).isSome then db
      else
        { db with
          organizerProfiles :=
            db.organizerProfiles.insert
              { userId := userId
                orgName := orgName
                description := none
                logoUrl := none
                bannerUrl := none
                website := none
                contactEmail := none
                contactPhone := none
                status := .pending } }
  | .reviewed profileId status, db =>
      db.withProfile profileId fun profile => { profile with status := status }

abbrev ProfileCall :=
  ProgramCall UserRequest Command Reply ServiceError Response

abbrev ProfileState := ServerState Db ProfileCall

abbrev ProfileAction := ServerAction Outside UserRequest

def profileServer : Server Db Outside UserRequest Command Reply ProfileCall :=
  programServer Outside.apply UserRequest.operation perform
    (.prisma .unavailable)

end ConcertTicketing.Profiles
