import ConcertTicketing.Accounts.Codes

/-!
# The account services

`AuthService` and the email change of `UsersService`, from one await to the
next.  What a service draws at random, the salt of a hash, a code and the id of
a token, comes with the request that it answers.
-/

namespace ConcertTicketing.Accounts

inductive AccountMessage where
  | registered
  | otpSentAgain
  | verified
  | otpSentIfPending
  | otpSent
  | changeOtpSent
  | emailChanged
  deriving DecidableEq, Repr

namespace AccountMessage

def text : AccountMessage → Text
  | .registered =>
      ("Đăng ký thành công. " ++
        "Vui lòng kiểm tra email để xác thực tài khoản.").toList
  | .otpSentAgain =>
      ("Tài khoản chưa được xác thực. " ++
        "OTP mới đã được gửi đến email.").toList
  | .verified =>
      ("Xác thực email thành công. " ++
        "Tài khoản đã được kích hoạt.").toList
  | .otpSentIfPending =>
      ("Nếu email tồn tại và chưa được xác thực, " ++
        "OTP mới đã được gửi.").toList
  | .otpSent => "OTP mới đã được gửi đến email của bạn.".toList
  | .changeOtpSent => "OTP xác nhận đã được gửi đến email mới.".toList
  | .emailChanged => "Đổi email thành công.".toList

end AccountMessage

abbrev Answer := Except AccountError AccountMessage

/-! ## register -/

structure RegisterInput where
  email : Text
  password : Text
  fullName : Text
  phone : Option Text
  salt : Text
  otp : Otp
  deriving DecidableEq, Repr

namespace RegisterInput

/-- `RegisterDto`. -/
def Valid (lib : Libraries) (input : RegisterInput) : Prop :=
  lib.isEmail input.email = true ∧ 8 ≤ input.password.length ∧
    input.fullName ≠ []

instance (lib : Libraries) (input : RegisterInput) :
    Decidable (input.Valid lib) :=
  inferInstanceAs (Decidable (_ ∧ _ ∧ _))

def newUser (input : RegisterInput) (passwordHash : Text) : NewUser :=
  ⟨input.email, passwordHash, input.fullName, input.phone⟩

end RegisterInput

/-- `storeOtp` carries the message that is returned after it. -/
inductive RegisterStage where
  | findUser
  | hashPassword
  | createUser (passwordHash : Text)
  | storeOtp (message : AccountMessage)
  deriving DecidableEq, Repr

abbrev RegisterProgress := Progress RegisterStage Answer

/-- `AuthService.register`. -/
def register (input : RegisterInput) :
    RegisterStage → Awaited RegisterProgress
  | .findUser =>
      ⟨.findUser input.email, fun
        | none => .running .hashPassword
        | some existing =>
            if existing.status = .pendingVerify then
              .running (.storeOtp .otpSentAgain)
            else .finished (.error .emailTaken)⟩
  | .hashPassword =>
      ⟨.hashPassword input.password input.salt, fun passwordHash =>
        .running (.createUser passwordHash)⟩
  | .createUser passwordHash =>
      ⟨.createUser (input.newUser passwordHash), fun (created : Bool) =>
        if created then .running (.storeOtp .registered)
        else .failed (.createUser passwordHash) false⟩
  | .storeOtp message =>
      ⟨(otpCheck input.email).store [] input.otp, fun _ =>
        .finished (.ok message)⟩

/-! ## verifyOtp -/

structure VerifyOtpInput where
  email : Text
  otp : Text
  deriving DecidableEq, Repr

namespace VerifyOtpInput

/-- `VerifyOtpDto`. -/
def Valid (lib : Libraries) (input : VerifyOtpInput) : Prop :=
  lib.isEmail input.email = true ∧ input.otp.length = 6

instance (lib : Libraries) (input : VerifyOtpInput) :
    Decidable (input.Valid lib) :=
  inferInstanceAs (Decidable (_ ∧ _))

end VerifyOtpInput

inductive VerifyOtpStage where
  | check (stage : CheckStage)
  | activate
  | delOtp
  deriving DecidableEq, Repr

abbrev VerifyOtpProgress := Progress VerifyOtpStage Answer

/-- `AuthService.verifyOtp`. -/
def verifyOtp (input : VerifyOtpInput) :
    VerifyOtpStage → Awaited VerifyOtpProgress
  | .check stage =>
      ((otpCheck input.email).step input.otp stage).map fun
        | .running later => .running (.check later)
        | .accepted _ => .running .activate
        | .thrown error => .finished (.error error)
  | .activate => ⟨.activateUser input.email, fun _ => .running .delOtp⟩
  | .delOtp => ⟨.del (.otp input.email), fun _ => .finished (.ok .verified)⟩

/-! ## resendOtp -/

structure ResendOtpInput where
  email : Text
  otp : Otp
  deriving DecidableEq, Repr

namespace ResendOtpInput

/-- `ResendOtpDto`. -/
def Valid (lib : Libraries) (input : ResendOtpInput) : Prop :=
  lib.isEmail input.email = true

instance (lib : Libraries) (input : ResendOtpInput) :
    Decidable (input.Valid lib) :=
  inferInstanceAs (Decidable (_ = _))

end ResendOtpInput

inductive ResendOtpStage where
  | existsLock
  | findUser
  | incrResend
  | expireResend (resendCount : Nat)
  | setLock
  | storeOtp
  deriving DecidableEq, Repr

abbrev ResendOtpProgress := Progress ResendOtpStage Answer

/-- `resendCount > OTP_MAX_RESENDS`. -/
def afterResendCount (resendCount : Nat) : ResendOtpProgress :=
  if otpMaxResends < resendCount then .running .setLock
  else .running .storeOtp

/-- `AuthService.resendOtp`. -/
def resendOtp (input : ResendOtpInput) :
    ResendOtpStage → Awaited ResendOtpProgress
  | .existsLock =>
      ⟨.existsKey (.otpLock input.email), fun (otpLocked : Bool) =>
        if otpLocked then .finished (.error .otpLocked)
        else .running .findUser⟩
  | .findUser =>
      ⟨.findUser input.email, fun (user : Option User) =>
        if user.map User.status = some .pendingVerify then
          .running .incrResend
        else .finished (.ok .otpSentIfPending)⟩
  | .incrResend =>
      ⟨.incr (.otpResend input.email), fun
        | none => .failed .incrResend false
        | some resendCount =>
            if resendCount = 1 then .running (.expireResend resendCount)
            else afterResendCount resendCount⟩
  | .expireResend resendCount =>
      ⟨.expire (.otpResend input.email) otpLockTtl, fun _ =>
        afterResendCount resendCount⟩
  | .setLock =>
      ⟨.set (.otpLock input.email) "1".toList (some otpLockTtl), fun _ =>
        .finished (.error .resendExhausted)⟩
  | .storeOtp =>
      ⟨(otpCheck input.email).store [] input.otp, fun _ =>
        .finished (.ok .otpSent)⟩

/-! ## login -/

structure LoginInput where
  email : Text
  password : Text
  ip : Option Text
  jti : Nat
  deriving DecidableEq, Repr

namespace LoginInput

/-- `LoginDto`. -/
def Valid (lib : Libraries) (input : LoginInput) : Prop :=
  lib.isEmail input.email = true ∧ input.password ≠ []

instance (lib : Libraries) (input : LoginInput) :
    Decidable (input.Valid lib) :=
  inferInstanceAs (Decidable (_ ∧ _))

def payload (input : LoginInput) (user : User) : JwtPayload :=
  ⟨user.id, input.jti, user.email, user.roles, user.status⟩

end LoginInput

inductive LoginStage where
  | getFail
  | findUser
  | comparePassword (user : User)
  | incrFail
  | expireFail
  | delFail (user : User)
  | signToken (user : User)
  | createAuditLog (user : User) (accessToken : Text)
  deriving DecidableEq, Repr

abbrev LoginProgress := Progress LoginStage (Except AccountError Text)

/-- `AuthService.login` with `incrementLoginFail`. -/
def login (input : LoginInput) : LoginStage → Awaited LoginProgress
  | .getFail =>
      ⟨.getCount (.loginFail input.email), fun (failCount : Option Nat) =>
        if loginMaxFails ≤ failCount.getD 0 then
          .finished (.error .loginLocked)
        else .running .findUser⟩
  | .findUser =>
      ⟨.findUser input.email, fun
        | none => .running .incrFail
        | some user =>
            match user.status with
            | .locked => .finished (.error .accountLocked)
            | .pendingVerify => .finished (.error .notVerified)
            | .active => .running (.comparePassword user)⟩
  | .comparePassword user =>
      ⟨.comparePassword input.password user.passwordHash,
        fun (isPasswordValid : Bool) =>
          if isPasswordValid then .running (.delFail user)
          else .running .incrFail⟩
  | .incrFail =>
      ⟨.incr (.loginFail input.email), fun
        | none => .failed .incrFail false
        | some newCount =>
            if newCount = 1 then .running .expireFail
            else .finished (.error .badCredentials)⟩
  | .expireFail =>
      ⟨.expire (.loginFail input.email) loginLockTtl, fun _ =>
        .finished (.error .badCredentials)⟩
  | .delFail user =>
      ⟨.delCount (.loginFail input.email), fun _ =>
        .running (.signToken user)⟩
  | .signToken user =>
      ⟨.signToken (input.payload user), fun accessToken =>
        .running (.createAuditLog user accessToken)⟩
  | .createAuditLog user accessToken =>
      ⟨.createAuditLog ⟨user.id, .login input.ip⟩, fun _ =>
        .finished (.ok accessToken)⟩

/-! ## The email change -/

structure RequestEmailChangeInput where
  userId : UserId
  newEmail : Text
  otp : Otp
  deriving DecidableEq, Repr

namespace RequestEmailChangeInput

/-- `RequestEmailChangeDto`. -/
def Valid (lib : Libraries) (input : RequestEmailChangeInput) : Prop :=
  lib.isEmail input.newEmail = true

instance (lib : Libraries) (input : RequestEmailChangeInput) :
    Decidable (input.Valid lib) :=
  inferInstanceAs (Decidable (_ = _))

end RequestEmailChangeInput

inductive RequestStage where
  | existsLock
  | findConflict
  | storeChange
  deriving DecidableEq, Repr

abbrev RequestProgress := Progress RequestStage Answer

/-- `UsersService.requestEmailChange`. -/
def requestEmailChange (input : RequestEmailChangeInput) :
    RequestStage → Awaited RequestProgress
  | .existsLock =>
      ⟨.existsKey (.emailChangeLock input.userId), fun (locked : Bool) =>
        if locked then .finished (.error .changeLocked)
        else .running .findConflict⟩
  | .findConflict =>
      ⟨.findUser input.newEmail, fun
        | some _ => .finished (.error .newEmailTaken)
        | none => .running .storeChange⟩
  | .storeChange =>
      ⟨(emailChangeCheck input.userId).store input.newEmail input.otp,
        fun _ => .finished (.ok .changeOtpSent)⟩

structure VerifyEmailChangeInput where
  userId : UserId
  otp : Text
  deriving DecidableEq, Repr

namespace VerifyEmailChangeInput

/-- `VerifyEmailChangeDto`. -/
def Valid (input : VerifyEmailChangeInput) : Prop :=
  input.otp.length = 6

instance (input : VerifyEmailChangeInput) : Decidable input.Valid :=
  inferInstanceAs (Decidable (_ = _))

end VerifyEmailChangeInput

inductive VerifyChangeStage where
  | check (stage : CheckStage)
  | findConflict (newEmail : Text)
  | delConflict
  | updateEmail (newEmail : Text)
  | createAuditLog (newEmail : Text)
  | delChange
  deriving DecidableEq, Repr

abbrev VerifyChangeProgress := Progress VerifyChangeStage Answer

/-- `UsersService.verifyEmailChange`. -/
def verifyEmailChange (input : VerifyEmailChangeInput) :
    VerifyChangeStage → Awaited VerifyChangeProgress
  | .check stage =>
      ((emailChangeCheck input.userId).step input.otp stage).map fun
        | .running later => .running (.check later)
        | .accepted stored => .running (.findConflict stored.newEmail)
        | .thrown error => .finished (.error error)
  | .findConflict newEmail =>
      ⟨.findUser newEmail, fun
        | some _ => .running .delConflict
        | none => .running (.updateEmail newEmail)⟩
  | .delConflict =>
      ⟨.del (.emailChange input.userId), fun _ =>
        .finished (.error .newEmailTakenMeanwhile)⟩
  | .updateEmail newEmail =>
      ⟨.updateEmail input.userId newEmail, fun (updated : Bool) =>
        if updated then .running (.createAuditLog newEmail)
        else .failed (.updateEmail newEmail) false⟩
  | .createAuditLog newEmail =>
      ⟨.createAuditLog ⟨input.userId, .changeEmail newEmail⟩, fun _ =>
        .running .delChange⟩
  | .delChange =>
      ⟨.del (.emailChange input.userId), fun _ =>
        .finished (.ok .emailChanged)⟩

end ConcertTicketing.Accounts
