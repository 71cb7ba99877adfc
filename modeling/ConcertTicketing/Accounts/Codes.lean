import ConcertTicketing.Accounts.Stores
import ConcertTicketing.Library.Server

/-!
# The one-time codes

The texts in which `AuthService` and `UsersService` keep a code with its
failed attempts, and the check of a code, which is the same in `verifyOtp` and
in `verifyEmailChange` up to its keys, its format and its constants.
-/

namespace ConcertTicketing.Accounts

open Redis

def otpTtl : Int := 300

def otpLockTtl : Int := 900

def otpMaxAttempts : Int := 3

def otpMaxResends : Nat := 3

def loginMaxFails : Nat := 5

def loginLockTtl : Int := 900

def emailChangeOtpTtl : Int := 300

def emailChangeOtpMaxAttempts : Int := 3

def emailChangeLockTtl : Int := 900

inductive AccountError where
  | emailTaken
  | otpLocked
  | otpInvalid
  | otpExhausted
  | otpWrong (left : Number)
  | resendExhausted
  | loginLocked
  | badCredentials
  | accountLocked
  | notVerified
  | changeLocked
  | newEmailTaken
  | changeExhausted
  | newEmailTakenMeanwhile
  deriving DecidableEq, Repr

namespace AccountError

def status : AccountError → Nat
  | .emailTaken => 409
  | .otpLocked => 429
  | .otpInvalid => 400
  | .otpExhausted => 429
  | .otpWrong _ => 401
  | .resendExhausted => 429
  | .loginLocked => 429
  | .badCredentials => 401
  | .accountLocked => 401
  | .notVerified => 401
  | .changeLocked => 429
  | .newEmailTaken => 409
  | .changeExhausted => 429
  | .newEmailTakenMeanwhile => 409

def message : AccountError → Text
  | .emailTaken => "Email đã được sử dụng".toList
  | .otpLocked =>
      "Xác thực bị tạm khóa. Vui lòng thử lại sau 15 phút.".toList
  | .otpInvalid => "OTP không hợp lệ hoặc đã hết hạn".toList
  | .otpExhausted =>
      "OTP sai quá nhiều lần. Vui lòng yêu cầu OTP mới sau 15 phút.".toList
  | .otpWrong left =>
      "OTP không đúng. Còn ".toList ++ Text.ofNumber left ++
        " lần thử.".toList
  | .resendExhausted =>
      "Đã gửi OTP quá nhiều lần. Vui lòng thử lại sau 15 phút.".toList
  | .loginLocked =>
      ("Đăng nhập bị tạm khóa do sai quá nhiều lần. " ++
        "Vui lòng thử lại sau 15 phút.").toList
  | .badCredentials => "Email hoặc mật khẩu không đúng".toList
  | .accountLocked =>
      "Tài khoản đã bị khóa. Vui lòng liên hệ quản trị viên.".toList
  | .notVerified => "Vui lòng xác thực email trước khi đăng nhập.".toList
  | .changeLocked =>
      "Đổi email bị tạm khóa. Vui lòng thử lại sau 15 phút.".toList
  | .newEmailTaken => "Email này đã được sử dụng".toList
  | .changeExhausted =>
      ("OTP sai quá nhiều lần. " ++
        "Vui lòng yêu cầu đổi email mới sau 15 phút.").toList
  | .newEmailTakenMeanwhile =>
      "Email này đã được sử dụng bởi tài khoản khác".toList

end AccountError

/-! ## The stored texts -/

/-- The fields of a stored code.  The code of a registration has no
`newEmail`. -/
structure StoredCode where
  newEmail : Text
  code : Option Text
  attempts : Number
  deriving DecidableEq, Repr

namespace StoredCode

/-- A generated code after some failed attempts. -/
def generated (newEmail : Text) (otp : Otp) (attempts : Nat) : StoredCode :=
  ⟨newEmail, some otp.text, some (attempts : Int)⟩

/-- `newAttempts` in place of `attempts`. -/
def afterFailure (stored : StoredCode) : StoredCode :=
  { stored with attempts := stored.attempts.map fun attempts => attempts + 1 }

@[simp]
theorem generated_newEmail (newEmail : Text) (otp : Otp) (attempts : Nat) :
    (generated newEmail otp attempts).newEmail = newEmail := rfl

@[simp]
theorem afterFailure_generated (newEmail : Text) (otp : Otp) (attempts : Nat) :
    (generated newEmail otp attempts).afterFailure =
      generated newEmail otp (attempts + 1) := rfl

end StoredCode

/-- `attempts >= bound`, which is false of `NaN`. -/
def atLeast (bound : Int) : Number → Bool
  | none => false
  | some attempts => decide (bound ≤ attempts)

/-- What tells the checks of the two services apart. -/
structure CodeCheck where
  key : TextKey
  lockKey : TextKey
  encode : StoredCode → Text
  decode : Text → StoredCode
  maxAttempts : Int
  lockTtl : Int
  codeTtl : Int
  locked : AccountError
  exhausted : AccountError

/-- `code:attempts` under `otp:email`. -/
def otpCheck (email : Text) : CodeCheck where
  key := .otp email
  lockKey := .otpLock email
  encode stored :=
    Text.ofOption stored.code ++ ':' :: Text.ofNumber stored.attempts
  decode text :=
    let fields := text.splitOn ':'
    ⟨[], fields[0]?, Text.parseInt fields[1]?⟩
  maxAttempts := otpMaxAttempts
  lockTtl := otpLockTtl
  codeTtl := otpTtl
  locked := .otpLocked
  exhausted := .otpExhausted

/-- `newEmail|code|attempts` under `otp:email-change:userId`. -/
def emailChangeCheck (userId : UserId) : CodeCheck where
  key := .emailChange userId
  lockKey := .emailChangeLock userId
  encode stored :=
    stored.newEmail ++
      '|' :: (Text.ofOption stored.code ++
        '|' :: Text.ofNumber stored.attempts)
  decode text :=
    let fields := text.splitOn '|'
    ⟨fields.headD [], fields[1]?, Text.parseInt fields[2]?⟩
  maxAttempts := emailChangeOtpMaxAttempts
  lockTtl := emailChangeLockTtl
  codeTtl := emailChangeOtpTtl
  locked := .changeLocked
  exhausted := .changeExhausted

inductive Purpose where
  | registration (email : Text)
  | emailChange (userId : UserId)
  deriving DecidableEq, Repr

namespace Purpose

def check : Purpose → CodeCheck
  | .registration email => otpCheck email
  | .emailChange userId => emailChangeCheck userId

theorem key_injective {first second : Purpose}
    (same : first.check.key = second.check.key) : first = second := by
  cases first <;> cases second <;> cases same <;> rfl

theorem key_ne_lockKey (first second : Purpose) :
    first.check.key ≠ second.check.lockKey := by
  cases first <;> cases second <;> nofun

theorem maxAttempts_eq (purpose : Purpose) :
    purpose.check.maxAttempts = 3 := by
  cases purpose <;> rfl

theorem codeTtl_eq (purpose : Purpose) : purpose.check.codeTtl = 300 := by
  cases purpose <;> rfl

end Purpose

/-- Every code that is stored with the address, after any number of failed
attempts, is read back as it was. -/
def CodeCheck.ReadsBack (check : CodeCheck) (newEmail : Text) : Prop :=
  ∀ (otp : Otp) (attempts : Nat),
    check.decode (check.encode (.generated newEmail otp attempts)) =
      .generated newEmail otp attempts

private theorem otpCheck_decode (email : Text) {code attempts : Text}
    (inCode : ':' ∉ code) (inAttempts : ':' ∉ attempts) :
    (otpCheck email).decode (code ++ ':' :: attempts) =
      ⟨[], some code, Text.parseInt (some attempts)⟩ := by
  simp only [otpCheck, Text.splitOn_pair inCode inAttempts,
    List.getElem?_cons_zero, List.getElem?_cons_succ]

private theorem otpCheck_encode (email newEmail : Text) (otp : Otp)
    (attempts : Nat) : (otpCheck email).encode
    (.generated newEmail otp attempts) =
      otp.text ++ ':' :: Nat.toDigits 10 attempts := by
  simp only [otpCheck, StoredCode.generated, Text.ofOption_some,
    Text.ofNumber_natCast]

theorem otpCheck_readsBack (email : Text) : (otpCheck email).ReadsBack [] := by
  intro otp attempts
  have inCode : ':' ∉ otp.text := otp.notMem_text (by decide)
  have inAttempts : ':' ∉ Nat.toDigits 10 attempts :=
    Text.notMem_toDigits (by decide) attempts
  rw [otpCheck_encode, otpCheck_decode email inCode inAttempts,
    Text.parseInt_toDigits]
  rfl

private theorem emailChangeCheck_decode (userId : UserId)
    {newEmail code attempts : Text} (inEmail : '|' ∉ newEmail)
    (inCode : '|' ∉ code) (inAttempts : '|' ∉ attempts) :
    (emailChangeCheck userId).decode
        (newEmail ++ '|' :: (code ++ '|' :: attempts)) =
      ⟨newEmail, some code, Text.parseInt (some attempts)⟩ := by
  simp only [emailChangeCheck, Text.splitOn_triple inEmail inCode inAttempts,
    List.headD_cons, List.getElem?_cons_zero, List.getElem?_cons_succ]

private theorem emailChangeCheck_encode (userId : UserId) (newEmail : Text)
    (otp : Otp) (attempts : Nat) :
    (emailChangeCheck userId).encode (.generated newEmail otp attempts) =
      newEmail ++ '|' :: (otp.text ++ '|' :: Nat.toDigits 10 attempts) := by
  simp only [emailChangeCheck, StoredCode.generated, Text.ofOption_some,
    Text.ofNumber_natCast]

/-- No address that is read back has a `|`. -/
theorem notMem_newEmail (userId : UserId) (text : Text) :
    '|' ∉ ((emailChangeCheck userId).decode text).newEmail := by
  change '|' ∉ (text.splitOn '|').headD []
  cases fields : text.splitOn '|' with
  | nil => exact absurd fields (List.splitOn_ne_nil _ _)
  | cons first rest =>
      rw [List.headD_cons]
      exact Text.notMem_of_splitOn_cons fields

/-- The address is the only field that can hold a `|`. -/
theorem emailChangeCheck_readsBack_iff (userId : UserId) (newEmail : Text) :
    (emailChangeCheck userId).ReadsBack newEmail ↔ '|' ∉ newEmail := by
  constructor
  · intro readsBack
    have same := congrArg StoredCode.newEmail
      (readsBack ⟨100000, by decide, by decide⟩ 0)
    rw [StoredCode.generated_newEmail] at same
    rw [← same]
    exact notMem_newEmail userId _
  · intro inEmail otp attempts
    have inCode : '|' ∉ otp.text := otp.notMem_text (by decide)
    have inAttempts : '|' ∉ Nat.toDigits 10 attempts :=
      Text.notMem_toDigits (by decide) attempts
    rw [emailChangeCheck_encode,
      emailChangeCheck_decode userId inEmail inCode inAttempts,
      Text.parseInt_toDigits]
    rfl

/-! ## The check of a code -/

/-- `renewed` is what has been read, with `newAttempts`. -/
inductive CheckStage where
  | existsLock
  | getStored
  | delExhausted
  | setLock
  | ttl (renewed : StoredCode)
  | writeBack (renewed : StoredCode) (ttlSeconds : Int)
  deriving DecidableEq, Repr

/-- How the check goes on: to an await of its own, back to its caller with the
code accepted, or out of it with an error. -/
inductive CheckProgress where
  | running (stage : CheckStage)
  | accepted (stored : StoredCode)
  | thrown (error : AccountError)
  deriving DecidableEq, Repr

abbrev Awaited (γ : Type) := Pending AccountCommand AccountCommand.Reply γ

namespace CodeCheck

/-- From `stored.split` to the next `await`. -/
def compare (check : CodeCheck) (otp : Text) (stored : StoredCode) :
    CheckProgress :=
  if stored.code = some otp then .accepted stored
  else if atLeast check.maxAttempts stored.afterFailure.attempts then
    .running .delExhausted
  else .running (.ttl stored.afterFailure)

/-- From the reply to `redis.get`, of which the empty text is as good as
none. -/
def read (check : CodeCheck) (otp : Text) : Option Text → CheckProgress
  | none => .thrown .otpInvalid
  | some [] => .thrown .otpInvalid
  | some (first :: rest) =>
      check.compare otp (check.decode (first :: rest))

/-- The common part of `verifyOtp` and `verifyEmailChange`. -/
def step (check : CodeCheck) (otp : Text) : CheckStage → Awaited CheckProgress
  | .existsLock =>
      ⟨.existsKey check.lockKey, fun (locked : Bool) =>
        if locked then .thrown check.locked else .running .getStored⟩
  | .getStored => ⟨.get check.key, check.read otp⟩
  | .delExhausted => ⟨.del check.key, fun _ => .running .setLock⟩
  | .setLock =>
      ⟨.set check.lockKey "1".toList (some check.lockTtl), fun _ =>
        .thrown check.exhausted⟩
  | .ttl renewed =>
      ⟨.ttl check.key, fun (remainingTtl : Int) =>
        .running (.writeBack renewed
          (if 0 < remainingTtl then remainingTtl else check.codeTtl))⟩
  | .writeBack renewed ttlSeconds =>
      ⟨.set check.key (check.encode renewed) (some ttlSeconds), fun _ =>
        .thrown (.otpWrong (renewed.attempts.map fun newAttempts =>
          check.maxAttempts - newAttempts))⟩

/-- What `redis.get` and the `split` make of the stores. -/
def stored? (check : CodeCheck) (stores : AccountStores) :
    Option StoredCode :=
  ((stores.find check.key).filter fun entry => decide (entry.value ≠ [])).map
    fun entry => check.decode entry.value

/-- `remainingTtl > 0 ? remainingTtl : OTP_TTL`. -/
def ttlLeft (check : CodeCheck) (stores : AccountStores) : Int :=
  if 0 < stores.redis.ttl check.key then stores.redis.ttl check.key
  else check.codeTtl

/-- `redis.set` of a code that has just been generated. -/
def store (check : CodeCheck) (newEmail : Text) (otp : Otp) : AccountCommand :=
  .set check.key (check.encode (.generated newEmail otp 0))
    (some check.codeTtl)

/-- Where a check is when its pending command has been answered. -/
def goOn (lib : Libraries) (check : CodeCheck) (otp : Text)
    (stage : CheckStage) (stores : AccountStores) : CheckProgress :=
  (check.step otp stage).next
    (perform lib (check.step otp stage).command stores).1

inductive Goes (check : CodeCheck) (otp : Text) (stores : AccountStores) :
    CheckStage → CheckProgress → Prop
  | locked (live : (stores.find check.lockKey).isSome) :
      Goes check otp stores .existsLock (.thrown check.locked)
  | unlocked (free : stores.find check.lockKey = none) :
      Goes check otp stores .existsLock (.running .getStored)
  | missing (nothing : check.stored? stores = none) :
      Goes check otp stores .getStored (.thrown .otpInvalid)
  | right (stored : StoredCode) (found : check.stored? stores = some stored)
      (same : stored.code = some otp) :
      Goes check otp stores .getStored (.accepted stored)
  | lastFailure (stored : StoredCode)
      (found : check.stored? stores = some stored)
      (wrong : stored.code ≠ some otp)
      (isOver : atLeast check.maxAttempts stored.afterFailure.attempts = true) :
      Goes check otp stores .getStored (.running .delExhausted)
  | failure (stored : StoredCode) (found : check.stored? stores = some stored)
      (wrong : stored.code ≠ some otp)
      (below :
        atLeast check.maxAttempts stored.afterFailure.attempts = false) :
      Goes check otp stores .getStored (.running (.ttl stored.afterFailure))
  | deleted : Goes check otp stores .delExhausted (.running .setLock)
  | lockSet : Goes check otp stores .setLock (.thrown check.exhausted)
  | timed (renewed : StoredCode) :
      Goes check otp stores (.ttl renewed)
        (.running (.writeBack renewed (check.ttlLeft stores)))
  | wroteBack (renewed : StoredCode) (ttlSeconds : Int)
      (error : AccountError) :
      Goes check otp stores (.writeBack renewed ttlSeconds) (.thrown error)

private theorem read_cases (check : CodeCheck) (otp : Text)
    (stores : AccountStores) :
    Goes check otp stores .getStored
      (check.read otp (stores.redis.get check.key)) := by
  have reply : stores.redis.get check.key =
      (stores.find check.key).map Entry.value := rfl
  cases live : stores.find check.key with
  | none =>
      rw [reply, live]
      exact .missing (by simp [stored?, live])
  | some entry =>
      rw [reply, live, Option.map_some]
      cases text : entry.value with
      | nil => exact .missing (by simp [stored?, live, text])
      | cons first rest =>
          have found : check.stored? stores =
              some (check.decode (first :: rest)) := by
            simp [stored?, live, text, Option.filter]
          simp only [read, compare]
          by_cases same : (check.decode (first :: rest)).code = some otp
          · rw [if_pos same]
            exact .right _ found same
          · rw [if_neg same]
            by_cases isOver : atLeast check.maxAttempts
                (check.decode (first :: rest)).afterFailure.attempts = true
            · rw [if_pos isOver]
              exact .lastFailure _ found same isOver
            · rw [if_neg isOver]
              exact .failure _ found same (Bool.eq_false_of_not_eq_true isOver)

theorem goOn_cases (lib : Libraries) (check : CodeCheck) (otp : Text)
    (stage : CheckStage) (stores : AccountStores) :
    Goes check otp stores stage (check.goOn lib otp stage stores) := by
  cases stage with
  | existsLock =>
      have reply : check.goOn lib otp .existsLock stores =
          if (stores.find check.lockKey).isSome then .thrown check.locked
          else .running .getStored := rfl
      rw [reply]
      cases live : stores.find check.lockKey with
      | none => exact .unlocked live
      | some entry =>
          exact .locked (by rw [live, Option.isSome_some])
  | getStored => exact check.read_cases otp stores
  | delExhausted => exact .deleted
  | setLock => exact .lockSet
  | ttl renewed => exact .timed renewed
  | writeBack renewed ttlSeconds => exact .wroteBack renewed ttlSeconds _

/-- The right code is accepted. -/
theorem goOn_of_right (lib : Libraries) {check : CodeCheck} {otp : Text}
    {stores : AccountStores} {stored : StoredCode}
    (found : check.stored? stores = some stored)
    (same : stored.code = some otp) :
    check.goOn lib otp .getStored stores = .accepted stored := by
  have goes := check.goOn_cases lib otp .getStored stores
  generalize check.goOn lib otp .getStored stores = progress at goes
  cases goes with
  | missing nothing =>
      rw [nothing] at found
      cases found
  | right other foundToo _ =>
      rw [foundToo] at found
      cases found
      rfl
  | lastFailure other foundToo wrong _ =>
      rw [foundToo] at found
      cases found
      exact absurd same wrong
  | failure other foundToo wrong _ =>
      rw [foundToo] at found
      cases found
      exact absurd same wrong

end CodeCheck

end ConcertTicketing.Accounts
