import SoftHSM.ObjectStore.TokenObject
import SoftHSM.SlotMgr.InitPolicy
import SoftHSM.SlotMgr.LocalPin

/-!
The token of a slot: the secure data manager over its two blobs, and the token object that
stores them. Every operation is a program over the token object that takes the manager and
returns it; the random bytes, and how the primitives and the writes turn out, come with the
call.

The operations here are those on PINs and on the policy. The mark `valid` of a token, which
no other operation looks at, is left out; reading the blobs for it is not.
-/

namespace SoftHSM

open RecordFile PinPolicy CK_RV LocalPin

/-- A token that has a token object. Its manager is missing only after its creation stopped
half-way. -/
structure Token where
  token : File TokenObject
  sdm : Option SecureDataManager

namespace Token

open TokenObject SecureDataManager

def isSOLoggedIn (s : Option Token) : Bool := (s.bind (·.sdm)).any (·.soLoggedIn)

def isUserLoggedIn (s : Option Token) : Bool := (s.bind (·.sdm)).any (·.userLoggedIn)

/-- An operation on a slot: without a manager it answers at once. -/
def call (null : CK_RV) (op : SecureDataManager → Prog (CK_RV × SecureDataManager)) :
    Option Token → CK_RV × Option Token
  | some ⟨token, some sdm⟩ =>
    let ((rv, sdm), token) := (op sdm).run token
    (rv, some ⟨token, some sdm⟩)
  | t => (null, t)

/-- How the writes of `pinResult` turn out. -/
structure ResultWrites where
  policy : Transaction
  flags : Write

def ResultWrites.done : ResultWrites := ⟨.done, .done⟩

/-- What a change of a PIN draws, and how its steps turn out. -/
structure PinEnv where
  verifier : Draws
  draws : Draws
  pbe : PbeFaults
  blob : Write
  flags : Write
  pinDefault : Transaction
  result : ResultWrites
  /-- the mark of an expired PIN, which `setUserPIN` takes off -/
  expired : Transaction
  /-- the policy and the flags, which `initUserPIN` writes itself -/
  policy : Write
  policyFlags : Write

/-- What a format draws, and how its steps turn out. -/
structure FormatEnv where
  verifier : Draws
  draws : Draws
  login : Draws
  userDraws : Draws
  rebuilt : Draws
  pbe : PbeFaults
  userPbe : PbeFaults
  result : ResultWrites
  /-- whether the object store makes a new token -/
  newToken : Bool
  flags : Write
  reset : ResetWrites
  soBlob : Write
  soFlags : Write
  userBlob : Write
  userFlags : Write
  policy : Write
  soDefault : Transaction
  userDefault : Transaction

/-- What one round of `setLocalPIN` draws, and how its steps turn out. -/
structure LocalEnv where
  verifier : Draws
  replacement : Draws
  pbe : PbeFaults
  result : ResultWrites
  update : Transaction

def pinLocked (so : Bool) : Prog Bool := do
  let some policy ← getPinPolicy | return true
  return policy.left so = 0

def pinResult (e : ResultWrites) (so success : Bool) (sdm : SecureDataManager) :
    Prog (CK_RV × SecureDataManager) := do
  let some bytes ← advancePinPolicy e.policy so success | return (CKR_DEVICE_ERROR, logout sdm)
  let left := byte bytes (leftIndex so)
  let maximum := byte bytes (maxIndex so)
  let some flags ← getTokenFlags | return (CKR_DEVICE_ERROR, logout sdm)
  let low := if so then CKF_SO_PIN_COUNT_LOW else CKF_USER_PIN_COUNT_LOW
  let final := if so then CKF_SO_PIN_FINAL_TRY else CKF_USER_PIN_FINAL_TRY
  let locked := if so then CKF_SO_PIN_LOCKED else CKF_USER_PIN_LOCKED
  let flags := flags &&& ~~~(low ||| final ||| locked)
  let flags := if left < maximum then flags ||| low else flags
  let flags := if left = 1 then flags ||| final else flags
  let flags := if left = 0 then flags ||| locked else flags
  if !(← setTokenFlags e.flags flags) then return (CKR_DEVICE_ERROR, logout sdm)
  if left = 0 then return (CKR_PIN_LOCKED, logout sdm)
  return (if success then CKR_OK else CKR_PIN_INCORRECT, sdm)

/-- `token->getSOPIN(soPINBlob) && token->getUserPIN(userPINBlob)`: the two blobs. -/
def readBlobs : Prog (ByteString × ByteString) := do
  let some soPINBlob ← getSOPIN | return ([], [])
  let userPINBlob ← getUserPIN
  return (soPINBlob, userPINBlob.getD [])

variable (P : Primitives)

def loginSO (r : Draws) (e : ResultWrites) (pin : ByteString) (sdm : SecureDataManager) :
    Prog (CK_RV × SecureDataManager) := do
  if sdm.userLoggedIn then return (CKR_USER_ANOTHER_ALREADY_LOGGED_IN, sdm)
  if sdm.soLoggedIn then return (CKR_USER_ALREADY_LOGGED_IN, sdm)
  if ← pinLocked true then return (CKR_PIN_LOCKED, sdm)
  let (ok, sdm) := SecureDataManager.loginSO P r pin sdm
  pinResult e true ok sdm

def loginUser (r : Draws) (e : ResultWrites) (pin : ByteString) (sdm : SecureDataManager) :
    Prog (CK_RV × SecureDataManager) := do
  if sdm.soLoggedIn then return (CKR_USER_ANOTHER_ALREADY_LOGGED_IN, sdm)
  if sdm.userLoggedIn then return (CKR_USER_ALREADY_LOGGED_IN, sdm)
  if sdm.userEncryptedKey.length = 0 then return (CKR_USER_PIN_NOT_INITIALIZED, sdm)
  if ← pinLocked false then return (CKR_PIN_LOCKED, sdm)
  let (ok, sdm) := SecureDataManager.loginUser P r pin sdm
  pinResult e false ok sdm

def reAuthenticate (e : ResultWrites) (pin : ByteString) (sdm : SecureDataManager) :
    Prog (CK_RV × SecureDataManager) := do
  if sdm.soLoggedIn then
    if ← pinLocked true then return (CKR_PIN_LOCKED, sdm)
    pinResult e true (reAuthenticateSO P pin sdm) sdm
  else if sdm.userLoggedIn then
    if ← pinLocked false then return (CKR_PIN_LOCKED, sdm)
    pinResult e false (reAuthenticateUser P pin sdm) sdm
  else return (CKR_OPERATION_NOT_INITIALIZED, sdm)

def setSOPIN (e : PinEnv) (oldPIN newPIN : ByteString) (sdm : SecureDataManager) :
    Prog (CK_RV × SecureDataManager) := do
  if ← pinLocked true then return (CKR_PIN_LOCKED, sdm)
  let verifier := create e.verifier sdm.soEncryptedKey sdm.userEncryptedKey
  if !(SecureDataManager.loginSO P e.verifier oldPIN verifier).1 then
    pinResult e.result true false sdm
  else
    let (ok, sdm) := SecureDataManager.setSOPIN P e.pbe e.draws newPIN sdm
    if !ok then return (CKR_GENERAL_ERROR, sdm)
    if !(← TokenObject.setSOPIN e.blob e.flags sdm.soEncryptedKey) then
      return (CKR_GENERAL_ERROR, sdm)
    if !(← setPinDefault e.pinDefault CKU_SO (isFactoryPIN newPIN true)) then
      return (CKR_DEVICE_ERROR, sdm)
    let _ ← readBlobs
    pinResult e.result true true sdm

def setUserPIN (e : PinEnv) (oldPIN newPIN : ByteString) (sdm : SecureDataManager) :
    Prog (CK_RV × SecureDataManager) := do
  let stayLoggedIn := sdm.userLoggedIn
  if ← pinLocked false then return (CKR_PIN_LOCKED, sdm)
  let (ok, newSdm) := SecureDataManager.loginUser P e.verifier oldPIN
    (create e.verifier sdm.soEncryptedKey sdm.userEncryptedKey)
  if !ok then pinResult e.result false false sdm
  else
    let (ok, newSdm) := SecureDataManager.setUserPIN P e.pbe e.draws newPIN newSdm
    if !ok then return (CKR_GENERAL_ERROR, sdm)
    if !(← TokenObject.setUserPIN e.blob e.flags newSdm.userEncryptedKey) then
      return (CKR_GENERAL_ERROR, sdm)
    if !(← setPinDefault e.pinDefault CKU_USER (isFactoryPIN newPIN false)) then
      return (CKR_DEVICE_ERROR, sdm)
    let newSdm := if stayLoggedIn then newSdm else logout newSdm
    let _ ← readBlobs
    let (result, newSdm) ← pinResult e.result false true newSdm
    if result ≠ CKR_OK then return (result, newSdm)
    if !(← setUserPinExpired e.expired false) then return (CKR_DEVICE_ERROR, newSdm)
    return (CKR_OK, newSdm)

/-- The last lines of `initUserPIN` and of `unblockUserPIN`: the user's attempts are all
there again. -/
def refillUser (policy flags : Write) (sdm : SecureDataManager) :
    Prog (CK_RV × SecureDataManager) := do
  let some p ← getPinPolicy | return (CKR_DEVICE_ERROR, sdm)
  let some f ← getTokenFlags | return (CKR_DEVICE_ERROR, sdm)
  if !(← setPinPolicy policy { p with leftUser := p.maxUser }) then
    return (CKR_DEVICE_ERROR, sdm)
  let f := f &&& ~~~(CKF_USER_PIN_COUNT_LOW ||| CKF_USER_PIN_FINAL_TRY ||| CKF_USER_PIN_LOCKED)
  if !(← setTokenFlags flags f) then return (CKR_DEVICE_ERROR, sdm)
  return (CKR_OK, sdm)

def initUserPIN (e : PinEnv) (pin : ByteString) (sdm : SecureDataManager) :
    Prog (CK_RV × SecureDataManager) := do
  let (ok, sdm) := SecureDataManager.setUserPIN P e.pbe e.draws pin sdm
  if !ok then return (CKR_GENERAL_ERROR, sdm)
  if !(← TokenObject.setUserPIN e.blob e.flags sdm.userEncryptedKey) then
    return (CKR_GENERAL_ERROR, sdm)
  if !(← setPinDefault e.pinDefault CKU_USER (isFactoryPIN pin false)) then
    return (CKR_DEVICE_ERROR, sdm)
  let _ ← readBlobs
  refillUser e.policy e.policyFlags sdm

def unblockUserPIN (policy flags : Write) (sdm : SecureDataManager) :
    Prog (CK_RV × SecureDataManager) :=
  if !sdm.soLoggedIn then return (CKR_USER_NOT_LOGGED_IN, sdm)
  else refillUser policy flags sdm

/-! ### Local PINs -/

/-- The end of a round of `setLocalPIN`: the record that was read is replaced. -/
def replaceLocalPIN (e : LocalEnv) (id : ℕ) (newPIN record : ByteString)
    (sdm : SecureDataManager) : Prog (Option CK_RV × SecureDataManager) := do
  let (ok, replacement) := SecureDataManager.setSOPIN P e.pbe e.replacement newPIN
    (blank e.replacement)
  if !ok then return (some CKR_DEVICE_ERROR, sdm)
  let next := [1, 10, 10] ++ replacement.soEncryptedKey
  match ← updateLocalPIN e.update id record next (some (isFactoryPIN newPIN false)) with
  | none => return (some CKR_DEVICE_ERROR, sdm)
  | some true => return (some CKR_OK, sdm)
  | some false => return (none, sdm)

/-- One round of `setLocalPIN`; without an answer, there is another. -/
def setLocalPINRound (e : LocalEnv) (id : ℕ) (currentPIN newPIN : ByteString)
    (sdm : SecureDataManager) : Prog (Option CK_RV × SecureDataManager) := do
  let some stored ← getLocalPIN id | return (some CKR_DEVICE_ERROR, sdm)
  match stored with
  | some record =>
    if record.length < 43 || byte record 0 != 1 || byte record 1 != 10 || byte record 2 > 10 then
      return (some CKR_DEVICE_ERROR, sdm)
    if byte record 2 = 0 then return (some CKR_PIN_LOCKED, sdm)
    let verifier := create e.verifier (ByteString.substrFrom record 3) []
    if !(SecureDataManager.loginSO P e.verifier currentPIN verifier).1 then
      match ← updateLocalPIN e.update id record (record.set 2 (byte record 2 - 1)) none with
      | none => return (some CKR_DEVICE_ERROR, sdm)
      | some true => return (some CKR_PIN_INCORRECT, sdm)
      | some false => return (none, sdm)
    else replaceLocalPIN P e id newPIN record sdm
  | none =>
    if ← pinLocked false then return (some CKR_PIN_LOCKED, sdm)
    let some soBlob ← getSOPIN | return (some CKR_DEVICE_ERROR, sdm)
    let some userBlob ← getUserPIN | return (some CKR_DEVICE_ERROR, sdm)
    let verifier := create e.verifier soBlob userBlob
    let ok := (SecureDataManager.loginUser P e.verifier currentPIN verifier).1
    let (rv, sdm) ← pinResult e.result false ok sdm
    if rv ≠ CKR_OK then return (some rv, sdm)
    replaceLocalPIN P e id newPIN [] sdm

def setLocalPINRounds (id : ℕ) (currentPIN newPIN : ByteString) :
    List LocalEnv → SecureDataManager → Prog (CK_RV × SecureDataManager)
  | [], sdm => return (CKR_DEVICE_ERROR, sdm)
  | e :: es, sdm => do
    match ← setLocalPINRound P e id currentPIN newPIN sdm with
    | (some rv, sdm) => return (rv, sdm)
    | (none, sdm) => setLocalPINRounds id currentPIN newPIN es sdm

/-- `setLocalPIN`, with the environments of its 16 rounds. -/
def setLocalPIN (e : ℕ → LocalEnv) (id : ℕ) (currentPIN newPIN : ByteString)
    (sdm : SecureDataManager) : Prog (CK_RV × SecureDataManager) := do
  let some policy ← getPinPolicy | return (CKR_DEVICE_ERROR, sdm)
  if newPIN.length < policy.minLength.toNat || newPIN.length > 249 then
    return (CKR_PIN_LEN_RANGE, sdm)
  setLocalPINRounds P id currentPIN newPIN ((List.range 16).map e) sdm

/-! ### Formats -/

/-- The last lines of `createToken`: the policy and the mark, and a manager over the blobs
that are stored. -/
def storePolicy (e : FormatEnv) (newPolicy : PinPolicy) (soPIN : ByteString)
    (sdm : Option SecureDataManager) : Prog (CK_RV × Option SecureDataManager) := do
  if !(← setPinPolicy e.policy newPolicy) then return (CKR_DEVICE_ERROR, sdm)
  if !(← setPinDefault e.soDefault CKU_SO (isFactoryPIN soPIN true)) then
    return (CKR_DEVICE_ERROR, sdm)
  let (soPINBlob, userPINBlob) ← readBlobs
  return (CKR_OK, some (create e.rebuilt soPINBlob userPINBlob))

/-- `createToken` on a token that exists: nothing where the source follows a null pointer. -/
def recreate (e : FormatEnv) (newPolicy : PinPolicy) (soPIN label : ByteString)
    (sdm : Option SecureDataManager) : Prog (Option (CK_RV × Option SecureDataManager)) := do
  if ← pinLocked true then return some (CKR_PIN_LOCKED, sdm)
  let some flags ← getTokenFlags | return some (CKR_GENERAL_ERROR, sdm)
  match sdm with
  | none => return none
  | some sdm =>
    let (ok, sdm) :=
      if sdm.soEncryptedKey.length > 0 then SecureDataManager.loginSO P e.verifier soPIN sdm
      else (true, sdm)
    if !ok then
      let (rv, sdm) ← pinResult e.result true false sdm
      return some (rv, some sdm)
    -- whether the flags were stored is not looked at
    let _ ← setTokenFlags e.flags (flags &&& ~~~CKF_SO_PIN_COUNT_LOW)
    if !(← resetToken e.reset label) then return some (CKR_DEVICE_ERROR, some sdm)
    return some (← storePolicy e newPolicy soPIN (some sdm))

/-- `createToken` on a slot without token: one that does not get its blob is destroyed. -/
def createNew (e : FormatEnv) (newPolicy : PinPolicy) (soPIN label : ByteString) :
    CK_RV × Option Token :=
  let (ok, gen) := SecureDataManager.setSOPIN P e.pbe e.draws soPIN (blank e.draws)
  if !ok then (CKR_GENERAL_ERROR, none)
  else if !e.newToken then (CKR_DEVICE_ERROR, none)
  else
    let (ok, token) := (TokenObject.setSOPIN e.soBlob e.soFlags gen.soEncryptedKey).run
      ⟨some (created label), created label, true⟩
    if !ok then (CKR_DEVICE_ERROR, none)
    else
      let ((rv, sdm), token) := (storePolicy e newPolicy soPIN none).run token
      (rv, some ⟨token, sdm⟩)

/-- `createToken` on a slot, with the text of `SOFTHSM2_INIT_PIN_POLICY`. -/
def createToken (e : FormatEnv) (requested : Option ByteString) (soPIN : ByteString)
    (label : Option ByteString) (s : Option Token) : Option (CK_RV × Option Token) :=
  match newPolicy requested with
  | none => some (CKR_ARGUMENTS_BAD, s)
  | some newPolicy =>
    if soPIN.length < newPolicy.minSOLength.toNat || soPIN.length > newPolicy.maxLength.toNat then
      some (CKR_PIN_LEN_RANGE, s)
    else
      match label, s with
      | none, s => some (CKR_ARGUMENTS_BAD, s)
      | some label, none => some (createNew P e newPolicy soPIN label)
      | some label, some t =>
        let (r, token) := (recreate P e newPolicy soPIN label t.sdm).run t.token
        r.map fun (rv, sdm) => (rv, some ⟨token, sdm⟩)

/-- The first part of `initTokenExtended`: an answer where the format is refused. -/
def authorise (e : FormatEnv) (repairMode : Bool) (soPIN : ByteString)
    (sdm : Option SecureDataManager) : Prog (Option CK_RV × Option SecureDataManager) := do
  if repairMode then
    if !(← pinLocked true) then return (some CKR_PIN_LEN_RANGE, sdm)
    return (none, sdm)
  match sdm with
  | none => return (none, none)
  | some sdm =>
    if sdm.soEncryptedKey.length = 0 then return (none, some sdm)
    if ← pinLocked true then return (some CKR_PIN_LOCKED, some sdm)
    let verifier := create e.verifier sdm.soEncryptedKey sdm.userEncryptedKey
    if !(SecureDataManager.loginSO P e.verifier soPIN verifier).1 then
      let (rv, sdm) ← pinResult e.result true false sdm
      return (some rv, some sdm)
    return (none, some sdm)

/-- The fresh master key of `initTokenExtended`, sealed under both new PINs. -/
def freshKey (e : FormatEnv) (newSOPIN newUserPIN : ByteString) : Option SecureDataManager :=
  let (ok, gen) := SecureDataManager.setSOPIN P e.pbe e.draws newSOPIN (blank e.draws)
  if !ok then none
  else
    let (ok, gen) := SecureDataManager.loginSO P e.login newSOPIN gen
    if !ok then none
    else
      let (ok, gen) := SecureDataManager.setUserPIN P e.userPbe e.userDraws newUserPIN gen
      if !ok then none else some (logout gen)

def storePINs (e : FormatEnv) (gen : SecureDataManager) : Prog Bool := do
  if !(← TokenObject.setSOPIN e.soBlob e.soFlags gen.soEncryptedKey) then return false
  TokenObject.setUserPIN e.userBlob e.userFlags gen.userEncryptedKey

/-- The last lines of `initTokenExtended`. -/
def storeParameters (e : FormatEnv) (c : CK_RUTOKEN_INIT_PARAM.Checked)
    (sdm : Option SecureDataManager) : Prog (CK_RV × Option SecureDataManager) := do
  if !(← setPinPolicy e.policy c.policy) then return (CKR_DEVICE_ERROR, sdm)
  if !(← setPinDefault e.soDefault CKU_SO (isFactoryPIN c.newSOPIN true)) then
    return (CKR_DEVICE_ERROR, sdm)
  if !(← setPinDefault e.userDefault CKU_USER (isFactoryPIN c.newUserPIN false)) then
    return (CKR_DEVICE_ERROR, sdm)
  let (soPINBlob, userPINBlob) ← readBlobs
  return (CKR_OK, some (create e.rebuilt soPINBlob userPINBlob))

/-- `initTokenExtended` on a token that exists. -/
def reformat (e : FormatEnv) (soPIN : ByteString) (c : CK_RUTOKEN_INIT_PARAM.Checked)
    (sdm : Option SecureDataManager) : Prog (CK_RV × Option SecureDataManager) := do
  match ← authorise P e c.repairMode soPIN sdm with
  | (some rv, sdm) => return (rv, sdm)
  | (none, sdm) =>
    match freshKey P e c.newSOPIN c.newUserPIN with
    | none => return (CKR_GENERAL_ERROR, sdm)
    | some gen =>
      if !(← resetToken e.reset c.label) then return (CKR_DEVICE_ERROR, sdm)
      if !(← storePINs e gen) then return (CKR_DEVICE_ERROR, sdm)
      storeParameters e c sdm

/-- `initTokenExtended` on a slot without token. -/
def initNew (e : FormatEnv) (c : CK_RUTOKEN_INIT_PARAM.Checked) : CK_RV × Option Token :=
  match freshKey P e c.newSOPIN c.newUserPIN with
  | none => (CKR_GENERAL_ERROR, none)
  | some gen =>
    if !e.newToken then (CKR_DEVICE_ERROR, none)
    else
      let (ok, token) := (storePINs e gen).run ⟨some (created c.label), created c.label, true⟩
      if !ok then (CKR_DEVICE_ERROR, none)
      else
        let ((rv, sdm), token) := (storeParameters e c none).run token
        (rv, some ⟨token, sdm⟩)

/-- `initTokenExtended` on a slot, with parameters that `C_EX_InitToken` has checked. -/
def initTokenExtended (e : FormatEnv) (soPIN : ByteString) (c : CK_RUTOKEN_INIT_PARAM.Checked) :
    Option Token → CK_RV × Option Token
  | none => initNew P e c
  | some t =>
    let ((rv, sdm), token) := (reformat P e soPIN c t.sdm).run t.token
    (rv, some ⟨token, sdm⟩)

/-! ### Requests -/

/-- The operations on a token that has a manager, with what each draws and how its steps turn
out. -/
inductive Request
  | loginSO (r : Draws) (e : ResultWrites) (pin : ByteString)
  | loginUser (r : Draws) (e : ResultWrites) (pin : ByteString)
  | reAuthenticate (e : ResultWrites) (pin : ByteString)
  | logout
  | setSOPIN (e : PinEnv) (oldPIN newPIN : ByteString)
  | setUserPIN (e : PinEnv) (oldPIN newPIN : ByteString)
  | initUserPIN (e : PinEnv) (pin : ByteString)
  | unblockUserPIN (policy flags : Write)
  | setLocalPIN (e : ℕ → LocalEnv) (id : ℕ) (currentPIN newPIN : ByteString)

namespace Request

/-- The answer where there is no manager. -/
def null : Request → CK_RV
  | .unblockUserPIN _ _ => CKR_USER_NOT_LOGGED_IN
  | .setLocalPIN _ _ _ _ => CKR_TOKEN_NOT_PRESENT
  | .logout => CKR_OK
  | _ => CKR_GENERAL_ERROR

def prog : Request → SecureDataManager → Prog (CK_RV × SecureDataManager)
  | .loginSO r e pin => Token.loginSO P r e pin
  | .loginUser r e pin => Token.loginUser P r e pin
  | .reAuthenticate e pin => Token.reAuthenticate P e pin
  | .logout => fun sdm => return (CKR_OK, sdm.logout)
  | .setSOPIN e oldPIN newPIN => Token.setSOPIN P e oldPIN newPIN
  | .setUserPIN e oldPIN newPIN => Token.setUserPIN P e oldPIN newPIN
  | .initUserPIN e pin => Token.initUserPIN P e pin
  | .unblockUserPIN policy flags => Token.unblockUserPIN policy flags
  | .setLocalPIN e id currentPIN newPIN => Token.setLocalPIN P e id currentPIN newPIN

end Request

end Token

end SoftHSM
