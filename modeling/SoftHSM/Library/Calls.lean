import Mathlib.Data.Finset.Sort
import SoftHSM.HandleMgr.HandleManager
import SoftHSM.ObjectStore.SessionObjectStore
import SoftHSM.SessionMgr.SessionManager
import SoftHSM.SlotMgr.Token

/-!
The library that one process has initialised: its slots, its sessions, its handles and its
session objects, and the calls that change them.

Slots are numbered as the slot manager does it; the numbers that the Rutoken profile shows are
translated before. A session is known to the handle manager by its place in the session
manager, an object by its address. What comes from outside is with the call: the random bytes,
how the writes turn out, and what the attributes of an object say. A call that follows a
pointer to nothing has no result.
-/

namespace SoftHSM

open CK_RV CK_STATE Token

def CKU_CONTEXT_SPECIFIC : ℕ := 2

/-- The handle of the hardware-feature object of the profile. -/
def FAKE_RUTOKEN_FEATURE_HANDLE : ℕ := 0x52544B48

structure Library (Obj : Type) where
  fakeRutokenECP : Bool
  /-- the slots there are, each with its token if that is initialised -/
  slots : CK_SLOT_ID → Option (Option Token)
  /-- the slot whose token has the object -/
  tokenObjects : Obj → Option CK_SLOT_ID
  sessionManager : SessionManager
  handleManager : HandleManager Obj ℕ
  sessionObjectStore : SessionObjectStore Obj

/-- What an object says when it is asked. -/
structure Asked where
  isValid : Bool
  CKA_TOKEN : Bool
  CKA_PRIVATE : Bool

/-- How the making of an object turns out. -/
structure NewObject (Obj : Type) where
  /-- what the checks of the template say, before access is checked and after -/
  template : CK_RV
  p11object : CK_RV
  /-- the address it gets, if it can be made -/
  object : Option Obj
  init : Bool
  /-- the storing of its attributes -/
  saved : CK_RV
  /-- whether a token object that is not complete could be removed -/
  removed : Bool

namespace Library

variable {Obj : Type} [LinearOrder Obj]

def getToken (l : Library Obj) (slotID : CK_SLOT_ID) : Option Token := (l.slots slotID).join

def setToken (l : Library Obj) (slotID : CK_SLOT_ID) (token : Option Token) : Library Obj :=
  { l with slots := Function.update l.slots slotID (some token) }

/-- The session behind a handle, with its place: no result where the place is empty. -/
def getSession (l : Library Obj) (hSession : ℕ) : Option (Option (ℕ × Session)) :=
  match l.handleManager.getSession hSession with
  | none => some none
  | some place => (l.sessionManager.getSession place).map fun session => some (place, session)

def getState (l : Library Obj) (session : Session) : CK_STATE :=
  session.getState (isSOLoggedIn (l.getToken session.slotID))
    (isUserLoggedIn (l.getToken session.slotID))

/-- `Token::getPinPolicy`. -/
def getPinPolicy (l : Library Obj) (slotID : CK_SLOT_ID) : Option PinPolicy :=
  (l.getToken slotID).bind fun t => (TokenObject.getPinPolicy.run t.token).1

variable (P : Primitives)

/-- An operation on the token of a slot. -/
def request (l : Library Obj) (slotID : CK_SLOT_ID) (q : Token.Request) : CK_RV × Library Obj :=
  let (rv, token) := Token.call q.null (q.prog P) (l.getToken slotID)
  (rv, l.setToken slotID token)

def logout (l : Library Obj) (slotID : CK_SLOT_ID) : Library Obj :=
  (l.request P slotID .logout).2

/-! ### Sessions -/

def C_OpenSession (l : Library Obj) (slotID : CK_SLOT_ID) (serial rw : Bool) :
    CK_RV × ℕ × Library Obj :=
  match l.slots slotID with
  | none => (CKR_SLOT_ID_INVALID, CK_INVALID_HANDLE, l)
  | some token =>
    let (rv, place, sessionManager) :=
      l.sessionManager.openSession slotID token.isSome (isSOLoggedIn token) serial rw
    if rv ≠ CKR_OK then (rv, CK_INVALID_HANDLE, l)
    else
      let (hSession, handleManager) := l.handleManager.addSession slotID place
      (CKR_OK, hSession,
        { l with sessionManager := sessionManager, handleManager := handleManager })

def C_CloseSession (l : Library Obj) (hSession : ℕ) : Option (CK_RV × Library Obj) := do
  let some (place, _) ← l.getSession hSession | return (CKR_SESSION_HANDLE_INVALID, l)
  let (rv, lastOn, sessionManager) := l.sessionManager.closeSession place
  let l := { l with
    handleManager := (l.handleManager.sessionClosed hSession).1
    sessionObjectStore := (l.sessionObjectStore.sessionClosed hSession).1
    sessionManager := sessionManager }
  match lastOn with
  | none => return (rv, l)
  | some slotID => return (rv, l.logout P slotID)

def C_CloseAllSessions (l : Library Obj) (slotID : CK_SLOT_ID) : CK_RV × Library Obj :=
  match l.slots slotID with
  | none => (CKR_SLOT_ID_INVALID, l)
  | some _ =>
    let l := { l with
      handleManager := (l.handleManager.allSessionsClosed slotID).1
      sessionObjectStore := (l.sessionObjectStore.allSessionsClosed slotID).1
      sessionManager := l.sessionManager.closeAllSessions slotID }
    (CKR_OK, l.logout P slotID)

/-- What the other calls on a session do to its operation. -/
def setOperation (l : Library Obj) (hSession : ℕ) (active reAuthentication : Bool) :
    Option (CK_RV × Library Obj) := do
  let some (place, _) ← l.getSession hSession | return (CKR_SESSION_HANDLE_INVALID, l)
  return (CKR_OK, { l with
    sessionManager := l.sessionManager.setOperation place active reAuthentication })

/-! ### Logins and PINs -/

/-- What the checks of a call come to: an answer, or an operation on the token of a slot. -/
inductive Checked
  | answer (rv : CK_RV)
  | request (slotID : CK_SLOT_ID) (q : Token.Request)

def perform (l : Library Obj) : Checked → CK_RV × Library Obj
  | .answer rv => (rv, l)
  | .request slotID q => l.request P slotID q

def checkLogin (l : Library Obj) (r : Draws) (e : ResultWrites) (hSession userType : ℕ)
    (pPin : Option ByteString) : Option Checked := do
  let some (_, session) ← l.getSession hSession | return .answer CKR_SESSION_HANDLE_INVALID
  let some pin := pPin | return .answer CKR_ARGUMENTS_BAD
  if userType = CKU_SO then
    if l.sessionManager.haveROSession session.slotID then
      return .answer CKR_SESSION_READ_ONLY_EXISTS
    return .request session.slotID (.loginSO r e pin)
  else if userType = CKU_USER then return .request session.slotID (.loginUser r e pin)
  else if userType = CKU_CONTEXT_SPECIFIC then
    if !session.reAuthentication then return .answer CKR_OPERATION_NOT_INITIALIZED
    return .request session.slotID (.reAuthenticate e pin)
  else return .answer CKR_USER_TYPE_INVALID

/-- `session->setReAuthentication(false)`. -/
def clearReAuthentication (l : Library Obj) (hSession : ℕ) : Library Obj :=
  match l.getSession hSession with
  | some (some (place, session)) =>
    { l with sessionManager := l.sessionManager.setOperation place session.active false }
  | _ => l

def C_Login (l : Library Obj) (r : Draws) (e : ResultWrites) (hSession userType : ℕ)
    (pPin : Option ByteString) : Option (CK_RV × Library Obj) := do
  let (rv, l) := l.perform P (← l.checkLogin r e hSession userType pPin)
  if userType = CKU_CONTEXT_SPECIFIC && rv = CKR_OK then
    return (rv, l.clearReAuthentication hSession)
  return (rv, l)

def C_Logout (l : Library Obj) (hSession : ℕ) : Option (CK_RV × Library Obj) := do
  let some (_, session) ← l.getSession hSession | return (CKR_SESSION_HANDLE_INVALID, l)
  let l := l.logout P session.slotID
  return (CKR_OK, { l with
    handleManager := (l.handleManager.tokenLoggedOut session.slotID).1
    sessionObjectStore := (l.sessionObjectStore.tokenLoggedOut session.slotID).1 })

def checkInitPIN (l : Library Obj) (e : PinEnv) (hSession : ℕ) (pPin : Option ByteString) :
    Option Checked := do
  let some (_, session) ← l.getSession hSession | return .answer CKR_SESSION_HANDLE_INVALID
  if l.getState session ≠ CKS_RW_SO_FUNCTIONS then return .answer CKR_USER_NOT_LOGGED_IN
  let some userPIN := pPin | return .answer CKR_ARGUMENTS_BAD
  let some policy := l.getPinPolicy session.slotID | return .answer CKR_DEVICE_ERROR
  if l.fakeRutokenECP &&
      policy.changeUserPINPolicy &&& TOKEN_FLAGS_ADMIN_CHANGE_USER_PIN.toUInt8 = 0 then
    return .answer CKR_USER_NOT_LOGGED_IN
  if userPIN.length < policy.minLength.toNat || userPIN.length > policy.maxLength.toNat then
    return .answer CKR_PIN_LEN_RANGE
  return .request session.slotID (.initUserPIN e userPIN)

def C_InitPIN (l : Library Obj) (e : PinEnv) (hSession : ℕ) (pPin : Option ByteString) :
    Option (CK_RV × Library Obj) := (l.checkInitPIN e hSession pPin).map (l.perform P)

def checkSetPIN (l : Library Obj) (e : PinEnv) (hSession : ℕ)
    (pOldPin pNewPin : Option ByteString) : Option Checked := do
  let some (_, session) ← l.getSession hSession | return .answer CKR_SESSION_HANDLE_INVALID
  let some oldPIN := pOldPin | return .answer CKR_ARGUMENTS_BAD
  let some newPIN := pNewPin | return .answer CKR_ARGUMENTS_BAD
  let some policy := l.getPinPolicy session.slotID | return .answer CKR_DEVICE_ERROR
  let changingSO := l.getState session = CKS_RW_SO_FUNCTIONS
  if l.fakeRutokenECP && !changingSO &&
      policy.changeUserPINPolicy &&& TOKEN_FLAGS_USER_CHANGE_USER_PIN.toUInt8 = 0 then
    return .answer CKR_USER_NOT_LOGGED_IN
  if newPIN.length < (if changingSO then policy.minSOLength else policy.minLength).toNat ||
      newPIN.length > policy.maxLength.toNat then
    return .answer CKR_PIN_LEN_RANGE
  match l.getState session with
  | CKS_RW_PUBLIC_SESSION | CKS_RW_USER_FUNCTIONS =>
    return .request session.slotID (.setUserPIN e oldPIN newPIN)
  | CKS_RW_SO_FUNCTIONS => return .request session.slotID (.setSOPIN e oldPIN newPIN)
  | _ => return .answer CKR_SESSION_READ_ONLY

def C_SetPIN (l : Library Obj) (e : PinEnv) (hSession : ℕ)
    (pOldPin pNewPin : Option ByteString) : Option (CK_RV × Library Obj) :=
  (l.checkSetPIN e hSession pOldPin pNewPin).map (l.perform P)

def checkUnblockUserPIN (l : Library Obj) (policy flags : RecordFile.Write) (hSession : ℕ) :
    Option Checked := do
  if !l.fakeRutokenECP then return .answer CKR_FUNCTION_NOT_SUPPORTED
  let some (_, session) ← l.getSession hSession | return .answer CKR_SESSION_HANDLE_INVALID
  if l.getState session ≠ CKS_RW_SO_FUNCTIONS then return .answer CKR_USER_NOT_LOGGED_IN
  return .request session.slotID (.unblockUserPIN policy flags)

def C_EX_UnblockUserPIN (l : Library Obj) (policy flags : RecordFile.Write) (hSession : ℕ) :
    Option (CK_RV × Library Obj) :=
  (l.checkUnblockUserPIN policy flags hSession).map (l.perform P)

def checkSetLocalPIN (l : Library Obj) (e : ℕ → LocalEnv) (slotID : CK_SLOT_ID)
    (pUserPin pNewLocalPin : Option ByteString) (ulLocalID : ℕ) : Checked :=
  if !l.fakeRutokenECP then .answer CKR_FUNCTION_NOT_SUPPORTED
  else if (l.slots slotID).isNone then .answer CKR_TOKEN_NOT_PRESENT
  else
    match pUserPin, pNewLocalPin with
    | some currentPIN, some newPIN =>
      if ulLocalID < 3 || ulLocalID > 31 || newPIN.length = 0 || newPIN.length > 249 then
        .answer CKR_ARGUMENTS_BAD
      else .request slotID (.setLocalPIN e ulLocalID currentPIN newPIN)
    | _, _ => .answer CKR_ARGUMENTS_BAD

def C_EX_SetLocalPIN (l : Library Obj) (e : ℕ → LocalEnv) (slotID : CK_SLOT_ID)
    (pUserPin pNewLocalPin : Option ByteString) (ulLocalID : ℕ) : CK_RV × Library Obj :=
  l.perform P (l.checkSetLocalPIN e slotID pUserPin pNewLocalPin ulLocalID)

/-! ### Formats -/

/-- The check of the profile that `C_InitToken` makes before it looks at the PIN. -/
def rejectsInit (l : Library Obj) (slotID : CK_SLOT_ID) : Option CK_RV :=
  if l.fakeRutokenECP && (l.getToken slotID).isSome then
    match l.getPinPolicy slotID with
    | none => some CKR_DEVICE_ERROR
    | some policy =>
      if policy.changeUserPINPolicy &&& TOKEN_FLAGS_ADMIN_CHANGE_USER_PIN.toUInt8 = 0 then
        some CKR_FUNCTION_REJECTED
      else none
  else none

/-- `C_InitToken`, with the text of `SOFTHSM2_INIT_PIN_POLICY`. -/
def C_InitToken (l : Library Obj) (e : FormatEnv) (requested : Option ByteString)
    (slotID : CK_SLOT_ID) (pPin pLabel : Option ByteString) : Option (CK_RV × Library Obj) := do
  let some token := l.slots slotID | return (CKR_SLOT_ID_INVALID, l)
  if l.sessionManager.haveSession slotID then return (CKR_SESSION_EXISTS, l)
  match l.rejectsInit slotID with
  | some rv => return (rv, l)
  | none =>
    let some soPIN := pPin | return (CKR_ARGUMENTS_BAD, l)
    let (rv, token) ← Token.createToken P e requested soPIN pLabel token
    return (rv, l.setToken slotID token)

def C_EX_InitToken (l : Library Obj) (e : FormatEnv) (slotID : CK_SLOT_ID)
    (pPin : Option ByteString) (pInitInfo : Option CK_RUTOKEN_INIT_PARAM) :
    CK_RV × Library Obj :=
  if !l.fakeRutokenECP then (CKR_FUNCTION_NOT_SUPPORTED, l)
  else
    match l.slots slotID with
    | none => (CKR_SLOT_ID_INVALID, l)
    | some token =>
      if l.sessionManager.haveSession slotID then (CKR_SESSION_EXISTS, l)
      else
        match pInitInfo.bind (·.check) with
        | none => (CKR_ARGUMENTS_BAD, l)
        | some c =>
          let (rv, token) := Token.initTokenExtended P e (pPin.getD []) c token
          (rv, l.setToken slotID token)

/-- `C_GetSlotList` sees to it that there is a slot without token. -/
def insertToken (l : Library Obj) (slotID : CK_SLOT_ID) : Library Obj :=
  if (l.slots slotID).isNone then l.setToken slotID none else l

/-! ### Objects -/

/-- The object is made on the token or in the session. -/
def makeObject (l : Library Obj) (slotID hSession : ℕ) (isOnToken isPrivate : Bool)
    (object : Obj) : Library Obj :=
  if isOnToken then
    { l with tokenObjects := Function.update l.tokenObjects object (some slotID) }
  else
    { l with sessionObjectStore :=
        l.sessionObjectStore.createObject slotID hSession isPrivate object }

/-- The handle of an object. -/
def addObject (m : HandleManager Obj ℕ) (slotID hSession : ℕ) (isOnToken isPrivate : Bool)
    (object : Obj) : ℕ × HandleManager Obj ℕ :=
  if isOnToken then m.addTokenObject slotID isPrivate object
  else
    let r := m.addSessionObject slotID hSession isPrivate object
    (r.1, r.2.1)

/-- `destroyObject` of an object: one of a token, if its file could be removed, keeps its
address. -/
def destroyObject (l : Library Obj) (removed : Bool) (object : Obj) : Bool × Library Obj :=
  if (l.tokenObjects object).isSome then (removed, l)
  else
    let r := l.sessionObjectStore.deleteObject object
    (r.1, { l with sessionObjectStore := r.2.1 })

def CreateObject (l : Library Obj) (e : NewObject Obj) (hSession : ℕ)
    (isOnToken isPrivate : Bool) : Option (CK_RV × ℕ × Library Obj) := do
  let some (_, session) ← l.getSession hSession
    | return (CKR_SESSION_HANDLE_INVALID, CK_INVALID_HANDLE, l)
  if e.template ≠ CKR_OK then return (e.template, CK_INVALID_HANDLE, l)
  let rv := haveWrite (l.getState session) isOnToken isPrivate
  if rv ≠ CKR_OK then return (rv, CK_INVALID_HANDLE, l)
  if e.p11object ≠ CKR_OK then return (e.p11object, CK_INVALID_HANDLE, l)
  let some object := e.object | return (CKR_GENERAL_ERROR, CK_INVALID_HANDLE, l)
  let l := l.makeObject session.slotID hSession isOnToken isPrivate object
  -- an object that is not complete stays where it is, without a handle
  if !e.init then return (CKR_GENERAL_ERROR, CK_INVALID_HANDLE, l)
  if e.saved ≠ CKR_OK then return (e.saved, CK_INVALID_HANDLE, l)
  let (hObject, handleManager) :=
    addObject l.handleManager session.slotID hSession isOnToken isPrivate object
  return (CKR_OK, hObject, { l with handleManager := handleManager })

/-- `C_CopyObject`, with what the original says and what the template says in its place. -/
def C_CopyObject (l : Library Obj) (e : NewObject Obj) (original : Asked) (isCopyable : Bool)
    (hSession hObject : ℕ) (onToken priv : Option Bool) :
    Option (CK_RV × ℕ × Library Obj) := do
  let some (_, session) ← l.getSession hSession
    | return (CKR_SESSION_HANDLE_INVALID, CK_INVALID_HANDLE, l)
  if (l.handleManager.getObject hObject).isNone || !original.isValid then
    return (CKR_OBJECT_HANDLE_INVALID, CK_INVALID_HANDLE, l)
  let rv := haveRead (l.getState session) original.CKA_TOKEN original.CKA_PRIVATE
  if rv ≠ CKR_OK then return (rv, CK_INVALID_HANDLE, l)
  if !isCopyable then return (CKR_ACTION_PROHIBITED, CK_INVALID_HANDLE, l)
  let isOnToken := onToken.getD original.CKA_TOKEN
  let isPrivate := priv.getD original.CKA_PRIVATE
  if original.CKA_PRIVATE && !isPrivate then
    return (CKR_TEMPLATE_INCONSISTENT, CK_INVALID_HANDLE, l)
  let rv := haveWrite (l.getState session) isOnToken isPrivate
  if rv ≠ CKR_OK then return (rv, CK_INVALID_HANDLE, l)
  let some newobject := e.object | return (CKR_GENERAL_ERROR, CK_INVALID_HANDLE, l)
  let l := l.makeObject session.slotID hSession isOnToken isPrivate newobject
  if !e.init then
    return (CKR_FUNCTION_FAILED, CK_INVALID_HANDLE, (l.destroyObject e.removed newobject).2)
  if e.saved ≠ CKR_OK then
    return (e.saved, CK_INVALID_HANDLE, (l.destroyObject e.removed newobject).2)
  let (phNewObject, handleManager) :=
    addObject l.handleManager session.slotID hSession isOnToken isPrivate newobject
  return (CKR_OK, phNewObject, { l with handleManager := handleManager })

/-- `C_DestroyObject`, with what the object says. -/
def C_DestroyObject (l : Library Obj) (asked : Asked) (isDestroyable removed : Bool)
    (hSession hObject : ℕ) : Option (CK_RV × Library Obj) := do
  let some (_, session) ← l.getSession hSession | return (CKR_SESSION_HANDLE_INVALID, l)
  if l.fakeRutokenECP && hObject = FAKE_RUTOKEN_FEATURE_HANDLE then
    return (CKR_ACTION_PROHIBITED, l)
  let some object := l.handleManager.getObject hObject | return (CKR_OBJECT_HANDLE_INVALID, l)
  if !asked.isValid then return (CKR_OBJECT_HANDLE_INVALID, l)
  let rv := haveWrite (l.getState session) asked.CKA_TOKEN asked.CKA_PRIVATE
  if rv ≠ CKR_OK then return (rv, l)
  if !isDestroyable then return (CKR_ACTION_PROHIBITED, l)
  let l := { l with handleManager := (l.handleManager.destroyObject hObject).1 }
  let (ok, l) := l.destroyObject removed object
  return (if ok then CKR_OK else CKR_FUNCTION_FAILED, l)

/-- The loop of `C_FindObjectsInit` over the objects it has found: whether an object matches is
nothing where one of its attributes cannot be decrypted. -/
def findObjects (ask : Obj → Asked) (matching : Obj → Option Bool) (slotID hSession : ℕ)
    (isPublicSession : Bool) : List Obj → HandleManager Obj ℕ → CK_RV × HandleManager Obj ℕ
  | [], m => (CKR_OK, m)
  | o :: os, m =>
    if !(ask o).isValid || isPublicSession && (ask o).CKA_PRIVATE then
      findObjects ask matching slotID hSession isPublicSession os m
    else
      match matching o with
      | none => (CKR_GENERAL_ERROR, m)
      | some false => findObjects ask matching slotID hSession isPublicSession os m
      | some true =>
        let (hObject, m) := addObject m slotID hSession (ask o).CKA_TOKEN (ask o).CKA_PRIVATE o
        if hObject = CK_INVALID_HANDLE then (CKR_GENERAL_ERROR, m)
        else findObjects ask matching slotID hSession isPublicSession os m

/-- `C_FindObjectsInit`, with the objects that the token has and what they all say. -/
def C_FindObjectsInit (l : Library Obj) (tokenObjects : Finset Obj) (ask : Obj → Asked)
    (matching : Obj → Option Bool) (hSession : ℕ) : Option (CK_RV × Library Obj) := do
  let some (place, session) ← l.getSession hSession | return (CKR_SESSION_HANDLE_INVALID, l)
  let isPublicSession :=
    match l.getState session with
    | CKS_RO_USER_FUNCTIONS | CKS_RW_USER_FUNCTIONS => false
    | _ => true
  if session.active then return (CKR_OPERATION_ACTIVE, l)
  let allObjects := tokenObjects ∪ l.sessionObjectStore.getObjects session.slotID
  let (rv, handleManager) := findObjects ask matching session.slotID hSession isPublicSession
    allObjects.sort l.handleManager
  return (rv, { l with
    tokenObjects := fun o => if o ∈ tokenObjects then some session.slotID else l.tokenObjects o
    sessionManager := l.sessionManager.setOperation place true session.reAuthentication
    handleManager := handleManager })

/-! ### Calls -/

inductive Op (Obj : Type)
  | C_OpenSession (slotID : CK_SLOT_ID) (serial rw : Bool)
  | C_CloseSession (hSession : ℕ)
  | C_CloseAllSessions (slotID : CK_SLOT_ID)
  | setOperation (hSession : ℕ) (active reAuthentication : Bool)
  | C_Login (r : Draws) (e : ResultWrites) (hSession userType : ℕ) (pPin : Option ByteString)
  | C_Logout (hSession : ℕ)
  | C_InitPIN (e : PinEnv) (hSession : ℕ) (pPin : Option ByteString)
  | C_SetPIN (e : PinEnv) (hSession : ℕ) (pOldPin pNewPin : Option ByteString)
  | C_EX_UnblockUserPIN (policy flags : RecordFile.Write) (hSession : ℕ)
  | C_EX_SetLocalPIN (e : ℕ → LocalEnv) (slotID : CK_SLOT_ID)
      (pUserPin pNewLocalPin : Option ByteString) (ulLocalID : ℕ)
  | C_InitToken (e : FormatEnv) (requested : Option ByteString) (slotID : CK_SLOT_ID)
      (pPin pLabel : Option ByteString)
  | C_EX_InitToken (e : FormatEnv) (slotID : CK_SLOT_ID) (pPin : Option ByteString)
      (pInitInfo : Option CK_RUTOKEN_INIT_PARAM)
  | insertToken (slotID : CK_SLOT_ID)
  | CreateObject (e : NewObject Obj) (hSession : ℕ) (isOnToken isPrivate : Bool)
  | C_CopyObject (e : NewObject Obj) (original : Asked) (isCopyable : Bool)
      (hSession hObject : ℕ) (onToken priv : Option Bool)
  | C_DestroyObject (asked : Asked) (isDestroyable removed : Bool) (hSession hObject : ℕ)
  | C_FindObjectsInit (tokenObjects : Finset Obj) (ask : Obj → Asked)
      (matching : Obj → Option Bool) (hSession : ℕ)

/-- One call, with its return value: nothing where the process does not survive it. -/
def exec (l : Library Obj) : Op Obj → Option (CK_RV × Library Obj)
  | .C_OpenSession slotID serial rw =>
    let r := l.C_OpenSession slotID serial rw
    some (r.1, r.2.2)
  | .C_CloseSession hSession => l.C_CloseSession P hSession
  | .C_CloseAllSessions slotID => some (l.C_CloseAllSessions P slotID)
  | .setOperation hSession active reAuthentication =>
    l.setOperation hSession active reAuthentication
  | .C_Login r e hSession userType pPin => l.C_Login P r e hSession userType pPin
  | .C_Logout hSession => l.C_Logout P hSession
  | .C_InitPIN e hSession pPin => l.C_InitPIN P e hSession pPin
  | .C_SetPIN e hSession pOldPin pNewPin => l.C_SetPIN P e hSession pOldPin pNewPin
  | .C_EX_UnblockUserPIN policy flags hSession => l.C_EX_UnblockUserPIN P policy flags hSession
  | .C_EX_SetLocalPIN e slotID pUserPin pNewLocalPin ulLocalID =>
    some (l.C_EX_SetLocalPIN P e slotID pUserPin pNewLocalPin ulLocalID)
  | .C_InitToken e requested slotID pPin pLabel => l.C_InitToken P e requested slotID pPin pLabel
  | .C_EX_InitToken e slotID pPin pInitInfo => some (l.C_EX_InitToken P e slotID pPin pInitInfo)
  | .insertToken slotID => some (CKR_OK, l.insertToken slotID)
  | .CreateObject e hSession isOnToken isPrivate =>
    (l.CreateObject e hSession isOnToken isPrivate).map fun r => (r.1, r.2.2)
  | .C_CopyObject e original isCopyable hSession hObject onToken priv =>
    (l.C_CopyObject e original isCopyable hSession hObject onToken priv).map fun r => (r.1, r.2.2)
  | .C_DestroyObject asked isDestroyable removed hSession hObject =>
    l.C_DestroyObject asked isDestroyable removed hSession hObject
  | .C_FindObjectsInit tokenObjects ask matching hSession =>
    l.C_FindObjectsInit tokenObjects ask matching hSession

end Library

end SoftHSM
