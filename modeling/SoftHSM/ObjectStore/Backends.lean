import SoftHSM.Lib.Handlers
import SoftHSM.Library.Journal
import SoftHSM.ObjectStore.DBRuns
import SoftHSM.ObjectStore.TokenObject

/-!
A token in both backends: `OSToken` over an object file, `DBToken` over the rows of one object of a
database. What a call does with the attributes of the token is a program, answered by the object file or
by a `DBObject` that is made for the call; every step of the storage succeeds, and the row of the token
is found.

An object of a token is known by the number of the call that made it. Its attributes are not part of
this model.
-/

namespace SoftHSM

namespace DBObject.Answer

def ok : Answer → Bool
  | .done ok => ok
  | .boolean ok => ok
  | _ => false

def attr : Answer → OSAttribute
  | .value attr => attr
  | _ => .unsignedLong 0

end DBObject.Answer

namespace Backend

open RelyGuarantee
open DBObject (Op Answer)

/-! ### Programs -/

abbrev Prog (α : Type) := Program (fun _ : Op => Answer) α

def startTransaction : Prog Bool := .call .startTransaction fun r => .done r.ok

def commitTransaction : Prog Bool := .call .commitTransaction fun r => .done r.ok

def abortTransaction : Prog Bool := .call .abortTransaction fun r => .done r.ok

def attributeExists (type : CK_ATTRIBUTE_TYPE) : Prog Bool :=
  .call (.attributeExists type) fun r => .done r.ok

def getAttribute (type : CK_ATTRIBUTE_TYPE) : Prog OSAttribute :=
  .call (.getAttribute type) fun r => .done r.attr

def setAttribute (type : CK_ATTRIBUTE_TYPE) (given : OSAttribute) : Prog Bool :=
  .call (.setAttribute type given) fun r => .done r.ok

def deleteAttribute (type : CK_ATTRIBUTE_TYPE) : Prog Bool :=
  .call (.deleteAttribute type) fun r => .done r.ok

/-- What a call answers: a truth value, the value of an attribute that must be there or of one that may
be, and a record that is handed back. -/
inductive Reply
  | done (ok : Bool)
  | bytes (value : Option ByteString)
  | stored (value : Option (Option ByteString))
  | flag (value : Option Bool)
  | changed (value : Option Bool)
  | flags (value : Option CK_FLAGS)
  | record (ok : Bool) (bytes : ByteString)
  | objects (objects : Finset ℕ)
  deriving DecidableEq

/-- The value of an attribute that may not be there. -/
def lookup (type : CK_ATTRIBUTE_TYPE) : Prog (Option OSAttribute) := do
  if ← attributeExists type then return some (← getAttribute type)
  return none

/-- `!attributeExists(type) || deleteAttribute(type)`. -/
def remove (type : CK_ATTRIBUTE_TYPE) : Prog Bool := do
  if ← attributeExists type then deleteAttribute type
  else return true

def removeAll : List CK_ATTRIBUTE_TYPE → Prog Bool
  | [] => return true
  | type :: types => do
    if !(← remove type) then return false
    removeAll types

/-- A mark that is stored as true, or not at all. -/
def mark (type : CK_ATTRIBUTE_TYPE) (value : Bool) : Prog Bool :=
  if value then setAttribute type (.boolean true) else remove type

/-- The end of a transaction: it is committed, or given up where one of its steps failed. -/
def conclude (stored : Bool) : Prog Bool := do
  if !stored then
    let _ ← abortTransaction
    return false
  if !(← commitTransaction) then
    let _ ← abortTransaction
    return false
  return true

/-- A call in a transaction, with what it answers where that does not start. -/
def opening (refused : Reply) (body : Prog Reply) : Prog Reply := do
  if !(← startTransaction) then return refused
  body

/-- A transaction of some steps. -/
def inTransaction (steps : Prog Bool) : Prog Reply :=
  opening (.done false) do return .done (← conclude (← steps))

/-! ### Calls that both backends make alike -/

def setTokenName (name label : ByteString) : Prog Reply :=
  inTransaction do
    if !(← setAttribute CKA_OS_TOKENNAME (.byteString name)) then return false
    setAttribute CKA_OS_TOKENLABEL (.byteString label)

def setLicense (id : UInt64) (license : ByteString) : Prog Reply :=
  inTransaction (setAttribute (CKA_OS_LICENSE id) (.byteString license))

def setUserPinExpired (expired : Bool) : Prog Reply :=
  inTransaction (mark CKA_OS_USERPINEXPIRED expired)

def setPinDefault (id : UInt64) (isDefault : Bool) : Prog Reply :=
  inTransaction (mark (CKA_OS_PINDEFAULT id) isDefault)

/-- `advanceJournal`, with the record that is handed back, for an offset that does not wrap. -/
def advanceJournal (journal : ByteString) (countOffset : ℕ) : Prog Reply :=
  if countOffset + 4 > journal.length then return .record false journal
  else opening (.record false journal) do
    let old := (← lookup CKA_OS_JOURNAL).map (·.byteStrValue)
    if old.any (·.length < 4) then
      let _ ← abortTransaction
      return .record false journal
    let count := (old.map Journal.count).getD 0
    let journal := Journal.stamp (Journal.advance count) countOffset journal
    return .record (← conclude (← setAttribute CKA_OS_JOURNAL (.byteString journal))) journal

/-- The mark of a local PIN, where one is given. -/
def markDefault (id : UInt64) : Option Bool → Prog Bool
  | none => return true
  | some value => mark (CKA_OS_PINDEFAULT id) value

/-- `updateLocalPIN`: nothing where it fails, otherwise whether the record was changed. -/
def updateLocalPIN (id : UInt64) (expected replacement : ByteString) (isDefault : Option Bool) :
    Prog Reply :=
  opening (.changed none) do
    let current := ((← lookup (CKA_OS_LOCALPIN id)).map (·.byteStrValue)).getD []
    if current ≠ expected then
      let _ ← abortTransaction
      return .changed (some false)
    let storedDefault ← markDefault id isDefault
    let stored ← if storedDefault then
        setAttribute (CKA_OS_LOCALPIN id) (.byteString replacement)
      else pure false
    return .changed (if ← conclude stored then some true else none)

/-- `advancePinPolicy`, with the record that is handed back. -/
def advancePinPolicy (so success : Bool) : Prog Reply :=
  opening (.record false []) do
    let stored := (← lookup CKA_OS_PINPOLICY).map (·.byteStrValue)
    match PinPolicy.advancePinPolicy so success stored with
    | none =>
      let _ ← abortTransaction
      return .record false (stored.getD PinPolicy.firstRecord)
    | some policy =>
      return .record (← conclude (← setAttribute CKA_OS_PINPOLICY (.byteString policy))) policy

/-- The attributes that a reset takes away. -/
def userState : List CK_ATTRIBUTE_TYPE :=
  [CKA_OS_USERPIN, CKA_OS_TOKENNAME] ++
    ((List.range 29).map fun i => UInt64.ofNat (i + 3)).flatMap
      (fun id => [CKA_OS_LOCALPIN id, CKA_OS_PINDEFAULT id]) ++
    [CKA_OS_PINDEFAULT (UInt64.ofNat CKU_SO), CKA_OS_PINDEFAULT (UInt64.ofNat CKU_USER),
      CKA_OS_USERPINEXPIRED]

/-! ### Calls -/

/-- A call that is about the attributes of the token. -/
inductive Request
  | setSOPIN (soPINBlob : ByteString)
  | getSOPIN
  | setUserPIN (userPINBlob : ByteString)
  | getUserPIN
  | getTokenLabel
  | getTokenName
  | setTokenName (name label : ByteString)
  | getLicense (id : UInt64)
  | setLicense (id : UInt64) (license : ByteString)
  | getJournal
  | advanceJournal (journal : ByteString) (countOffset : ℕ)
  | getLocalPIN (id : UInt64)
  | updateLocalPIN (id : UInt64) (expected replacement : ByteString) (isDefault : Option Bool)
  | getUserPinExpired
  | setUserPinExpired (expired : Bool)
  | getPinDefault (id : UInt64)
  | setPinDefault (id : UInt64) (isDefault : Bool)
  | getTokenSerial
  | getTokenCreationTime
  | getTokenFlags
  | setTokenFlags (flags : CK_FLAGS)
  | getPinPolicy
  | setPinPolicy (policy : ByteString)
  | advancePinPolicy (so success : Bool)

inductive Call
  | request (r : Request)
  | resetToken (label : ByteString)
  | createObject
  | deleteObject (object : Option ℕ)
  | getObjects

/-! ### The object file -/

structure OSToken where
  tokenObject : AttributeStore
  /-- the objects that the token has -/
  objects : Finset ℕ
  /-- how many have been made -/
  allObjects : ℕ

namespace OSToken

/-- The value of an attribute that must be there. -/
def getBytes (type : CK_ATTRIBUTE_TYPE) : Prog Reply := do
  return .bytes ((← lookup type).map (·.byteStrValue))

def getStored (type : CK_ATTRIBUTE_TYPE) : Prog Reply := do
  return .stored (some ((← lookup type).map (·.byteStrValue)))

def getFlag (type : CK_ATTRIBUTE_TYPE) : Prog Reply := do
  return .flag (some ((← lookup type).any (·.boolValue)))

def tokenFlags : Prog (Option CK_FLAGS) := do
  match ← lookup CKA_OS_TOKENFLAGS with
  | none => return none
  | some attr =>
    if ← attributeExists CKA_OS_USERPIN then
      return some (attr.ulongValue ||| CKF_USER_PIN_INITIALIZED)
    return some attr.ulongValue

def setSOPIN (soPINBlob : ByteString) : Prog Reply := do
  if !(← setAttribute CKA_OS_SOPIN (.byteString soPINBlob)) then return .done false
  match ← tokenFlags with
  | none => return .done false
  | some flags =>
    return .done (← setAttribute CKA_OS_TOKENFLAGS (.unsignedLong (flags &&&
      ~~~CKF_SO_PIN_COUNT_LOW &&& ~~~CKF_SO_PIN_FINAL_TRY &&& ~~~CKF_SO_PIN_LOCKED &&&
      ~~~CKF_SO_PIN_TO_BE_CHANGED)))

def setUserPIN (userPINBlob : ByteString) : Prog Reply := do
  if !(← setAttribute CKA_OS_USERPIN (.byteString userPINBlob)) then return .done false
  match ← tokenFlags with
  | none => return .done false
  | some flags =>
    return .done (← setAttribute CKA_OS_TOKENFLAGS (.unsignedLong
      ((flags ||| CKF_USER_PIN_INITIALIZED) &&& ~~~CKF_USER_PIN_COUNT_LOW &&&
      ~~~CKF_USER_PIN_FINAL_TRY &&& ~~~CKF_USER_PIN_LOCKED &&& ~~~CKF_USER_PIN_TO_BE_CHANGED)))

def setTokenFlags (flags : CK_FLAGS) : Prog Reply := do
  return .done (← setAttribute CKA_OS_TOKENFLAGS (.unsignedLong flags))

def setPinPolicy (policy : ByteString) : Prog Reply := do
  return .done (← setAttribute CKA_OS_PINPOLICY (.byteString policy))

/-- `resetToken` behind the objects. -/
def resetToken (label : ByteString) : Prog Reply := do
  match ← tokenFlags with
  | none => return .done false
  | some flags =>
    let flags := flags &&& ~~~CKF_USER_PIN_INITIALIZED &&& ~~~CKF_USER_PIN_COUNT_LOW &&&
      ~~~CKF_USER_PIN_FINAL_TRY &&& ~~~CKF_USER_PIN_LOCKED &&& ~~~CKF_USER_PIN_TO_BE_CHANGED
    if !(← setAttribute CKA_OS_TOKENLABEL (.byteString label)) then return .done false
    if !(← setAttribute CKA_OS_TOKENFLAGS (.unsignedLong flags)) then return .done false
    return .done (← removeAll userState)

def prog : Request → Prog Reply
  | .setSOPIN soPINBlob => setSOPIN soPINBlob
  | .getSOPIN => getBytes CKA_OS_SOPIN
  | .setUserPIN userPINBlob => setUserPIN userPINBlob
  | .getUserPIN => getBytes CKA_OS_USERPIN
  | .getTokenLabel => getBytes CKA_OS_TOKENLABEL
  | .getTokenName => getStored CKA_OS_TOKENNAME
  | .setTokenName name label => setTokenName name label
  | .getLicense id => getStored (CKA_OS_LICENSE id)
  | .setLicense id license => setLicense id license
  | .getJournal => getStored CKA_OS_JOURNAL
  | .advanceJournal journal countOffset => advanceJournal journal countOffset
  | .getLocalPIN id => getStored (CKA_OS_LOCALPIN id)
  | .updateLocalPIN id expected replacement isDefault =>
    updateLocalPIN id expected replacement isDefault
  | .getUserPinExpired => getFlag CKA_OS_USERPINEXPIRED
  | .setUserPinExpired expired => setUserPinExpired expired
  | .getPinDefault id => getFlag (CKA_OS_PINDEFAULT id)
  | .setPinDefault id isDefault => setPinDefault id isDefault
  | .getTokenSerial => getBytes CKA_OS_TOKENSERIAL
  | .getTokenCreationTime => getBytes CKA_OS_TOKENCREATED
  | .getTokenFlags => do return .flags (← tokenFlags)
  | .setTokenFlags flags => setTokenFlags flags
  | .getPinPolicy => getStored CKA_OS_PINPOLICY
  | .setPinPolicy policy => setPinPolicy policy
  | .advancePinPolicy so success => advancePinPolicy so success

/-- The object file answers as a map of attributes does. -/
def answer (op : Op) (a : AttributeStore) : Answer × AttributeStore := a.exec op

def perform (t : OSToken) : Call → Reply × OSToken
  | .request r =>
    let (reply, tokenObject) := (prog r).eval answer t.tokenObject
    (reply, { t with tokenObject := tokenObject })
  | .resetToken label =>
    let (reply, tokenObject) := (resetToken label).eval answer t.tokenObject
    -- the objects go once the flags have been read
    let objects := if AttributeMap.attributeExists t.tokenObject.map CKA_OS_TOKENFLAGS then ∅
      else t.objects
    (reply, { t with tokenObject := tokenObject, objects := objects })
  | .createObject =>
    (.done true, { t with
      objects := insert t.allObjects t.objects, allObjects := t.allObjects + 1 })
  | .deleteObject none => (.done false, t)
  | .deleteObject (some object) =>
    if object ∉ t.objects then (.done false, t)
    else (.done true, { t with objects := t.objects.erase object })
  | .getObjects => (.objects t.objects, t)

/-- The flags of a token that has just been created. -/
def createdFlags : CK_FLAGS :=
  CKF_RNG ||| CKF_LOGIN_REQUIRED ||| CKF_RESTORE_KEY_NOT_NEEDED ||| CKF_TOKEN_INITIALIZED |||
    CKF_SO_PIN_LOCKED ||| CKF_SO_PIN_TO_BE_CHANGED

def createToken (label serial created : ByteString) : OSToken where
  tokenObject :=
    { map := (((AttributeMap.setAttribute [] CKA_OS_TOKENLABEL (.byteString label)).setAttribute
        CKA_OS_TOKENSERIAL (.byteString serial)).setAttribute
        CKA_OS_TOKENCREATED (.byteString created)).setAttribute
        CKA_OS_TOKENFLAGS (.unsignedLong createdFlags)
      saved := none }
  objects := ∅
  allObjects := 0

end OSToken

/-! ### The database -/

structure DBToken where
  connection : DB.Connection
  /-- the ids in the table of objects, without that of the token -/
  rows : Finset ℕ
  /-- the last id that was given -/
  sequence : ℕ
  /-- the ids of the `DBObject`s in the order in which they were made; 0 for one that is removed -/
  allObjects : List ℕ

namespace DBToken

/-- A transaction that only reads. -/
def reading (refused : Reply) (body : Prog Reply) : Prog Reply :=
  opening refused do
    let reply ← body
    if ← commitTransaction then return reply
    return refused

/-- The value of an attribute that must be there. -/
def getBytes (type : CK_ATTRIBUTE_TYPE) : Prog Reply :=
  opening (.bytes none) do
    if !(← attributeExists type) then
      let _ ← abortTransaction
      return .bytes none
    let _ ← commitTransaction
    return .bytes (some (← getAttribute type).byteStrValue)

def getStored (type : CK_ATTRIBUTE_TYPE) : Prog Reply :=
  reading (.stored none) do
    return .stored (some ((← lookup type).map (·.byteStrValue)))

def getFlag (type : CK_ATTRIBUTE_TYPE) : Prog Reply :=
  reading (.flag none) do
    return .flag (some ((← lookup type).any (·.boolValue)))

/-- The flags as they are stored, changed. -/
def changeFlags (change : CK_FLAGS → CK_FLAGS) : Prog Bool := do
  if !(← attributeExists CKA_OS_TOKENFLAGS) then return false
  let flags := (← getAttribute CKA_OS_TOKENFLAGS).ulongValue
  setAttribute CKA_OS_TOKENFLAGS (.unsignedLong (change flags))

def setSOPIN (soPINBlob : ByteString) : Prog Reply :=
  inTransaction do
    if !(← setAttribute CKA_OS_SOPIN (.byteString soPINBlob)) then return false
    changeFlags fun flags => flags &&& ~~~(CKF_SO_PIN_COUNT_LOW ||| CKF_SO_PIN_FINAL_TRY |||
      CKF_SO_PIN_LOCKED ||| CKF_SO_PIN_TO_BE_CHANGED)

def setUserPIN (userPINBlob : ByteString) : Prog Reply :=
  inTransaction do
    if !(← setAttribute CKA_OS_USERPIN (.byteString userPINBlob)) then return false
    changeFlags fun flags => (flags ||| CKF_USER_PIN_INITIALIZED) &&& ~~~(CKF_USER_PIN_COUNT_LOW |||
      CKF_USER_PIN_FINAL_TRY ||| CKF_USER_PIN_LOCKED ||| CKF_USER_PIN_TO_BE_CHANGED)

def getTokenFlags : Prog Reply :=
  opening (.flags none) do
    if !(← attributeExists CKA_OS_TOKENFLAGS) then
      let _ ← abortTransaction
      return .flags none
    let _ ← commitTransaction
    return .flags (some (← getAttribute CKA_OS_TOKENFLAGS).ulongValue)

def setTokenFlags (flags : CK_FLAGS) : Prog Reply :=
  inTransaction (setAttribute CKA_OS_TOKENFLAGS (.unsignedLong flags))

def setPinPolicy (policy : ByteString) : Prog Reply :=
  inTransaction (setAttribute CKA_OS_PINPOLICY (.byteString policy))

/-- `resetToken` behind the objects. -/
def resetToken (label : ByteString) : Prog Reply :=
  inTransaction do
    if !(← removeAll userState) then return false
    if !(← changeFlags fun flags => flags &&& ~~~(CKF_USER_PIN_INITIALIZED |||
        CKF_USER_PIN_COUNT_LOW ||| CKF_USER_PIN_FINAL_TRY ||| CKF_USER_PIN_LOCKED |||
        CKF_USER_PIN_TO_BE_CHANGED)) then return false
    setAttribute CKA_OS_TOKENLABEL (.byteString label)

def prog : Request → Prog Reply
  | .setSOPIN soPINBlob => setSOPIN soPINBlob
  | .getSOPIN => getBytes CKA_OS_SOPIN
  | .setUserPIN userPINBlob => setUserPIN userPINBlob
  | .getUserPIN => getBytes CKA_OS_USERPIN
  | .getTokenLabel => getBytes CKA_OS_TOKENLABEL
  | .getTokenName => getStored CKA_OS_TOKENNAME
  | .setTokenName name label => setTokenName name label
  | .getLicense id => getStored (CKA_OS_LICENSE id)
  | .setLicense id license => setLicense id license
  | .getJournal => getStored CKA_OS_JOURNAL
  | .advanceJournal journal countOffset => advanceJournal journal countOffset
  | .getLocalPIN id => getStored (CKA_OS_LOCALPIN id)
  | .updateLocalPIN id expected replacement isDefault =>
    updateLocalPIN id expected replacement isDefault
  | .getUserPinExpired => getFlag CKA_OS_USERPINEXPIRED
  | .setUserPinExpired expired => setUserPinExpired expired
  | .getPinDefault id => getFlag (CKA_OS_PINDEFAULT id)
  | .setPinDefault id isDefault => setPinDefault id isDefault
  | .getTokenSerial => getBytes CKA_OS_TOKENSERIAL
  | .getTokenCreationTime => getBytes CKA_OS_TOKENCREATED
  | .getTokenFlags => getTokenFlags
  | .setTokenFlags flags => setTokenFlags flags
  | .getPinPolicy => getStored CKA_OS_PINPOLICY
  | .setPinPolicy policy => setPinPolicy policy
  | .advancePinPolicy so success => advancePinPolicy so success

/-- A call on the object of the token, which is a new `DBObject` on the connection. -/
def onTokenObject (t : DBToken) (p : Prog Reply) : Option (Reply × DBToken) :=
  (p.run (fun op o => DBObject.exec o op) ⟨t.connection, [], none⟩).map fun r =>
    (r.1, { t with connection := r.2.connection })

/-- `remove()` of an object: the statement deletes nothing where the id is 0. -/
def deleteObject (t : DBToken) (object : ℕ) : Bool × DBToken :=
  match t.allObjects[object]? with
  | none => (false, t)
  | some objectId =>
    (true, { t with rows := t.rows.erase objectId, allObjects := t.allObjects.set object 0 })

/-- The objects whose ids are in the table. -/
def getObjects (t : DBToken) : Finset ℕ :=
  (Finset.range t.allObjects.length).filter fun object => t.allObjects.getD object 0 ∈ t.rows

/-- The loop of `resetToken`. -/
def deleteObjects (t : DBToken) : List ℕ → Bool × DBToken
  | [] => (true, t)
  | object :: objects =>
    match t.deleteObject object with
    | (false, t) => (false, t)
    | (true, t) => t.deleteObjects objects

/-- A call, nothing where the process is killed. -/
def perform (t : DBToken) : Call → Option (Reply × DBToken)
  | .request r => t.onTokenObject (prog r)
  | .resetToken label =>
    match t.deleteObjects (t.getObjects.sort (· ≤ ·)) with
    | (false, t) => some (.done false, t)
    | (true, t) => t.onTokenObject (resetToken label)
  | .createObject =>
    some (.done true, { t with
      rows := insert (t.sequence + 1) t.rows, sequence := t.sequence + 1
      allObjects := t.allObjects ++ [t.sequence + 1] })
  | .deleteObject none => some (.done false, t)
  | .deleteObject (some object) =>
    let (ok, t) := t.deleteObject object
    some (.done ok, t)
  | .getObjects => some (.objects t.getObjects, t)

/-- The attributes that the constructor sets, on the object that it has made. -/
def initial (label serial created : ByteString) : DBObject :=
  ((((⟨⟨.empty, none⟩, [], none⟩ : DBObject).setAttribute CKA_OS_TOKENLABEL (.byteString label)).2
    |>.setAttribute CKA_OS_TOKENSERIAL (.byteString serial)).2
    |>.setAttribute CKA_OS_TOKENCREATED (.byteString created)).2
    |>.setAttribute CKA_OS_TOKENFLAGS (.unsignedLong OSToken.createdFlags) |>.2

def createToken (label serial created : ByteString) : DBToken where
  connection := (initial label serial created).connection
  rows := ∅
  sequence := 1
  allObjects := []

end DBToken

/-! ### Sequences of calls -/

def OSToken.replies : OSToken → List Call → List Reply
  | _, [] => []
  | t, call :: calls => (t.perform call).1 :: (t.perform call).2.replies calls

/-- The replies to a sequence of calls, nothing where the process is killed. -/
def DBToken.replies : DBToken → List Call → Option (List Reply)
  | _, [] => some []
  | t, call :: calls => do
    let (reply, t) ← t.perform call
    return reply :: (← t.replies calls)

end Backend

end SoftHSM
