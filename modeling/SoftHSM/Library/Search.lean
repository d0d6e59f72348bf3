import SoftHSM.HandleMgr.HandleManager
import SoftHSM.SessionMgr.SessionManager
import SoftHSM.Library.P11Objects

/-!
Reading attributes and searching for objects: `C_GetAttributeValue`, `C_FindObjectsInit`,
`C_FindObjects` and `C_FindObjectsFinal`, with the feature object of the profile, which is in no
store. A search takes the stored values apart by itself.
-/

namespace SoftHSM.Search

open CK_RV

/-! ### The state -/

/-- `SESSION_OP_*`, as far as these calls tell them apart. -/
inductive SessionOp
  | none
  | find
  | other
  deriving DecidableEq

structure FindSession where
  slotID : CK_SLOT_ID
  isReadWrite : Bool
  opType : SessionOp
  findOp : Option (List ℕ)

def FindSession.getState (s : FindSession) (sdm : SecureDataManager) : CK_STATE :=
  (Session.mk s.slotID s.isReadWrite (s.opType ≠ .none) false).getState sdm.soLoggedIn
    sdm.userLoggedIn

/-- The library, with the objects of a slot, those of its token and those of its sessions, in
the order of their addresses. -/
structure Store (Obj Sess : Type) where
  isInitialised : Bool
  fakeRutokenECP : Bool
  handleManager : HandleManager Obj Sess
  session : Sess → FindSession
  sdm : CK_SLOT_ID → SecureDataManager
  allObjects : CK_SLOT_ID → List Obj
  object : Obj → OSObject

def noDraws : Draws := ⟨fun _ => 0, fun _ => 0, fun _ => 0, fun _ => 0, fun _ => 0⟩

/-- `Token::decrypt`. Which random bytes make the next mask does not matter. -/
def decrypt (P : Primitives) (sdm : SecureDataManager) (encrypted : ByteString) :
    Option ByteString := (sdm.decrypt P noDraws encrypted).1

variable {Obj Sess : Type} [DecidableEq Obj] [DecidableEq Sess]

namespace Store

def setObject (st : Store Obj Sess) (o : Obj) (object : OSObject) : Store Obj Sess :=
  { st with object := Function.update st.object o object }

def setSession (st : Store Obj Sess) (s : Sess) (session : FindSession) : Store Obj Sess :=
  { st with session := Function.update st.session s session }

def getState (st : Store Obj Sess) (s : Sess) : CK_STATE :=
  (st.session s).getState (st.sdm (st.session s).slotID)

end Store

/-! ### The feature object -/

def FAKE_RUTOKEN_FEATURE_HANDLE : ℕ := 0x52544B48

def CKO_HW_FEATURE : UInt64 := 5
def CKA_HW_FEATURE_TYPE : CK_ATTRIBUTE_TYPE := 0x300

/-- Its attributes, with whether each is Boolean. -/
def FAKE_RUTOKEN_FEATURE : List (CK_ATTRIBUTE_TYPE × Bool × UInt64) :=
  [(CKA_CLASS, false, CKO_HW_FEATURE), (CKA_HW_FEATURE_TYPE, false, 0x80000001),
    (0x80003000, true, 0), (0x80003001, false, 0xFF), (0x80003002, false, 0xFF),
    (0x80003003, false, 0x01), (0x80003004, false, 0x21), (0x80003005, true, 0),
    (0x80003006, false, 0), (0x80003007, true, 1), (0x80003008, true, 0), (0x80003009, true, 0),
    (0x8000300A, true, 1), (0x8000300B, true, 1), (0x8000300C, true, 0), (0x8000300D, true, 1),
    (0x8000300E, true, 0), (0x8000300F, true, 0), (0x80003011, true, 0), (0x80003012, true, 1),
    (0x8000800D, true, 0), (0x8000800E, false, 0)]

/-- The bytes of an attribute of the feature object. -/
def featureValue (type : CK_ATTRIBUTE_TYPE) : Option ByteString :=
  (FAKE_RUTOKEN_FEATURE.find? (·.1 = type)).map fun attr =>
    if attr.2.1 then bboolBytes (attr.2.2 ≠ 0) else ulongBytes attr.2.2

def fakeRutokenFeatureMatches (pTemplate : List CK_ATTRIBUTE) : Bool :=
  pTemplate.all (fun e => (featureValue e.type).any fun mine => e.pValue = some mine) &&
    pTemplate.any (·.type = CKA_CLASS)

def featureRetrieve (r : Request) : Retrieved :=
  match featureValue r.type with
  | none => ⟨CKR_ATTRIBUTE_TYPE_INVALID, CK_UNAVAILABLE_INFORMATION, .nothing⟩
  | some mine =>
    if !r.hasBuffer then ⟨CKR_OK, mine.length, .nothing⟩
    else if r.ulValueLen < mine.length then
      ⟨CKR_BUFFER_TOO_SMALL, CK_UNAVAILABLE_INFORMATION, .nothing⟩
    else ⟨CKR_OK, mine.length, .bytes mine⟩

/-- The answer is that of the last attribute that has a problem. -/
def fakeRutokenFeatureLoad (pTemplate : List Request) : CK_RV × List Retrieved :=
  let l := pTemplate.map featureRetrieve
  (l.foldl (fun rv x => if x.rv = CKR_OK then rv else x.rv) CKR_OK, l)

/-! ### Reading -/

/-- What a caller finds in a template afterwards: the length and the buffer of each attribute,
which stay as they are where the call did not get to. -/
def filled (pTemplate : List Request) (l : List Retrieved) : List (ℕ × Written) :=
  l.map (fun x => (x.ulValueLen, x.written)) ++
    (pTemplate.drop l.length).map fun r => (r.ulValueLen, .nothing)

def absentGeneratedGostParams (m : AttributeMap) : Bool :=
  m.getUnsignedLongValue CKA_KEY_TYPE CKK_VENDOR_DEFINED = CKK_GOST28147 &&
  m.getUnsignedLongValue CKA_KEY_GEN_MECHANISM (UInt64.ofNat CK_UNAVAILABLE_INFORMATION) =
    CKM_GOST28147_KEY_GEN &&
  (m.getByteStringValue CKA_GOST28147_PARAMS).length = 0

/-- The parameters of such a key are not reported. -/
def withoutGostParams (pTemplate : List Request) (rv : CK_RV) (l : List (ℕ × Written)) :
    CK_RV × List (ℕ × Written) :=
  if pTemplate.any (·.type = CKA_GOST28147_PARAMS) then
    (if rv = CKR_ATTRIBUTE_SENSITIVE then rv else CKR_ATTRIBUTE_TYPE_INVALID,
      pTemplate.zipWith (fun r x =>
        if r.type = CKA_GOST28147_PARAMS then (CK_UNAVAILABLE_INFORMATION, x.2) else x) l)
  else (rv, l)

/-- `C_GetAttributeValue`, with how the defaults that the object lacks are stored. -/
def C_GetAttributeValue (P : Primitives) (stores : CK_ATTRIBUTE_TYPE → RecordFile.Write)
    (hSession hObject : ℕ) (pTemplate : Option (List Request)) (st : Store Obj Sess) :
    CK_RV × List (ℕ × Written) × Store Obj Sess :=
  if !st.isInitialised then (CKR_CRYPTOKI_NOT_INITIALIZED, filled (pTemplate.getD []) [], st)
  else
    match pTemplate with
    | none => (CKR_ARGUMENTS_BAD, [], st)
    | some pTemplate =>
      match st.handleManager.getSession hSession with
      | none => (CKR_SESSION_HANDLE_INVALID, filled pTemplate [], st)
      | some s =>
        if st.fakeRutokenECP && hObject = FAKE_RUTOKEN_FEATURE_HANDLE then
          let (rv, l) := fakeRutokenFeatureLoad pTemplate
          (rv, filled pTemplate l, st)
        else
          match st.handleManager.getObject hObject with
          | none => (CKR_OBJECT_HANDLE_INVALID, filled pTemplate [], st)
          | some o =>
            let object := st.object o
            if !object.valid then (CKR_OBJECT_HANDLE_INVALID, filled pTemplate [], st)
            else
              let absent := st.fakeRutokenECP && absentGeneratedGostParams object.attributes
              if haveRead (st.getState s) (object.attributes.getBooleanValue CKA_TOKEN false)
                  (object.attributes.getBooleanValue CKA_PRIVATE true) ≠ CKR_OK then
                (CKR_GENERAL_ERROR, filled pTemplate [], st)
              else
                match newP11Object stores object with
                | (.error rv, object) => (rv, filled pTemplate [], st.setObject o object)
                | (.ok p11object, object) =>
                  let (rv, l) := p11object.loadTemplate
                    (decrypt P (st.sdm (st.session s).slotID)) pTemplate object.attributes
                  let (rv, l) := if absent then withoutGostParams pTemplate rv (filled pTemplate l)
                    else (rv, filled pTemplate l)
                  (rv, l, st.setObject o object)

/-! ### Searching -/

/-- What comes of a comparison. The last is a null pointer that is followed. -/
inductive Verdict
  | matches
  | differs
  | refused
  | crash
  deriving DecidableEq

/-- The value of a byte string as it is compared. -/
def compared (decrypt : ByteString → Option ByteString) (isPrivateObject : Bool)
    (stored : ByteString) : Option ByteString :=
  if isPrivateObject && stored.length ≠ 0 then decrypt stored else some stored

/-- The comparison of an attribute with an entry of the template. -/
def matchAttribute (decrypt : ByteString → Option ByteString) (isPrivateObject : Bool)
    (attr : OSAttribute) (e : CK_ATTRIBUTE) : Verdict :=
  match attr with
  | .boolean value =>
    if sizeof_CK_BBOOL ≠ e.ulValueLen || e.pValue.isNone then .differs
    else
      let bTemplateValue : Bool := e.bool = CK_TRUE
      if value ≠ bTemplateValue then .differs else .matches
  | .unsignedLong value =>
    if sizeof_CK_ULONG ≠ e.ulValueLen || e.pValue.isNone then .differs
    else if value ≠ ulongAt e.bytes then .differs
    else .matches
  | .byteString stored =>
    match compared decrypt isPrivateObject stored with
    | none => .refused
    | some value =>
      if value.length ≠ e.ulValueLen then .differs
      else if e.ulValueLen ≠ 0 then
        match e.pValue with
        | none => .crash
        | some pValue => if value ≠ pValue then .differs else .matches
      else .matches
  | _ => .differs

/-- The loop over the template; an empty one matches everything. -/
def matchTemplate (decrypt : ByteString → Option ByteString) (isPrivateObject : Bool)
    (m : AttributeMap) : List CK_ATTRIBUTE → Verdict
  | [] => .matches
  | e :: es =>
    match OrderedMap.get e.type m with
    | none => .differs
    | some attr =>
      match matchAttribute decrypt isPrivateObject attr e with
      | .matches => matchTemplate decrypt isPrivateObject m es
      | v => v

/-- `handles.insert`. -/
def insertHandle (h : ℕ) (handles : List ℕ) : List ℕ :=
  if h ∈ handles then handles else handles.orderedInsert (· ≤ ·) h

/-- Objects that a search passes over: those that are not valid, and the private ones in a public
session. -/
def skipped (isPublicSession : Bool) (object : OSObject) : Bool :=
  !object.valid || isPublicSession && object.attributes.getBooleanValue CKA_PRIVATE true

/-- The verdict on an object. -/
def verdict (decrypt : ByteString → Option ByteString) (pTemplate : List CK_ATTRIBUTE)
    (object : OSObject) : Verdict :=
  matchTemplate decrypt (object.attributes.getBooleanValue CKA_PRIVATE true) object.attributes
    pTemplate

/-- The handle of an object that has been found. -/
def addObject (slotID : CK_SLOT_ID) (hSession : ℕ) (o : Obj) (object : OSObject)
    (m : HandleManager Obj Sess) : ℕ × HandleManager Obj Sess :=
  let isPrivate := object.attributes.getBooleanValue CKA_PRIVATE true
  if object.attributes.getBooleanValue CKA_TOKEN false then m.addTokenObject slotID isPrivate o
  else
    let (hObject, m, _) := m.addSessionObject slotID hSession isPrivate o
    (hObject, m)

/-- The loop over the objects: the answer, the handle manager and the handles. -/
def findLoop (decrypt : ByteString → Option ByteString) (isPublicSession : Bool)
    (slotID : CK_SLOT_ID) (hSession : ℕ) (pTemplate : List CK_ATTRIBUTE) (object : Obj → OSObject) :
    List Obj → HandleManager Obj Sess → List ℕ → Option (CK_RV × HandleManager Obj Sess × List ℕ)
  | [], m, handles => some (CKR_OK, m, handles)
  | o :: objects, m, handles =>
    if skipped isPublicSession (object o) then
      findLoop decrypt isPublicSession slotID hSession pTemplate object objects m handles
    else
      match verdict decrypt pTemplate (object o) with
      | .crash => none
      | .refused => some (CKR_GENERAL_ERROR, m, handles)
      | .differs =>
        findLoop decrypt isPublicSession slotID hSession pTemplate object objects m handles
      | .matches =>
        match addObject slotID hSession o (object o) m with
        | (hObject, m) =>
          if hObject = CK_INVALID_HANDLE then some (CKR_GENERAL_ERROR, m, handles)
          else
            findLoop decrypt isPublicSession slotID hSession pTemplate object objects m
              (insertHandle hObject handles)

def isPublicSession : CK_STATE → Bool
  | .CKS_RO_USER_FUNCTIONS | .CKS_RW_USER_FUNCTIONS => false
  | _ => true

/-- `C_FindObjectsInit`, `none` where the process is killed. A null pointer with no attributes is
an empty template, with some it is `none`. -/
def C_FindObjectsInit (P : Primitives) (hSession : ℕ) (pTemplate : Option (List CK_ATTRIBUTE))
    (st : Store Obj Sess) : Option (CK_RV × Store Obj Sess) :=
  if !st.isInitialised then some (CKR_CRYPTOKI_NOT_INITIALIZED, st)
  else
    match pTemplate with
    | none => some (CKR_ARGUMENTS_BAD, st)
    | some pTemplate =>
      match st.handleManager.getSession hSession with
      | none => some (CKR_SESSION_HANDLE_INVALID, st)
      | some s =>
        let session := st.session s
        if session.opType ≠ .none then some (CKR_OPERATION_ACTIVE, st)
        else
          match findLoop (decrypt P (st.sdm session.slotID)) (isPublicSession (st.getState s))
              session.slotID hSession pTemplate st.object (st.allObjects session.slotID)
              st.handleManager [] with
          | none => none
          | some (CKR_OK, m, handles) =>
            let handles := if st.fakeRutokenECP && fakeRutokenFeatureMatches pTemplate then
                insertHandle FAKE_RUTOKEN_FEATURE_HANDLE handles else handles
            some (CKR_OK, { st with handleManager := m }.setSession s
              { session with opType := .find, findOp := some handles })
          | some (rv, m, _) =>
            some (rv, { st with handleManager := m }.setSession s { session with opType := .find })

/-- `C_FindObjects`, with the handles that it gives. -/
def C_FindObjects (hSession ulMaxObjectCount : ℕ) (st : Store Obj Sess) :
    CK_RV × List ℕ × Store Obj Sess :=
  if !st.isInitialised then (CKR_CRYPTOKI_NOT_INITIALIZED, [], st)
  else
    match st.handleManager.getSession hSession with
    | none => (CKR_SESSION_HANDLE_INVALID, [], st)
    | some s =>
      let session := st.session s
      if session.opType ≠ .find then (CKR_OPERATION_NOT_INITIALIZED, [], st)
      else
        match session.findOp with
        | none => (CKR_GENERAL_ERROR, [], st)
        | some handles =>
          (CKR_OK, handles.take ulMaxObjectCount,
            st.setSession s { session with findOp := some (handles.drop ulMaxObjectCount) })

def C_FindObjectsFinal (hSession : ℕ) (st : Store Obj Sess) : CK_RV × Store Obj Sess :=
  if !st.isInitialised then (CKR_CRYPTOKI_NOT_INITIALIZED, st)
  else
    match st.handleManager.getSession hSession with
    | none => (CKR_SESSION_HANDLE_INVALID, st)
    | some s =>
      let session := st.session s
      if session.opType ≠ .find then (CKR_OPERATION_NOT_INITIALIZED, st)
      else (CKR_OK, st.setSession s { session with opType := .none, findOp := none })

/-! ### Calls -/

inductive Call
  | getAttributeValue (stores : CK_ATTRIBUTE_TYPE → RecordFile.Write) (hSession hObject : ℕ)
      (pTemplate : Option (List Request))
  | findObjectsInit (hSession : ℕ) (pTemplate : Option (List CK_ATTRIBUTE))
  | findObjects (hSession ulMaxObjectCount : ℕ)
  | findObjectsFinal (hSession : ℕ)

/-- What a caller sees of a call. -/
inductive Answer
  | attributes (rv : CK_RV) (pTemplate : List (ℕ × Written))
  | handles (rv : CK_RV) (phObject : List ℕ)
  | rv (rv : CK_RV)
  deriving DecidableEq

def exec (P : Primitives) (st : Store Obj Sess) : Call → Option (Answer × Store Obj Sess)
  | .getAttributeValue stores hSession hObject pTemplate =>
    let (rv, l, st) := C_GetAttributeValue P stores hSession hObject pTemplate st
    some (.attributes rv l, st)
  | .findObjectsInit hSession pTemplate =>
    (C_FindObjectsInit P hSession pTemplate st).map fun (rv, st) => (.rv rv, st)
  | .findObjects hSession ulMaxObjectCount =>
    let (rv, handles, st) := C_FindObjects hSession ulMaxObjectCount st
    some (.handles rv handles, st)
  | .findObjectsFinal hSession =>
    let (rv, st) := C_FindObjectsFinal hSession st
    some (.rv rv, st)

/-- What a caller sees of a sequence of calls. A call that kills the process is the last one. -/
def run (P : Primitives) : List Call → Store Obj Sess → List (Option Answer)
  | [], _ => []
  | c :: cs, st =>
    match exec P st c with
    | none => [none]
    | some (a, st) => some a :: run P cs st

end SoftHSM.Search
