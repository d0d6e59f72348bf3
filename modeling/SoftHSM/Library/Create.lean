import SoftHSM.Library.Search

/-!
Making and changing objects: `CreateObject`, which every call that makes an object goes through,
`C_CopyObject` and `C_SetAttributeValue`; and the clean-up after a key that could not be
completed.
-/

namespace SoftHSM.Create

open CK_RV Search P11Object
open RecordFile (Write)

/-! ### The outside -/

/-- What a call takes from the libraries, the configuration and the memory of the caller. -/
structure Outside where
  draws : Draws
  getKeyCheckValue : KeyKind → ByteString → ByteString
  sha1 : ByteString → Option ByteString
  arrayAt : ByteString → List CK_ATTRIBUTE
  disableOther28147Modes : Bool
  forceSensitive : Bool
  supported : ByteString → Bool
  pointIsOnCurve : ByteString → ByteString → Bool

/-- How `deleteObject` gets rid of the files of an object. -/
structure Removal where
  file : Bool
  lock : Bool

/-- How the making of an object turns out: its address, how many objects have a lower one, how its
file and its defaults are written, the transactions of `saveTemplate`, of `CreateObject` and
of the caller, and the removal of what could not be completed. -/
structure Making (Obj : Type) where
  newObject : Obj
  place : ℕ
  file : Write
  stores : CK_ATTRIBUTE_TYPE → Write
  save : Storage
  own : Storage
  supply : Storage
  removal : Removal

/-- The token, as updates see it. -/
def token (P : Primitives) (x : Outside) (sdm : SecureDataManager) : TokenView where
  encrypt := fun plaintext => (sdm.encrypt P x.draws plaintext).1
  decrypt := decrypt P sdm
  isSOLoggedIn := sdm.soLoggedIn
  getKeyCheckValue := x.getKeyCheckValue
  sha1 := x.sha1
  arrayAt := x.arrayAt

/-! ### What a template says -/

/-- The last entry of a type that has the size of its values. -/
def lastValue (type : CK_ATTRIBUTE_TYPE) (size : ℕ) (pTemplate : List CK_ATTRIBUTE) :
    Option CK_ATTRIBUTE :=
  pTemplate.reverse.find? fun e => e.type = type && e.ulValueLen = size && e.pValue.isSome

structure ObjectInformation where
  objClass : UInt64
  keyType : CK_KEY_TYPE
  certType : UInt64
  isOnToken : UInt8
  isPrivate : UInt8

def ulongOf (type : CK_ATTRIBUTE_TYPE) (default : UInt64) (pTemplate : List CK_ATTRIBUTE) :
    UInt64 := ((lastValue type sizeof_CK_ULONG pTemplate).map fun e => ulongAt e.bytes).getD default

def boolOf (type : CK_ATTRIBUTE_TYPE) (default : UInt8) (pTemplate : List CK_ATTRIBUTE) : UInt8 :=
  ((lastValue type sizeof_CK_BBOOL pTemplate).map CK_ATTRIBUTE.bool).getD default

/-- `extractObjectInformation`, over what its caller starts with. -/
def extractObjectInformation (pTemplate : List CK_ATTRIBUTE) (info : ObjectInformation)
    (bImplicit : Bool) : CK_RV × ObjectInformation :=
  let bHasClass := (lastValue CKA_CLASS sizeof_CK_ULONG pTemplate).isSome
  let bHasKeyType := (lastValue CKA_KEY_TYPE sizeof_CK_ULONG pTemplate).isSome
  let bHasCertType := (lastValue CKA_CERTIFICATE_TYPE sizeof_CK_ULONG pTemplate).isSome
  let bHasPrivate := (lastValue CKA_PRIVATE sizeof_CK_BBOOL pTemplate).isSome
  let objClass := ulongOf CKA_CLASS info.objClass pTemplate
  let info : ObjectInformation :=
    { objClass := objClass
      keyType := ulongOf CKA_KEY_TYPE info.keyType pTemplate
      certType := ulongOf CKA_CERTIFICATE_TYPE info.certType pTemplate
      isOnToken := boolOf CKA_TOKEN info.isOnToken pTemplate
      isPrivate := boolOf CKA_PRIVATE info.isPrivate pTemplate }
  if bImplicit then (CKR_OK, info)
  else if !bHasClass then (CKR_TEMPLATE_INCOMPLETE, info)
  else if objClass ∈ [CKO_PUBLIC_KEY, CKO_PRIVATE_KEY, CKO_SECRET_KEY] && !bHasKeyType then
    (CKR_TEMPLATE_INCOMPLETE, info)
  else if objClass = CKO_CERTIFICATE && !bHasCertType then (CKR_TEMPLATE_INCOMPLETE, info)
  else if objClass ∈ [CKO_CERTIFICATE, CKO_PUBLIC_KEY] && !bHasPrivate then
    (CKR_OK, { info with isPrivate := CK_FALSE })
  else (CKR_OK, info)

def CRYPTOPRO_A : ByteString := [0x06, 0x07, 0x2A, 0x85, 0x03, 0x02, 0x02, 0x1F, 0x01]
def TC26_Z : ByteString := [0x06, 0x09, 0x2A, 0x85, 0x03, 0x07, 0x01, 0x02, 0x05, 0x01, 0x01]

def checkGOST28147ParamSet (x : Outside) (pTemplate : List CK_ATTRIBUTE) : CK_RV :=
  if !x.disableOther28147Modes then CKR_OK
  else if pTemplate.all fun e => e.type ≠ CKA_GOST28147_PARAMS || e.bytes = [] ||
      e.bytes = CRYPTOPRO_A || e.bytes = TC26_Z then CKR_OK
  else CKR_ATTRIBUTE_VALUE_INVALID

/-- The value of the last entry of a type that is not a null pointer. -/
def lastBytes (type : CK_ATTRIBUTE_TYPE) (pTemplate : List CK_ATTRIBUTE) : Option ByteString :=
  (pTemplate.reverse.find? fun e => e.type = type && e.pValue.isSome).map CK_ATTRIBUTE.bytes

def checkGOSTPublicPoint (x : Outside) (objClass : UInt64) (keyType : CK_KEY_TYPE)
    (pTemplate : List CK_ATTRIBUTE) : CK_RV :=
  if objClass ≠ CKO_PUBLIC_KEY then CKR_OK
  else if keyType ≠ CKK_GOSTR3410 && keyType ≠ CKK_GOSTR3410_512 then CKR_OK
  else
    match lastBytes CKA_VALUE pTemplate, (lastBytes CKA_GOSTR3410_PARAMS pTemplate).getD [] with
    | none, _ => CKR_OK
    | some _, [] => CKR_OK
    | some point, curve =>
      if !x.supported curve then CKR_ATTRIBUTE_VALUE_INVALID
      else if !x.pointIsOnCurve curve point then CKR_ATTRIBUTE_VALUE_INVALID
      else CKR_OK

/-! ### Objects in the stores -/

variable {Obj Sess : Type} [DecidableEq Obj] [DecidableEq Sess]

/-- A new object takes its place among those of its slot. -/
def insertObject (slotID : CK_SLOT_ID) (m : Making Obj) (object : OSObject)
    (st : Store Obj Sess) : Store Obj Sess :=
  let objects := st.allObjects slotID
  { st.setObject m.newObject object with
    allObjects := Function.update st.allObjects slotID
      (objects.take m.place ++ m.newObject :: objects.drop m.place) }

/-- `createObject` of the token or of the session object store. What is left of a file that was not
written to its end reads as an object without attributes. -/
def createObject (slotID : CK_SLOT_ID) (isOnToken : Bool) (m : Making Obj)
    (st : Store Obj Sess) : Bool × Store Obj Sess :=
  if isOnToken then
    match m.file with
    | .done => (true, insertObject slotID m ⟨false, [], true, some [], false⟩ st)
    | .refused => (false, st)
    | .torn => (false, insertObject slotID m ⟨false, [], false, some [], false⟩ st)
  else (true, insertObject slotID m ⟨true, [], true, none, false⟩ st)

/-- `destroyObject` of an object, in the store that has it. -/
def destroyObject (r : Removal) (o : Obj) (st : Store Obj Sess) : Store Obj Sess :=
  let object := { st.object o with attributes := [], valid := false }
  if object.isSession || r.file && r.lock then
    { st.setObject o { object with file := none } with
      allObjects := fun slotID => (st.allObjects slotID).erase o }
  else if r.file then st.setObject o { object with file := none }
  else st.setObject o object

/-- The handle of a new object. -/
def addHandle (slotID : CK_SLOT_ID) (hSession : ℕ) (isOnToken isPrivate : Bool) (o : Obj)
    (st : Store Obj Sess) : ℕ × Store Obj Sess :=
  if isOnToken then
    let (h, handleManager) := st.handleManager.addTokenObject slotID isPrivate o
    (h, { st with handleManager := handleManager })
  else
    let (h, handleManager, _) := st.handleManager.addSessionObject slotID hSession isPrivate o
    (h, { st with handleManager := handleManager })

/-- Attributes that are set one after the other while the object is in a transaction. -/
def setAttributes : List (CK_ATTRIBUTE_TYPE × OSAttribute) → OSObject → Bool × OSObject
  | [], o => (true, o)
  | (type, attr) :: l, o =>
    match o.setAttribute .done type attr with
    | (false, o) => (false, o)
    | (true, o) => setAttributes l o

/-! ### `CreateObject` -/

/-- What an object that is not generated, unwrapped or derived is said to be. -/
def ownAttributes (objClass : UInt64) : List (CK_ATTRIBUTE_TYPE × OSAttribute) :=
  if objClass = CKO_PUBLIC_KEY then [(CKA_LOCAL, .boolean false)]
  else if objClass = CKO_SECRET_KEY ∨ objClass = CKO_PRIVATE_KEY then
    [(CKA_LOCAL, .boolean false), (CKA_ALWAYS_SENSITIVE, .boolean false),
      (CKA_NEVER_EXTRACTABLE, .boolean false)]
  else []

/-- The transaction of `CreateObject` itself, which is not given up when it fails. -/
def setOwn (w : Storage) (l : List (CK_ATTRIBUTE_TYPE × OSAttribute)) (o : OSObject) :
    CK_RV × OSObject :=
  if l = [] then (CKR_OK, o)
  else
    match o.startTransaction w.locks with
    | (false, o) => (CKR_GENERAL_ERROR, o)
    | (true, o) =>
      match setAttributes l o with
      | (false, o) => (CKR_GENERAL_ERROR, o)
      | (true, o) =>
        match o.commitTransaction w.commit with
        | (false, o) => (CKR_GENERAL_ERROR, o)
        | (true, o) => (CKR_OK, o)

/-- Attributes are taken in their order, a check value last. -/
def reorder (pTemplate : List CK_ATTRIBUTE) : List CK_ATTRIBUTE :=
  pTemplate.filter (·.type ≠ CKA_CHECK_VALUE) ++ pTemplate.filter (·.type = CKA_CHECK_VALUE)

def maxAttribs : ℕ := 32

/-- What `CreateObject` knows when it comes to make the object. -/
structure Plan where
  slotID : CK_SLOT_ID
  token : TokenView
  info : ObjectInformation
  p11object : P11Object
  attribs : List CK_ATTRIBUTE

/-- The checks before the object is made. -/
def planObject (P : Primitives) (x : Outside) (hSession : ℕ)
    (pTemplate : Option (List CK_ATTRIBUTE)) (st : Store Obj Sess) : Except CK_RV Plan := do
  if !st.isInitialised then throw CKR_CRYPTOKI_NOT_INITIALIZED
  let some pTemplate := pTemplate | throw CKR_ARGUMENTS_BAD
  let some s := st.handleManager.getSession hSession | throw CKR_SESSION_HANDLE_INVALID
  let (rv, info) := extractObjectInformation pTemplate
    ⟨CKO_DATA, CKK_RSA, CKC_X_509, CK_FALSE, CK_TRUE⟩ false
  if rv ≠ CKR_OK then throw rv
  let rv := if info.keyType = CKK_GOST28147 then checkGOST28147ParamSet x pTemplate else CKR_OK
  if rv ≠ CKR_OK then throw rv
  let rv := checkGOSTPublicPoint x info.objClass info.keyType pTemplate
  if rv ≠ CKR_OK then throw rv
  let rv := haveWrite (st.getState s) (info.isOnToken ≠ CK_FALSE) (info.isPrivate ≠ CK_FALSE)
  if rv ≠ CKR_OK then throw rv
  if maxAttribs < pTemplate.length then throw CKR_TEMPLATE_INCONSISTENT
  let some p11object := p11ObjectOf info.objClass info.keyType info.certType
    | throw CKR_ATTRIBUTE_VALUE_INVALID
  let slotID := (st.session s).slotID
  return ⟨slotID, Create.token P x (st.sdm slotID), info, p11object, reorder pTemplate⟩

/-- The new object gets its defaults, the attributes of the template and its own. -/
def fillObject (plan : Plan) (m : Making Obj) (op : ObjectOp) (o : OSObject) : CK_RV × OSObject :=
  match plan.p11object.init m.stores o with
  | (false, o) => (CKR_GENERAL_ERROR, o)
  | (true, o) =>
    match plan.p11object.saveTemplate plan.token (plan.info.isPrivate ≠ CK_FALSE) m.save plan.attribs
        op o with
    | (CKR_OK, o) =>
      setOwn m.own (if op = .CREATE then ownAttributes plan.info.objClass else []) o
    | r => r

def CreateObject (P : Primitives) (x : Outside) (m : Making Obj) (hSession : ℕ)
    (pTemplate : Option (List CK_ATTRIBUTE)) (op : ObjectOp) (st : Store Obj Sess) :
    CK_RV × ℕ × Store Obj Sess :=
  match planObject P x hSession pTemplate st with
  | .error rv => (rv, CK_INVALID_HANDLE, st)
  | .ok plan =>
    let isOnToken := plan.info.isOnToken ≠ CK_FALSE
    match createObject plan.slotID isOnToken m st with
    | (false, st) => (CKR_GENERAL_ERROR, CK_INVALID_HANDLE, st)
    | (true, st) =>
      match fillObject plan m op (st.object m.newObject) with
      | (CKR_OK, object) =>
        let (h, st) := addHandle plan.slotID hSession isOnToken (plan.info.isPrivate ≠ CK_FALSE)
          m.newObject (st.setObject m.newObject object)
        (CKR_OK, h, st)
      | (rv, object) => (rv, CK_INVALID_HANDLE, st.setObject m.newObject object)

def C_CreateObject (P : Primitives) (x : Outside) (m : Making Obj) (hSession : ℕ)
    (pTemplate : Option (List CK_ATTRIBUTE)) (st : Store Obj Sess) : CK_RV × ℕ × Store Obj Sess :=
  CreateObject P x m hSession pTemplate .CREATE st

/-! ### Changing and copying -/

def C_SetAttributeValue (P : Primitives) (x : Outside) (stores : CK_ATTRIBUTE_TYPE → Write)
    (w : Storage) (hSession hObject : ℕ) (pTemplate : Option (List CK_ATTRIBUTE))
    (st : Store Obj Sess) : CK_RV × Store Obj Sess :=
  if !st.isInitialised then (CKR_CRYPTOKI_NOT_INITIALIZED, st)
  else
    match pTemplate, st.handleManager.getSession hSession with
    | none, _ => (CKR_ARGUMENTS_BAD, st)
    | some _, none => (CKR_SESSION_HANDLE_INVALID, st)
    | some pTemplate, some s =>
      if st.fakeRutokenECP && hObject = FAKE_RUTOKEN_FEATURE_HANDLE then
        (CKR_ATTRIBUTE_READ_ONLY, st)
      else
        match st.handleManager.getObject hObject with
        | none => (CKR_OBJECT_HANDLE_INVALID, st)
        | some o =>
          let object := st.object o
          if !object.valid then (CKR_OBJECT_HANDLE_INVALID, st)
          else
            let isPrivate := object.attributes.getBooleanValue CKA_PRIVATE true
            let rv := haveWrite (st.getState s)
              (object.attributes.getBooleanValue CKA_TOKEN false) isPrivate
            if rv ≠ CKR_OK then (rv, st)
            else if !object.attributes.getBooleanValue CKA_MODIFIABLE true then
              (CKR_ACTION_PROHIBITED, st)
            else
              match newP11Object stores object with
              | (.error rv, object) => (rv, st.setObject o object)
              | (.ok p11object, object) =>
                let (rv, object) := p11object.saveTemplate
                  (token P x (st.sdm (st.session s).slotID)) isPrivate w pTemplate .SET object
                (rv, st.setObject o object)

/-- The copy of an attribute; the byte strings of an object that becomes private are encrypted. -/
def copyAttribute (token : TokenView) (upgrade : Bool) (attr : OSAttribute) : Option OSAttribute :=
  match attr with
  | .byteString value =>
    if upgrade && value.length ≠ 0 then (token.encrypt value).map .byteString else some attr
  | _ => some attr

/-- The loop over the attributes from the class on, with the types that are there. -/
def copyAttributes (token : TokenView) (upgrade : Bool) (source : AttributeMap) :
    List CK_ATTRIBUTE_TYPE → OSObject → Bool × OSObject
  | [], o => (true, o)
  | type :: types, o =>
    match (OrderedMap.get type source).bind (copyAttribute token upgrade) with
    | none => (false, o)
    | some attr =>
      match o.setAttribute .done type attr with
      | (false, o) => (false, o)
      | (true, o) => copyAttributes token upgrade source types o

/-- The new object gets the attributes of the other one, and those of the template. -/
def fillCopy (token : TokenView) (m : Making Obj) (wasPrivate isPrivate : Bool)
    (source : AttributeMap) (pTemplate : List CK_ATTRIBUTE) (o : OSObject) : CK_RV × OSObject :=
  match o.startTransaction m.own.locks with
  | (false, o) => (CKR_FUNCTION_FAILED, o)
  | (true, o) =>
    if !source.attributeExists CKA_CLASS then (CKR_FUNCTION_FAILED, o.abortTransaction.2)
    else
      match copyAttributes token (!wasPrivate && isPrivate) source (source.map (·.1)) o with
      | (false, o) => (CKR_FUNCTION_FAILED, o.abortTransaction.2)
      | (true, o) =>
        match o.commitTransaction m.own.commit with
        | (false, o) => (CKR_FUNCTION_FAILED, o)
        | (true, o) =>
          match newP11Object m.stores o with
          | (.error rv, o) => (rv, o)
          | (.ok newp11object, o) =>
            newp11object.saveTemplate token isPrivate m.save pTemplate .COPY o

def C_CopyObject (P : Primitives) (x : Outside) (m : Making Obj) (hSession hObject : ℕ)
    (pTemplate : Option (List CK_ATTRIBUTE)) (st : Store Obj Sess) : CK_RV × ℕ × Store Obj Sess :=
  if !st.isInitialised then (CKR_CRYPTOKI_NOT_INITIALIZED, CK_INVALID_HANDLE, st)
  else
    match pTemplate, st.handleManager.getSession hSession with
    | none, _ => (CKR_ARGUMENTS_BAD, CK_INVALID_HANDLE, st)
    | some _, none => (CKR_SESSION_HANDLE_INVALID, CK_INVALID_HANDLE, st)
    | some pTemplate, some s =>
      match st.handleManager.getObject hObject with
      | none => (CKR_OBJECT_HANDLE_INVALID, CK_INVALID_HANDLE, st)
      | some o =>
        let object := st.object o
        if !object.valid then (CKR_OBJECT_HANDLE_INVALID, CK_INVALID_HANDLE, st)
        else
          let slotID := (st.session s).slotID
          let wasOnToken := object.attributes.getBooleanValue CKA_TOKEN false
          let wasPrivate := object.attributes.getBooleanValue CKA_PRIVATE true
          let rv := haveRead (st.getState s) wasOnToken wasPrivate
          if rv ≠ CKR_OK then (rv, CK_INVALID_HANDLE, st)
          else if !object.attributes.getBooleanValue CKA_COPYABLE true then
            (CKR_ACTION_PROHIBITED, CK_INVALID_HANDLE, st)
          else
            let isOnToken := boolOf CKA_TOKEN (if wasOnToken then CK_TRUE else CK_FALSE) pTemplate ≠
              CK_FALSE
            let isPrivate := boolOf CKA_PRIVATE (if wasPrivate then CK_TRUE else CK_FALSE)
              pTemplate ≠ CK_FALSE
            if wasPrivate && !isPrivate then (CKR_TEMPLATE_INCONSISTENT, CK_INVALID_HANDLE, st)
            else
              let rv := haveWrite (st.getState s) isOnToken isPrivate
              if rv ≠ CKR_OK then (rv, CK_INVALID_HANDLE, st)
              else
                match createObject slotID isOnToken m st with
                | (false, st) => (CKR_GENERAL_ERROR, CK_INVALID_HANDLE, st)
                | (true, st) =>
                  match fillCopy (token P x (st.sdm slotID)) m wasPrivate isPrivate
                      object.attributes pTemplate (st.object m.newObject) with
                  | (CKR_OK, object) =>
                    let (h, st) := addHandle slotID hSession isOnToken isPrivate m.newObject
                      (st.setObject m.newObject object)
                    (CKR_OK, h, st)
                  | (rv, object) =>
                    (rv, CK_INVALID_HANDLE,
                      destroyObject m.removal m.newObject (st.setObject m.newObject object))

end SoftHSM.Create
