import SoftHSM.Lib.Rows
import SoftHSM.Library.P11Attributes

/-!
The object of the database backend: its attributes are the rows of four tables, one for each kind
of value, and it keeps the values that it has read or written. A type that is not listed as
modifiable is read once. A transaction has values of its own, with a null pointer for an attribute
that was deleted.

The database is one object's share of it, with what a rollback brings back.
-/

namespace SoftHSM

open Codec Codec.Reader

/-! ### Numbers of the store -/

def CKA_AC_ISSUER : CK_ATTRIBUTE_TYPE := 0x83
def CKA_OWNER : CK_ATTRIBUTE_TYPE := 0x84
def CKA_ATTR_TYPES : CK_ATTRIBUTE_TYPE := 0x85
def CKA_DERIVE_TEMPLATE : CK_ATTRIBUTE_TYPE := 0x40000213

def CKA_VENDOR_SOFTHSM : CK_ATTRIBUTE_TYPE := 0x80005348
def CKA_OS_TOKENLABEL : CK_ATTRIBUTE_TYPE := CKA_VENDOR_SOFTHSM + 1
def CKA_OS_TOKENSERIAL : CK_ATTRIBUTE_TYPE := CKA_VENDOR_SOFTHSM + 2
def CKA_OS_TOKENFLAGS : CK_ATTRIBUTE_TYPE := CKA_VENDOR_SOFTHSM + 3
def CKA_OS_SOPIN : CK_ATTRIBUTE_TYPE := CKA_VENDOR_SOFTHSM + 4
def CKA_OS_USERPIN : CK_ATTRIBUTE_TYPE := CKA_VENDOR_SOFTHSM + 5
def CKA_OS_TOKENCREATED : CK_ATTRIBUTE_TYPE := CKA_VENDOR_SOFTHSM + 6
def CKA_OS_PINPOLICY : CK_ATTRIBUTE_TYPE := CKA_VENDOR_SOFTHSM + 7
def CKA_OS_TOKENNAME : CK_ATTRIBUTE_TYPE := CKA_VENDOR_SOFTHSM + 8
def CKA_OS_USERPINEXPIRED : CK_ATTRIBUTE_TYPE := CKA_VENDOR_SOFTHSM + 9
def CKA_OS_LICENSE (id : UInt64) : CK_ATTRIBUTE_TYPE := CKA_VENDOR_SOFTHSM + 0x20 + id
def CKA_OS_JOURNAL : CK_ATTRIBUTE_TYPE := CKA_VENDOR_SOFTHSM + 0x30
def CKA_OS_LOCALPIN (id : UInt64) : CK_ATTRIBUTE_TYPE := CKA_VENDOR_SOFTHSM + 0x100 + id
def CKA_OS_PINDEFAULT (id : UInt64) : CK_ATTRIBUTE_TYPE := CKA_VENDOR_SOFTHSM + 0x200 + id

namespace OSAttribute

/-! An attribute of another kind has the value that the constructor leaves. -/

def boolValue : OSAttribute → Bool
  | .boolean value => value
  | _ => false

def ulongValue : OSAttribute → UInt64
  | .unsignedLong value => value
  | _ => 0

def byteStrValue : OSAttribute → ByteString
  | .byteString value => value
  | _ => []

def mechSetValue : OSAttribute → Finset CK_MECHANISM_TYPE
  | .mechanismTypeSet value => value
  | _ => ∅

def attrMapValue : OSAttribute → List (CK_ATTRIBUTE_TYPE × OSAttribute)
  | .attributeMap value => value
  | _ => []

end OSAttribute

namespace DB

/-! ### Kinds -/

/-- `AttributeKind`. -/
inductive Kind
  | akUnknown
  | akBoolean
  | akInteger
  | akBinary
  | akAttrMap
  | akMechSet
  deriving DecidableEq

/-- The number of the kind, four bytes in memory. -/
def Kind.bytes : Kind → ByteString
  | .akUnknown => [0, 0, 0, 0]
  | .akBoolean => [1, 0, 0, 0]
  | .akInteger => [2, 0, 0, 0]
  | .akBinary => [3, 0, 0, 0]
  | .akAttrMap => [4, 0, 0, 0]
  | .akMechSet => [5, 0, 0, 0]

/-- The types whose numbers are in a range, with their kinds. -/
def inRange (type first last : CK_ATTRIBUTE_TYPE) : Bool := first ≤ type && type ≤ last

def isLicense (type : CK_ATTRIBUTE_TYPE) : Bool :=
  inRange type (CKA_OS_LICENSE 1) (CKA_OS_LICENSE 4)

def isLocalPin (type : CK_ATTRIBUTE_TYPE) : Bool :=
  inRange type (CKA_OS_LOCALPIN 3) (CKA_OS_LOCALPIN 31)

def isPinDefault (type : CK_ATTRIBUTE_TYPE) : Bool :=
  type = CKA_OS_PINDEFAULT 0 || type = CKA_OS_PINDEFAULT 1 ||
    inRange type (CKA_OS_PINDEFAULT 3) (CKA_OS_PINDEFAULT 31)

/-- The types that may change after they were read. -/
def modifiableTypes : List CK_ATTRIBUTE_TYPE :=
  [CKA_LABEL, CKA_TRUSTED, CKA_ID, CKA_ISSUER, CKA_SERIAL_NUMBER, CKA_START_DATE, CKA_END_DATE,
    CKA_DERIVE, CKA_SUBJECT, CKA_ENCRYPT, CKA_VERIFY, CKA_VERIFY_RECOVER, CKA_WRAP, CKA_SENSITIVE,
    CKA_DECRYPT, CKA_SIGN, CKA_SIGN_RECOVER, CKA_UNWRAP, CKA_EXTRACTABLE, CKA_OS_TOKENFLAGS,
    CKA_OS_PINPOLICY, CKA_OS_TOKENNAME, CKA_OS_SOPIN, CKA_OS_USERPIN, CKA_OS_USERPINEXPIRED]

def isModifiable (type : CK_ATTRIBUTE_TYPE) : Bool :=
  isLicense type || type = CKA_OS_JOURNAL || isLocalPin type || isPinDefault type ||
    type ∈ modifiableTypes

def booleanTypes : List CK_ATTRIBUTE_TYPE :=
  [CKA_TOKEN, CKA_PRIVATE, CKA_TRUSTED, CKA_SENSITIVE, CKA_ENCRYPT, CKA_DECRYPT, CKA_WRAP,
    CKA_UNWRAP, CKA_SIGN, CKA_SIGN_RECOVER, CKA_VERIFY, CKA_VERIFY_RECOVER, CKA_DERIVE,
    CKA_EXTRACTABLE, CKA_LOCAL, CKA_NEVER_EXTRACTABLE, CKA_ALWAYS_SENSITIVE, CKA_MODIFIABLE,
    CKA_COPYABLE, CKA_SECONDARY_AUTH, CKA_ALWAYS_AUTHENTICATE, CKA_WRAP_WITH_TRUSTED,
    CKA_OS_USERPINEXPIRED]

def integerTypes : List CK_ATTRIBUTE_TYPE :=
  [CKA_CLASS, CKA_CERTIFICATE_TYPE, CKA_CERTIFICATE_CATEGORY, CKA_JAVA_MIDP_SECURITY_DOMAIN,
    CKA_NAME_HASH_ALGORITHM, CKA_KEY_TYPE, CKA_MODULUS_BITS, CKA_PRIME_BITS, CKA_SUB_PRIME_BITS,
    CKA_VALUE_BITS, CKA_VALUE_LEN, CKA_KEY_GEN_MECHANISM, CKA_AUTH_PIN_FLAGS, CKA_OS_TOKENFLAGS,
    CKA_PARAMETER_SET]

def binaryTypes : List CK_ATTRIBUTE_TYPE :=
  [CKA_LABEL, CKA_APPLICATION, CKA_VALUE, CKA_OBJECT_ID, CKA_ISSUER, CKA_SERIAL_NUMBER,
    CKA_AC_ISSUER, CKA_OWNER, CKA_ATTR_TYPES, CKA_URL, CKA_HASH_OF_SUBJECT_PUBLIC_KEY,
    CKA_HASH_OF_ISSUER_PUBLIC_KEY, CKA_CHECK_VALUE, CKA_SUBJECT, CKA_ID, CKA_START_DATE,
    CKA_END_DATE, CKA_MODULUS, CKA_PUBLIC_EXPONENT, CKA_PRIVATE_EXPONENT, CKA_PRIME_1,
    CKA_PRIME_2, CKA_EXPONENT_1, CKA_EXPONENT_2, CKA_COEFFICIENT, CKA_PRIME, CKA_SUBPRIME,
    CKA_BASE, CKA_EC_PARAMS, CKA_EC_POINT, CKA_GOSTR3410_PARAMS, CKA_GOSTR3411_PARAMS,
    CKA_GOST28147_PARAMS, CKA_OS_TOKENLABEL, CKA_OS_TOKENSERIAL, CKA_OS_SOPIN, CKA_OS_USERPIN,
    CKA_OS_PINPOLICY, CKA_OS_TOKENNAME, CKA_SEED]

def attributeKind (type : CK_ATTRIBUTE_TYPE) : Kind :=
  if isLicense type || type = CKA_OS_JOURNAL || isLocalPin type then .akBinary
  else if isPinDefault type then .akBoolean
  else if type ∈ booleanTypes then .akBoolean
  else if type ∈ integerTypes then .akInteger
  else if type ∈ binaryTypes then .akBinary
  else if type ∈ [CKA_WRAP_TEMPLATE, CKA_UNWRAP_TEMPLATE, CKA_DERIVE_TEMPLATE] then .akAttrMap
  else if type = CKA_ALLOWED_MECHANISMS then .akMechSet
  else .akUnknown

/-! ### Sets and maps as blobs -/

def readULong : Reader UInt64 := do return ulongAt (← fread 8)

def encodeMechanismTypeSet (set : Finset CK_MECHANISM_TYPE) : ByteString :=
  (File.mechanismTypes set).flatMap ulongBytes

def decodeMechanismTypeSet (binary : ByteString) : Option (Finset CK_MECHANISM_TYPE) :=
  if binary = [] then some ∅
  else if binary.length < 8 then none
  else (decodeMechanismTypeSet (binary.drop 8)).map (insert (ulongAt (binary.take 8)))
  termination_by binary.length
  decreasing_by
    rw [List.length_drop]
    omega

/-- The kind and the bytes of a value in a map; a map has none. -/
def encodeValue : OSAttribute → Option ByteString
  | .boolean val => some (Kind.akBoolean.bytes ++ [if val then 1 else 0])
  | .unsignedLong val => some (Kind.akInteger.bytes ++ ulongBytes val)
  | .byteString val => some (Kind.akBinary.bytes ++ (ulongBytes (UInt64.ofNat val.length) ++ val))
  | .mechanismTypeSet val =>
    let set := encodeMechanismTypeSet val
    some (Kind.akMechSet.bytes ++ (ulongBytes (UInt64.ofNat set.length) ++ set))
  | .attributeMap _ => none

def encodeAttributeMap : List (CK_ATTRIBUTE_TYPE × OSAttribute) → Option ByteString
  | [] => some []
  | (attrType, attr) :: attributes => do
    return ulongBytes attrType ++ ((← encodeValue attr) ++ (← encodeAttributeMap attributes))

def decodeValue (attrKind : ByteString) : Reader OSAttribute :=
  if attrKind = Kind.akBoolean.bytes then do return .boolean ((← fread 1) ≠ [0])
  else if attrKind = Kind.akInteger.bytes then do return .unsignedLong (← readULong)
  else if attrKind = Kind.akBinary.bytes then do
    return .byteString (← fread (← readULong).toNat)
  else if attrKind = Kind.akMechSet.bytes then do
    let binary ← fread (← readULong).toNat
    match decodeMechanismTypeSet binary with
    | some set => return .mechanismTypeSet set
    | none => fail
  else fail

def decodeEntry : Reader (CK_ATTRIBUTE_TYPE × OSAttribute) := do
  let attrType ← readULong
  return (attrType, ← decodeValue (← fread 4))

lemma shrinks_readULong : Shrinks readULong := (shrinks_fread 8).bind fun _ => shrinks_pure _

lemma shrinks_decodeValue (attrKind : ByteString) : Shrinks (decodeValue attrKind) := by
  unfold decodeValue
  split
  · exact (shrinks_fread 1).bind fun _ => shrinks_pure _
  split
  · exact shrinks_readULong.bind fun _ => shrinks_pure _
  split
  · exact shrinks_readULong.bind fun _ => (shrinks_fread _).bind fun _ => shrinks_pure _
  split
  · refine shrinks_readULong.bind fun _ => (shrinks_fread _).bind fun binary => ?_
    cases decodeMechanismTypeSet binary with
    | some set => exact shrinks_pure _
    | none => exact shrinks_fail
  · exact shrinks_fail

/-- An entry takes its type at least. -/
lemma decodeEntry_lt {s s' : Stream} {x : CK_ATTRIBUTE_TYPE × OSAttribute}
    (h : decodeEntry.read s = (some x, s')) : s'.rest.length < s.rest.length := by
  have hafter : ∀ t, Shrinks (do return (t, ← decodeValue (← fread 4)) :
      Reader (CK_ATTRIBUTE_TYPE × OSAttribute)) := fun t =>
    (shrinks_fread 4).bind fun _ => (shrinks_decodeValue _).bind fun _ => shrinks_pure _
  unfold decodeEntry readULong at h
  rw [read_bind, read_bind] at h
  rcases hr : (fread 8).read s with ⟨_ | b, s₁⟩
  · rw [hr] at h
    cases h
  · have hlen := fread_length hr
    rw [hr] at h
    have hle := hafter (ulongAt b) s₁
    rw [show (do return (ulongAt b, ← decodeValue (← fread 4)) :
      Reader (CK_ATTRIBUTE_TYPE × OSAttribute)).read s₁ = (some x, s') from h] at hle
    have hs : s'.rest.length ≤ s₁.rest.length := hle
    omega

/-- The loop until the end of the blob; an entry whose type has come before does not count. -/
def decodeAttributeMap (map : List (CK_ATTRIBUTE_TYPE × OSAttribute)) (binary : ByteString) :
    Option (List (CK_ATTRIBUTE_TYPE × OSAttribute)) :=
  if binary = [] then some map
  else
    match h : decodeEntry.read ⟨binary, false⟩ with
    | (none, _) => none
    | (some (attrType, attr), s) =>
      have := decodeEntry_lt h
      decodeAttributeMap (OrderedMap.insert attrType attr map).2 s.rest
  termination_by binary.length

/-! ### The database -/

/-- The rows of an object, by tables. -/
structure Tables where
  attribute_boolean : List (CK_ATTRIBUTE_TYPE × Bool)
  attribute_integer : List (CK_ATTRIBUTE_TYPE × UInt64)
  attribute_binary : List (CK_ATTRIBUTE_TYPE × ByteString)
  attribute_array : List (CK_ATTRIBUTE_TYPE × ByteString)

namespace Tables

def empty : Tables := ⟨[], [], [], []⟩

/-- The value of an attribute, from the table of its kind. -/
def value (tables : Tables) (type : CK_ATTRIBUTE_TYPE) : Option OSAttribute :=
  match attributeKind type with
  | .akUnknown => none
  | .akBoolean => (Rows.select type tables.attribute_boolean).map .boolean
  | .akInteger => (Rows.select type tables.attribute_integer).map .unsignedLong
  | .akBinary => (Rows.select type tables.attribute_binary).map .byteString
  | .akMechSet => (Rows.select type tables.attribute_binary).bind fun binary =>
    (decodeMechanismTypeSet binary).map .mechanismTypeSet
  | .akAttrMap => (Rows.select type tables.attribute_array).bind fun binary =>
    (decodeAttributeMap [] binary).map .attributeMap

/-- The update of an attribute that has a value of a kind, nothing where there is no statement. -/
def update (tables : Tables) (type : CK_ATTRIBUTE_TYPE) (attr given : OSAttribute) :
    Option Tables :=
  match attr with
  | .boolean _ => some { tables with
      attribute_boolean := Rows.update type given.boolValue tables.attribute_boolean }
  | .unsignedLong _ => some { tables with
      attribute_integer := Rows.update type given.ulongValue tables.attribute_integer }
  | .byteString _ => some { tables with
      attribute_binary := Rows.update type given.byteStrValue tables.attribute_binary }
  | .mechanismTypeSet _ => some { tables with
      attribute_binary := Rows.update type (encodeMechanismTypeSet given.mechSetValue)
        tables.attribute_binary }
  | .attributeMap _ => (encodeAttributeMap given.attrMapValue).map fun value =>
    { tables with attribute_array := Rows.update type value tables.attribute_array }

def insert (tables : Tables) (type : CK_ATTRIBUTE_TYPE) (given : OSAttribute) :
    Option Tables :=
  match given with
  | .boolean value => some { tables with
      attribute_boolean := Rows.insertInto type value tables.attribute_boolean }
  | .unsignedLong value => some { tables with
      attribute_integer := Rows.insertInto type value tables.attribute_integer }
  | .byteString value => some { tables with
      attribute_binary := Rows.insertInto type value tables.attribute_binary }
  | .mechanismTypeSet value => some { tables with
      attribute_binary := Rows.insertInto type (encodeMechanismTypeSet value)
        tables.attribute_binary }
  | .attributeMap value => (encodeAttributeMap value).map fun value =>
    { tables with attribute_array := Rows.insertInto type value tables.attribute_array }

/-- The rows of an attribute that has a value of a kind are deleted. -/
def delete (tables : Tables) (type : CK_ATTRIBUTE_TYPE) (attr : OSAttribute) : Tables :=
  match attr with
  | .boolean _ => { tables with
      attribute_boolean := Rows.deleteFrom type tables.attribute_boolean }
  | .unsignedLong _ => { tables with
      attribute_integer := Rows.deleteFrom type tables.attribute_integer }
  | .byteString _ => { tables with
      attribute_binary := Rows.deleteFrom type tables.attribute_binary }
  | .mechanismTypeSet _ => { tables with
      attribute_binary := Rows.deleteFrom type tables.attribute_binary }
  | .attributeMap _ => { tables with
      attribute_array := Rows.deleteFrom type tables.attribute_array }

end Tables

/-- A connection, with the tables as they were when its transaction began. -/
structure Connection where
  tables : Tables
  saved : Option Tables

namespace Connection

def inTransaction (c : Connection) : Bool := c.saved.isSome

def beginTransaction (c : Connection) : Bool × Connection :=
  if c.inTransaction then (false, c) else (true, { c with saved := some c.tables })

def commitTransaction (c : Connection) : Bool × Connection :=
  if c.inTransaction then (true, { c with saved := none }) else (false, c)

def rollbackTransaction (c : Connection) : Bool × Connection :=
  match c.saved with
  | some tables => (true, ⟨tables, none⟩)
  | none => (false, c)

end Connection

end DB

/-! ### The object -/

/-- `std::map<CK_ATTRIBUTE_TYPE, OSAttribute*>`, in which `none` is a null pointer. -/
abbrev AttributePointers := List (CK_ATTRIBUTE_TYPE × Option OSAttribute)

structure DBObject where
  connection : DB.Connection
  attributes : AttributePointers
  transaction : Option AttributePointers

namespace DBObject

/-- Another object for the same rows; a transaction that was open is lost with its connection. -/
def reopen (o : DBObject) : DBObject := ⟨o.connection.rollbackTransaction.2, [], none⟩

/-- What was read is kept, in the transaction when it is active. -/
def keep (o : DBObject) (type : CK_ATTRIBUTE_TYPE) (attr : OSAttribute) : DBObject :=
  match o.transaction with
  | some transaction => { o with transaction := some (OrderedMap.put type (some attr) transaction) }
  | none => { o with attributes := OrderedMap.put type (some attr) o.attributes }

def accessAttribute (o : DBObject) (type : CK_ATTRIBUTE_TYPE) : Option OSAttribute × DBObject :=
  match o.connection.tables.value type with
  | none => (none, o)
  | some attr => (some attr, o.keep type attr)

def getAttributeDB (o : DBObject) (type : CK_ATTRIBUTE_TYPE) : Option OSAttribute × DBObject :=
  match o.transaction.bind (OrderedMap.get type) with
  | some attr => (attr, o)
  | none =>
    if DB.isModifiable type then o.accessAttribute type
    else
      match OrderedMap.get type o.attributes with
      | some attr => (attr, o)
      | none => o.accessAttribute type

def attributeExists (o : DBObject) (type : CK_ATTRIBUTE_TYPE) : Bool × DBObject :=
  let (attr, o) := o.getAttributeDB type
  (attr.isSome, o)

def getAttribute (o : DBObject) (type : CK_ATTRIBUTE_TYPE) : OSAttribute × DBObject :=
  let (attr, o) := o.getAttributeDB type
  (attr.getD (.unsignedLong 0), o)

def getBooleanValue (o : DBObject) (type : CK_ATTRIBUTE_TYPE) (val : Bool) : Bool × DBObject :=
  let (attr, o) := o.getAttributeDB type
  (match attr with
    | some (.boolean value) => value
    | _ => val, o)

def getUnsignedLongValue (o : DBObject) (type : CK_ATTRIBUTE_TYPE) (val : UInt64) :
    UInt64 × DBObject :=
  let (attr, o) := o.getAttributeDB type
  (match attr with
    | some (.unsignedLong value) => value
    | _ => val, o)

def getByteStringValue (o : DBObject) (type : CK_ATTRIBUTE_TYPE) : ByteString × DBObject :=
  let (attr, o) := o.getAttributeDB type
  (match attr with
    | some (.byteString value) => value
    | _ => [], o)

/-- "FIXME: implement for C_CopyObject". -/
def nextAttributeType (_ : DBObject) (_ : CK_ATTRIBUTE_TYPE) : CK_ATTRIBUTE_TYPE := CKA_CLASS

def setTables (o : DBObject) (tables : DB.Tables) : DBObject :=
  { o with connection := { o.connection with tables := tables } }

def setAttribute (o : DBObject) (type : CK_ATTRIBUTE_TYPE) (given : OSAttribute) :
    Bool × DBObject :=
  let (attr, o) := o.getAttributeDB type
  let tables := match attr with
    | some attr => o.connection.tables.update type attr given
    | none => o.connection.tables.insert type given
  match tables with
  | none => (false, o)
  | some tables => (true, (o.setTables tables).keep type given)

def deleteAttribute (o : DBObject) (type : CK_ATTRIBUTE_TYPE) : Bool × DBObject :=
  match o.getAttributeDB type with
  | (none, o) => (false, o)
  | (some attr, o) =>
    let o := o.setTables (o.connection.tables.delete type attr)
    match o.transaction with
    | none => (true, o)
    | some transaction =>
      (true, { o with transaction := some (if (OrderedMap.get type transaction).isSome then
        OrderedMap.put type none transaction else transaction) })

def startTransaction (o : DBObject) : Bool × DBObject :=
  if o.transaction.isSome then (false, o)
  else
    let o := { o with transaction := some [] }
    let (ok, connection) := o.connection.beginTransaction
    (ok, { o with connection := connection })

/-- An entry of the transaction is copied; nothing where a null pointer is followed. -/
def copyEntry (attributes : AttributePointers) (entry : CK_ATTRIBUTE_TYPE × Option OSAttribute) :
    Option AttributePointers :=
  match OrderedMap.get entry.1 attributes with
  | none => some (OrderedMap.put entry.1 entry.2 attributes)
  | some none => none
  | some (some _) =>
    match entry.2 with
    | none => none
    | some given => some (OrderedMap.put entry.1 (some given) attributes)

/-- `commitTransaction`, nothing where the process is killed. -/
def commitTransaction (o : DBObject) : Option (Bool × DBObject) :=
  match o.transaction with
  | none => some (false, o)
  | some transaction =>
    match o.connection.commitTransaction with
    | (false, _) => some (false, o)
    | (true, connection) => do
      return (true, ⟨connection, ← transaction.foldlM copyEntry o.attributes, none⟩)

def abortTransaction (o : DBObject) : Bool × DBObject :=
  let (ok, connection) := o.connection.rollbackTransaction
  (ok, { o with connection := connection, transaction := none })

end DBObject

end SoftHSM
