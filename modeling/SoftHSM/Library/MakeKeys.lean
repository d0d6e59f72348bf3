import SoftHSM.Library.Create

/-!
The calls that make keys. Each works a template out, makes an object with `CreateObject`, and
stores the key in a transaction of its own; where that fails it removes what has a handle. What
the cryptographic libraries give, and the checks of a mechanism, are parameters.
-/

namespace SoftHSM.Create

open CK_RV Search P11Object

variable {Obj Sess : Type} [DecidableEq Obj] [DecidableEq Sess]

/-! ### What is stored for a key -/

/-- The types of what a key is made of. -/
def materialTypes : List CK_ATTRIBUTE_TYPE :=
  [CKA_VALUE, CKA_CHECK_VALUE, CKA_VALUE_LEN, CKA_VALUE_BITS, CKA_DERIVE, CKA_WRAP, CKA_UNWRAP,
    CKA_MODULUS, CKA_PUBLIC_EXPONENT, CKA_PRIVATE_EXPONENT, CKA_PRIME_1, CKA_PRIME_2,
    CKA_EXPONENT_1, CKA_EXPONENT_2, CKA_COEFFICIENT, CKA_PRIME, CKA_SUBPRIME, CKA_BASE,
    CKA_EC_PARAMS, CKA_EC_POINT, CKA_PARAMETER_SET, CKA_SEED, CKA_GOSTR3410_PARAMS,
    CKA_GOSTR3411_PARAMS, CKA_GOST28147_PARAMS]

/-- What a key is made of, as it is stored. Wrapping is only ever ruled out with it. -/
structure Material where
  attributes : List (CK_ATTRIBUTE_TYPE × OSAttribute)
  known : ∀ x ∈ attributes, x.1 ∈ materialTypes
  ruledOut : ∀ x ∈ attributes, x.1 ∈ [CKA_WRAP, CKA_UNWRAP] → x.2 = .boolean false

/-- What is stored for a key that has some attributes; an error gives the transaction up. -/
abbrev Supply := AttributeMap → Except CK_RV (List (CK_ATTRIBUTE_TYPE × OSAttribute))

/-- What a call says about the origin of a key, and then what the key is made of. -/
def supplyOf (origin : AttributeMap → List (CK_ATTRIBUTE_TYPE × OSAttribute))
    (material : Option Material) : Supply := fun m =>
  match material with
  | none => .error CKR_FUNCTION_FAILED
  | some material => .ok (origin m ++ material.attributes)

def isLocal (value : Bool) : CK_ATTRIBUTE_TYPE × OSAttribute := (CKA_LOCAL, .boolean value)
def sensitive (value : Bool) : CK_ATTRIBUTE_TYPE × OSAttribute := (CKA_SENSITIVE, .boolean value)
def extractable (value : Bool) : CK_ATTRIBUTE_TYPE × OSAttribute :=
  (CKA_EXTRACTABLE, .boolean value)
def alwaysSensitive (value : Bool) : CK_ATTRIBUTE_TYPE × OSAttribute :=
  (CKA_ALWAYS_SENSITIVE, .boolean value)
def neverExtractable (value : Bool) : CK_ATTRIBUTE_TYPE × OSAttribute :=
  (CKA_NEVER_EXTRACTABLE, .boolean value)

/-- Of a public key, and of domain parameters. -/
def generatedPublic (mechanism : CK_MECHANISM_TYPE) (_ : AttributeMap) :
    List (CK_ATTRIBUTE_TYPE × OSAttribute) :=
  [isLocal true, (CKA_KEY_GEN_MECHANISM, .unsignedLong mechanism)]

/-- Of a private or a secret key. -/
def generated (mechanism : CK_MECHANISM_TYPE) (m : AttributeMap) :
    List (CK_ATTRIBUTE_TYPE × OSAttribute) :=
  generatedPublic mechanism m ++
    [alwaysSensitive (m.getBooleanValue CKA_SENSITIVE false),
      neverExtractable (m.getBooleanValue CKA_EXTRACTABLE false = false)]

/-- Of a GOST 28147-89 key of the Rutoken profile. -/
def generatedRutokenGost (isOnToken : Bool) (mechanism : CK_MECHANISM_TYPE) (_ : AttributeMap) :
    List (CK_ATTRIBUTE_TYPE × OSAttribute) :=
  [isLocal isOnToken, (CKA_KEY_GEN_MECHANISM, .unsignedLong mechanism), alwaysSensitive false,
    neverExtractable false]

/-- Of a key that comes from outside. -/
def unwrapped (_ : AttributeMap) : List (CK_ATTRIBUTE_TYPE × OSAttribute) :=
  [isLocal false, alwaysSensitive false, neverExtractable false]

/-- Of a key that is derived from another one. -/
def derived (baseKey m : AttributeMap) : List (CK_ATTRIBUTE_TYPE × OSAttribute) :=
  [isLocal false,
    alwaysSensitive (baseKey.getBooleanValue CKA_ALWAYS_SENSITIVE false &&
      m.getBooleanValue CKA_SENSITIVE false),
    neverExtractable (baseKey.getBooleanValue CKA_NEVER_EXTRACTABLE true &&
      m.getBooleanValue CKA_EXTRACTABLE false = false)]

/-- Of a key that another one and some data make. -/
def concatenatedData (baseKey _m : AttributeMap) : List (CK_ATTRIBUTE_TYPE × OSAttribute) :=
  [isLocal false] ++
  (if baseKey.getBooleanValue CKA_SENSITIVE true then [sensitive true] else []) ++
  (if !baseKey.getBooleanValue CKA_EXTRACTABLE false then [extractable false] else []) ++
  [alwaysSensitive (baseKey.getBooleanValue CKA_ALWAYS_SENSITIVE false),
    neverExtractable (baseKey.getBooleanValue CKA_NEVER_EXTRACTABLE false)]

/-- Of a key that two other ones make. The last of the five goes to the type of the fourth. -/
def concatenatedKeys (baseKey otherKey _m : AttributeMap) :
    List (CK_ATTRIBUTE_TYPE × OSAttribute) :=
  [isLocal false] ++
  (if baseKey.getBooleanValue CKA_SENSITIVE true || otherKey.getBooleanValue CKA_SENSITIVE true then
    [sensitive true] else []) ++
  (if !(baseKey.getBooleanValue CKA_EXTRACTABLE true &&
    otherKey.getBooleanValue CKA_EXTRACTABLE true) then [extractable false] else []) ++
  [alwaysSensitive (baseKey.getBooleanValue CKA_ALWAYS_SENSITIVE false &&
      otherKey.getBooleanValue CKA_ALWAYS_SENSITIVE false),
    alwaysSensitive (baseKey.getBooleanValue CKA_NEVER_EXTRACTABLE false &&
      otherKey.getBooleanValue CKA_NEVER_EXTRACTABLE false)]

/-! ### Storing and cleaning up -/

/-- The transaction in which a key is stored. -/
def supplyKey (w : Storage) (aborts : Bool) (supply : Supply) (o : OSObject) : CK_RV × OSObject :=
  if !o.valid then (CKR_FUNCTION_FAILED, o)
  else
    match o.startTransaction w.locks with
    | (false, o) => (CKR_FUNCTION_FAILED, o)
    | (true, o) =>
      match supply o.attributes with
      | .error rv => (rv, if aborts then o.abortTransaction.2 else o)
      | .ok l =>
        match setAttributes l o with
        | (false, o) => (CKR_FUNCTION_FAILED, o.abortTransaction.2)
        | (true, o) =>
          match o.commitTransaction w.commit with
          | (false, o) => (CKR_FUNCTION_FAILED, o)
          | (true, o) => (CKR_OK, o)

/-- A key is made and stored. -/
def storeKey (P : Primitives) (x : Outside) (m : Making Obj) (hSession : ℕ)
    (attribs : List CK_ATTRIBUTE) (op : ObjectOp) (aborts : Bool) (supply : Supply)
    (st : Store Obj Sess) : CK_RV × ℕ × Store Obj Sess :=
  match CreateObject P x m hSession (some attribs) op st with
  | (CKR_OK, h, st) =>
    match st.handleManager.getObject h with
    | none => (CKR_FUNCTION_FAILED, h, st)
    | some o =>
      let (rv, object) := supplyKey m.supply aborts supply (st.object o)
      (rv, h, st.setObject o object)
  | r => r

/-- The object of a handle is removed, and its handle. -/
def removeKey (r : Removal) (h : ℕ) (st : Store Obj Sess) : Store Obj Sess :=
  if h = CK_INVALID_HANDLE then st
  else
    let st' := { st with handleManager := (st.handleManager.destroyObject h).1 }
    match st.handleManager.getObject h with
    | none => st'
    | some o => destroyObject r o st'

/-- "Remove the key that may have been created already when the function fails." -/
def cleanUp (r : Removal) : CK_RV × ℕ × Store Obj Sess → CK_RV × ℕ × Store Obj Sess
  | (CKR_OK, h, st) => (CKR_OK, h, st)
  | (rv, h, st) => (rv, CK_INVALID_HANDLE, removeKey r h st)

/-- A key is made with a template that has been worked out. -/
def makeKey (P : Primitives) (x : Outside) (m : Making Obj) (hSession : ℕ)
    (attribs : List CK_ATTRIBUTE) (op : ObjectOp) (aborts : Bool) (supply : Supply)
    (st : Store Obj Sess) : CK_RV × ℕ × Store Obj Sess :=
  cleanUp m.removal (storeKey P x m hSession attribs op aborts supply st)

/-! ### Templates -/

/-- The four attributes that every key gets. -/
def keyAttribs (objClass : UInt64) (keyType : CK_KEY_TYPE) (isOnToken isPrivate : UInt8) :
    List CK_ATTRIBUTE :=
  [⟨CKA_CLASS, some (ulongBytes objClass), 0⟩, ⟨CKA_TOKEN, some [isOnToken], 0⟩,
    ⟨CKA_PRIVATE, some [isPrivate], 0⟩, ⟨CKA_KEY_TYPE, some (ulongBytes keyType), 0⟩]

/-- What the caller wants is added, without the attributes that the call sees to. -/
def addTemplate (attribs : List CK_ATTRIBUTE) (excluded : List CK_ATTRIBUTE_TYPE)
    (pTemplate : List CK_ATTRIBUTE) : Except CK_RV (List CK_ATTRIBUTE) :=
  if maxAttribs - attribs.length < pTemplate.length then .error CKR_TEMPLATE_INCONSISTENT
  else .ok (attribs ++ pTemplate.filter fun e =>
    e.type ∉ [CKA_CLASS, CKA_TOKEN, CKA_PRIVATE, CKA_KEY_TYPE] ++ excluded)

/-- `ForcedSensitivity::apply`. -/
def forceSensitivity (pTemplate : List CK_ATTRIBUTE) : List CK_ATTRIBUTE :=
  pTemplate ++
  (if pTemplate.any (·.type = CKA_SENSITIVE) then [] else [⟨CKA_SENSITIVE, some [CK_TRUE], 0⟩]) ++
  (if pTemplate.any (·.type = CKA_EXTRACTABLE) then []
    else [⟨CKA_EXTRACTABLE, some [CK_FALSE], 0⟩])

/-! ### Generating -/

def CKM_DSA_PARAMETER_GEN : CK_MECHANISM_TYPE := 0x2000
def CKM_DH_PKCS_PARAMETER_GEN : CK_MECHANISM_TYPE := 0x2001
def CKM_DES_KEY_GEN : CK_MECHANISM_TYPE := 0x120
def CKM_DES2_KEY_GEN : CK_MECHANISM_TYPE := 0x130
def CKM_DES3_KEY_GEN : CK_MECHANISM_TYPE := 0x131
def CKM_AES_KEY_GEN : CK_MECHANISM_TYPE := 0x1080
def CKM_GENERIC_SECRET_KEY_GEN : CK_MECHANISM_TYPE := 0x350
def CKM_KUZNECHIK_KEY_GEN : CK_MECHANISM_TYPE := 0xd4321030
def CKM_MAGMA_KEY_GEN : CK_MECHANISM_TYPE := 0xd4321034
def CKM_RSA_PKCS_KEY_PAIR_GEN : CK_MECHANISM_TYPE := 0x0
def CKM_DSA_KEY_PAIR_GEN : CK_MECHANISM_TYPE := 0x10
def CKM_DH_PKCS_KEY_PAIR_GEN : CK_MECHANISM_TYPE := 0x20
def CKM_EC_KEY_PAIR_GEN : CK_MECHANISM_TYPE := 0x1040
def CKM_EC_EDWARDS_KEY_PAIR_GEN : CK_MECHANISM_TYPE := 0x1055
def CKM_GOSTR3410_KEY_PAIR_GEN : CK_MECHANISM_TYPE := 0x1200
def CKM_GOSTR3410_512_KEY_PAIR_GEN : CK_MECHANISM_TYPE := 0xd4321005
def CKM_ML_DSA_KEY_PAIR_GEN : CK_MECHANISM_TYPE := 0x1c
def CKM_ML_KEM_KEY_PAIR_GEN : CK_MECHANISM_TYPE := 0xf

/-- The class and the type of what a mechanism generates. -/
def keyGenOf (mechanism : CK_MECHANISM_TYPE) : Option (UInt64 × CK_KEY_TYPE) :=
  ([(CKM_DSA_PARAMETER_GEN, CKO_DOMAIN_PARAMETERS, CKK_DSA),
    (CKM_DH_PKCS_PARAMETER_GEN, CKO_DOMAIN_PARAMETERS, CKK_DH),
    (CKM_DES_KEY_GEN, CKO_SECRET_KEY, CKK_DES),
    (CKM_DES2_KEY_GEN, CKO_SECRET_KEY, CKK_DES2),
    (CKM_DES3_KEY_GEN, CKO_SECRET_KEY, CKK_DES3),
    (CKM_AES_KEY_GEN, CKO_SECRET_KEY, CKK_AES),
    (CKM_GENERIC_SECRET_KEY_GEN, CKO_SECRET_KEY, CKK_GENERIC_SECRET),
    (CKM_GOST28147_KEY_GEN, CKO_SECRET_KEY, CKK_GOST28147),
    (CKM_KUZNECHIK_KEY_GEN, CKO_SECRET_KEY, CKK_KUZNECHIK),
    (CKM_MAGMA_KEY_GEN, CKO_SECRET_KEY, CKK_MAGMA)].find? (·.1 = mechanism)).map (·.2)

/-- The type of the keys that a mechanism generates, with what it takes over from the template of
the public key and of the private key. -/
def keyPairGenOf (mechanism : CK_MECHANISM_TYPE) :
    Option (CK_KEY_TYPE × List CK_ATTRIBUTE_TYPE × List CK_ATTRIBUTE_TYPE) :=
  ([(CKM_RSA_PKCS_KEY_PAIR_GEN, CKK_RSA, [CKA_PUBLIC_EXPONENT], []),
    (CKM_DSA_KEY_PAIR_GEN, CKK_DSA, [], []),
    (CKM_DH_PKCS_KEY_PAIR_GEN, CKK_DH, [], []),
    (CKM_EC_KEY_PAIR_GEN, CKK_EC, [], []),
    (CKM_GOSTR3410_KEY_PAIR_GEN, CKK_GOSTR3410, [],
      [CKA_GOSTR3410_PARAMS, CKA_GOSTR3411_PARAMS]),
    (CKM_GOSTR3410_512_KEY_PAIR_GEN, CKK_GOSTR3410_512, [],
      [CKA_GOSTR3410_PARAMS, CKA_GOSTR3411_PARAMS]),
    (CKM_EC_EDWARDS_KEY_PAIR_GEN, CKK_EC_EDWARDS, [], []),
    (CKM_ML_DSA_KEY_PAIR_GEN, CKK_ML_DSA, [], []),
    (CKM_ML_KEM_KEY_PAIR_GEN, CKK_ML_KEM, [], [])].find? (·.1 = mechanism)).map (·.2)

/-- What `C_GenerateKey` does before it makes the key. What is generated is refused, or it is
something that can be stored or not. -/
def planGenerateKey (x : Outside) (hSession : ℕ) (mechanism : CK_MECHANISM_TYPE)
    (pTemplate : Option (List CK_ATTRIBUTE))
    (generate : List CK_ATTRIBUTE → Except CK_RV (Option Material)) (st : Store Obj Sess) :
    Except CK_RV (List CK_ATTRIBUTE × Supply) := do
  if !st.isInitialised then throw CKR_CRYPTOKI_NOT_INITIALIZED
  let some pTemplate := pTemplate | throw CKR_ARGUMENTS_BAD
  let some s := st.handleManager.getSession hSession | throw CKR_SESSION_HANDLE_INVALID
  let some (objClass, keyType) := keyGenOf mechanism | throw CKR_MECHANISM_INVALID
  let (_, info) := extractObjectInformation pTemplate
    ⟨objClass, keyType, CKC_X_509, CK_FALSE, CK_TRUE⟩ true
  if info.objClass ∉ [CKO_SECRET_KEY, CKO_DOMAIN_PARAMETERS] then
    throw CKR_ATTRIBUTE_VALUE_INVALID
  if info.objClass ≠ objClass || info.keyType ≠ keyType then throw CKR_TEMPLATE_INCONSISTENT
  let rv := haveWrite (st.getState s) (info.isOnToken ≠ CK_FALSE) (info.isPrivate ≠ CK_FALSE)
  if rv ≠ CKR_OK then throw rv
  let pTemplate := if x.forceSensitive then forceSensitivity pTemplate else pTemplate
  if keyType = CKK_GOST28147 then
    if checkGOST28147ParamSet x pTemplate ≠ CKR_OK then throw (checkGOST28147ParamSet x pTemplate)
    if !st.fakeRutokenECP && pTemplate.all (·.type ≠ CKA_GOST28147_PARAMS) then
      throw CKR_TEMPLATE_INCOMPLETE
  let material ← generate pTemplate
  let fixed := keyAttribs objClass keyType info.isOnToken info.isPrivate
  if objClass = CKO_DOMAIN_PARAMETERS then
    return (← addTemplate fixed [] pTemplate, supplyOf (generatedPublic mechanism) material)
  let origin := if st.fakeRutokenECP && keyType = CKK_GOST28147 then
      generatedRutokenGost (info.isOnToken = CK_TRUE) mechanism
    else generated mechanism
  return (← addTemplate fixed [CKA_CHECK_VALUE] pTemplate, supplyOf origin material)

def C_GenerateKey (P : Primitives) (x : Outside) (m : Making Obj) (hSession : ℕ)
    (mechanism : CK_MECHANISM_TYPE) (pTemplate : Option (List CK_ATTRIBUTE))
    (generate : List CK_ATTRIBUTE → Except CK_RV (Option Material)) (st : Store Obj Sess) :
    CK_RV × ℕ × Store Obj Sess :=
  match planGenerateKey x hSession mechanism pTemplate generate st with
  | .error rv => (rv, CK_INVALID_HANDLE, st)
  | .ok (attribs, supply) => makeKey P x m hSession attribs .GENERATE true supply st

/-- The pair that is generated, with what the template of the public key is completed with: the
digest parameter set of a GOST key. -/
structure Pair where
  defaulted : List CK_ATTRIBUTE
  known : ∀ e ∈ defaulted, e.type = CKA_GOSTR3411_PARAMS
  publicKey : Option Material
  privateKey : Option Material

/-- The two keys, the public one first. -/
def makePair (P : Primitives) (x : Outside) (mPublic mPrivate : Making Obj) (hSession : ℕ)
    (publicKeyAttribs : List CK_ATTRIBUTE) (privateKeyAttribs : Except CK_RV (List CK_ATTRIBUTE))
    (supplyPublic supplyPrivate : Supply) (st : Store Obj Sess) : CK_RV × ℕ × ℕ × Store Obj Sess :=
  match storeKey P x mPublic hSession publicKeyAttribs .GENERATE true supplyPublic st with
  | (CKR_OK, phPublicKey, st) =>
    match privateKeyAttribs with
    | .error rv =>
      (rv, CK_INVALID_HANDLE, CK_INVALID_HANDLE, removeKey mPublic.removal phPublicKey st)
    | .ok privateKeyAttribs =>
      match storeKey P x mPrivate hSession privateKeyAttribs .GENERATE true supplyPrivate st with
      | (CKR_OK, phPrivateKey, st) => (CKR_OK, phPublicKey, phPrivateKey, st)
      | (rv, phPrivateKey, st) =>
        (rv, CK_INVALID_HANDLE, CK_INVALID_HANDLE, removeKey mPublic.removal phPublicKey
          (removeKey mPrivate.removal phPrivateKey st))
  | (rv, phPublicKey, st) =>
    (rv, CK_INVALID_HANDLE, CK_INVALID_HANDLE, removeKey mPublic.removal phPublicKey st)

/-- What `C_GenerateKeyPair` does before it makes the keys. -/
def planGenerateKeyPair (x : Outside) (hSession : ℕ) (mechanism : CK_MECHANISM_TYPE)
    (pPublicKeyTemplate pPrivateKeyTemplate : Option (List CK_ATTRIBUTE))
    (generate : List CK_ATTRIBUTE → List CK_ATTRIBUTE → Except CK_RV Pair)
    (st : Store Obj Sess) :
    Except CK_RV (List CK_ATTRIBUTE × Except CK_RV (List CK_ATTRIBUTE) × Pair) := do
  if !st.isInitialised then throw CKR_CRYPTOKI_NOT_INITIALIZED
  let some pPublicKeyTemplate := pPublicKeyTemplate | throw CKR_ARGUMENTS_BAD
  let some pPrivateKeyTemplate := pPrivateKeyTemplate | throw CKR_ARGUMENTS_BAD
  let some s := st.handleManager.getSession hSession | throw CKR_SESSION_HANDLE_INVALID
  let some (keyType, publicExcluded, privateExcluded) := keyPairGenOf mechanism
    | throw CKR_MECHANISM_INVALID
  let (_, public_) := extractObjectInformation pPublicKeyTemplate
    ⟨CKO_PUBLIC_KEY, keyType, CKC_X_509, CK_FALSE, CK_FALSE⟩ true
  if public_.objClass ≠ CKO_PUBLIC_KEY then throw CKR_ATTRIBUTE_VALUE_INVALID
  if public_.keyType ≠ keyType then throw CKR_TEMPLATE_INCONSISTENT
  let (_, private_) := extractObjectInformation pPrivateKeyTemplate
    ⟨CKO_PRIVATE_KEY, keyType, CKC_X_509, CK_FALSE, CK_TRUE⟩ true
  if private_.objClass ≠ CKO_PRIVATE_KEY then throw CKR_ATTRIBUTE_VALUE_INVALID
  if private_.keyType ≠ keyType then throw CKR_TEMPLATE_INCONSISTENT
  let rv := haveWrite (st.getState s)
    (public_.isOnToken ≠ CK_FALSE || private_.isOnToken ≠ CK_FALSE)
    (public_.isPrivate ≠ CK_FALSE || private_.isPrivate ≠ CK_FALSE)
  if rv ≠ CKR_OK then throw rv
  let pPrivateKeyTemplate :=
    if x.forceSensitive then forceSensitivity pPrivateKeyTemplate else pPrivateKeyTemplate
  let pair ← generate pPublicKeyTemplate pPrivateKeyTemplate
  let publicKeyAttribs ← addTemplate
    (keyAttribs CKO_PUBLIC_KEY keyType public_.isOnToken public_.isPrivate) publicExcluded
    pPublicKeyTemplate
  if maxAttribs < publicKeyAttribs.length + pair.defaulted.length then
    throw CKR_TEMPLATE_INCONSISTENT
  return (publicKeyAttribs ++ pair.defaulted,
    addTemplate (keyAttribs CKO_PRIVATE_KEY keyType private_.isOnToken private_.isPrivate)
      privateExcluded pPrivateKeyTemplate, pair)

def C_GenerateKeyPair (P : Primitives) (x : Outside) (mPublic mPrivate : Making Obj)
    (hSession : ℕ) (mechanism : CK_MECHANISM_TYPE)
    (pPublicKeyTemplate pPrivateKeyTemplate : Option (List CK_ATTRIBUTE))
    (generate : List CK_ATTRIBUTE → List CK_ATTRIBUTE → Except CK_RV Pair)
    (st : Store Obj Sess) : CK_RV × ℕ × ℕ × Store Obj Sess :=
  match planGenerateKeyPair x hSession mechanism pPublicKeyTemplate pPrivateKeyTemplate generate
      st with
  | .error rv => (rv, CK_INVALID_HANDLE, CK_INVALID_HANDLE, st)
  | .ok (publicKeyAttribs, privateKeyAttribs, pair) =>
    makePair P x mPublic mPrivate hSession publicKeyAttribs privateKeyAttribs
      (supplyOf (generatedPublic mechanism) pair.publicKey)
      (supplyOf (generated mechanism) pair.privateKey) st

/-! ### Unwrapping -/

/-- The object of a key that a call uses, if it may be read. -/
def keyToUse (hSession hKey : ℕ) (invalid : CK_RV) (st : Store Obj Sess) :
    Except CK_RV (Sess × OSObject) := do
  if !st.isInitialised then throw CKR_CRYPTOKI_NOT_INITIALIZED
  let some s := st.handleManager.getSession hSession | throw CKR_SESSION_HANDLE_INVALID
  let some o := st.handleManager.getObject hKey | throw invalid
  let key := st.object o
  if !key.valid then throw invalid
  let rv := haveRead (st.getState s) (key.attributes.getBooleanValue CKA_TOKEN false)
    (key.attributes.getBooleanValue CKA_PRIVATE true)
  if rv ≠ CKR_OK then throw rv
  return (s, key)

/-- `OSAttribute::peekValue`. -/
def peekValue : OSAttribute → Option ByteString
  | .mechanismTypeSet value => some ((File.mechanismTypes value).flatMap ulongBytes)
  | attr => simpleValue attr

/-- `CKA_UNWRAP_TEMPLATE`: each of its attributes is in the template once, with the same bytes. No
bytes are expected where `peekValue` fails; a null pointer that the source follows differs here. -/
def obeysUnwrapTemplate (attribs : List CK_ATTRIBUTE) (key : AttributeMap) : Bool :=
  match OrderedMap.get CKA_UNWRAP_TEMPLATE key with
  | some (.attributeMap map) => map.all fun entry =>
    match attribs.filter (·.type = entry.1) with
    | [attr] =>
      let value := (peekValue entry.2).getD []
      attr.ulValueLen = value.length && attr.bytes = value
    | _ => false
  | _ => true

/-- How a wrapped key is opened: with the unwrapping key alone, or by way of an AES key that is
opened first and lives as long as the second step. -/
inductive Unwrapping (Obj : Type)
  | direct (keydata : Except CK_RV ByteString)
  | rsaAes (emphkeydata : Except CK_RV ByteString) (m : Making Obj)
      (keydata : Except CK_RV ByteString)

/-- The template of the AES key, and what it is made of. -/
def emphkeyAttribs : List CK_ATTRIBUTE :=
  [⟨CKA_CLASS, some (ulongBytes CKO_SECRET_KEY), 0⟩, ⟨CKA_KEY_TYPE, some (ulongBytes CKK_AES), 0⟩,
    ⟨CKA_TOKEN, some [CK_FALSE], 0⟩, ⟨CKA_PRIVATE, some [CK_TRUE], 0⟩,
    ⟨CKA_UNWRAP, some [CK_TRUE], 0⟩]

def emphkeyMaterial (token : TokenView) (emphkeydata : ByteString) : Material :=
  ⟨[(CKA_VALUE, .byteString ((token.encrypt emphkeydata).getD []))], by simp [materialTypes],
    by simp +decide⟩

/-- `UnwrapMechRsaAesKw`. -/
def UnwrapMechRsaAesKw (P : Primitives) (x : Outside) (m : Making Obj) (hSession : ℕ)
    (token : TokenView) (emphkeydata keydata : Except CK_RV ByteString) (st : Store Obj Sess) :
    Except CK_RV ByteString × Store Obj Sess :=
  match emphkeydata with
  | .error rv => (.error rv, st)
  | .ok emphkeydata =>
    match storeKey P x m hSession emphkeyAttribs .UNWRAP true
        (supplyOf unwrapped (some (emphkeyMaterial token emphkeydata))) st with
    | (CKR_OK, h, st) => (keydata, removeKey m.removal h st)
    | (rv, h, st) => (.error rv, removeKey m.removal h st)

/-- What `C_UnwrapKey` does before it opens the wrapped key, with the checks of the mechanism on
the unwrapping key. -/
def planUnwrapKey (P : Primitives) (x : Outside) (hSession hUnwrappingKey : ℕ)
    (pTemplate : Option (List CK_ATTRIBUTE)) (check : AttributeMap → CK_RV)
    (inconsistent : UInt64 → CK_KEY_TYPE → Bool) (st : Store Obj Sess) :
    Except CK_RV (TokenView × List CK_ATTRIBUTE) := do
  let some pTemplate := pTemplate | throw CKR_ARGUMENTS_BAD
  let (s, unwrapKey) ← keyToUse hSession hUnwrappingKey CKR_UNWRAPPING_KEY_HANDLE_INVALID st
  if check unwrapKey.attributes ≠ CKR_OK then throw (check unwrapKey.attributes)
  if !unwrapKey.attributes.getBooleanValue CKA_UNWRAP false then
    throw CKR_KEY_FUNCTION_NOT_PERMITTED
  let (rv, info) := extractObjectInformation pTemplate ⟨0, 0, 0, CK_FALSE, CK_TRUE⟩ false
  if rv ≠ CKR_OK then throw rv
  if info.objClass ∉ [CKO_SECRET_KEY, CKO_PRIVATE_KEY] then throw CKR_ATTRIBUTE_VALUE_INVALID
  if inconsistent info.objClass info.keyType then throw CKR_TEMPLATE_INCONSISTENT
  let rv := haveWrite (st.getState s) (info.isOnToken ≠ CK_FALSE) (info.isPrivate ≠ CK_FALSE)
  if rv ≠ CKR_OK then throw rv
  let secretAttribs ← addTemplate
    (keyAttribs info.objClass info.keyType info.isOnToken info.isPrivate) [] pTemplate
  if !obeysUnwrapTemplate secretAttribs unwrapKey.attributes then
    throw CKR_TEMPLATE_INCONSISTENT
  return (token P x (st.sdm (st.session s).slotID), secretAttribs)

/-- `C_UnwrapKey`, with what is stored for the bytes that are unwrapped. -/
def C_UnwrapKey (P : Primitives) (x : Outside) (m : Making Obj) (hSession hUnwrappingKey : ℕ)
    (pTemplate : Option (List CK_ATTRIBUTE)) (check : AttributeMap → CK_RV)
    (inconsistent : UInt64 → CK_KEY_TYPE → Bool) (unwrapping : Unwrapping Obj)
    (material : ByteString → Option Material) (st : Store Obj Sess) :
    CK_RV × ℕ × Store Obj Sess :=
  match planUnwrapKey P x hSession hUnwrappingKey pTemplate check inconsistent st with
  | .error rv => (rv, CK_INVALID_HANDLE, st)
  | .ok (token, secretAttribs) =>
    let (keydata, st) := match unwrapping with
      | .direct keydata => (keydata, st)
      | .rsaAes emphkeydata m keydata =>
        UnwrapMechRsaAesKw P x m hSession token emphkeydata keydata st
    match keydata with
    | .error rv => (rv, CK_INVALID_HANDLE, st)
    | .ok keydata =>
      makeKey P x m hSession secretAttribs .UNWRAP true
        (supplyOf unwrapped (material keydata)) st

/-! ### Deriving -/

/-- How a key is derived: from two keys, from a key and data, or from a key by a computation whose
result may not inherit its protection. -/
inductive Derivation
  | key (hOtherKey : ℕ)
  | data
  | computed (inheritProtection : Bool)

/-- What a derivation gives: the template as it is used, the length where it is stored with the
key, and the key. -/
structure DerivedKey where
  pTemplate : List CK_ATTRIBUTE
  valueLen : Option UInt64
  material : Option Material

/-- What a derivation says about the origin of the key; the other key of two is looked up here. -/
def originOf (derivation : Derivation) (baseKey : AttributeMap) (st : Store Obj Sess) :
    Except CK_RV (AttributeMap → List (CK_ATTRIBUTE_TYPE × OSAttribute)) :=
  match derivation with
  | .key hOtherKey =>
    match st.handleManager.getObject hOtherKey with
    | none => .error CKR_OBJECT_HANDLE_INVALID
    | some otherKey =>
      if !(st.object otherKey).valid then .error CKR_OBJECT_HANDLE_INVALID
      else .ok (concatenatedKeys baseKey (st.object otherKey).attributes)
  | .data => .ok (concatenatedData baseKey)
  | .computed true => .ok (derived baseKey)
  | .computed false => .ok unwrapped

/-- The template of a derived key, with its length where it is stored. -/
def derivedAttribs (fixed : List CK_ATTRIBUTE) (result : DerivedKey) :
    Except CK_RV (List CK_ATTRIBUTE) :=
  match result.valueLen with
  | none => addTemplate fixed [CKA_CHECK_VALUE] result.pTemplate
  | some valueLen =>
    addTemplate (fixed ++ [⟨CKA_VALUE_LEN, some (ulongBytes valueLen), 0⟩]) [CKA_VALUE_LEN]
      result.pTemplate

/-- What `C_DeriveKey` does before it makes the key, with the checks of the mechanism on the base
key and on the type of the result. -/
def planDeriveKey (hSession hBaseKey : ℕ) (pTemplate : Option (List CK_ATTRIBUTE))
    (derivation : Derivation) (check : AttributeMap → CK_KEY_TYPE → CK_RV)
    (derive : AttributeMap → List CK_ATTRIBUTE → Except CK_RV DerivedKey) (st : Store Obj Sess) :
    Except CK_RV (List CK_ATTRIBUTE × Supply) := do
  let some pTemplate := pTemplate | throw CKR_ARGUMENTS_BAD
  let (s, key) ← keyToUse hSession hBaseKey CKR_OBJECT_HANDLE_INVALID st
  if !key.attributes.getBooleanValue CKA_DERIVE false then throw CKR_KEY_FUNCTION_NOT_PERMITTED
  let isImplicit := match derivation with
    | .computed _ => false
    | _ => true
  let (rv, info) := extractObjectInformation pTemplate
    ⟨CKO_SECRET_KEY, CKK_GENERIC_SECRET, CKC_X_509, CK_FALSE, CK_TRUE⟩ isImplicit
  if rv ≠ CKR_OK then throw rv
  if info.objClass ≠ CKO_SECRET_KEY then throw CKR_ATTRIBUTE_VALUE_INVALID
  let rv := haveWrite (st.getState s) (info.isOnToken ≠ CK_FALSE) (info.isPrivate ≠ CK_FALSE)
  if rv ≠ CKR_OK then throw rv
  if check key.attributes info.keyType ≠ CKR_OK then throw (check key.attributes info.keyType)
  let origin ← originOf derivation key.attributes st
  let result ← derive key.attributes pTemplate
  let fixed := keyAttribs CKO_SECRET_KEY info.keyType info.isOnToken info.isPrivate
  let secretAttribs ← derivedAttribs fixed result
  return (secretAttribs, supplyOf origin result.material)

def C_DeriveKey (P : Primitives) (x : Outside) (m : Making Obj) (hSession hBaseKey : ℕ)
    (pTemplate : Option (List CK_ATTRIBUTE)) (derivation : Derivation)
    (check : AttributeMap → CK_KEY_TYPE → CK_RV)
    (derive : AttributeMap → List CK_ATTRIBUTE → Except CK_RV DerivedKey) (st : Store Obj Sess) :
    CK_RV × ℕ × Store Obj Sess :=
  match planDeriveKey hSession hBaseKey pTemplate derivation check derive st with
  | .error rv => (rv, CK_INVALID_HANDLE, st)
  | .ok (secretAttribs, supply) =>
    makeKey P x m hSession secretAttribs .DERIVE true supply st

/-! ### Encapsulating -/

/-- What the two calls share: the check of the key and of the template, and the secret. A template
that is too long is dropped. -/
def planEncapsulation (hSession hKey : ℕ) (usage : CK_ATTRIBUTE_TYPE)
    (pTemplate : List CK_ATTRIBUTE) (check : AttributeMap → CK_RV) (st : Store Obj Sess) :
    Except CK_RV (List CK_ATTRIBUTE) := do
  if hKey = CK_INVALID_HANDLE then throw CKR_ARGUMENTS_BAD
  let (s, key) ← keyToUse hSession hKey CKR_KEY_HANDLE_INVALID st
  if !key.attributes.getBooleanValue usage false then throw CKR_KEY_FUNCTION_NOT_PERMITTED
  let (rv, info) := extractObjectInformation pTemplate ⟨0, 0, 0, CK_FALSE, CK_TRUE⟩ false
  if rv ≠ CKR_OK then throw rv
  if info.objClass ≠ CKO_SECRET_KEY then throw CKR_ATTRIBUTE_VALUE_INVALID
  let rv := haveWrite (st.getState s) (info.isOnToken ≠ CK_FALSE) (info.isPrivate ≠ CK_FALSE)
  if rv ≠ CKR_OK then throw rv
  if check key.attributes ≠ CKR_OK then throw (check key.attributes)
  let fixed := keyAttribs CKO_SECRET_KEY info.keyType info.isOnToken info.isPrivate
  return match addTemplate fixed [CKA_CHECK_VALUE] pTemplate with
    | .ok secretAttribs => secretAttribs
    | .error _ => fixed

/-- What is stored for a secret, after the checks of the template that are made in the
transaction. -/
def supplySecret (late : CK_RV) (material : Option Material) : Supply := fun m =>
  if late ≠ CKR_OK then .error late else supplyOf unwrapped material m

/-- `C_EncapsulateKey`, with the answer about the buffer for the cipher text. -/
def C_EncapsulateKey (P : Primitives) (x : Outside) (m : Making Obj) (hSession hPublicKey : ℕ)
    (pTemplate : List CK_ATTRIBUTE) (check : AttributeMap → CK_RV) (hasBuffer : Bool) (late : CK_RV)
    (material : Option Material) (buffer : CK_RV) (st : Store Obj Sess) :
    CK_RV × ℕ × Store Obj Sess :=
  match planEncapsulation hSession hPublicKey CKA_ENCAPSULATE pTemplate check st with
  | .error rv => (rv, CK_INVALID_HANDLE, st)
  | .ok secretAttribs =>
    -- without a buffer only its length is asked for
    if !hasBuffer then (CKR_OK, CK_INVALID_HANDLE, st)
    else
      let r := storeKey P x m hSession secretAttribs .DERIVE true (supplySecret late material) st
      cleanUp m.removal (if r.1 = CKR_OK then (buffer, r.2) else r)

/-- `C_DecapsulateKey`, which does not give the transaction up when a late check fails. -/
def C_DecapsulateKey (P : Primitives) (x : Outside) (m : Making Obj) (hSession hPrivateKey : ℕ)
    (pTemplate : List CK_ATTRIBUTE) (check : AttributeMap → CK_RV) (late : CK_RV)
    (material : Option Material) (st : Store Obj Sess) : CK_RV × ℕ × Store Obj Sess :=
  match planEncapsulation hSession hPrivateKey CKA_DECAPSULATE pTemplate check st with
  | .error rv => (rv, CK_INVALID_HANDLE, st)
  | .ok secretAttribs =>
    makeKey P x m hSession secretAttribs .DECAPSULATE (late = CKR_OK)
      (supplySecret late material) st

end SoftHSM.Create
