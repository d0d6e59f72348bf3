import SoftHSM.Library.P11Objects

/-!
The kinds of objects as a table, for what holds of the attributes of each of them; and the
attributes that `init` leaves as they are.
-/

namespace SoftHSM

open P11Object

def certificateKinds : List P11Object := [P11X509CertificateObj, P11OpenPGPPublicKeyObj]

def publicKeyKinds : List P11Object :=
  [P11RSAPublicKeyObj, P11DSAPublicKeyObj, P11ECPublicKeyObj, P11DHPublicKeyObj,
    P11GOSTPublicKeyObj CKK_GOSTR3410, P11GOSTPublicKeyObj CKK_GOSTR3410_512, P11EDPublicKeyObj,
    P11MLDSAPublicKeyObj, P11MLKEMPublicKeyObj]

def privateKeyKinds : List P11Object :=
  [P11RSAPrivateKeyObj, P11DSAPrivateKeyObj, P11ECPrivateKeyObj, P11DHPrivateKeyObj,
    P11GOSTPrivateKeyObj CKK_GOSTR3410, P11GOSTPrivateKeyObj CKK_GOSTR3410_512,
    P11EDPrivateKeyObj, P11MLDSAPrivateKeyObj, P11MLKEMPrivateKeyObj]

def secretKeyKinds : List P11Object :=
  [CKK_GENERIC_SECRET, CKK_KUZNECHIK_TWIN_KEY, CKK_MAGMA_TWIN_KEY, CKK_MD5_HMAC, CKK_SHA_1_HMAC,
    CKK_SHA224_HMAC, CKK_SHA256_HMAC, CKK_SHA384_HMAC, CKK_SHA512_HMAC].map P11GenericSecretKeyObj
  ++ [P11AESSecretKeyObj] ++ [CKK_DES, CKK_DES2, CKK_DES3].map P11DESSecretKeyObj ++
  [CKK_GOST28147, CKK_KUZNECHIK, CKK_MAGMA].map P11GOSTSecretKeyObj

def domainKinds : List P11Object := [P11DSADomainObj, P11DHDomainObj]

lemma certificateOf_mem {certType : UInt64} {p : P11Object} (h : certificateOf certType = some p) :
    p ∈ certificateKinds := by
  unfold certificateOf at h
  split_ifs at h <;> cases h <;> simp [certificateKinds]

lemma publicKeyOf_mem {keyType : CK_KEY_TYPE} {p : P11Object} (h : publicKeyOf keyType = some p) :
    p ∈ publicKeyKinds := by
  unfold publicKeyOf at h
  split_ifs at h <;> cases h <;> simp [publicKeyKinds]

lemma privateKeyOf_mem {keyType : CK_KEY_TYPE} {p : P11Object}
    (h : privateKeyOf keyType = some p) : p ∈ privateKeyKinds := by
  unfold privateKeyOf at h
  split_ifs at h <;> cases h <;> simp [privateKeyKinds]

lemma secretKeyOf_mem {keyType : CK_KEY_TYPE} {p : P11Object} (h : secretKeyOf keyType = some p) :
    p ∈ secretKeyKinds := by
  unfold secretKeyOf at h
  simp only [secretKeyKinds, List.mem_append, List.mem_map]
  split_ifs at h with h1 h2 h3 h4 <;> cases h
  · exact .inl (.inl (.inl ⟨keyType, h1, rfl⟩))
  · exact .inl (.inl (.inr (List.mem_singleton_self _)))
  · exact .inl (.inr ⟨keyType, h3, rfl⟩)
  · exact .inr ⟨keyType, h4, rfl⟩

lemma domainOf_mem {keyType : CK_KEY_TYPE} {p : P11Object} (h : domainOf keyType = some p) :
    p ∈ domainKinds := by
  unfold domainOf at h
  split_ifs at h <;> cases h <;> simp [domainKinds]

/-- Every kind, with its class. -/
def kinds : List (UInt64 × P11Object) :=
  (CKO_DATA, P11DataObj) :: certificateKinds.map (CKO_CERTIFICATE, ·) ++
    publicKeyKinds.map (CKO_PUBLIC_KEY, ·) ++ privateKeyKinds.map (CKO_PRIVATE_KEY, ·) ++
    secretKeyKinds.map (CKO_SECRET_KEY, ·) ++ domainKinds.map (CKO_DOMAIN_PARAMETERS, ·)

lemma p11ObjectOf_mem {objClass certType : UInt64} {keyType : CK_KEY_TYPE} {p : P11Object}
    (h : p11ObjectOf objClass keyType certType = some p) : (objClass, p) ∈ kinds := by
  unfold p11ObjectOf at h
  simp only [kinds, List.mem_append, List.mem_cons, List.mem_map]
  split_ifs at h with h1 h2 h3 h4 h5 h6
  · cases h
    exact .inl (.inl (.inl (.inl (.inl (by rw [h1])))))
  · exact .inl (.inl (.inl (.inl (.inr ⟨p, certificateOf_mem h, by rw [h2]⟩))))
  · exact .inl (.inl (.inl (.inr ⟨p, publicKeyOf_mem h, by rw [h3]⟩)))
  · exact .inl (.inl (.inr ⟨p, privateKeyOf_mem h, by rw [h4]⟩))
  · exact .inl (.inr ⟨p, secretKeyOf_mem h, by rw [h5]⟩)
  · exact .inr ⟨p, domainOf_mem h, by rw [h6]⟩

/-- The kind of an object, by its attributes alone. -/
def attributeKind (m : AttributeMap) : Option P11Object :=
  p11ObjectOf (m.getUnsignedLongValue CKA_CLASS CKO_VENDOR_DEFINED)
    (m.getUnsignedLongValue CKA_KEY_TYPE CKK_RSA)
    (m.getUnsignedLongValue CKA_CERTIFICATE_TYPE CKC_X_509)

lemma kindOf_of_valid {o : OSObject} (h : o.valid = true) :
    kindOf o = attributeKind o.attributes := by
  have hif : ∀ type v, (if o.attributeExists type then o.attributes.getUnsignedLongValue type v
      else v) = o.attributes.getUnsignedLongValue type v := by
    intro type v
    split
    · rfl
    · rename_i hx
      rw [OSObject.attributeExists, h, Bool.true_and, Bool.not_eq_true] at hx
      exact (AttributeMap.getUnsignedLongValue_of_missing hx v).symm
  rw [kindOf, hif, hif, attributeKind]

lemma attributeOf_some {p : P11Object} {type : CK_ATTRIBUTE_TYPE} {a : P11Attribute}
    (h : p.attributeOf type = some a) : a ∈ p.attributes ∧ a.type = type := by
  have hm := List.mem_of_find?_eq_some h
  have ht := List.find?_some h
  exact ⟨List.mem_reverse.1 hm, of_decide_eq_true ht⟩

/-! ### What `init` does to the attributes -/

lemma setAttribute_attributes (w : RecordFile.Write) (type : CK_ATTRIBUTE_TYPE) (attr : OSAttribute)
    (o : OSObject) : (o.setAttribute w type attr).2.attributes =
      if o.valid then o.attributes.setAttribute type attr else o.attributes := by
  unfold OSObject.setAttribute
  cases hv : o.valid
  · simp
  · simp only [Bool.not_true, Bool.false_eq_true, if_false, if_true]
    split
    · rfl
    · cases w <;> rfl

section init

variable {I : AttributeMap → Prop} (stores : CK_ATTRIBUTE_TYPE → RecordFile.Write)

/-- What setting an attribute that is missing keeps. -/
private lemma fill_invariant {type : CK_ATTRIBUTE_TYPE} {attr : OSAttribute} {w : RecordFile.Write}
    (hset : ∀ m, I m → m.attributeExists type = false → I (m.setAttribute type attr))
    {o : OSObject} (hx : (!o.attributeExists type) = true) (h : I o.attributes) :
    I (o.setAttribute w type attr).2.attributes := by
  rw [setAttribute_attributes]
  split
  · rename_i hv
    refine hset _ h ?_
    simpa [OSObject.attributeExists, hv] using hx
  · exact h

lemma applyPreset_invariant {x : Preset}
    (hvalue : ∀ type v, x = .value type v → ∀ m : AttributeMap, I m →
      m.getUnsignedLongValue type CKO_VENDOR_DEFINED ≠ v ∨ m.attributeExists type = false →
      I (m.setAttribute type (.unsignedLong v)))
    (hmissing : ∀ type attr, x = .missing type attr → ∀ m : AttributeMap, I m →
      m.attributeExists type = false → I (m.setAttribute type attr))
    {o : OSObject} (h : I o.attributes) : I (applyPreset stores o x).attributes := by
  cases x with
  | value type v =>
    simp only [applyPreset, Bool.or_eq_true, decide_eq_true_eq]
    split
    · rename_i hc
      rw [setAttribute_attributes]
      split
      · rename_i hv
        refine hvalue _ _ rfl _ h ?_
        rcases hc with hx | hne
        · exact .inr (by simpa [OSObject.attributeExists, hv] using hx)
        · exact .inl hne
      · exact h
    · exact h
  | missing type attr =>
    simp only [applyPreset]
    split
    · rename_i hx
      exact fill_invariant (hmissing _ _ rfl) hx h
    · exact h

lemma initAttributes_invariant {l : List P11Attribute}
    (hattr : ∀ a ∈ l, ∀ m, I m → m.attributeExists a.type = false →
      I (m.setAttribute a.type a.default))
    {o : OSObject} (h : I o.attributes) : I (initAttributes stores l o).2.attributes := by
  induction l generalizing o with
  | nil => exact h
  | cons a l ih =>
    have hl : ∀ b ∈ l, ∀ m, I m → m.attributeExists b.type = false →
        I (m.setAttribute b.type b.default) := fun b hb => hattr b (List.mem_cons_of_mem _ hb)
    rw [initAttributes]
    by_cases hx : (!o.attributeExists a.type) = true
    · rw [if_pos hx]
      have hset : I (o.setAttribute (stores a.type) a.type a.default).2.attributes :=
        fill_invariant (hattr a List.mem_cons_self) hx h
      rcases hr : o.setAttribute (stores a.type) a.type a.default with ⟨ok, o'⟩
      rw [hr] at hset
      cases ok
      · exact hset
      · exact ih hl hset
    · rw [if_neg hx]
      exact ih hl h

/-- **What `init` keeps**: what each preset and each default keeps, where it is set. -/
theorem init_invariant {p : P11Object}
    (hvalue : ∀ type v, .value type v ∈ p.presets → ∀ m : AttributeMap, I m →
      m.getUnsignedLongValue type CKO_VENDOR_DEFINED ≠ v ∨ m.attributeExists type = false →
      I (m.setAttribute type (.unsignedLong v)))
    (hmissing : ∀ type attr, .missing type attr ∈ p.presets → ∀ m : AttributeMap, I m →
      m.attributeExists type = false → I (m.setAttribute type attr))
    (hattr : ∀ a ∈ p.attributes, ∀ m, I m → m.attributeExists a.type = false →
      I (m.setAttribute a.type a.default))
    {o : OSObject} (h : I o.attributes) : I (p.init stores o).2.attributes := by
  have hpre : ∀ l ⊆ p.presets, ∀ o : OSObject, I o.attributes →
      I (l.foldl (applyPreset stores) o).attributes := by
    intro l hl
    induction l with
    | nil => exact fun o h => h
    | cons x l ih =>
      intro o h
      have hx : x ∈ p.presets := hl List.mem_cons_self
      refine ih (fun y hy => hl (List.mem_cons_of_mem _ hy)) _ ?_
      exact applyPreset_invariant stores (fun type v he => hvalue type v (he ▸ hx))
        (fun type attr he => hmissing type attr (he ▸ hx)) h
  exact initAttributes_invariant stores hattr (hpre _ (List.Subset.refl _) _ h)

end init

/-! ### Objects that lack nothing -/

/-- Whether two values are of one kind. -/
def SameKind : OSAttribute → OSAttribute → Prop
  | .boolean _, .boolean _ => True
  | .unsignedLong _, .unsignedLong _ => True
  | .byteString _, .byteString _ => True
  | .mechanismTypeSet _, .mechanismTypeSet _ => True
  | .attributeMap _, .attributeMap _ => True
  | _, _ => False

/-- The kinds of values, by number. -/
def valueTag : OSAttribute → ℕ
  | .boolean _ => 0
  | .unsignedLong _ => 1
  | .byteString _ => 2
  | .mechanismTypeSet _ => 3
  | .attributeMap _ => 4

lemma valueTag_eq_iff (x y : OSAttribute) : valueTag x = valueTag y ↔ SameKind x y := by
  cases x <;> cases y <;> simp [valueTag, SameKind]

instance (x y : OSAttribute) : Decidable (SameKind x y) :=
  decidable_of_iff _ (valueTag_eq_iff x y)

/-- All attributes of the kind are there, each with a value like its default. -/
def Complete (m : AttributeMap) : Prop :=
  ∃ p, attributeKind m = some p ∧
    ∀ a ∈ p.attributes, ∃ attr, OrderedMap.get a.type m = some attr ∧ SameKind attr a.default

/-- What a preset may be, for the class and the types that a kind was made for. -/
def presetIn (objClass : UInt64) (keyType : CK_KEY_TYPE) (certType : UInt64) : Preset → Prop
  | .value type v => type = CKA_CLASS ∧ v = objClass ∨ type = CKA_KEY_TYPE ∧ v = keyType ∨
      type = CKA_CERTIFICATE_TYPE ∧ v = certType
  | .missing type _ => type = CKA_PRIVATE

lemma certificateOf_presets {objClass certType : UInt64} {keyType : CK_KEY_TYPE} {p : P11Object}
    (h : certificateOf certType = some p) (hc : objClass = CKO_CERTIFICATE) :
    ∀ x ∈ p.presets, presetIn objClass keyType certType x := by
  unfold certificateOf at h
  split_ifs at h with h1 h2 <;> cases h <;> subst hc <;>
    simp_all [P11X509CertificateObj, P11OpenPGPPublicKeyObj, P11CertificateObj, base, extend,
      presetIn]

lemma publicKeyOf_presets {objClass certType : UInt64} {keyType : CK_KEY_TYPE} {p : P11Object}
    (h : publicKeyOf keyType = some p) (hc : objClass = CKO_PUBLIC_KEY) :
    ∀ x ∈ p.presets, presetIn objClass keyType certType x := by
  unfold publicKeyOf at h
  split_ifs at h <;> cases h <;> subst hc <;>
    simp_all [P11RSAPublicKeyObj, P11DSAPublicKeyObj, P11ECPublicKeyObj, P11DHPublicKeyObj,
      P11GOSTPublicKeyObj, P11EDPublicKeyObj, P11MLDSAPublicKeyObj, P11MLKEMPublicKeyObj,
      P11PublicKeyObj, P11KeyObj, base, extend, presetIn]

lemma privateKeyOf_presets {objClass certType : UInt64} {keyType : CK_KEY_TYPE} {p : P11Object}
    (h : privateKeyOf keyType = some p) (hc : objClass = CKO_PRIVATE_KEY) :
    ∀ x ∈ p.presets, presetIn objClass keyType certType x := by
  unfold privateKeyOf at h
  split_ifs at h <;> cases h <;> subst hc <;>
    simp_all [P11RSAPrivateKeyObj, P11DSAPrivateKeyObj, P11ECPrivateKeyObj, P11DHPrivateKeyObj,
      P11GOSTPrivateKeyObj, P11EDPrivateKeyObj, P11MLDSAPrivateKeyObj, P11MLKEMPrivateKeyObj,
      P11PrivateKeyObj, P11KeyObj, base, extend, presetIn]

lemma secretKeyOf_presets {objClass certType : UInt64} {keyType : CK_KEY_TYPE} {p : P11Object}
    (h : secretKeyOf keyType = some p) (hc : objClass = CKO_SECRET_KEY) :
    ∀ x ∈ p.presets, presetIn objClass keyType certType x := by
  unfold secretKeyOf at h
  split_ifs at h <;> cases h <;> subst hc <;>
    simp_all [P11GenericSecretKeyObj, P11AESSecretKeyObj, P11DESSecretKeyObj, P11GOSTSecretKeyObj,
      P11SecretKeyObj, P11KeyObj, base, extend, presetIn]

lemma domainOf_presets {objClass certType : UInt64} {keyType : CK_KEY_TYPE} {p : P11Object}
    (h : domainOf keyType = some p) (hc : objClass = CKO_DOMAIN_PARAMETERS) :
    ∀ x ∈ p.presets, presetIn objClass keyType certType x := by
  unfold domainOf at h
  split_ifs at h <;> cases h <;> subst hc <;>
    simp_all [P11DSADomainObj, P11DHDomainObj, P11DomainObj, base, extend, presetIn]

lemma p11ObjectOf_presets {objClass certType : UInt64} {keyType : CK_KEY_TYPE} {p : P11Object}
    (h : p11ObjectOf objClass keyType certType = some p) :
    ∀ x ∈ p.presets, presetIn objClass keyType certType x := by
  unfold p11ObjectOf at h
  split_ifs at h with h1 h2 h3 h4 h5 h6
  · cases h
    simp [P11DataObj, base, extend, presetIn, h1]
  · exact certificateOf_presets h h2
  · exact publicKeyOf_presets h h3
  · exact privateKeyOf_presets h h4
  · exact secretKeyOf_presets h h5
  · exact domainOf_presets h h6

def isULong : OSAttribute → Bool
  | .unsignedLong _ => true
  | _ => false

/-- A list is gone through one by one, not all values that there are. -/
lemma forall_of_all {α : Type} {p : α → Prop} [DecidablePred p] {l : List α}
    (h : l.all (fun t => decide (p t)) = true) : ∀ t ∈ l, p t :=
  fun t ht => of_decide_eq_true (List.all_eq_true.1 h t ht)

/-- What a preset sets is an attribute of the kind. -/
def presetOf (attributes : List P11Attribute) : Preset → Bool
  | .value type _ => attributes.any fun a => a.type = type && isULong a.default
  | .missing type _ => attributes.any fun a => a.type = type

lemma presets_table : ∀ x ∈ kinds, ∀ y ∈ x.2.presets, presetOf x.2.attributes y = true := by decide

lemma applyPreset_of_complete {p : P11Object} {o : OSObject} (hv : o.valid = true)
    (hk : attributeKind o.attributes = some p)
    (hc : ∀ a ∈ p.attributes, ∃ attr, OrderedMap.get a.type o.attributes = some attr ∧
      SameKind attr a.default) (stores : CK_ATTRIBUTE_TYPE → RecordFile.Write) {x : Preset}
    (hx : x ∈ p.presets) : applyPreset stores o x = o := by
  have hin := p11ObjectOf_presets hk x hx
  have hof := presets_table _ (p11ObjectOf_mem hk) x hx
  cases x with
  | value type v =>
    simp only [presetOf, List.any_eq_true, Bool.and_eq_true, decide_eq_true_eq] at hof
    obtain ⟨a, ha, rfl, hul⟩ := hof
    obtain ⟨attr, hget, hkind⟩ := hc a ha
    have hattr : ∃ n, attr = .unsignedLong n := by
      cases hd : a.default <;> rw [hd] at hul hkind <;> cases hul
      cases attr <;> first | exact ⟨_, rfl⟩ | exact hkind.elim
    obtain ⟨n, rfl⟩ := hattr
    have hval : ∀ v', o.attributes.getUnsignedLongValue a.type v' = n := fun v' => by
      rw [AttributeMap.getUnsignedLongValue, hget]
    have hn : n = v := by
      rcases hin with ⟨ht, hvc⟩ | ⟨ht, hvc⟩ | ⟨ht, hvc⟩ <;> rw [hvc, ← ht, hval]
    have hex : o.attributeExists a.type = true := by
      rw [OSObject.attributeExists, hv, AttributeMap.attributeExists, hget]
      rfl
    simp [applyPreset, hex, hval, hn]
  | missing type attr =>
    simp only [presetOf, List.any_eq_true, decide_eq_true_eq] at hof
    obtain ⟨a, ha, rfl⟩ := hof
    obtain ⟨attr', hget, _⟩ := hc a ha
    have hex : o.attributeExists a.type = true := by
      rw [OSObject.attributeExists, hv, AttributeMap.attributeExists, hget]
      rfl
    simp [applyPreset, hex]

lemma initAttributes_of_exists {l : List P11Attribute} {o : OSObject}
    (h : ∀ a ∈ l, o.attributeExists a.type = true) (stores : CK_ATTRIBUTE_TYPE → RecordFile.Write) :
    initAttributes stores l o = (true, o) := by
  induction l with
  | nil => rfl
  | cons a l ih =>
    rw [initAttributes, h a List.mem_cons_self]
    exact ih fun b hb => h b (List.mem_cons_of_mem _ hb)

/-- **An object that lacks nothing is read as it is.** -/
theorem newP11Object_of_complete {o : OSObject} (hv : o.valid = true)
    (hc : Complete o.attributes) (stores : CK_ATTRIBUTE_TYPE → RecordFile.Write) :
    ∃ p, attributeKind o.attributes = some p ∧ newP11Object stores o = (.ok p, o) := by
  obtain ⟨p, hk, hc⟩ := hc
  have hfold : ∀ l ⊆ p.presets, l.foldl (applyPreset stores) o = o := by
    intro l hl
    induction l with
    | nil => rfl
    | cons x l ih =>
      rw [List.foldl_cons, applyPreset_of_complete hv hk hc stores (hl List.mem_cons_self)]
      exact ih fun y hy => hl (List.mem_cons_of_mem _ hy)
  have hex : ∀ a ∈ p.attributes, o.attributeExists a.type = true := by
    intro a ha
    obtain ⟨attr, hget, _⟩ := hc a ha
    rw [OSObject.attributeExists, hv, AttributeMap.attributeExists, hget]
    rfl
  have hinit : p.init stores o = (true, o) := by
    rw [P11Object.init, hfold _ (List.Subset.refl _), initAttributes_of_exists hex]
  refine ⟨p, hk, ?_⟩
  unfold newP11Object
  rw [kindOf_of_valid hv, hk]
  simp only [hinit]

/-! ### What `newP11Object` returns lacks nothing -/

lemma SameKind.refl (attr : OSAttribute) : SameKind attr attr := by
  cases attr <;> trivial

/-- What is there is like the defaults. -/
def Kinded (p : P11Object) (m : AttributeMap) : Prop :=
  ∀ a ∈ p.attributes, ∀ attr, OrderedMap.get a.type m = some attr → SameKind attr a.default

lemma kinded_of_all {p : P11Object} {m : AttributeMap}
    (h : (p.attributes.all fun a => (OrderedMap.get a.type m).all fun attr =>
      decide (SameKind attr a.default)) = true) : Kinded p m := by
  intro a ha attr hget
  have hall := List.all_eq_true.1 h a ha
  rw [hget] at hall
  exact of_decide_eq_true hall

def presetType : Preset → CK_ATTRIBUTE_TYPE
  | .value type _ => type
  | .missing type _ => type

def presetValue : Preset → OSAttribute
  | .value _ v => .unsignedLong v
  | .missing _ attr => attr

/-- Whether a value is like what a preset sets. -/
def presetLike (default : OSAttribute) : Preset → Bool
  | .value _ _ => isULong default
  | .missing _ attr =>
    match attr, default with
    | .boolean _, .boolean _ => true
    | _, _ => false

lemma presetLike_table : ∀ x ∈ kinds, ∀ y ∈ x.2.presets, ∀ a ∈ x.2.attributes,
    a.type = presetType y → presetLike a.default y = true := by decide

lemma presetType_table : ∀ x ∈ kinds, ∀ a ∈ x.2.attributes,
    a.type ∈ [CKA_CLASS, CKA_KEY_TYPE, CKA_CERTIFICATE_TYPE] →
    ∃ y ∈ x.2.presets, presetType y = a.type := by decide

lemma types_nodup : ∀ x ∈ kinds, (x.2.attributes.map (·.type)).Nodup := by decide

section complete

variable {p : P11Object} {stores : CK_ATTRIBUTE_TYPE → RecordFile.Write} {o o' : OSObject}
  {m : AttributeMap} {type : CK_ATTRIBUTE_TYPE} {attr : OSAttribute}

lemma attributeExists_setAttribute (type' : CK_ATTRIBUTE_TYPE)
    (h : m.attributeExists type' = true) :
    (m.setAttribute type attr).attributeExists type' = true := by
  by_cases ht : type' = type
  · subst ht
    exact AttributeMap.attributeExists_setAttribute_self
  · rw [AttributeMap.attributeExists_setAttribute_of_ne ht, h]

lemma Kinded.setAttribute (h : Kinded p m)
    (hd : ∀ a ∈ p.attributes, a.type = type → SameKind attr a.default) :
    Kinded p (m.setAttribute type attr) := by
  intro a ha attr' hget
  rw [AttributeMap.get_setAttribute] at hget
  split at hget
  · rename_i ht
    cases hget
    exact hd a ha ht
  · exact h a ha attr' hget

/-- The class and the types of an object, with values that are like the defaults. -/
def Typed (p : P11Object) (c k t : UInt64) (m : AttributeMap) : Prop :=
  m.getUnsignedLongValue CKA_CLASS CKO_VENDOR_DEFINED = c ∧
  m.getUnsignedLongValue CKA_KEY_TYPE CKK_RSA = k ∧
  m.getUnsignedLongValue CKA_CERTIFICATE_TYPE CKC_X_509 = t ∧ Kinded p m

lemma Typed.setAttribute_of_ne {c k t : UInt64} (h : Typed p c k t m)
    (hne : type ∉ [CKA_CLASS, CKA_KEY_TYPE, CKA_CERTIFICATE_TYPE])
    (hd : ∀ a ∈ p.attributes, a.type = type → SameKind attr a.default) :
    Typed p c k t (m.setAttribute type attr) := by
  simp only [List.mem_cons, List.not_mem_nil, or_false, not_or] at hne
  obtain ⟨h1, h2, h3, h4⟩ := h
  refine ⟨?_, ?_, ?_, h4.setAttribute hd⟩
  · rw [AttributeMap.getUnsignedLongValue_setAttribute_of_ne (Ne.symm hne.1), h1]
  · rw [AttributeMap.getUnsignedLongValue_setAttribute_of_ne (Ne.symm hne.2.1), h2]
  · rw [AttributeMap.getUnsignedLongValue_setAttribute_of_ne (Ne.symm hne.2.2), h3]

lemma Typed.preset {c k t : UInt64} (h : Typed p c k t m) {v : UInt64}
    (hin : presetIn c k t (.value type v))
    (hd : ∀ a ∈ p.attributes, a.type = type → SameKind (.unsignedLong v) a.default) :
    Typed p c k t (m.setAttribute type (.unsignedLong v)) := by
  obtain ⟨h1, h2, h3, h4⟩ := h
  have hkinded := h4.setAttribute hd
  rcases hin with ⟨rfl, rfl⟩ | ⟨rfl, rfl⟩ | ⟨rfl, rfl⟩
  · refine ⟨AttributeMap.getUnsignedLongValue_setAttribute_self _ _, ?_, ?_, hkinded⟩
    · rw [AttributeMap.getUnsignedLongValue_setAttribute_of_ne (by decide), h2]
    · rw [AttributeMap.getUnsignedLongValue_setAttribute_of_ne (by decide), h3]
  · refine ⟨?_, AttributeMap.getUnsignedLongValue_setAttribute_self _ _, ?_, hkinded⟩
    · rw [AttributeMap.getUnsignedLongValue_setAttribute_of_ne (by decide), h1]
    · rw [AttributeMap.getUnsignedLongValue_setAttribute_of_ne (by decide), h3]
  · refine ⟨?_, ?_, AttributeMap.getUnsignedLongValue_setAttribute_self _ _, hkinded⟩
    · rw [AttributeMap.getUnsignedLongValue_setAttribute_of_ne (by decide), h1]
    · rw [AttributeMap.getUnsignedLongValue_setAttribute_of_ne (by decide), h2]

/-- What a preset sets is like the default of its type. -/
lemma sameKind_of_preset {c : UInt64} (hk : (c, p) ∈ kinds) {x : Preset} (hx : x ∈ p.presets)
    {a : P11Attribute} (ha : a ∈ p.attributes) (ht : a.type = presetType x) :
    SameKind (presetValue x) a.default := by
  have hlike := presetLike_table _ hk x hx a ha ht
  cases x with
  | value type v =>
    simp only [presetLike] at hlike
    cases hd : a.default <;> rw [hd] at hlike <;> cases hlike
    trivial
  | missing type attr =>
    simp only [presetLike] at hlike
    cases hd : a.default <;> rw [hd] at hlike <;> cases attr <;> cases hlike
    trivial

lemma Typed.applyPreset {c k t : UInt64} (h : Typed p c k t o.attributes)
    (hp : p11ObjectOf c k t = some p) {x : Preset} (hx : x ∈ p.presets) :
    Typed p c k t (applyPreset stores o x).attributes := by
  have hin := p11ObjectOf_presets hp x hx
  have hkind : ∀ a ∈ p.attributes, a.type = presetType x → SameKind (presetValue x) a.default :=
    fun a ha ht => sameKind_of_preset (p11ObjectOf_mem hp) hx ha ht
  refine applyPreset_invariant stores ?_ ?_ h
  · rintro type v rfl m hm _
    exact hm.preset hin hkind
  · rintro type attr rfl m hm _
    have htype : type = CKA_PRIVATE := hin
    exact hm.setAttribute_of_ne (by rw [htype]; decide) hkind

lemma Typed.presets {c k t : UInt64} (h : Typed p c k t o.attributes)
    (hp : p11ObjectOf c k t = some p) {l : List Preset} (hl : l ⊆ p.presets) :
    Typed p c k t (l.foldl (P11Object.applyPreset stores) o).attributes := by
  induction l generalizing o with
  | nil => exact h
  | cons x l ih =>
    exact ih (h.applyPreset hp (hl List.mem_cons_self))
      fun y hy => hl (List.mem_cons_of_mem _ hy)

/-- After a preset that could be stored its type is there, and what was there still is. -/
lemma applyPreset_exists {x : Preset} (hv : (applyPreset stores o x).valid = true) :
    o.valid = true ∧ (applyPreset stores o x).attributes.attributeExists (presetType x) = true ∧
      ∀ type, o.attributes.attributeExists type = true →
        (applyPreset stores o x).attributes.attributeExists type = true := by
  have hset : ∀ type attr, (o.setAttribute (stores type) type attr).2.valid = true →
      o.valid = true ∧
      (o.setAttribute (stores type) type attr).2.attributes.attributeExists type = true := by
    intro type attr h
    cases hov : o.valid
    · simp only [OSObject.setAttribute, hov, Bool.not_false, if_true] at h
      cases h
    · refine ⟨rfl, ?_⟩
      rw [setAttribute_attributes, if_pos hov]
      exact AttributeMap.attributeExists_setAttribute_self
  have hkeep : ∀ type, o.attributes.attributeExists type = true →
      (applyPreset stores o x).attributes.attributeExists type = true := fun type h =>
    applyPreset_invariant (I := fun m => m.attributeExists type = true) stores
      (fun _ _ _ _ hm _ => attributeExists_setAttribute type hm)
      (fun _ _ _ _ hm _ => attributeExists_setAttribute type hm) h
  cases x with
  | value type v =>
    refine ⟨?_, ?_, hkeep⟩ <;> simp only [applyPreset, presetType] at hv ⊢ <;> split at hv
    · exact (hset _ _ hv).1
    · exact hv
    · rename_i hc
      rw [if_pos hc]
      exact (hset _ _ hv).2
    · rename_i hc
      rw [if_neg hc]
      simp only [Bool.or_eq_true, Bool.not_eq_true', not_or, Bool.not_eq_false] at hc
      exact (Bool.and_eq_true_iff.1 hc.1).2
  | missing type attr =>
    refine ⟨?_, ?_, hkeep⟩ <;> simp only [applyPreset, presetType] at hv ⊢ <;> split at hv
    · exact (hset _ _ hv).1
    · exact hv
    · rename_i hc
      rw [if_pos hc]
      exact (hset _ _ hv).2
    · rename_i hc
      rw [if_neg hc]
      simp only [Bool.not_eq_true', Bool.not_eq_false] at hc
      exact (Bool.and_eq_true_iff.1 hc).2

lemma presets_exist {l : List Preset} (hv : (l.foldl (applyPreset stores) o).valid = true) :
    o.valid = true ∧
    (∀ x ∈ l, (l.foldl (applyPreset stores) o).attributes.attributeExists (presetType x) = true) ∧
    ∀ type, o.attributes.attributeExists type = true →
      (l.foldl (applyPreset stores) o).attributes.attributeExists type = true := by
  induction l generalizing o with
  | nil => exact ⟨hv, by simp, fun type h => h⟩
  | cons x l ih =>
    rw [List.foldl_cons] at hv ⊢
    obtain ⟨hvx, hall, hkeep⟩ := ih hv
    obtain ⟨hvo, hx, hkeepx⟩ := applyPreset_exists hvx
    refine ⟨hvo, ?_, fun type h => hkeep type (hkeepx type h)⟩
    intro y hy
    rcases List.mem_cons.1 hy with rfl | hy
    · exact hkeep _ hx
    · exact hall y hy

lemma initAttributes_exist {l : List P11Attribute} (h : initAttributes stores l o = (true, o')) :
    ∀ a ∈ l, o'.attributes.attributeExists a.type = true := by
  induction l generalizing o with
  | nil => simp
  | cons a l ih =>
    have hkeep : ∀ {o₁ : OSObject}, o₁.attributes.attributeExists a.type = true →
        initAttributes stores l o₁ = (true, o') → o'.attributes.attributeExists a.type = true := by
      intro o₁ hx hl
      have hi := initAttributes_invariant (I := fun m => m.attributeExists a.type = true) stores
        (l := l) (fun b _ m hm _ => attributeExists_setAttribute a.type hm) hx
      rw [hl] at hi
      exact hi
    rw [initAttributes] at h
    by_cases hx : (!o.attributeExists a.type) = true
    · rw [if_pos hx] at h
      rcases hs : o.setAttribute (stores a.type) a.type a.default with ⟨ok, o₁⟩
      rw [hs] at h
      cases ok
      · cases h
      · have hex : o₁.attributes.attributeExists a.type = true := by
          have hattr := setAttribute_attributes (stores a.type) a.type a.default o
          rw [hs] at hattr
          simp only at hattr
          cases hv : o.valid
          · simp only [OSObject.setAttribute, hv, Bool.not_false, if_true] at hs
            cases hs
          · rw [hattr, if_pos hv]
            exact AttributeMap.attributeExists_setAttribute_self
        intro b hb
        rcases List.mem_cons.1 hb with rfl | hb
        · exact hkeep hex h
        · exact ih h b hb
    · rw [if_neg hx] at h
      rw [Bool.not_eq_true, Bool.not_eq_false'] at hx
      intro b hb
      rcases List.mem_cons.1 hb with rfl | hb
      · exact hkeep (Bool.and_eq_true_iff.1 hx).2 h
      · exact ih h b hb

lemma valid_of_initAttributes {l : List P11Attribute} (hl : l ≠ [])
    (h : initAttributes stores l o = (true, o')) : o.valid = true := by
  obtain ⟨a, l, rfl⟩ := List.exists_cons_of_ne_nil hl
  cases hv : o.valid
  · have hx : (!o.attributeExists a.type) = true := by rw [OSObject.attributeExists, hv]; rfl
    rw [initAttributes, if_pos hx] at h
    simp only [OSObject.setAttribute, hv, Bool.not_false, if_true] at h
    cases h
  · rfl

lemma kinds_ne_nil : ∀ x ∈ kinds, x.2.attributes ≠ [] := by decide

/-- **What `newP11Object` returns lacks nothing**, if what was there is like the defaults. -/
theorem complete_of_newP11Object (hv : o.valid = true)
    (hk : ∀ q, attributeKind o.attributes = some q → Kinded q o.attributes)
    (h : newP11Object stores o = (.ok p, o')) : Complete o'.attributes := by
  have hp : attributeKind o.attributes = some p ∧ p.init stores o = (true, o') := by
    unfold newP11Object at h
    rw [kindOf_of_valid hv] at h
    cases hq : attributeKind o.attributes with
    | none =>
      rw [hq] at h
      cases h
    | some q =>
      rw [hq] at h
      rcases hi : q.init stores o with ⟨ok, o₁⟩
      simp only [hi] at h
      cases ok <;> cases h
      exact ⟨rfl, hi⟩
  obtain ⟨hkind, hinit⟩ := hp
  have hmem := p11ObjectOf_mem hkind
  have htyped := @Typed.presets p stores o _ _ _ ⟨rfl, rfl, rfl, hk p hkind⟩ hkind
    p.presets (List.Subset.refl _)
  rw [P11Object.init] at hinit
  have hvalid := valid_of_initAttributes (kinds_ne_nil _ hmem) hinit
  obtain ⟨_, hexist, _⟩ := presets_exist hvalid
  -- the types of the presets are there, so no default changes the class or a type
  have hfill : ∀ {c k t : UInt64}, ∀ a ∈ p.attributes, ∀ m : AttributeMap,
      (Typed p c k t m ∧ ∀ x ∈ p.presets, m.attributeExists (presetType x) = true) →
      m.attributeExists a.type = false →
      Typed p c k t (m.setAttribute a.type a.default) ∧
        ∀ x ∈ p.presets, (m.setAttribute a.type a.default).attributeExists (presetType x) = true := by
    intro c k t a ha m hm hmiss
    refine ⟨hm.1.setAttribute_of_ne ?_ ?_, fun x hx => attributeExists_setAttribute _ (hm.2 x hx)⟩
    · intro ht
      obtain ⟨y, hy, hya⟩ := presetType_table _ hmem a ha ht
      rw [← hya, hm.2 y hy] at hmiss
      cases hmiss
    · intro b hb hba
      rw [List.inj_on_of_nodup_map (types_nodup _ hmem) hb ha hba]
      exact SameKind.refl _
  have hfinal := initAttributes_invariant stores hfill ⟨htyped, hexist⟩
  rw [hinit] at hfinal
  obtain ⟨⟨h1, h2, h3, h4⟩, _⟩ := hfinal
  refine ⟨p, ?_, fun a ha => ?_⟩
  · rw [attributeKind, h1, h2, h3]
    exact hkind
  · have hx := initAttributes_exist hinit a ha
    rw [AttributeMap.attributeExists] at hx
    obtain ⟨attr, hget⟩ := Option.isSome_iff_exists.1 hx
    exact ⟨attr, hget, h4 a ha attr hget⟩

end complete

end SoftHSM
