import SoftHSM.Library.Kinds
import SoftHSM.Library.Search

/-!
What reading and searching show of sensitive values: two stores that differ in such values only,
and the same calls made on both. Reading refuses them in both; a search compares them.
-/

set_option linter.unusedSectionVars false

namespace SoftHSM.Search

open CK_RV P11Object

/-! ### Attributes that may not be shown -/

/-- The types that some class flags with `ck7`. -/
def secretTypes : List CK_ATTRIBUTE_TYPE :=
  [CKA_VALUE, CKA_PRIVATE_EXPONENT, CKA_PRIME_1, CKA_PRIME_2, CKA_EXPONENT_1, CKA_EXPONENT_2,
    CKA_COEFFICIENT, CKA_SEED]

/-- A value flagged with `ck7` in an object that is sensitive or not extractable. -/
def Secret (m : AttributeMap) (type : CK_ATTRIBUTE_TYPE) : Prop :=
  ∃ p a, attributeKind m = some p ∧ p.attributeOf type = some a ∧ a.hidden m = true

/-- The same without the table: only the class of the object and its two flags count. -/
def Protected (m : AttributeMap) (type : CK_ATTRIBUTE_TYPE) : Prop :=
  type ∈ secretTypes ∧
  (m.getUnsignedLongValue CKA_CLASS CKO_VENDOR_DEFINED = CKO_PRIVATE_KEY ∨
    m.getUnsignedLongValue CKA_CLASS CKO_VENDOR_DEFINED = CKO_SECRET_KEY) ∧
  (m.isSensitive || !m.isExtractable) = true

lemma ck7_table : ∀ x ∈ kinds, ∀ a ∈ x.2.attributes, a.has ck7 = true →
    a.type ∈ secretTypes ∧ (x.1 = CKO_PRIVATE_KEY ∨ x.1 = CKO_SECRET_KEY) := by decide

lemma ck7_of_secretTypes : ∀ x ∈ kinds, x.1 = CKO_PRIVATE_KEY ∨ x.1 = CKO_SECRET_KEY →
    ∀ a ∈ x.2.attributes, a.type ∈ secretTypes → a.has ck7 = true := by decide

lemma Secret.protected {m : AttributeMap} {type : CK_ATTRIBUTE_TYPE} (h : Secret m type) :
    Protected m type := by
  obtain ⟨p, a, hp, ha, hh⟩ := h
  obtain ⟨hmem, rfl⟩ := attributeOf_some ha
  obtain ⟨hck, hflags⟩ := Bool.and_eq_true_iff.1 hh
  have ht := ck7_table _ (p11ObjectOf_mem hp) a hmem hck
  exact ⟨ht.1, ht.2, hflags⟩

lemma Protected.hidden {m : AttributeMap} {type : CK_ATTRIBUTE_TYPE} (h : Protected m type)
    {p : P11Object} {a : P11Attribute} (hp : attributeKind m = some p)
    (ha : p.attributeOf type = some a) : a.hidden m = true := by
  obtain ⟨hmem, rfl⟩ := attributeOf_some ha
  have hck := ck7_of_secretTypes _ (p11ObjectOf_mem hp) h.2.1 a hmem h.1
  exact Bool.and_eq_true_iff.2 ⟨hck, h.2.2⟩

/-! ### Two objects that differ in secret values -/

/-- Two maps with the same attributes, except for byte strings of the types that are secret. -/
def AlikeMaps (secret : CK_ATTRIBUTE_TYPE → Prop) (same : ByteString → ByteString → Prop) :
    AttributeMap → AttributeMap → Prop :=
  List.Forall₂ fun x y => x.1 = y.1 ∧ (x.2 = y.2 ∨ secret x.1 ∧
    ∃ b b', x.2 = .byteString b ∧ y.2 = .byteString b' ∧ same b b')

/-- Two objects that differ in secret values only, and in their files. -/
structure Alike (secret : CK_ATTRIBUTE_TYPE → Prop) (same : ByteString → ByteString → Prop)
    (o₁ o₂ : OSObject) : Prop where
  isSession : o₁.isSession = o₂.isSession
  valid : o₁.valid = o₂.valid
  inTransaction : o₁.inTransaction = o₂.inTransaction
  attributes : AlikeMaps secret same o₁.attributes o₂.attributes

section alike

variable {secret : CK_ATTRIBUTE_TYPE → Prop} {same : ByteString → ByteString → Prop}
  {m₁ m₂ : AttributeMap}

lemma AlikeMaps.get (h : AlikeMaps secret same m₁ m₂) (type : CK_ATTRIBUTE_TYPE) :
    OrderedMap.get type m₁ = OrderedMap.get type m₂ ∨ secret type ∧
      ∃ b b', OrderedMap.get type m₁ = some (.byteString b) ∧
        OrderedMap.get type m₂ = some (.byteString b') ∧ same b b' := by
  induction h with
  | nil => exact .inl rfl
  | @cons x y l₁ l₂ hxy _ ih =>
    obtain ⟨t, v⟩ := x
    obtain ⟨t', v'⟩ := y
    obtain ⟨ht, hv⟩ := hxy
    simp only at ht hv
    subst ht
    simp only [OrderedMap.get]
    split
    · rename_i he
      subst he
      rcases hv with rfl | ⟨hs, b, b', rfl, rfl, hsame⟩
      · exact .inl rfl
      · exact .inr ⟨hs, b, b', rfl, rfl, hsame⟩
    · exact ih

lemma AlikeMaps.put (h : AlikeMaps secret same m₁ m₂) (type : CK_ATTRIBUTE_TYPE)
    (attr : OSAttribute) :
    AlikeMaps secret same (m₁.setAttribute type attr) (m₂.setAttribute type attr) := by
  unfold AttributeMap.setAttribute
  induction h with
  | nil => exact .cons ⟨rfl, .inl rfl⟩ .nil
  | @cons x y l₁ l₂ hxy hl ih =>
    obtain ⟨t, v⟩ := x
    obtain ⟨t', v'⟩ := y
    have ht : t = t' := hxy.1
    subst ht
    simp only [OrderedMap.put]
    split
    · exact .cons ⟨rfl, .inl rfl⟩ (.cons hxy hl)
    · split
      · exact .cons ⟨rfl, .inl rfl⟩ hl
      · exact .cons hxy ih

lemma AlikeMaps.attributeExists (h : AlikeMaps secret same m₁ m₂) (type : CK_ATTRIBUTE_TYPE) :
    m₁.attributeExists type = m₂.attributeExists type := by
  unfold AttributeMap.attributeExists
  rcases h.get type with he | ⟨_, b, b', h1, h2, _⟩
  · rw [he]
  · rw [h1, h2]; rfl

lemma AlikeMaps.getUnsignedLongValue (h : AlikeMaps secret same m₁ m₂) (type : CK_ATTRIBUTE_TYPE)
    (v : UInt64) : m₁.getUnsignedLongValue type v = m₂.getUnsignedLongValue type v := by
  unfold AttributeMap.getUnsignedLongValue
  rcases h.get type with he | ⟨_, b, b', h1, h2, _⟩
  · rw [he]
  · rw [h1, h2]

lemma AlikeMaps.getBooleanValue (h : AlikeMaps secret same m₁ m₂) (type : CK_ATTRIBUTE_TYPE)
    (v : Bool) : m₁.getBooleanValue type v = m₂.getBooleanValue type v := by
  unfold AttributeMap.getBooleanValue
  rcases h.get type with he | ⟨_, b, b', h1, h2, _⟩
  · rw [he]
  · rw [h1, h2]

lemma AlikeMaps.isPrivate (h : AlikeMaps secret same m₁ m₂) :
    P11Object.isPrivate m₁ = P11Object.isPrivate m₂ := by
  simp only [P11Object.isPrivate, h.attributeExists, h.getBooleanValue]

lemma AlikeMaps.hidden (h : AlikeMaps secret same m₁ m₂) (a : P11Attribute) :
    a.hidden m₁ = a.hidden m₂ := by
  simp only [P11Attribute.hidden, AttributeMap.isSensitive, AttributeMap.isExtractable,
    h.attributeExists, h.getBooleanValue]

lemma AlikeMaps.attributeKind (h : AlikeMaps secret same m₁ m₂) :
    attributeKind m₁ = attributeKind m₂ := by
  simp only [SoftHSM.attributeKind, h.getUnsignedLongValue]

end alike

section alikeObjects

variable {secret : CK_ATTRIBUTE_TYPE → Prop} {same : ByteString → ByteString → Prop}
  {o₁ o₂ : OSObject}

lemma Alike.attributeExists (h : Alike secret same o₁ o₂) (type : CK_ATTRIBUTE_TYPE) :
    o₁.attributeExists type = o₂.attributeExists type := by
  simp only [OSObject.attributeExists, h.valid, h.attributes.attributeExists]

lemma Alike.setAttribute (h : Alike secret same o₁ o₂) (w : RecordFile.Write)
    (type : CK_ATTRIBUTE_TYPE) (attr : OSAttribute) :
    (o₁.setAttribute w type attr).1 = (o₂.setAttribute w type attr).1 ∧
      Alike secret same (o₁.setAttribute w type attr).2 (o₂.setAttribute w type attr).2 := by
  have hput := h.attributes.put type attr
  unfold OSObject.setAttribute
  rw [h.valid, h.isSession, h.inTransaction]
  cases hv : o₂.valid
  · exact ⟨rfl, h⟩
  · simp only [Bool.not_true, Bool.false_eq_true, if_false]
    split
    · exact ⟨rfl, rfl, rfl, rfl, hput⟩
    · cases w <;> exact ⟨rfl, rfl, rfl, rfl, hput⟩

variable (stores : CK_ATTRIBUTE_TYPE → RecordFile.Write)

lemma Alike.applyPreset (h : Alike secret same o₁ o₂) (x : Preset) :
    Alike secret same (applyPreset stores o₁ x) (applyPreset stores o₂ x) := by
  cases x with
  | value type v =>
    simp only [P11Object.applyPreset, h.attributeExists, h.attributes.getUnsignedLongValue]
    split
    · exact (h.setAttribute _ _ _).2
    · exact h
  | missing type attr =>
    simp only [P11Object.applyPreset, h.attributeExists]
    split
    · exact (h.setAttribute _ _ _).2
    · exact h

lemma Alike.initAttributes (h : Alike secret same o₁ o₂) (l : List P11Attribute) :
    (initAttributes stores l o₁).1 = (initAttributes stores l o₂).1 ∧
      Alike secret same (initAttributes stores l o₁).2 (initAttributes stores l o₂).2 := by
  induction l generalizing o₁ o₂ with
  | nil => exact ⟨rfl, h⟩
  | cons a l ih =>
    simp only [P11Object.initAttributes, h.attributeExists]
    by_cases hx : (!o₂.attributeExists a.type) = true
    · have hs := h.setAttribute (stores a.type) a.type a.default
      rcases h1 : o₁.setAttribute (stores a.type) a.type a.default with ⟨ok, o₁'⟩
      rcases h2 : o₂.setAttribute (stores a.type) a.type a.default with ⟨ok', o₂'⟩
      rw [h1, h2] at hs
      obtain ⟨hok, hs⟩ := hs
      simp only at hok hs
      subst hok
      simp only [if_pos hx]
      cases ok
      · exact ⟨rfl, hs⟩
      · exact ih hs
    · simp only [if_neg hx]
      exact ih h

lemma Alike.init (h : Alike secret same o₁ o₂) (p : P11Object) :
    (p.init stores o₁).1 = (p.init stores o₂).1 ∧
      Alike secret same (p.init stores o₁).2 (p.init stores o₂).2 := by
  have hpre : ∀ (l : List Preset) {o₁ o₂ : OSObject}, Alike secret same o₁ o₂ →
      Alike secret same (l.foldl (P11Object.applyPreset stores) o₁)
        (l.foldl (P11Object.applyPreset stores) o₂) := by
    intro l
    induction l with
    | nil => exact fun h => h
    | cons x l ih => exact fun h => ih (h.applyPreset stores x)
  exact (hpre p.presets h).initAttributes stores p.attributes

lemma Alike.newP11Object (h : Alike secret same o₁ o₂) (hv : o₁.valid = true) :
    (newP11Object stores o₁).1 = (newP11Object stores o₂).1 ∧
      Alike secret same (newP11Object stores o₁).2 (newP11Object stores o₂).2 := by
  have hk : kindOf o₁ = kindOf o₂ := by
    rw [kindOf_of_valid hv, kindOf_of_valid (h.valid ▸ hv), h.attributes.attributeKind]
  unfold SoftHSM.newP11Object
  rw [hk]
  cases kindOf o₂ with
  | none => exact ⟨rfl, h⟩
  | some p =>
    have hi : (p.init stores o₁).1 = (p.init stores o₂).1 ∧
        Alike secret same (p.init stores o₁).2 (p.init stores o₂).2 := h.init stores p
    rcases h1 : p.init stores o₁ with ⟨ok, o₁'⟩
    rcases h2 : p.init stores o₂ with ⟨ok', o₂'⟩
    rw [h1, h2] at hi
    obtain ⟨hok, hi⟩ := hi
    simp only at hok hi
    subst hok
    simp only [h1, h2]
    cases ok
    · exact ⟨rfl, hi⟩
    · exact ⟨rfl, hi⟩

end alikeObjects

/-! ### Protection is kept by the defaults -/

/-- The class, the two flags and the privacy of an object. -/
def Stance (c : UInt64) (sensitive extractable isPrivate : Bool) (m : AttributeMap) : Prop :=
  m.getUnsignedLongValue CKA_CLASS CKO_VENDOR_DEFINED = c ∧
    m.getBooleanValue CKA_SENSITIVE false = sensitive ∧
    m.getBooleanValue CKA_EXTRACTABLE true = extractable ∧
    m.getBooleanValue CKA_PRIVATE true = isPrivate

/-- Whether a value is this Boolean. -/
def isBoolean (b : Bool) : OSAttribute → Bool
  | .boolean value => value = b
  | _ => false

lemma eq_of_isBoolean {b : Bool} {attr : OSAttribute} (h : isBoolean b attr = true) :
    attr = .boolean b := by
  cases attr with
  | boolean value => rw [of_decide_eq_true h]
  | _ => cases h

lemma stance_defaults : ∀ x ∈ kinds, ∀ a ∈ x.2.attributes,
    (a.type = CKA_SENSITIVE → isBoolean false a.default = true) ∧
    (a.type = CKA_EXTRACTABLE → isBoolean true a.default = true) ∧
    (a.type = CKA_PRIVATE → isBoolean true a.default = true) := by decide

/-- Whether a preset is the class `c`, or a number that is neither the class nor a flag. -/
def keepsStance (c : UInt64) : Preset → Bool
  | .value type v => if type = CKA_CLASS then v = c
      else type ≠ CKA_SENSITIVE ∧ type ≠ CKA_EXTRACTABLE ∧ type ≠ CKA_PRIVATE
  | .missing _ _ => false

lemma stance_presets : ∀ x ∈ kinds, x.1 = CKO_PRIVATE_KEY ∨ x.1 = CKO_SECRET_KEY →
    ∀ y ∈ x.2.presets, keepsStance x.1 y = true := by decide

section stance

variable {c : UInt64} {sensitive extractable isPrivate : Bool} {m : AttributeMap}
  {type : CK_ATTRIBUTE_TYPE} {attr : OSAttribute}

/-- A Boolean that is missing keeps its value when it gets its default. -/
lemma getBooleanValue_fill {v : Bool} {flag : CK_ATTRIBUTE_TYPE}
    (hx : m.attributeExists type = false) (hd : type = flag → attr = .boolean v) :
    (m.setAttribute type attr).getBooleanValue flag v = m.getBooleanValue flag v := by
  by_cases ht : flag = type
  · subst ht
    rw [hd rfl, AttributeMap.getBooleanValue_setAttribute_self,
      AttributeMap.getBooleanValue_of_missing hx]
  · exact AttributeMap.getBooleanValue_setAttribute_of_ne ht v

lemma Stance.fill (h : Stance c sensitive extractable isPrivate m)
    (hx : m.attributeExists type = false) (hc : c ≠ CKO_VENDOR_DEFINED)
    (hs : type = CKA_SENSITIVE → attr = .boolean false)
    (he : type = CKA_EXTRACTABLE → attr = .boolean true)
    (hp : type = CKA_PRIVATE → attr = .boolean true) :
    Stance c sensitive extractable isPrivate (m.setAttribute type attr) := by
  obtain ⟨h1, h2, h3, h4⟩ := h
  have hclass : CKA_CLASS ≠ type := by
    rintro rfl
    exact hc (h1 ▸ AttributeMap.getUnsignedLongValue_of_missing hx _)
  refine ⟨?_, ?_, ?_, ?_⟩
  · rw [AttributeMap.getUnsignedLongValue_setAttribute_of_ne hclass, h1]
  · rw [getBooleanValue_fill hx hs, h2]
  · rw [getBooleanValue_fill hx he, h3]
  · rw [getBooleanValue_fill hx hp, h4]

lemma Stance.preset {v : UInt64} (h : Stance c sensitive extractable isPrivate m)
    (hk : keepsStance c (.value type v) = true) :
    Stance c sensitive extractable isPrivate (m.setAttribute type (.unsignedLong v)) := by
  obtain ⟨h1, h2, h3, h4⟩ := h
  simp only [keepsStance] at hk
  split at hk
  · rename_i ht
    subst ht
    have hv : v = c := of_decide_eq_true hk
    refine ⟨?_, ?_, ?_, ?_⟩
    · rw [AttributeMap.getUnsignedLongValue_setAttribute_self, hv]
    · rw [AttributeMap.getBooleanValue_setAttribute_of_ne (by decide), h2]
    · rw [AttributeMap.getBooleanValue_setAttribute_of_ne (by decide), h3]
    · rw [AttributeMap.getBooleanValue_setAttribute_of_ne (by decide), h4]
  · rename_i ht
    obtain ⟨hs, he, hp⟩ := of_decide_eq_true hk
    refine ⟨?_, ?_, ?_, ?_⟩
    · rw [AttributeMap.getUnsignedLongValue_setAttribute_of_ne (Ne.symm ht), h1]
    · rw [AttributeMap.getBooleanValue_setAttribute_of_ne (Ne.symm hs), h2]
    · rw [AttributeMap.getBooleanValue_setAttribute_of_ne (Ne.symm he), h3]
    · rw [AttributeMap.getBooleanValue_setAttribute_of_ne (Ne.symm hp), h4]

lemma Stance.init {p : P11Object} (stores : CK_ATTRIBUTE_TYPE → RecordFile.Write) {o : OSObject}
    (h : Stance c sensitive extractable isPrivate o.attributes) (hk : (c, p) ∈ kinds)
    (hc : c = CKO_PRIVATE_KEY ∨ c = CKO_SECRET_KEY) :
    Stance c sensitive extractable isPrivate (p.init stores o).2.attributes := by
  have hv : c ≠ CKO_VENDOR_DEFINED := by rcases hc with rfl | rfl <;> decide
  have hpre := stance_presets _ hk hc
  refine init_invariant stores ?_ ?_ ?_ h
  · exact fun type v hy m hm _ => hm.preset (hpre _ hy)
  · exact fun type attr hy => absurd (hpre _ hy) (by simp [keepsStance])
  · intro a ha m hm hx
    obtain ⟨hs, he, hp⟩ := stance_defaults _ hk a ha
    exact hm.fill hx hv (fun ht => eq_of_isBoolean (hs ht)) (fun ht => eq_of_isBoolean (he ht))
      (fun ht => eq_of_isBoolean (hp ht))

lemma Stance.newP11Object (stores : CK_ATTRIBUTE_TYPE → RecordFile.Write) {o : OSObject}
    (h : Stance c sensitive extractable isPrivate o.attributes) (hv : o.valid = true)
    (hc : c = CKO_PRIVATE_KEY ∨ c = CKO_SECRET_KEY) :
    Stance c sensitive extractable isPrivate (newP11Object stores o).2.attributes := by
  unfold SoftHSM.newP11Object
  cases hk : kindOf o with
  | none => exact h
  | some p =>
    rw [kindOf_of_valid hv] at hk
    have hmem := p11ObjectOf_mem hk
    rw [h.1] at hmem
    have hi := h.init stores hmem hc
    rcases hp : p.init stores o with ⟨ok, o'⟩
    rw [hp] at hi
    simp only [hp]
    cases ok <;> exact hi

end stance

/-! ### Reading -/

section reading

variable {secret : CK_ATTRIBUTE_TYPE → Prop} {same : ByteString → ByteString → Prop}
  {m₁ m₂ : AttributeMap} {decrypt : ByteString → Option ByteString}

/-- A hidden attribute reads the same whatever its value is. -/
lemma retrieve_of_hidden {a : P11Attribute} {isPrivate : Bool} {r : Request} {m : AttributeMap}
    (h : a.hidden m = true) : a.retrieve decrypt isPrivate r m =
      ⟨CKR_ATTRIBUTE_SENSITIVE, CK_UNAVAILABLE_INFORMATION, .nothing⟩ := by
  rw [P11Attribute.retrieve, if_pos h]

lemma retrieve_alike {a : P11Attribute} {r : Request} (h : AlikeMaps secret same m₁ m₂)
    (hhid : secret a.type → a.hidden m₁ = true) :
    a.retrieve decrypt (isPrivate m₁) r m₁ = a.retrieve decrypt (isPrivate m₂) r m₂ := by
  rcases h.get a.type with he | ⟨hs, _⟩
  · rw [P11Attribute.retrieve, P11Attribute.retrieve, h.hidden a, he, h.isPrivate]
  · rw [retrieve_of_hidden (hhid hs), retrieve_of_hidden (h.hidden a ▸ hhid hs)]

lemma retrieveAll_alike {p : P11Object} (h : AlikeMaps secret same m₁ m₂)
    (hhid : ∀ a ∈ p.attributes, secret a.type → a.hidden m₁ = true) (rs : List Request) :
    p.retrieveAll decrypt m₁ rs = p.retrieveAll decrypt m₂ rs := by
  induction rs with
  | nil => rfl
  | cons r rs ih =>
    simp only [P11Object.retrieveAll, ih]
    cases ha : p.attributeOf r.type with
    | none => rfl
    | some a => simp only [retrieve_alike h (hhid a (attributeOf_some ha).1)]

lemma loadTemplate_alike {p : P11Object} (h : AlikeMaps secret same m₁ m₂)
    (hhid : ∀ a ∈ p.attributes, secret a.type → a.hidden m₁ = true) (rs : List Request) :
    p.loadTemplate decrypt rs m₁ = p.loadTemplate decrypt rs m₂ := by
  rw [P11Object.loadTemplate, P11Object.loadTemplate, retrieveAll_alike h hhid]

end reading

/-! ### Searching -/

section searching

variable {secret : CK_ATTRIBUTE_TYPE → Prop} {m₁ m₂ : AttributeMap}
  {decrypt : ByteString → Option ByteString} {isPrivate : Bool}

/-- Two stored strings whose values have the same length, or that both cannot be decrypted. -/
def SameLength (decrypt : ByteString → Option ByteString) (isPrivate : Bool)
    (b b' : ByteString) : Prop :=
  (compared decrypt isPrivate b).map List.length = (compared decrypt isPrivate b').map List.length

/-- A value that is looked for is that of both strings or of neither. -/
def Undecided (decrypt : ByteString → Option ByteString) (isPrivate : Bool) (b b' : ByteString)
    (e : CK_ATTRIBUTE) : Prop :=
  ∀ v v', compared decrypt isPrivate b = some v → compared decrypt isPrivate b' = some v' →
    (e.pValue = some v ↔ e.pValue = some v')

lemma matchAttribute_alike {b b' : ByteString} {e : CK_ATTRIBUTE}
    (hs : SameLength decrypt isPrivate b b') (hu : Undecided decrypt isPrivate b b' e) :
    matchAttribute decrypt isPrivate (.byteString b) e =
      matchAttribute decrypt isPrivate (.byteString b') e := by
  unfold SameLength at hs
  unfold Undecided at hu
  simp only [matchAttribute]
  cases h : compared decrypt isPrivate b with
  | none =>
    rw [h, Option.map_none, eq_comm, Option.map_eq_none_iff] at hs
    rw [hs]
  | some v =>
    rw [h, Option.map_some, eq_comm, Option.map_eq_some_iff] at hs
    obtain ⟨v', hv', hlen⟩ := hs
    have hiff := hu v v' h hv'
    rw [hv']
    simp only [hlen]
    cases hp : e.pValue with
    | none => rfl
    | some pValue =>
      rw [hp, Option.some.injEq, Option.some.injEq] at hiff
      have hne : v ≠ pValue ↔ v' ≠ pValue := by
        rw [ne_comm, ne_comm (a := v')]
        exact not_congr hiff
      simp only [hne]

/-- **A search compares two stores alike**, as long as no value that it names for a secret
attribute it gets to is that of one store only. -/
lemma matchTemplate_alike {same : ByteString → ByteString → Prop}
    (h : AlikeMaps secret same m₁ m₂) (hsame : ∀ b b', same b b' → SameLength decrypt isPrivate b b')
    (T : List CK_ATTRIBUTE)
    (hu : ∀ es e es', T = es ++ e :: es' → matchTemplate decrypt isPrivate m₁ es = .matches →
      secret e.type → ∀ b b', OrderedMap.get e.type m₁ = some (.byteString b) →
        OrderedMap.get e.type m₂ = some (.byteString b') → Undecided decrypt isPrivate b b' e) :
    matchTemplate decrypt isPrivate m₁ T = matchTemplate decrypt isPrivate m₂ T := by
  induction T with
  | nil => rfl
  | cons e T ih =>
    have hrest : (∃ attr, OrderedMap.get e.type m₁ = some attr ∧
        matchAttribute decrypt isPrivate attr e = .matches) →
        matchTemplate decrypt isPrivate m₁ T = matchTemplate decrypt isPrivate m₂ T := by
      rintro ⟨attr, hattr, hm⟩
      refine ih fun es e' es' hT hes => hu (e :: es) e' es' (by rw [hT]; rfl) ?_
      simp only [matchTemplate, hattr, hm]
      exact hes
    simp only [matchTemplate]
    rcases h.get e.type with he | ⟨hs, b, b', h1, h2, hbb⟩
    · rw [← he]
      cases hattr : OrderedMap.get e.type m₁ with
      | none => rfl
      | some attr =>
        simp only
        cases hm : matchAttribute decrypt isPrivate attr e
        · exact hrest ⟨attr, hattr, hm⟩
        all_goals rfl
    · rw [h1, h2]
      have hma := matchAttribute_alike (hsame _ _ hbb) (hu [] e T rfl rfl hs b b' h1 h2)
      simp only [← hma]
      cases hm : matchAttribute decrypt isPrivate (.byteString b) e
      · exact hrest ⟨_, h1, hm⟩
      all_goals rfl

end searching

/-! ### Runs on two stores -/

variable {Obj Sess : Type} [DecidableEq Obj] [DecidableEq Sess]

/-- The values of an object in two stores have the same lengths, in the slots that hold it. -/
def SameLengths (P : Primitives) (st : Store Obj Sess) (o : Obj) (isPrivate : Bool)
    (b b' : ByteString) : Prop :=
  ∀ slotID, o ∈ st.allObjects slotID → SameLength (decrypt P (st.sdm slotID)) isPrivate b b'

/-- Two stores that are the same but for secret values, which have the same lengths. -/
structure SameButSecrets (P : Primitives) (st₁ st₂ : Store Obj Sess) : Prop where
  isInitialised : st₁.isInitialised = st₂.isInitialised
  fakeRutokenECP : st₁.fakeRutokenECP = st₂.fakeRutokenECP
  handleManager : st₁.handleManager = st₂.handleManager
  session : st₁.session = st₂.session
  sdm : st₁.sdm = st₂.sdm
  allObjects : st₁.allObjects = st₂.allObjects
  object : ∀ o, Alike (Secret (st₁.object o).attributes)
    (SameLengths P st₁ o ((st₁.object o).attributes.getBooleanValue CKA_PRIVATE true))
    (st₁.object o) (st₂.object o)

/-- A call that is no search which names, for a protected attribute that it gets to on a visible
object, the value that one of the stores has and the other has not. -/
def Unguessed (P : Primitives) (st₁ st₂ : Store Obj Sess) : Call → Prop
  | .findObjectsInit hSession (some T) =>
    ∀ s, st₁.handleManager.getSession hSession = some s →
    ∀ o ∈ st₁.allObjects (st₁.session s).slotID,
    skipped (isPublicSession (st₁.getState s)) (st₁.object o) = false →
    ∀ es e es', T = es ++ e :: es' →
    verdict (decrypt P (st₁.sdm (st₁.session s).slotID)) es (st₁.object o) = .matches →
    Protected (st₁.object o).attributes e.type →
    ∀ b b', OrderedMap.get e.type (st₁.object o).attributes = some (.byteString b) →
      OrderedMap.get e.type (st₂.object o).attributes = some (.byteString b') →
      Undecided (decrypt P (st₁.sdm (st₁.session s).slotID))
        ((st₁.object o).attributes.getBooleanValue CKA_PRIVATE true) b b' e
  | _ => True

/-- A sequence of such calls, made on both stores. -/
def Discreet (P : Primitives) : List Call → Store Obj Sess → Store Obj Sess → Prop
  | [], _, _ => True
  | c :: cs, st₁, st₂ => Unguessed P st₁ st₂ c ∧
    ∀ r₁ r₂, exec P st₁ c = some r₁ → exec P st₂ c = some r₂ → Discreet P cs r₁.2 r₂.2

/-- What a run keeps: the second store is the first with other objects, alike but for secrets that
are protected. -/
structure Veiled (P : Primitives) (secret : Obj → CK_ATTRIBUTE_TYPE → Prop)
    (isPrivate : Obj → Bool) (st : Store Obj Sess) (object : Obj → OSObject) : Prop where
  alike : ∀ o, Alike (secret o) (SameLengths P st o (isPrivate o)) (st.object o) (object o)
  secret : ∀ o type, secret o type → Protected (st.object o).attributes type ∧
    (st.object o).attributes.getBooleanValue CKA_PRIVATE true = isPrivate o

section veiled

variable {P : Primitives} {secret : Obj → CK_ATTRIBUTE_TYPE → Prop} {isPrivate : Obj → Bool}
  {st : Store Obj Sess} {object : Obj → OSObject}

/-- Neither the handles nor the sessions matter for what is alike. -/
lemma Veiled.congr (h : Veiled P secret isPrivate st object) {st' : Store Obj Sess}
    (ho : st'.object = st.object) (hs : st'.sdm = st.sdm) (ha : st'.allObjects = st.allObjects) :
    Veiled P secret isPrivate st' object := by
  obtain ⟨h1, h2⟩ := h
  refine ⟨fun o => ?_, fun o => ?_⟩
  · have hl : SameLengths P st' o (isPrivate o) = SameLengths P st o (isPrivate o) := by
      funext b b'
      rw [SameLengths, SameLengths, hs, ha]
    rw [ho, hl]
    exact h1 o
  · rw [ho]
    exact h2 o

/-- Reading an object gives both the same answer and leaves them alike. -/
lemma Veiled.newP11Object (h : Veiled P secret isPrivate st object)
    (stores : CK_ATTRIBUTE_TYPE → RecordFile.Write) {o : Obj} (hv : (st.object o).valid = true) :
    (newP11Object stores (st.object o)).1 = (newP11Object stores (object o)).1 ∧
      Veiled P secret isPrivate (st.setObject o (newP11Object stores (st.object o)).2)
        (Function.update object o (newP11Object stores (object o)).2) := by
  obtain ⟨hrv, halike⟩ := (h.alike o).newP11Object stores hv
  refine ⟨hrv, fun o' => ?_, fun o' type hs => ?_⟩
  · by_cases ho : o' = o
    · subst ho
      simp only [Store.setObject, Function.update_self]
      exact halike
    · simp only [Store.setObject, Function.update_of_ne ho]
      exact h.alike o'
  · by_cases ho : o' = o
    · subst ho
      obtain ⟨⟨ht, hc, hf⟩, hp⟩ := h.secret o' type hs
      rw [AttributeMap.isSensitive_eq, AttributeMap.isExtractable_eq] at hf
      obtain ⟨h1, h2, h3, h4⟩ := Stance.newP11Object stores ⟨rfl, rfl, rfl, rfl⟩ hv hc
      simp only [Store.setObject, Function.update_self, Protected, AttributeMap.isSensitive_eq,
        AttributeMap.isExtractable_eq, h1, h2, h3, h4]
      exact ⟨⟨ht, hc, hf⟩, hp⟩
    · simp only [Store.setObject, Function.update_of_ne ho]
      exact h.secret o' type hs

/-- A secret of an object that is read is hidden. -/
lemma Veiled.hidden (h : Veiled P secret isPrivate st object)
    {stores : CK_ATTRIBUTE_TYPE → RecordFile.Write} {o : Obj} (hv : (st.object o).valid = true)
    {p : P11Object} {o' : OSObject} (hn : SoftHSM.newP11Object stores (st.object o) = (.ok p, o'))
    {a : P11Attribute} (ha : a ∈ p.attributes) (hs : secret o a.type) :
    a.hidden o'.attributes = true := by
  obtain ⟨ht, hc, hf⟩ := (h.secret o a.type hs).1
  have hk : ((st.object o).attributes.getUnsignedLongValue CKA_CLASS CKO_VENDOR_DEFINED, p) ∈
      kinds := by
    unfold SoftHSM.newP11Object at hn
    rw [kindOf_of_valid hv] at hn
    split at hn
    · cases hn
    · rename_i q hq
      have hqp : q = p := by
        split at hn <;> cases hn
        rfl
      exact hqp ▸ p11ObjectOf_mem hq
  have hck := ck7_of_secretTypes _ hk hc a ha ht
  rw [AttributeMap.isSensitive_eq, AttributeMap.isExtractable_eq] at hf
  obtain ⟨_, h2, h3, _⟩ := Stance.newP11Object stores ⟨rfl, rfl, rfl, rfl⟩ hv hc
  rw [hn] at h2 h3
  refine Bool.and_eq_true_iff.2 ⟨hck, ?_⟩
  rw [AttributeMap.isSensitive_eq, AttributeMap.isExtractable_eq, h2, h3]
  exact hf

/-! ### The step -/

lemma Veiled.absentGeneratedGostParams (h : Veiled P secret isPrivate st object) (o : Obj) :
    absentGeneratedGostParams (st.object o).attributes =
      absentGeneratedGostParams (object o).attributes := by
  have ha := (h.alike o).attributes
  have hp : OrderedMap.get CKA_GOST28147_PARAMS (st.object o).attributes =
      OrderedMap.get CKA_GOST28147_PARAMS (object o).attributes := by
    rcases ha.get CKA_GOST28147_PARAMS with he | ⟨hs, _⟩
    · exact he
    · exact absurd (h.secret o _ hs).1.1 (by decide)
  have hb : (st.object o).attributes.getByteStringValue CKA_GOST28147_PARAMS =
      (object o).attributes.getByteStringValue CKA_GOST28147_PARAMS := by
    rw [AttributeMap.getByteStringValue, hp, AttributeMap.getByteStringValue]
  rw [Search.absentGeneratedGostParams, Search.absentGeneratedGostParams, hb,
    ha.getUnsignedLongValue, ha.getUnsignedLongValue]

/-- **Reading.** -/
lemma Veiled.getAttributeValue (h : Veiled P secret isPrivate st object)
    (stores : CK_ATTRIBUTE_TYPE → RecordFile.Write) (hSession hObject : ℕ)
    (pTemplate : Option (List Request)) :
    ∃ rv l st' object', C_GetAttributeValue P stores hSession hObject pTemplate st = (rv, l, st') ∧
      C_GetAttributeValue P stores hSession hObject pTemplate { st with object := object } =
        (rv, l, { st' with object := object' }) ∧ Veiled P secret isPrivate st' object' := by
  unfold C_GetAttributeValue
  by_cases hi : (!st.isInitialised) = true
  · simp only [if_pos hi]
    exact ⟨_, _, st, object, rfl, rfl, h⟩
  simp only [if_neg hi]
  cases pTemplate with
  | none => exact ⟨_, _, st, object, rfl, rfl, h⟩
  | some T =>
    simp only
    cases hs : st.handleManager.getSession hSession with
    | none => exact ⟨_, _, st, object, rfl, rfl, h⟩
    | some s =>
      simp only
      by_cases hf : (st.fakeRutokenECP && decide (hObject = FAKE_RUTOKEN_FEATURE_HANDLE)) = true
      · simp only [if_pos hf]
        exact ⟨_, _, st, object, rfl, rfl, h⟩
      simp only [if_neg hf]
      cases ho : st.handleManager.getObject hObject with
      | none => exact ⟨_, _, st, object, rfl, rfl, h⟩
      | some o =>
        simp only
        have ha := h.alike o
        by_cases hv : (!(st.object o).valid) = true
        · simp only [if_pos hv, if_pos (ha.valid ▸ hv)]
          exact ⟨_, _, st, object, rfl, rfl, h⟩
        simp only [if_neg hv, if_neg (ha.valid ▸ hv)]
        rw [Bool.not_eq_true, Bool.not_eq_false'] at hv
        have hstate : ({ st with object := object } : Store Obj Sess).getState s = st.getState s :=
          rfl
        rw [hstate, h.absentGeneratedGostParams o, ha.attributes.getBooleanValue CKA_TOKEN false,
          ha.attributes.getBooleanValue CKA_PRIVATE true]
        split
        · exact ⟨_, _, st, object, rfl, rfl, h⟩
        obtain ⟨hrv, hveil⟩ := h.newP11Object stores hv
        rcases h1 : SoftHSM.newP11Object stores (st.object o) with ⟨r, o₁⟩
        rcases h2 : SoftHSM.newP11Object stores (object o) with ⟨r', o₂⟩
        rw [h1, h2] at hrv hveil
        simp only at hrv
        subst hrv
        cases r with
        | error rv => exact ⟨_, _, _, _, rfl, rfl, hveil⟩
        | ok p =>
          have hmaps : AlikeMaps (secret o) (SameLengths P st o (isPrivate o)) o₁.attributes
              o₂.attributes := by
            have hx := ((h.alike o).newP11Object stores hv).2
            rw [h1, h2] at hx
            exact hx.attributes
          have hload : p.loadTemplate (decrypt P (st.sdm (st.session s).slotID)) T o₁.attributes =
              p.loadTemplate (decrypt P (st.sdm (st.session s).slotID)) T o₂.attributes :=
            loadTemplate_alike hmaps (fun a hap hs => h.hidden hv h1 hap hs) T
          simp only [hload]
          exact ⟨_, _, _, _, rfl, rfl, hveil⟩

lemma skipped_alike {secret : CK_ATTRIBUTE_TYPE → Prop} {same : ByteString → ByteString → Prop}
    {o₁ o₂ : OSObject} (h : Alike secret same o₁ o₂) (isPublicSession : Bool) :
    skipped isPublicSession o₁ = skipped isPublicSession o₂ := by
  rw [skipped, skipped, h.valid, h.attributes.getBooleanValue]

lemma addObject_alike {secret : CK_ATTRIBUTE_TYPE → Prop} {same : ByteString → ByteString → Prop}
    {o₁ o₂ : OSObject} (h : Alike secret same o₁ o₂) (slotID hSession : ℕ) (o : Obj)
    (m : HandleManager Obj Sess) :
    addObject slotID hSession o o₁ m = addObject slotID hSession o o₂ m := by
  rw [addObject, addObject, h.attributes.getBooleanValue CKA_PRIVATE,
    h.attributes.getBooleanValue CKA_TOKEN]

/-- The loop over objects on which the two stores agree. -/
lemma findLoop_alike {decrypt : ByteString → Option ByteString} {isPublicSession : Bool}
    {slotID hSession : ℕ} {T : List CK_ATTRIBUTE} {f g : Obj → OSObject} {objects : List Obj}
    (hskip : ∀ o ∈ objects, skipped isPublicSession (f o) = skipped isPublicSession (g o))
    (hverdict : ∀ o ∈ objects, skipped isPublicSession (f o) = false →
      verdict decrypt T (f o) = verdict decrypt T (g o))
    (hadd : ∀ o ∈ objects, ∀ m : HandleManager Obj Sess,
      addObject slotID hSession o (f o) m = addObject slotID hSession o (g o) m)
    (m : HandleManager Obj Sess) (handles : List ℕ) :
    findLoop decrypt isPublicSession slotID hSession T f objects m handles =
      findLoop decrypt isPublicSession slotID hSession T g objects m handles := by
  induction objects generalizing m handles with
  | nil => rfl
  | cons o objects ih =>
    have ih' := ih (fun o ho => hskip o (List.mem_cons_of_mem _ ho))
      (fun o ho => hverdict o (List.mem_cons_of_mem _ ho))
      (fun o ho => hadd o (List.mem_cons_of_mem _ ho))
    simp only [findLoop, ← hskip o List.mem_cons_self, ← hadd o List.mem_cons_self, ih']
    cases hs : skipped isPublicSession (f o)
    · rw [← hverdict o List.mem_cons_self hs]
    · rfl

/-- The verdict on an object that both searches get to. -/
lemma Veiled.verdict (h : Veiled P secret isPrivate st object) {hSession : ℕ}
    {T : List CK_ATTRIBUTE}
    (hu : Unguessed P st { st with object := object } (.findObjectsInit hSession (some T)))
    {s : Sess} (hs : st.handleManager.getSession hSession = some s) {o : Obj}
    (ho : o ∈ st.allObjects (st.session s).slotID)
    (hsk : skipped (isPublicSession (st.getState s)) (st.object o) = false) :
    verdict (decrypt P (st.sdm (st.session s).slotID)) T (st.object o) =
      verdict (decrypt P (st.sdm (st.session s).slotID)) T (object o) := by
  have ha := (h.alike o).attributes
  unfold Search.verdict
  rw [← ha.getBooleanValue CKA_PRIVATE true]
  by_cases hsec : ∃ type, secret o type
  · obtain ⟨type, htype⟩ := hsec
    have hp := (h.secret o type htype).2
    refine matchTemplate_alike ha (fun b b' hbb => hp ▸ hbb _ ho) T ?_
    intro es e es' hT hes hse b b' h1 h2
    exact hu s hs o ho hsk es e es' hT hes (h.secret o _ hse).1 b b' h1 h2
  · have hnone : ∀ type, ¬ secret o type := fun type ht => hsec ⟨type, ht⟩
    have heq : ∀ type, OrderedMap.get type (st.object o).attributes =
        OrderedMap.get type (object o).attributes := by
      intro type
      rcases ha.get type with he | ⟨ht, _⟩
      · exact he
      · exact absurd ht (hnone type)
    clear hu
    induction T with
    | nil => rfl
    | cons e T ih => simp only [matchTemplate, heq, ih]

/-- **Searching.** -/
lemma Veiled.findObjectsInit (h : Veiled P secret isPrivate st object) (hSession : ℕ)
    (pTemplate : Option (List CK_ATTRIBUTE))
    (hu : Unguessed P st { st with object := object } (.findObjectsInit hSession pTemplate)) :
    (C_FindObjectsInit P hSession pTemplate st = none ∧
      C_FindObjectsInit P hSession pTemplate { st with object := object } = none) ∨
    ∃ rv st', C_FindObjectsInit P hSession pTemplate st = some (rv, st') ∧
      C_FindObjectsInit P hSession pTemplate { st with object := object } =
        some (rv, { st' with object := object }) ∧ Veiled P secret isPrivate st' object := by
  unfold C_FindObjectsInit
  by_cases hi : (!st.isInitialised) = true
  · simp only [if_pos hi]
    exact .inr ⟨_, st, rfl, rfl, h⟩
  simp only [if_neg hi]
  cases pTemplate with
  | none => exact .inr ⟨_, st, rfl, rfl, h⟩
  | some T =>
    simp only
    cases hs : st.handleManager.getSession hSession with
    | none => exact .inr ⟨_, st, rfl, rfl, h⟩
    | some s =>
      simp only
      by_cases hop : (st.session s).opType ≠ .none
      · simp only [if_pos hop]
        exact .inr ⟨_, st, rfl, rfl, h⟩
      simp only [if_neg hop]
      have hloop : ∀ (m : HandleManager Obj Sess) handles, findLoop (decrypt P (st.sdm (st.session s).slotID))
          (isPublicSession (st.getState s)) (st.session s).slotID hSession T object
          (st.allObjects (st.session s).slotID) m handles =
        findLoop (decrypt P (st.sdm (st.session s).slotID)) (isPublicSession (st.getState s))
          (st.session s).slotID hSession T st.object (st.allObjects (st.session s).slotID) m
          handles := by
        intro m handles
        refine (findLoop_alike ?_ ?_ ?_ m handles).symm
        · exact fun o _ => skipped_alike (h.alike o) _
        · exact fun o ho hsk => h.verdict hu hs ho hsk
        · exact fun o _ m => addObject_alike (h.alike o) _ _ o m
      have hstate : ({ st with object := object } : Store Obj Sess).getState s = st.getState s :=
        rfl
      rw [hstate, hloop]
      rcases findLoop (decrypt P (st.sdm (st.session s).slotID)) (isPublicSession (st.getState s))
        (st.session s).slotID hSession T st.object (st.allObjects (st.session s).slotID)
        st.handleManager [] with _ | ⟨rv, m, handles⟩
      · exact .inl ⟨rfl, rfl⟩
      · refine .inr ?_
        have hset : ∀ m session, Veiled P secret isPrivate
            (({ st with handleManager := m } : Store Obj Sess).setSession s session) object :=
          fun m session => h.congr rfl rfl rfl
        cases rv <;> exact ⟨_, _, rfl, rfl, hset _ _⟩

/-- **The step lemma.** A call that guesses nothing has the same answer on both, and leaves them
alike. -/
theorem Veiled.exec (h : Veiled P secret isPrivate st object) {c : Call}
    (hu : Unguessed P st { st with object := object } c) :
    (exec P st c = none ∧ exec P { st with object := object } c = none) ∨
    ∃ a st' object', exec P st c = some (a, st') ∧
      exec P { st with object := object } c = some (a, { st' with object := object' }) ∧
      Veiled P secret isPrivate st' object' := by
  cases c with
  | getAttributeValue stores hSession hObject pTemplate =>
    obtain ⟨rv, l, st', object', h1, h2, h'⟩ :=
      h.getAttributeValue stores hSession hObject pTemplate
    exact .inr ⟨.attributes rv l, st', object', by simp only [Search.exec, h1], by simp only [Search.exec, h2],
      h'⟩
  | findObjectsInit hSession pTemplate =>
    rcases h.findObjectsInit hSession pTemplate hu with ⟨h1, h2⟩ | ⟨rv, st', h1, h2, h'⟩
    · exact .inl ⟨by simp only [Search.exec, h1, Option.map_none],
        by simp only [Search.exec, h2, Option.map_none]⟩
    · exact .inr ⟨.rv rv, st', object, by simp only [Search.exec, h1, Option.map_some],
        by simp only [Search.exec, h2, Option.map_some], h'⟩
  | findObjects hSession ulMaxObjectCount =>
    refine .inr ?_
    simp only [Search.exec, C_FindObjects]
    by_cases hi : (!st.isInitialised) = true
    · simp only [if_pos hi]
      exact ⟨_, _, object, rfl, rfl, h⟩
    simp only [if_neg hi]
    cases hs : st.handleManager.getSession hSession with
    | none => exact ⟨_, _, object, rfl, rfl, h⟩
    | some s =>
      simp only
      by_cases hop : (st.session s).opType ≠ .find
      · simp only [if_pos hop]
        exact ⟨_, _, object, rfl, rfl, h⟩
      simp only [if_neg hop]
      cases (st.session s).findOp with
      | none => exact ⟨_, _, object, rfl, rfl, h⟩
      | some handles => exact ⟨_, _, object, rfl, rfl, h.congr rfl rfl rfl⟩
  | findObjectsFinal hSession =>
    refine .inr ?_
    simp only [Search.exec, C_FindObjectsFinal]
    by_cases hi : (!st.isInitialised) = true
    · simp only [if_pos hi]
      exact ⟨_, _, object, rfl, rfl, h⟩
    simp only [if_neg hi]
    cases hs : st.handleManager.getSession hSession with
    | none => exact ⟨_, _, object, rfl, rfl, h⟩
    | some s =>
      simp only
      by_cases hop : (st.session s).opType ≠ .find
      · simp only [if_pos hop]
        exact ⟨_, _, object, rfl, rfl, h⟩
      simp only [if_neg hop]
      exact ⟨_, _, object, rfl, rfl, h.congr rfl rfl rfl⟩

/-- **The run lemma.** -/
lemma Veiled.run (h : Veiled P secret isPrivate st object) {cs : List Call}
    (hd : Discreet P cs st { st with object := object }) :
    run P cs st = run P cs { st with object := object } := by
  induction cs generalizing st object with
  | nil => rfl
  | cons c cs ih =>
    obtain ⟨hu, hd⟩ := hd
    simp only [Search.run]
    rcases h.exec hu with ⟨h1, h2⟩ | ⟨a, st', object', h1, h2, h'⟩
    · rw [h1, h2]
    · rw [h1, h2]
      simp only
      rw [ih h' (hd _ _ h1 h2)]

end veiled

/-- **Sensitive values are not shown** by reads and searches that name none of them. -/
theorem secrets_unobservable {P : Primitives} {st₁ st₂ : Store Obj Sess}
    (h : SameButSecrets P st₁ st₂) {calls : List Call} (hd : Discreet P calls st₁ st₂) :
    run P calls st₁ = run P calls st₂ := by
  have hst : st₂ = { st₁ with object := st₂.object } := by
    obtain ⟨h1, h2, h3, h4, h5, h6, _⟩ := h
    cases st₁
    cases st₂
    simp only at h1 h2 h3 h4 h5 h6
    subst h1 h2 h3 h4 h5 h6
    rfl
  rw [hst] at hd ⊢
  refine Veiled.run ⟨h.object, fun o type hs => ⟨hs.protected, rfl⟩⟩ hd

/-! ### A key of a session -/

def copyPrimitives : Primitives := ⟨id, fun _ _ x => x, fun _ _ x => some x⟩

/-- What a sensitive secret key that is not private holds before the defaults. -/
def plainKey (value : ByteString) : OSObject :=
  ⟨true, [(CKA_CLASS, .unsignedLong CKO_SECRET_KEY), (CKA_PRIVATE, .boolean false),
    (CKA_VALUE, .byteString value), (CKA_KEY_TYPE, .unsignedLong CKK_GENERIC_SECRET),
    (CKA_SENSITIVE, .boolean true)], true, none, false⟩

def sensitiveKey (value : ByteString) : OSObject :=
  ((P11GenericSecretKeyObj CKK_GENERIC_SECRET).init (fun _ => .done) (plainKey value)).2

/-- One session, and one object of it. -/
def oneKey (value : ByteString) : Store Unit Unit where
  isInitialised := true
  fakeRutokenECP := false
  handleManager := (HandleManager.empty.addSession 0 ()).2
  session := fun _ => ⟨0, false, .none, none⟩
  sdm := fun _ => SecureDataManager.blank noDraws
  allObjects := fun _ => [()]
  object := fun _ => sensitiveKey value

lemma secret_sensitiveKey : Secret (sensitiveKey [1, 2]).attributes CKA_VALUE := by
  have hclass : (sensitiveKey [1, 2]).attributes.getUnsignedLongValue CKA_CLASS
      CKO_VENDOR_DEFINED = CKO_SECRET_KEY := by decide
  have htype : (sensitiveKey [1, 2]).attributes.getUnsignedLongValue CKA_KEY_TYPE CKK_RSA =
      CKK_GENERIC_SECRET := by decide
  refine ⟨P11GenericSecretKeyObj CKK_GENERIC_SECRET, keyValue, ?_, rfl, by decide⟩
  rw [attributeKind, hclass, htype]
  rfl

lemma sameButSecrets_oneKey :
    SameButSecrets copyPrimitives (oneKey [1, 2]) (oneKey [1, 1]) where
  isInitialised := rfl
  fakeRutokenECP := rfl
  handleManager := rfl
  session := rfl
  sdm := rfl
  allObjects := rfl
  object _ := by
    have hpublic : (sensitiveKey [1, 2]).attributes.getBooleanValue CKA_PRIVATE true = false := by
      decide
    have hsame : SameLengths copyPrimitives (oneKey [1, 2]) ()
        ((sensitiveKey [1, 2]).attributes.getBooleanValue CKA_PRIVATE true) [1, 2] [1, 1] := by
      rw [hpublic]
      exact fun _ _ => rfl
    have halike : Alike (Secret (sensitiveKey [1, 2]).attributes) _ (plainKey [1, 2])
        (plainKey [1, 1]) := ⟨rfl, rfl, rfl, .cons ⟨rfl, .inl rfl⟩ (.cons ⟨rfl, .inl rfl⟩ (.cons
      ⟨rfl, .inr ⟨secret_sensitiveKey, _, _, rfl, rfl, hsame⟩⟩
      (.cons ⟨rfl, .inl rfl⟩ (.cons ⟨rfl, .inl rfl⟩ .nil))))⟩
    exact (halike.init (fun _ => .done) (P11GenericSecretKeyObj CKK_GENERIC_SECRET)).2

/-- A search for a value of neither, and what it finds. -/
theorem secrets_unobservable_oneKey :
    run copyPrimitives [.findObjectsInit 1 (some [⟨CKA_VALUE, some [3, 3], 0⟩]), .findObjects 1 10]
        (oneKey [1, 2]) =
      run copyPrimitives [.findObjectsInit 1 (some [⟨CKA_VALUE, some [3, 3], 0⟩]),
        .findObjects 1 10] (oneKey [1, 1]) := by
  refine secrets_unobservable sameButSecrets_oneKey ⟨?_, fun _ _ _ _ => ⟨trivial, ?_⟩⟩
  · intro s _ o _ _ es e es' hT _ _ b b' h1 h2 v v' hv hv'
    have he : e = ⟨CKA_VALUE, some [3, 3], 0⟩ := by
      have hmem : e ∈ [(⟨CKA_VALUE, some [3, 3], 0⟩ : CK_ATTRIBUTE)] := hT ▸ by simp
      exact List.mem_singleton.1 hmem
    subst he
    have hpublic : (sensitiveKey [1, 2]).attributes.getBooleanValue CKA_PRIVATE true = false := by
      decide
    have hb : (sensitiveKey [1, 2]).attributes.getByteStringValue CKA_VALUE = [1, 2] := by decide
    have hb' : (sensitiveKey [1, 1]).attributes.getByteStringValue CKA_VALUE = [1, 1] := by decide
    change OrderedMap.get CKA_VALUE (sensitiveKey [1, 2]).attributes = _ at h1
    change OrderedMap.get CKA_VALUE (sensitiveKey [1, 1]).attributes = _ at h2
    change compared _ ((sensitiveKey [1, 2]).attributes.getBooleanValue CKA_PRIVATE true) b = _
      at hv
    change compared _ ((sensitiveKey [1, 2]).attributes.getBooleanValue CKA_PRIVATE true) b' = _
      at hv'
    rw [hpublic] at hv hv'
    cases hv
    cases hv'
    rw [AttributeMap.getByteStringValue, h1] at hb
    rw [AttributeMap.getByteStringValue, h2] at hb'
    subst hb hb'
    decide
  · exact fun _ _ _ _ => trivial

/-- The searches for a value tell the two stores apart: only one of them has it. -/
theorem secret_found_by_its_value :
    SameButSecrets copyPrimitives (oneKey [1, 2]) (oneKey [1, 1]) ∧
    run copyPrimitives [.findObjectsInit 1 (some [⟨CKA_VALUE, some [1, 2], 0⟩]), .findObjects 1 10]
        (oneKey [1, 2]) =
      [some (.rv CKR_OK), some (.handles CKR_OK [2])] ∧
    run copyPrimitives [.findObjectsInit 1 (some [⟨CKA_VALUE, some [1, 2], 0⟩]), .findObjects 1 10]
        (oneKey [1, 1]) =
      [some (.rv CKR_OK), some (.handles CKR_OK [])] :=
  ⟨sameButSecrets_oneKey, by decide, by decide⟩

end SoftHSM.Search
