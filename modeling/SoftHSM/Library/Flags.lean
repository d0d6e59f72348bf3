import SoftHSM.Library.Kinds

/-!
The attributes that an update may change, and what the updates of a template make of the Boolean
attributes that are one-way or that tell the history of a key.
-/

namespace SoftHSM

open CK_RV P11Object Update

deriving instance DecidableEq for UpdateRule

/-! ### Boolean attributes -/

namespace AttributeMap

/-- A Boolean attribute, if it is there. -/
def flag (m : AttributeMap) (type : CK_ATTRIBUTE_TYPE) : Option Bool :=
  match OrderedMap.get type m with
  | some (.boolean value) => some value
  | _ => none

variable {m m' : AttributeMap} {type type' : CK_ATTRIBUTE_TYPE} {attr : OSAttribute}

lemma flag_congr (h : OrderedMap.get type m' = OrderedMap.get type m) :
    m'.flag type = m.flag type := by
  rw [flag, h, flag]

lemma flag_setAttribute_self (value : Bool) :
    (m.setAttribute type (.boolean value)).flag type = some value := by
  rw [flag, get_setAttribute, if_pos rfl]

lemma flag_setAttribute_of_ne (h : type' ≠ type) :
    (m.setAttribute type attr).flag type' = m.flag type' := by
  rw [flag, get_setAttribute, if_neg h, flag]

lemma getBooleanValue_eq (v : Bool) : m.getBooleanValue type v = (m.flag type).getD v := by
  unfold getBooleanValue flag
  cases OrderedMap.get type m with
  | none => rfl
  | some attr => cases attr <;> rfl

lemma flag_of_get {value : Bool} (h : OrderedMap.get type m = some (.boolean value)) :
    m.flag type = some value := by rw [flag, h]

lemma get_of_flag {value : Bool} (h : m.flag type = some value) :
    OrderedMap.get type m = some (.boolean value) := by
  unfold flag at h
  split at h
  · rename_i v hv
    cases h
    exact hv
  · cases h

lemma flag_of_missing (h : m.attributeExists type = false) : m.flag type = none := by
  rw [attributeExists, Option.isSome_eq_false_iff, Option.isNone_iff_eq_none] at h
  rw [flag, h]

end AttributeMap

open AttributeMap

/-! ### What an update leaves as it is -/

/-- An update leaves an attribute as it is, also where it fails. -/
def Update.Keeps (type : CK_ATTRIBUTE_TYPE) (u : Update) : Prop :=
  ∀ m, OrderedMap.get type (u m).2 = OrderedMap.get type m

/-- An update only sets attributes of some types, also where it fails. -/
def Update.Writes (types : List CK_ATTRIBUTE_TYPE) (u : Update) : Prop :=
  ∀ (I : AttributeMap → Prop) m, (∀ m, ∀ type ∈ types, ∀ attr, I m → I (m.setAttribute type attr)) →
    I m → I (u m).2

section writes

variable {type t : CK_ATTRIBUTE_TYPE} {types : List CK_ATTRIBUTE_TYPE} {u v : Update}

lemma writes_done : Writes types done := fun _ _ _ h => h

lemma writes_refuse (rv : CK_RV) : Writes types (refuse rv) := fun _ _ _ h => h

lemma writes_set (h : type ∈ types) (attr : OSAttribute) : Writes types (set type attr) :=
  fun _ m hset hm => hset m type h attr hm

lemma writes_andThen (hu : Writes types u) (hv : Writes types v) : Writes types (u.andThen v) := by
  intro I m hset hm
  have h := hu I m hset hm
  unfold andThen
  split
  · rename_i m' heq
    rw [heq] at h
    exact hv I m' hset h
  · exact h

lemma writes_when (c : AttributeMap → Bool) (hu : Writes types u) : Writes types (when c u) := by
  intro I m hset hm
  unfold when
  split
  · exact hu I m hset hm
  · exact hm

lemma writes_ite {c : Prop} [Decidable c] (hu : Writes types u) (hv : Writes types v) :
    Writes types (if c then u else v) := by
  split
  · exact hu
  · exact hv

lemma writes_setEncrypted (token : TokenView) (isPrivate : Bool) (h : type ∈ types)
    (value : ByteString) : Writes types (setEncrypted token isPrivate type value) := by
  unfold setEncrypted
  split
  · split
    · exact writes_refuse _
    · exact writes_set h _
  · exact writes_set h _

lemma writes_updateBytes (token : TokenView) (isPrivate : Bool) (h : type ∈ types)
    (e : CK_ATTRIBUTE) : Writes types (updateBytes token isPrivate type e) := by
  unfold updateBytes
  split
  · exact writes_refuse _
  · exact writes_ite (writes_refuse _) (writes_set h _)

lemma writes_updateCheckValue (token : TokenView) (isPrivate : Bool) (h : type ∈ types)
    (e : CK_ATTRIBUTE) : Writes types (updateCheckValue token isPrivate type e) := by
  intro I m hset hm
  unfold updateCheckValue
  split
  · exact hm
  split
  · exact hm
  split
  · exact hset m type h _ hm
  split
  · exact hm
  split
  · exact hm
  split
  · exact hm
  · exact hset m type h _ hm

lemma writes_updateValue (token : TokenView) (isPrivate : Bool) (h : type ∈ types)
    (hl : CKA_VALUE_LEN ∈ types) (hb : CKA_VALUE_BITS ∈ types) (hc : CKA_CHECK_VALUE ∈ types)
    (e : CK_ATTRIBUTE) (op : ObjectOp) :
    Writes types (updateValue token isPrivate type e op) := by
  unfold updateValue
  refine writes_andThen (writes_updateBytes token isPrivate h e) ?_
  refine writes_andThen (writes_when _ (writes_set hl _)) ?_
  refine writes_andThen (writes_when _ (writes_set hb _)) ?_
  refine writes_andThen (writes_when _ ?_) (writes_when _ ?_)
  · split
    · exact writes_refuse _
    · exact writes_setEncrypted token isPrivate hc _
  · intro I m hset hm
    dsimp only
    split
    · exact hm
    · exact writes_setEncrypted token isPrivate hc _ I m hset hm

lemma writes_updateUnlessFinal {final : Bool} (h : type ∈ types) (e : CK_ATTRIBUTE)
    (op : ObjectOp) (hu : Writes types u) (hv : Writes types v) :
    Writes types (updateUnlessFinal final type e op u v) := by
  intro I m hset hm
  unfold updateUnlessFinal
  split
  · exact hm
  split
  · exact hm
  split
  · exact writes_andThen (writes_set h _) hu I m hset hm
  · exact writes_andThen (writes_set h _) hv I m hset hm

/-- The types that the update of an attribute may set. -/
def P11Attribute.touched (a : P11Attribute) : List CK_ATTRIBUTE_TYPE :=
  match a.updateAttr with
  | .value => [a.type, CKA_VALUE_LEN, CKA_VALUE_BITS, CKA_CHECK_VALUE]
  | .sensitive => [a.type, CKA_ALWAYS_SENSITIVE]
  | .extractable => [a.type, CKA_NEVER_EXTRACTABLE]
  | .bigInteger bitsType => [a.type, bitsType]
  | .readOnly => []
  | .sameAs _ => []
  | _ => [a.type]

/-- **What an update sets.** -/
theorem writes_applyUpdateAttr (a : P11Attribute) (token : TokenView) (isPrivate : Bool)
    (e : CK_ATTRIBUTE) (op : ObjectOp) :
    Writes a.touched (a.applyUpdateAttr token isPrivate e op) := by
  unfold P11Attribute.touched P11Attribute.applyUpdateAttr
  cases a.updateAttr <;> dsimp only
  case bytes => exact writes_updateBytes token isPrivate List.mem_cons_self e
  case sameAs default =>
    intro I m _ hm
    dsimp only
    split
    · exact hm
    split <;> exact hm
  case boolean => exact writes_ite (writes_refuse _) (writes_set List.mem_cons_self _)
  case copyable =>
    intro I m hset hm
    dsimp only
    split
    · exact hm
    split
    · exact hset m _ List.mem_cons_self _ hm
    split <;> exact hm
  case checkValue => exact writes_updateCheckValue token isPrivate List.mem_cons_self e
  case value =>
    exact writes_updateValue token isPrivate (by simp) (by simp) (by simp) (by simp) e op
  case trusted =>
    have hset : ∀ b, Writes [a.type] (set a.type (.boolean b)) :=
      fun b => writes_set List.mem_cons_self _
    unfold updateTrusted
    exact writes_ite (writes_refuse _) (writes_ite (writes_refuse _) (writes_ite (hset _)
      (writes_ite (writes_refuse _) (hset _))))
  case unsignedLong => exact writes_ite (writes_refuse _) (writes_set List.mem_cons_self _)
  case date =>
    exact writes_ite (writes_refuse _) (writes_updateBytes token isPrivate List.mem_cons_self e)
  case readOnly => exact writes_refuse _
  case sensitive =>
    have hset : ∀ b, Writes [a.type, CKA_ALWAYS_SENSITIVE] (set CKA_ALWAYS_SENSITIVE (.boolean b)) :=
      fun b => writes_set (by simp) _
    exact writes_updateUnlessFinal List.mem_cons_self e op (hset _) (writes_when _ (hset _))
  case extractable =>
    exact writes_updateUnlessFinal List.mem_cons_self e op writes_done (writes_set (by simp) _)
  case wrapWithTrusted =>
    exact writes_updateUnlessFinal List.mem_cons_self e op writes_done writes_done
  case alwaysAuthenticate =>
    have hset : ∀ b, Writes [a.type] (set a.type (.boolean b)) :=
      fun b => writes_set List.mem_cons_self _
    exact writes_ite (writes_refuse _) (writes_ite (hset _) (writes_ite (writes_refuse _) (hset _)))
  case bigInteger bitsType =>
    exact writes_andThen (writes_updateBytes token isPrivate List.mem_cons_self e)
      (writes_when _ (writes_set (by simp) _))
  case unsignedLongOn ops =>
    exact writes_ite (writes_refuse _)
      (writes_ite (writes_refuse _) (writes_set List.mem_cons_self _))
  case template =>
    unfold updateTemplate
    refine writes_ite (writes_refuse _) ?_
    split
    · exact writes_refuse _
    · exact writes_set List.mem_cons_self _
  case mechanisms => exact writes_ite (writes_refuse _) (writes_set List.mem_cons_self _)

/-- **What an update leaves as it is.** -/
theorem keeps_applyUpdateAttr {a : P11Attribute} (h : t ∉ a.touched) (token : TokenView)
    (isPrivate : Bool) (e : CK_ATTRIBUTE) (op : ObjectOp) :
    Keeps t (a.applyUpdateAttr token isPrivate e op) := by
  intro m
  refine writes_applyUpdateAttr a token isPrivate e op
    (fun m' => OrderedMap.get t m' = OrderedMap.get t m) m (fun m' type ht attr hm => ?_) rfl
  rw [get_setAttribute, if_neg, hm]
  rintro rfl
  exact h ht

end writes

/-- Whether an operation may change an attribute at all. -/
def P11Attribute.permits (a : P11Attribute) (op : ObjectOp) (m : AttributeMap) : Prop :=
  (op = .SET → a.has ck8 = true ∨ a.has ck11 = true ∨ a.has ck10 = true ∧
    m.getUnsignedLongValue CKA_CLASS CKO_VENDOR_DEFINED = CKO_CERTIFICATE) ∧
  (op = .COPY → a.has ck8 = true ∨ a.has ck11 = true ∨ a.has ck17 = true)

lemma update_cases (a : P11Attribute) (token : TokenView) (isPrivate : Bool) (e : CK_ATTRIBUTE)
    (op : ObjectOp) (m : AttributeMap) :
    (∃ rv, rv ≠ CKR_OK ∧ a.update token isPrivate e op m = (rv, m)) ∨
    a.permits op m ∧
      a.update token isPrivate e op m = a.applyUpdateAttr token isPrivate e op m := by
  have hrefuse : ∀ rv : CK_RV, rv ≠ CKR_OK →
      (∃ rv', rv' ≠ CKR_OK ∧ ((rv, m) : CK_RV × AttributeMap) = (rv', m)) ∨
      a.permits op m ∧ (rv, m) = a.applyUpdateAttr token isPrivate e op m :=
    fun rv hrv => .inl ⟨rv, hrv, rfl⟩
  have happly : a.permits op m → (∃ rv, rv ≠ CKR_OK ∧
      a.applyUpdateAttr token isPrivate e op m = (rv, m)) ∨ a.permits op m ∧
      a.applyUpdateAttr token isPrivate e op m = a.applyUpdateAttr token isPrivate e op m :=
    fun h => .inr ⟨h, rfl⟩
  let Q : CK_RV × AttributeMap → Prop := fun r => (∃ rv, rv ≠ CKR_OK ∧ r = (rv, m)) ∨
    a.permits op m ∧ r = a.applyUpdateAttr token isPrivate e op m
  change Q (a.update token isPrivate e op m)
  unfold P11Attribute.update
  refine iteInduction (fun _ => hrefuse _ (by simp)) fun _ => ?_
  refine iteInduction (fun _ => hrefuse _ (by simp)) fun _ => ?_
  refine iteInduction (fun _ => hrefuse _ (by simp)) fun _ => ?_
  refine iteInduction (fun _ => hrefuse _ (by simp)) fun _ => ?_
  refine iteInduction (fun _ => hrefuse _ (by simp)) fun _ => ?_
  refine iteInduction (fun _ => hrefuse _ (by simp)) fun _ => ?_
  refine iteInduction (fun _ => hrefuse _ (by simp)) fun _ => ?_
  refine iteInduction (fun h => happly ?_) fun _ => ?_
  · simp only [Bool.and_eq_true, Bool.or_eq_true, decide_eq_true_eq] at h
    exact ⟨fun _ => .inl h.1, fun _ => .inl h.1⟩
  refine iteInduction (fun h => happly ?_) fun _ => ?_
  · simp only [Bool.and_eq_true, decide_eq_true_eq] at h
    refine ⟨fun _ => .inr (.inr ⟨h.1.1, h.2⟩), fun hc => ?_⟩
    rw [hc] at h
    cases h.1.2
  refine iteInduction (fun h => happly ?_) fun _ => ?_
  · simp only [Bool.and_eq_true, Bool.or_eq_true, decide_eq_true_eq] at h
    exact ⟨fun _ => .inr (.inl h.1), fun _ => .inr (.inl h.1)⟩
  refine iteInduction (fun h => happly ?_) fun _ => ?_
  · simp only [Bool.and_eq_true, decide_eq_true_eq] at h
    refine ⟨fun hs => ?_, fun _ => .inr (.inr h.1)⟩
    rw [hs] at h
    cases h.2
  refine iteInduction (fun h => happly ?_) fun _ => hrefuse _ (by simp)
  refine ⟨fun hs => ?_, fun hc => ?_⟩
  · rw [hs] at h
    simp at h
  · rw [hc] at h
    simp at h

/-- What is there stays there. -/
lemma exists_update {t : CK_ATTRIBUTE_TYPE} {m : AttributeMap} (a : P11Attribute)
    (token : TokenView) (isPrivate : Bool) (e : CK_ATTRIBUTE) (op : ObjectOp)
    (h : m.attributeExists t = true) :
    (a.update token isPrivate e op m).2.attributeExists t = true := by
  rcases update_cases a token isPrivate e op m with ⟨rv, -, hu⟩ | ⟨-, hu⟩ <;> rw [hu]
  · exact h
  · exact writes_applyUpdateAttr a token isPrivate e op (fun m => m.attributeExists t = true) m
      (fun _ _ _ _ hm => attributeExists_setAttribute t hm) h

/-! ### One update -/

/-- The attributes that are one-way or tell the history, with the attribute whose update sets
them and the way it is updated. -/
def watched : List (CK_ATTRIBUTE_TYPE × CK_ATTRIBUTE_TYPE × UpdateRule) :=
  [(CKA_SENSITIVE, CKA_SENSITIVE, .sensitive), (CKA_ALWAYS_SENSITIVE, CKA_SENSITIVE, .sensitive),
    (CKA_EXTRACTABLE, CKA_EXTRACTABLE, .extractable),
    (CKA_NEVER_EXTRACTABLE, CKA_EXTRACTABLE, .extractable),
    (CKA_WRAP_WITH_TRUSTED, CKA_WRAP_WITH_TRUSTED, .wrapWithTrusted),
    (CKA_COPYABLE, CKA_COPYABLE, .copyable), (CKA_PRIVATE, CKA_PRIVATE, .boolean),
    (CKA_TRUSTED, CKA_TRUSTED, .trusted)]

def watchedTypes : List CK_ATTRIBUTE_TYPE := watched.map (·.1)

lemma watched_table : ∀ x ∈ kinds, ∀ a ∈ x.2.attributes, ∀ r ∈ watched, r.1 ∈ a.touched →
    a.type = r.2.1 ∧ a.updateAttr = r.2.2 := by decide +kernel

/-- No update sets these. -/
lemma fixed_table : ∀ x ∈ kinds, ∀ a ∈ x.2.attributes,
    ∀ t ∈ [CKA_LOCAL, CKA_KEY_GEN_MECHANISM, CKA_CLASS, CKA_KEY_TYPE, CKA_CERTIFICATE_TYPE],
    t ∉ a.touched := by
  have h : ∀ x ∈ kinds, ∀ a ∈ x.2.attributes,
      ([CKA_LOCAL, CKA_KEY_GEN_MECHANISM, CKA_CLASS, CKA_KEY_TYPE, CKA_CERTIFICATE_TYPE].all
        fun t => decide (t ∉ a.touched)) = true := by decide +kernel
  exact fun x hx a ha => forall_of_all (h x hx a ha)

lemma readOnly_table : ∀ x ∈ kinds, ∀ a ∈ x.2.attributes,
    a.type ∈ [CKA_LOCAL, CKA_KEY_GEN_MECHANISM, CKA_ALWAYS_SENSITIVE, CKA_NEVER_EXTRACTABLE] →
    a.updateAttr = .readOnly := by decide +kernel

lemma copyable_table : ∀ x ∈ kinds, ∀ a ∈ x.2.attributes, a.type = CKA_COPYABLE →
    a.has ck8 = false ∧ a.has ck10 = false ∧ a.has ck11 = false ∧ a.has ck17 = false := by
  decide +kernel

lemma private_table : ∀ x ∈ kinds, ∀ a ∈ x.2.attributes, a.type = CKA_PRIVATE →
    a.has ck8 = false ∧ a.has ck10 = false ∧ a.has ck11 = false := by decide +kernel

/-- The attributes that an update sets as the template says. -/
def settable : List CK_ATTRIBUTE_TYPE :=
  [CKA_SENSITIVE, CKA_EXTRACTABLE, CKA_WRAP_WITH_TRUSTED, CKA_PRIVATE, CKA_TRUSTED]

lemma settable_table : ∀ x ∈ kinds, ∀ a ∈ x.2.attributes, a.type ∈ settable →
    a.type ∈ a.touched := by decide +kernel

lemma settable_watched : ∀ t ∈ settable, t ∈ watchedTypes := forall_of_all (by decide)

/-- What `CKA_SENSITIVE` and `CKA_EXTRACTABLE` do to the history. -/
def setSensitive (op : ObjectOp) (b : Bool) (m : AttributeMap) : AttributeMap :=
  let m := m.setAttribute CKA_SENSITIVE (.boolean b)
  if b then
    if op = .GENERATE ∨ op = .DERIVE then m.setAttribute CKA_ALWAYS_SENSITIVE (.boolean true) else m
  else m.setAttribute CKA_ALWAYS_SENSITIVE (.boolean false)

def setExtractable (b : Bool) (m : AttributeMap) : AttributeMap :=
  let m := m.setAttribute CKA_EXTRACTABLE (.boolean b)
  if b then m.setAttribute CKA_NEVER_EXTRACTABLE (.boolean false) else m

/-- What an update with an entry of a template comes to, for the watched attributes. -/
inductive Watched (type : CK_ATTRIBUTE_TYPE) (e : CK_ATTRIBUTE) (op : ObjectOp) (so : Bool)
    (m : AttributeMap) : CK_RV × AttributeMap → Prop
  | quiet (rv : CK_RV) (m' : AttributeMap) (hrv : rv = CKR_OK → type ∉ settable)
      (h : ∀ t ∈ watchedTypes, OrderedMap.get t m' = OrderedMap.get t m) :
      Watched type e op so m (rv, m')
  | sensitive (ht : type = CKA_SENSITIVE)
      (hop : op = .SET ∨ op = .COPY → m.getBooleanValue CKA_SENSITIVE false = false) :
      Watched type e op so m (CKR_OK, setSensitive op (e.bool ≠ CK_FALSE) m)
  | extractable (ht : type = CKA_EXTRACTABLE)
      (hop : op = .SET ∨ op = .COPY → m.getBooleanValue CKA_EXTRACTABLE false = true) :
      Watched type e op so m (CKR_OK, setExtractable (e.bool ≠ CK_FALSE) m)
  | wrapWithTrusted (ht : type = CKA_WRAP_WITH_TRUSTED)
      (hop : op = .SET ∨ op = .COPY → m.getBooleanValue CKA_WRAP_WITH_TRUSTED false = false) :
      Watched type e op so m
        (CKR_OK, m.setAttribute CKA_WRAP_WITH_TRUSTED (.boolean (e.bool ≠ CK_FALSE)))
  | copyable (ht : type = CKA_COPYABLE) (hop : op ≠ .SET ∧ op ≠ .COPY) :
      Watched type e op so m (CKR_OK, m.setAttribute CKA_COPYABLE (.boolean false))
  | isPrivate (ht : type = CKA_PRIVATE) (hop : op ≠ .SET) :
      Watched type e op so m (CKR_OK, m.setAttribute CKA_PRIVATE (.boolean (e.bool ≠ CK_FALSE)))
  | trusted (ht : type = CKA_TRUSTED) (hso : e.bool ≠ CK_FALSE → so = true) :
      Watched type e op so m (CKR_OK, m.setAttribute CKA_TRUSTED (.boolean (e.bool ≠ CK_FALSE)))

lemma watched_refused {type : CK_ATTRIBUTE_TYPE} {e : CK_ATTRIBUTE} {op : ObjectOp} {so : Bool}
    {m : AttributeMap} {rv : CK_RV} (h : rv ≠ CKR_OK) : Watched type e op so m (rv, m) :=
  .quiet rv m (fun hr => absurd hr h) fun _ _ => rfl

/-- The rule of an attribute with a final value. -/
lemma updateUnlessFinal_cases {type : CK_ATTRIBUTE_TYPE} {e : CK_ATTRIBUTE} {op : ObjectOp}
    {final : Bool} {u v : Update} {Q : CK_RV × AttributeMap → Prop} {m : AttributeMap}
    (hrefuse : ∀ rv, rv ≠ CKR_OK → Q (rv, m))
    (hfalse : (op = .SET ∨ op = .COPY → m.getBooleanValue type false ≠ final) → e.bool = CK_FALSE →
      Q (u (m.setAttribute type (.boolean false))))
    (htrue : (op = .SET ∨ op = .COPY → m.getBooleanValue type false ≠ final) → e.bool ≠ CK_FALSE →
      Q (v (m.setAttribute type (.boolean true)))) :
    Q (updateUnlessFinal final type e op u v m) := by
  unfold updateUnlessFinal
  refine iteInduction (fun _ => hrefuse _ (by simp)) fun h1 => ?_
  refine iteInduction (fun _ => hrefuse _ (by simp)) fun _ => ?_
  have hop : op = .SET ∨ op = .COPY → m.getBooleanValue type false ≠ final := by
    intro ho hf
    simp [ho, hf] at h1
  exact iteInduction (fun h => hfalse hop h) fun h => htrue hop h

/-- **What one update comes to.** -/
theorem update_watched {c : UInt64} {p : P11Object} (hk : (c, p) ∈ kinds) {a : P11Attribute}
    (ha : a ∈ p.attributes) (token : TokenView) (isPrivate : Bool) (e : CK_ATTRIBUTE)
    (op : ObjectOp) (m : AttributeMap) :
    Watched a.type e op token.isSOLoggedIn m (a.update token isPrivate e op m) := by
  rcases update_cases a token isPrivate e op m with ⟨rv, hrv, h⟩ | ⟨hpermits, h⟩
  · rw [h]
    exact watched_refused hrv
  rw [h]
  have hrefuse : ∀ rv, rv ≠ CKR_OK → Watched a.type e op token.isSOLoggedIn m (rv, m) :=
    fun rv hrv => watched_refused hrv
  by_cases hw : ∃ r ∈ watched, r.1 ∈ a.touched
  swap
  · simp only [not_exists, not_and] at hw
    have hnot : ∀ t ∈ watchedTypes, t ∉ a.touched := by
      intro t ht
      obtain ⟨r, hr, rfl⟩ := List.mem_map.1 ht
      exact hw r hr
    refine .quiet _ _ (fun _ hs => ?_) fun t ht => ?_
    · exact hnot _ (settable_watched _ hs) (settable_table _ hk a ha hs)
    · exact keeps_applyUpdateAttr (hnot t ht) token isPrivate e op m
  obtain ⟨r, hr, hrt⟩ := hw
  obtain ⟨htype, hrule⟩ := watched_table _ hk a ha r hr hrt
  have hon : e.bool = CK_FALSE → decide (e.bool ≠ CK_FALSE) = false := fun h => by simp [h]
  have hoff : e.bool ≠ CK_FALSE → decide (e.bool ≠ CK_FALSE) = true := fun h => by simp [h]
  have hsens : a.type = CKA_SENSITIVE → a.updateAttr = .sensitive →
      Watched a.type e op token.isSOLoggedIn m (a.applyUpdateAttr token isPrivate e op m) := by
    intro ht hu
    simp only [P11Attribute.applyUpdateAttr, hu, ht]
    refine updateUnlessFinal_cases (by rw [← ht]; exact hrefuse) ?_ ?_
    · intro hop hb
      have hcase : Watched CKA_SENSITIVE e op token.isSOLoggedIn m _ := .sensitive rfl
        fun ho => Bool.eq_false_of_not_eq_true (hop ho)
      rw [hon hb] at hcase
      exact hcase
    · intro hop hb
      have hcase : Watched CKA_SENSITIVE e op token.isSOLoggedIn m _ := .sensitive rfl
        fun ho => Bool.eq_false_of_not_eq_true (hop ho)
      rw [hoff hb] at hcase
      refine (congrArg (Watched _ _ _ _ _) ?_).mp hcase
      simp only [setSensitive, if_true, when, Bool.or_eq_true, decide_eq_true_eq]
      split <;> rfl
  have hextr : a.type = CKA_EXTRACTABLE → a.updateAttr = .extractable →
      Watched a.type e op token.isSOLoggedIn m (a.applyUpdateAttr token isPrivate e op m) := by
    intro ht hu
    simp only [P11Attribute.applyUpdateAttr, hu, ht]
    refine updateUnlessFinal_cases (by rw [← ht]; exact hrefuse) ?_ ?_
    · intro hop hb
      have hcase : Watched CKA_EXTRACTABLE e op token.isSOLoggedIn m _ := .extractable rfl
        fun ho => Bool.eq_true_of_not_eq_false (hop ho)
      rw [hon hb] at hcase
      exact hcase
    · intro hop hb
      have hcase : Watched CKA_EXTRACTABLE e op token.isSOLoggedIn m _ := .extractable rfl
        fun ho => Bool.eq_true_of_not_eq_false (hop ho)
      rw [hoff hb] at hcase
      exact hcase
  have hlength : ∀ {type : CK_ATTRIBUTE_TYPE}, (∀ rv, rv ≠ CKR_OK →
        Watched type e op token.isSOLoggedIn m (rv, m)) →
      Watched type e op token.isSOLoggedIn m
        (CKR_OK, m.setAttribute type (.boolean (e.bool ≠ CK_FALSE))) →
      Watched type e op token.isSOLoggedIn m (updateBoolean type e m) := by
    intro type hr hs
    unfold updateBoolean
    split
    · exact hr _ (by simp)
    · exact hs
  simp only [watched, List.mem_cons, List.not_mem_nil, or_false] at hr
  rcases hr with rfl | rfl | rfl | rfl | rfl | rfl | rfl | rfl
  · exact hsens htype hrule
  · exact hsens htype hrule
  · exact hextr htype hrule
  · exact hextr htype hrule
  · simp only at htype hrule
    simp only [P11Attribute.applyUpdateAttr, hrule, htype]
    refine updateUnlessFinal_cases (by rw [← htype]; exact hrefuse) ?_ ?_
    · intro hop hb
      have hcase : Watched CKA_WRAP_WITH_TRUSTED e op token.isSOLoggedIn m _ := .wrapWithTrusted rfl
        fun ho => Bool.eq_false_of_not_eq_true (hop ho)
      rw [hon hb] at hcase
      exact hcase
    · intro hop hb
      have hcase : Watched CKA_WRAP_WITH_TRUSTED e op token.isSOLoggedIn m _ := .wrapWithTrusted rfl
        fun ho => Bool.eq_false_of_not_eq_true (hop ho)
      rw [hoff hb] at hcase
      exact hcase
  · simp only at htype hrule
    obtain ⟨h8, h10, h11, h17⟩ := copyable_table _ hk a ha htype
    have hop : op ≠ .SET ∧ op ≠ .COPY := by
      simp only [P11Attribute.permits, h8, h10, h11, h17, Bool.false_eq_true, false_and, or_self,
        imp_false] at hpermits
      exact hpermits
    simp only [P11Attribute.applyUpdateAttr, hrule, htype]
    rw [htype] at hrefuse
    refine iteInduction (fun _ => hrefuse _ (by simp)) fun _ => ?_
    refine iteInduction (fun _ => .copyable rfl hop) fun _ => ?_
    refine iteInduction (fun _ => hrefuse _ (by simp)) fun _ => ?_
    exact .quiet _ _ (fun _ => by decide) fun _ _ => rfl
  · simp only at htype hrule
    obtain ⟨h8, h10, h11⟩ := private_table _ hk a ha htype
    have hop : op ≠ .SET := by
      intro ho
      have := hpermits.1 ho
      simp [h8, h10, h11] at this
    simp only [P11Attribute.applyUpdateAttr, hrule, htype]
    rw [htype] at hrefuse
    exact hlength hrefuse (.isPrivate rfl hop)
  · simp only at htype hrule
    simp only [P11Attribute.applyUpdateAttr, hrule, htype, updateTrusted]
    rw [htype] at hrefuse
    split_ifs with h1 h2 h3 h4
    · exact hrefuse _ (by simp)
    · exact hrefuse _ (by simp)
    · have hcase : Watched CKA_TRUSTED e op token.isSOLoggedIn m _ := .trusted rfl
        fun hb => absurd h3 hb
      rw [hon h3] at hcase
      exact hcase
    · exact hrefuse _ (by simp)
    · have hcase : Watched CKA_TRUSTED e op token.isSOLoggedIn m _ := .trusted rfl
        fun _ => by simpa using h4
      rw [hoff h3] at hcase
      exact hcase

/-! ### One-way attributes, and the history of a key -/

/-- What a key may become, but for `CKA_PRIVATE`. -/
structure OneWay (m m' : AttributeMap) : Prop where
  sensitive : m.flag CKA_SENSITIVE = some true → m'.flag CKA_SENSITIVE = some true
  wrapWithTrusted :
    m.flag CKA_WRAP_WITH_TRUSTED = some true → m'.flag CKA_WRAP_WITH_TRUSTED = some true
  extractable : m.flag CKA_EXTRACTABLE = some false → m'.flag CKA_EXTRACTABLE = some false
  copyable : m.flag CKA_COPYABLE = some false → m'.flag CKA_COPYABLE = some false
  isLocal : ∀ v, m.flag CKA_LOCAL = some v → m'.flag CKA_LOCAL = some v
  keyGenMechanism : ∀ v, OrderedMap.get CKA_KEY_GEN_MECHANISM m = some (.unsignedLong v) →
    OrderedMap.get CKA_KEY_GEN_MECHANISM m' = some (.unsignedLong v)
  alwaysSensitive :
    m.flag CKA_ALWAYS_SENSITIVE = some false → m'.flag CKA_ALWAYS_SENSITIVE = some false
  neverExtractable :
    m.flag CKA_NEVER_EXTRACTABLE = some false → m'.flag CKA_NEVER_EXTRACTABLE = some false

lemma OneWay.refl (m : AttributeMap) : OneWay m m :=
  ⟨id, id, id, id, fun _ => id, fun _ => id, id, id⟩

lemma OneWay.trans {m m' m'' : AttributeMap} (h : OneWay m m') (h' : OneWay m' m'') :
    OneWay m m'' where
  sensitive := h'.sensitive ∘ h.sensitive
  wrapWithTrusted := h'.wrapWithTrusted ∘ h.wrapWithTrusted
  extractable := h'.extractable ∘ h.extractable
  copyable := h'.copyable ∘ h.copyable
  isLocal v := h'.isLocal v ∘ h.isLocal v
  keyGenMechanism v := h'.keyGenMechanism v ∘ h.keyGenMechanism v
  alwaysSensitive := h'.alwaysSensitive ∘ h.alwaysSensitive
  neverExtractable := h'.neverExtractable ∘ h.neverExtractable

/-- A key that has always been sensitive is sensitive. -/
def AlwaysTrue (m : AttributeMap) : Prop :=
  m.flag CKA_ALWAYS_SENSITIVE = some true → m.flag CKA_SENSITIVE = some true

/-- A key that was never extractable is not extractable. -/
def NeverTrue (m : AttributeMap) : Prop :=
  m.flag CKA_NEVER_EXTRACTABLE = some true → m.flag CKA_EXTRACTABLE = some false

section flags

variable {m : AttributeMap} {op : ObjectOp}

lemma flag_setSensitive (b : Bool) (m : AttributeMap) :
    (setSensitive op b m).flag CKA_SENSITIVE = some b := by
  unfold setSensitive
  cases b
  · simp only [Bool.false_eq_true, if_false]
    rw [flag_setAttribute_of_ne (by decide), flag_setAttribute_self]
  · simp only [if_true]
    split
    · rw [flag_setAttribute_of_ne (by decide), flag_setAttribute_self]
    · rw [flag_setAttribute_self]

lemma flag_setSensitive_always (b : Bool) (m : AttributeMap) :
    (setSensitive op b m).flag CKA_ALWAYS_SENSITIVE =
      if b then if op = .GENERATE ∨ op = .DERIVE then some true else m.flag CKA_ALWAYS_SENSITIVE
      else some false := by
  unfold setSensitive
  cases b
  · simp only [Bool.false_eq_true, if_false]
    rw [flag_setAttribute_self]
  · simp only [if_true]
    split
    · rw [flag_setAttribute_self]
    · rw [flag_setAttribute_of_ne (by decide)]

lemma get_setSensitive {t : CK_ATTRIBUTE_TYPE} (h : t ≠ CKA_SENSITIVE)
    (h' : t ≠ CKA_ALWAYS_SENSITIVE) (b : Bool) (m : AttributeMap) :
    OrderedMap.get t (setSensitive op b m) = OrderedMap.get t m := by
  unfold setSensitive
  cases b
  · simp only [Bool.false_eq_true, if_false]
    rw [get_setAttribute, if_neg h', get_setAttribute, if_neg h]
  · simp only [if_true]
    split
    · rw [get_setAttribute, if_neg h', get_setAttribute, if_neg h]
    · rw [get_setAttribute, if_neg h]

lemma flag_setExtractable (b : Bool) (m : AttributeMap) :
    (setExtractable b m).flag CKA_EXTRACTABLE = some b := by
  unfold setExtractable
  cases b
  · simp only [Bool.false_eq_true, if_false]
    rw [flag_setAttribute_self]
  · simp only [if_true]
    rw [flag_setAttribute_of_ne (by decide), flag_setAttribute_self]

lemma flag_setExtractable_never (b : Bool) (m : AttributeMap) :
    (setExtractable b m).flag CKA_NEVER_EXTRACTABLE =
      if b then some false else m.flag CKA_NEVER_EXTRACTABLE := by
  unfold setExtractable
  cases b
  · simp only [Bool.false_eq_true, if_false]
    rw [flag_setAttribute_of_ne (by decide)]
  · simp only [if_true]
    rw [flag_setAttribute_self]

lemma get_setExtractable {t : CK_ATTRIBUTE_TYPE} (h : t ≠ CKA_EXTRACTABLE)
    (h' : t ≠ CKA_NEVER_EXTRACTABLE) (b : Bool) (m : AttributeMap) :
    OrderedMap.get t (setExtractable b m) = OrderedMap.get t m := by
  unfold setExtractable
  cases b
  · simp only [Bool.false_eq_true, if_false]
    rw [get_setAttribute, if_neg h]
  · simp only [if_true]
    rw [get_setAttribute, if_neg h', get_setAttribute, if_neg h]

end flags

section watched

variable {type t : CK_ATTRIBUTE_TYPE} {e : CK_ATTRIBUTE} {op : ObjectOp} {so : Bool}
  {m : AttributeMap} {r : CK_RV × AttributeMap}

/-- What a watched attribute is after an update of another one: as before, unless it is part of the
history. -/
lemma Watched.get_of_ne (h : Watched type e op so m r) (ht : t ≠ type)
    (hw : t ∈ watchedTypes) (has : t ≠ CKA_ALWAYS_SENSITIVE)
    (hne : t ≠ CKA_NEVER_EXTRACTABLE) : OrderedMap.get t r.2 = OrderedMap.get t m := by
  cases h with
  | quiet rv m' hrv h => exact h t hw
  | sensitive hts hop => exact get_setSensitive (hts ▸ ht) has _ m
  | extractable hte hop => exact get_setExtractable (hte ▸ ht) hne _ m
  | wrapWithTrusted htw hop => rw [get_setAttribute, if_neg (htw ▸ ht)]
  | copyable htc hop => rw [get_setAttribute, if_neg (htc ▸ ht)]
  | isPrivate htp hop => rw [get_setAttribute, if_neg (htp ▸ ht)]
  | trusted htt hso => rw [get_setAttribute, if_neg (htt ▸ ht)]

/-- An update that succeeds sets a settable attribute to what the template says. -/
lemma Watched.flag_self (h : Watched type e op so m r) (hr : r.1 = CKR_OK) (ht : type ∈ settable) :
    r.2.flag type = some (decide (e.bool ≠ CK_FALSE)) := by
  cases h with
  | quiet rv m' hrv h => exact absurd ht (hrv hr)
  | sensitive hts hop => rw [hts]; exact flag_setSensitive _ m
  | extractable hte hop => rw [hte]; exact flag_setExtractable _ m
  | wrapWithTrusted htw hop => rw [htw]; exact flag_setAttribute_self _
  | copyable htc hop => rw [htc] at ht; exact absurd ht (by decide)
  | isPrivate htp hop => rw [htp]; exact flag_setAttribute_self _
  | trusted htt hso => rw [htt]; exact flag_setAttribute_self _

/-- The history of `CKA_SENSITIVE`. -/
lemma Watched.always (h : Watched type e op so m r) (hm : AlwaysTrue m) : AlwaysTrue r.2 := by
  intro hr
  cases h with
  | quiet rv m' hrv h =>
    rw [flag_congr (h _ (by decide))] at hr ⊢
    exact hm hr
  | sensitive hts hop =>
    simp only [flag_setSensitive_always] at hr
    rw [flag_setSensitive]
    split at hr
    · rename_i hb
      rw [hb]
    · cases hr
  | extractable hte hop =>
    rw [flag_congr (get_setExtractable (by decide) (by decide) _ m)] at hr ⊢
    exact hm hr
  | wrapWithTrusted htw hop => rw [flag_setAttribute_of_ne (by decide)] at hr ⊢; exact hm hr
  | copyable htc hop => rw [flag_setAttribute_of_ne (by decide)] at hr ⊢; exact hm hr
  | isPrivate htp hop => rw [flag_setAttribute_of_ne (by decide)] at hr ⊢; exact hm hr
  | trusted htt hso => rw [flag_setAttribute_of_ne (by decide)] at hr ⊢; exact hm hr

end watched

end SoftHSM
