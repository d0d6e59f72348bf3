import SoftHSM.DataMgr.MasterKey
import SoftHSM.Library.KeyKinds
import SoftHSM.Library.Refused
import SoftHSM.Library.UnwrapTemplates

/-!
What a key that has been unwrapped says of the template of the unwrapping key. An entry that the
check let through is stored as the attribute has it: a byte of a Boolean attribute as its truth, an
array as the template in it; and an empty value has been taken for any template.
-/

set_option linter.unusedSectionVars false

namespace SoftHSM.Create

open CK_RV Search P11Object OSObject AttributeMap File
open RecordFile (Write)

/-! ### One entry -/

/-- What an entry that is accepted is stored as, by the default of its attribute. -/
inductive Taken (token : TokenView) (isPrivate : Bool) (e : CK_ATTRIBUTE) :
    OSAttribute → OSAttribute → Prop
  | boolean {default : Bool} (hsize : e.ulValueLen = sizeof_CK_BBOOL) :
      Taken token isPrivate e (.boolean default) (.boolean (e.bool ≠ CK_FALSE))
  | unsignedLong {default : UInt64} (hsize : e.ulValueLen = sizeof_CK_ULONG) :
      Taken token isPrivate e (.unsignedLong default) (.unsignedLong (ulongAt e.bytes))
  | byteString {default value : ByteString}
      (hvalue : (if isPrivate then token.encrypt e.bytes else some e.bytes) = some value) :
      Taken token isPrivate e (.byteString default) (.byteString value)
  | mechanisms {default : Finset CK_MECHANISM_TYPE} (hsize : e.ulValueLen % sizeof_CK_ULONG = 0) :
      Taken token isPrivate e (.mechanismTypeSet default)
        (.mechanismTypeSet (mechanismsAt e.bytes))
  | template {default data : AttributeMap} (hdata : templateMap (token.arrayAt e.bytes) [] = some data) :
      Taken token isPrivate e (.attributeMap default) (.attributeMap data)

/-- The ways of updating that fit the default of an attribute of a key. -/
def takes (a : P11Attribute) : Bool :=
  match a.updateAttr, a.default with
  | .bytes, .byteString _ | .date, .byteString _ | .checkValue, .byteString _ => true
  | .boolean, .boolean _ | .trusted, .boolean _ | .wrapWithTrusted, .boolean _ => true
  | .sensitive, .boolean _ => a.type ≠ CKA_ALWAYS_SENSITIVE
  | .extractable, .boolean _ => a.type ≠ CKA_NEVER_EXTRACTABLE
  | .alwaysAuthenticate, .boolean _ => true
  | .copyable, .boolean default => default && a.type = CKA_COPYABLE
  | .sameAs _, .unsignedLong _ => a.type = CKA_CLASS || a.type = CKA_KEY_TYPE
  | .unsignedLongOn ops, .unsignedLong _ => .UNWRAP ∉ ops
  | .template, .attributeMap _ => true
  | .mechanisms, .mechanismTypeSet _ => true
  | _, _ => false

/-- What a key refuses where it is unwrapped, or takes. -/
lemma takes_table : ∀ x ∈ kinds, x.1 ∈ keyClasses → ∀ a ∈ x.2.attributes,
    a.has ck6 = true ∨ takes a = true := by decide +kernel

section update

variable {token : TokenView} {isPrivate : Bool} {a : P11Attribute} {e : CK_ATTRIBUTE}
  {m m' : AttributeMap}

/-- What a key refuses where it is unwrapped. -/
lemma update_ck6 (h : a.has ck6 = true) :
    (a.update token isPrivate e .UNWRAP m).1 ≠ CKR_OK := by
  let Q : CK_RV × AttributeMap → Prop := fun r => r.1 ≠ CKR_OK
  change Q (a.update token isPrivate e .UNWRAP m)
  have hrefuse : ∀ rv : CK_RV, rv ≠ CKR_OK → Q (rv, m) := fun rv hrv => hrv
  unfold P11Attribute.update
  refine iteInduction (fun _ => hrefuse _ (by simp)) fun _ => ?_
  refine iteInduction (fun _ => hrefuse _ (by simp)) fun _ => ?_
  refine iteInduction (fun _ => hrefuse _ (by simp)) fun _ => ?_
  refine iteInduction (fun _ => hrefuse _ (by simp)) fun _ => ?_
  refine iteInduction (fun _ => hrefuse _ (by simp)) fun _ => ?_
  refine iteInduction (fun _ => hrefuse _ (by simp)) fun _ => ?_
  refine iteInduction (fun _ => hrefuse _ (by simp)) fun hnot => ?_
  exact absurd (by rw [h]; rfl) hnot

/-- An update that succeeds where a key is unwrapped. -/
lemma of_update_unwrap (h : a.update token isPrivate e .UNWRAP m = (CKR_OK, m')) :
    a.has ck6 = false ∧ a.applyUpdateAttr token isPrivate e .UNWRAP m = (CKR_OK, m') := by
  constructor
  · rw [← Bool.not_eq_true]
    intro hck
    exact update_ck6 hck (congrArg Prod.fst h)
  · rcases update_cases a token isPrivate e .UNWRAP m with ⟨rv, hrv, hu⟩ | ⟨-, hu⟩
    · rw [hu] at h
      exact absurd (congrArg Prod.fst h) hrv
    · rw [← hu, h]

lemma updateBytes_ok {type : CK_ATTRIBUTE_TYPE}
    (h : updateBytes token isPrivate type e m = (CKR_OK, m')) :
    ∃ value, (if isPrivate then token.encrypt e.bytes else some e.bytes) = some value ∧
      m' = m.setAttribute type (.byteString value) := by
  unfold updateBytes at h
  revert h
  generalize (if isPrivate then token.encrypt e.bytes else some e.bytes) = value
  rcases value with _ | value
  · intro h
    cases h
  dsimp only
  split
  · intro h
    cases h
  · intro h
    cases h
    exact ⟨value, rfl, rfl⟩

lemma updateCheckValue_ok {type : CK_ATTRIBUTE_TYPE}
    (h : updateCheckValue token isPrivate type e m = (CKR_OK, m')) :
    ∃ value, (if isPrivate then token.encrypt e.bytes else some e.bytes) = some value ∧
      m' = m.setAttribute type (.byteString value) := by
  have hputs := puts_updateCheckValue token isPrivate type e m
  rw [h] at hputs
  unfold updateCheckValue at h
  unfold sealedValue at hputs
  revert h hputs
  generalize (if isPrivate then token.encrypt e.bytes else some e.bytes) = value
  rcases value with _ | value
  · intro h
    cases h
  · rintro - (⟨rv, hrv, h⟩ | h)
    · exact absurd (Prod.mk.inj h).1.symm hrv
    · exact ⟨value, rfl, (Prod.mk.inj h).2⟩

lemma updateUnlessFinal_ok {final : Bool} {type : CK_ATTRIBUTE_TYPE} {u v : Update}
    (h : updateUnlessFinal final type e .UNWRAP u v m = (CKR_OK, m'))
    (hu : Update.Keeps type u) (hv : Update.Keeps type v) :
    e.ulValueLen = sizeof_CK_BBOOL ∧
      OrderedMap.get type m' = some (.boolean (e.bool ≠ CK_FALSE)) := by
  unfold updateUnlessFinal at h
  split at h
  · cases h
  split at h
  · cases h
  rename_i hsize
  refine ⟨not_not.1 hsize, ?_⟩
  split at h
  · rename_i hfalse
    have hm' : m' = (u (m.setAttribute type (.boolean false))).2 := (congrArg Prod.snd h).symm
    rw [hm', hu, get_setAttribute, if_pos rfl, hfalse]
    rfl
  · rename_i htrue
    have hm' : m' = (v (m.setAttribute type (.boolean true))).2 := (congrArg Prod.snd h).symm
    rw [hm', hv, get_setAttribute, if_pos rfl, decide_eq_true htrue]

lemma keeps_done (type : CK_ATTRIBUTE_TYPE) : Update.Keeps type Update.done := fun _ => rfl

lemma keeps_set {type type' : CK_ATTRIBUTE_TYPE} (h : type' ≠ type) (attr : OSAttribute) :
    Update.Keeps type' (Update.set type attr) := fun m => by
  rw [Update.set, get_setAttribute, if_neg h]

lemma keeps_when {type : CK_ATTRIBUTE_TYPE} {u : Update} (c : AttributeMap → Bool)
    (h : Update.Keeps type u) : Update.Keeps type (Update.when c u) := by
  intro m
  unfold Update.when
  split
  · exact h m
  · rfl

/-- **What an entry is stored as** where a key is unwrapped. The class and the type of key are there
already, and a key may be copied before its template says otherwise. -/
theorem update_taken (htakes : a.has ck6 = true ∨ takes a = true)
    (hsame : a.type = CKA_CLASS ∨ a.type = CKA_KEY_TYPE →
      ∃ v, OrderedMap.get a.type m = some (.unsignedLong v))
    (hcopy : a.type = CKA_COPYABLE → OrderedMap.get a.type m = some a.default)
    (h : a.update token isPrivate e .UNWRAP m = (CKR_OK, m')) :
    ∃ attr, OrderedMap.get a.type m' = some attr ∧ Taken token isPrivate e a.default attr := by
  obtain ⟨hck, happly⟩ := of_update_unwrap h
  replace htakes := htakes.resolve_left (by rw [hck]; exact Bool.false_ne_true)
  have hset : ∀ attr, OrderedMap.get a.type (m.setAttribute a.type attr) = some attr :=
    fun attr => by rw [get_setAttribute, if_pos rfl]
  unfold P11Attribute.applyUpdateAttr at happly
  unfold takes at htakes
  cases hrule : a.updateAttr <;> cases hd : a.default <;> rw [hrule, hd] at htakes <;>
    dsimp only at htakes <;> try exact absurd htakes Bool.false_ne_true
  all_goals rw [hrule] at happly; dsimp only at happly
  case bytes.byteString =>
    obtain ⟨value, hvalue, rfl⟩ := updateBytes_ok happly
    exact ⟨_, hset _, .byteString hvalue⟩
  case date.byteString =>
    split at happly
    · cases happly
    · obtain ⟨value, hvalue, rfl⟩ := updateBytes_ok happly
      exact ⟨_, hset _, .byteString hvalue⟩
  case checkValue.byteString =>
    obtain ⟨value, hvalue, rfl⟩ := updateCheckValue_ok happly
    exact ⟨_, hset _, .byteString hvalue⟩
  case boolean.boolean =>
    unfold updateBoolean at happly
    split at happly
    · cases happly
    · rename_i hsize
      cases happly
      exact ⟨_, hset _, .boolean (not_not.1 hsize)⟩
  case trusted.boolean =>
    have hputs := puts_updateTrusted token a.type e .UNWRAP m
    rw [happly] at hputs
    have hm' : m' = m.setAttribute a.type (.boolean (e.bool ≠ CK_FALSE)) := by
      rcases hputs with ⟨rv, hrv, h⟩ | h
      · exact absurd (Prod.mk.inj h).1.symm hrv
      · exact (Prod.mk.inj h).2
    unfold updateTrusted at happly
    split at happly
    · cases happly
    · rename_i hsize
      exact ⟨_, hm' ▸ hset _, .boolean (not_not.1 hsize)⟩
  case wrapWithTrusted.boolean =>
    obtain ⟨hsize, hget⟩ := updateUnlessFinal_ok happly (keeps_done _) (keeps_done _)
    exact ⟨_, hget, .boolean hsize⟩
  case sensitive.boolean =>
    have hkeeps : ∀ b, Update.Keeps a.type (Update.set CKA_ALWAYS_SENSITIVE (.boolean b)) :=
      fun b => keeps_set (of_decide_eq_true htakes) _
    obtain ⟨hsize, hget⟩ := updateUnlessFinal_ok happly (hkeeps _) (keeps_when _ (hkeeps _))
    exact ⟨_, hget, .boolean hsize⟩
  case extractable.boolean =>
    obtain ⟨hsize, hget⟩ := updateUnlessFinal_ok happly (keeps_done _)
      (keeps_set (of_decide_eq_true htakes) _)
    exact ⟨_, hget, .boolean hsize⟩
  case alwaysAuthenticate.boolean =>
    split at happly
    · cases happly
    rename_i hsize
    split at happly
    · rename_i hfalse
      cases happly
      exact ⟨_, hset _, by simpa [hfalse] using Taken.boolean (not_not.1 hsize)⟩
    rename_i htrue
    split at happly
    · cases happly
    · cases happly
      exact ⟨_, hset _, by simpa [htrue] using Taken.boolean (not_not.1 hsize)⟩
  case copyable.boolean default =>
    simp only [Bool.and_eq_true, decide_eq_true_eq] at htakes
    obtain ⟨rfl, htype⟩ := htakes
    split at happly
    · cases happly
    rename_i hsize
    split at happly
    · rename_i hfalse
      cases happly
      exact ⟨_, hset _, by simpa [hfalse] using Taken.boolean (not_not.1 hsize)⟩
    rename_i htrue
    split at happly
    · cases happly
    · cases happly
      have htaken : Taken token isPrivate e (.boolean true) (.boolean (e.bool ≠ CK_FALSE)) :=
        .boolean (not_not.1 hsize)
      exact ⟨_, hd ▸ hcopy htype, by simpa [htrue] using htaken⟩
  case sameAs.unsignedLong default v =>
    simp only [Bool.or_eq_true, decide_eq_true_eq] at htakes
    obtain ⟨v, hv⟩ := hsame htakes
    split at happly
    · cases happly
    rename_i hsize
    split at happly
    · cases happly
    rename_i heq
    cases happly
    rw [not_not, getUnsignedLongValue, hv] at heq
    obtain rfl : v = ulongAt e.bytes := heq
    exact ⟨_, hv, .unsignedLong (not_not.1 hsize)⟩
  case unsignedLongOn.unsignedLong ops v =>
    rw [if_pos (of_decide_eq_true htakes)] at happly
    cases happly
  case template.attributeMap =>
    unfold updateTemplate at happly
    split at happly
    · cases happly
    cases hdata : templateMap (token.arrayAt e.bytes) [] with
    | none =>
      rw [hdata] at happly
      cases happly
    | some data =>
      rw [hdata] at happly
      cases happly
      exact ⟨_, hset _, .template hdata⟩
  case mechanisms.mechanismTypeSet =>
    unfold updateMechanisms at happly
    split at happly
    · cases happly
    · rename_i hsize
      simp only [Bool.or_eq_true, decide_eq_true_eq, not_or, not_not] at hsize
      cases happly
      exact ⟨_, hset _, .mechanisms hsize.2⟩

end update

/-! ### The whole template -/

/-- What is set along with other attributes. -/
def historyFlags : List CK_ATTRIBUTE_TYPE := [CKA_ALWAYS_SENSITIVE, CKA_NEVER_EXTRACTABLE]

lemma historyFlags_table : ∀ x ∈ kinds, x.1 ∈ keyClasses → ∀ a ∈ x.2.attributes,
    a.type ∈ historyFlags → a.has ck6 = true := by decide +kernel

section template

variable {token : TokenView} {isPrivate : Bool} {a : P11Attribute} {e : CK_ATTRIBUTE}
  {m m' : AttributeMap} {p : P11Object} {k : UInt64} {t : CK_ATTRIBUTE_TYPE} {l : List CK_ATTRIBUTE}

lemma touched_of_takes (h : takes a = true) (ht : t ∈ a.touched) :
    t = a.type ∨ t ∈ historyFlags := by
  unfold takes at h
  unfold P11Attribute.touched at ht
  cases hrule : a.updateAttr <;> rw [hrule] at h ht <;> dsimp only at h ht
  case sensitive =>
    rcases List.mem_cons.1 ht with rfl | ht
    · exact .inl rfl
    · exact .inr (List.mem_singleton.1 ht ▸ List.mem_cons_self)
  case extractable =>
    rcases List.mem_cons.1 ht with rfl | ht
    · exact .inl rfl
    · exact .inr (List.mem_singleton.1 ht ▸ List.mem_cons_of_mem _ List.mem_cons_self)
  case value => exact absurd h Bool.false_ne_true
  case bigInteger => exact absurd h Bool.false_ne_true
  all_goals first
    | exact absurd ht List.not_mem_nil
    | exact .inl (List.mem_singleton.1 ht)

/-- What an entry that is accepted leaves as it is. -/
lemma update_keeps (htakes : a.has ck6 = true ∨ takes a = true) (hne : t ≠ a.type)
    (hflags : t ∉ historyFlags) (h : a.update token isPrivate e .UNWRAP m = (CKR_OK, m')) :
    OrderedMap.get t m' = OrderedMap.get t m := by
  obtain ⟨hck, happly⟩ := of_update_unwrap h
  replace htakes := htakes.resolve_left (by rw [hck]; exact Bool.false_ne_true)
  have hkeeps := keeps_applyUpdateAttr
    (fun ht => (touched_of_takes htakes ht).elim hne hflags) token isPrivate e .UNWRAP m
  rwa [happly] at hkeeps

lemma updateEntry_ok (h : updateEntry p token isPrivate .UNWRAP e m = (CKR_OK, m')) :
    ∃ a ∈ p.attributes, a.type = e.type ∧ p.attributeOf e.type = some a ∧
      a.update token isPrivate e .UNWRAP m = (CKR_OK, m') := by
  unfold updateEntry at h
  cases ha : p.attributeOf e.type with
  | none =>
    rw [ha] at h
    cases h
  | some a =>
    rw [ha] at h
    obtain ⟨hmem, htype⟩ := attributeOf_some ha
    exact ⟨a, hmem, htype, rfl, h⟩

lemma updateAll_cons_ok
    (h : p.updateAll token isPrivate .UNWRAP (e :: l) m = (CKR_OK, m')) :
    ∃ m₁, updateEntry p token isPrivate .UNWRAP e m = (CKR_OK, m₁) ∧
      p.updateAll token isPrivate .UNWRAP l m₁ = (CKR_OK, m') := by
  rw [updateAll_cons, Update.andThen] at h
  split at h
  · rename_i m₁ heq
    exact ⟨m₁, heq, h⟩
  · rename_i hne
    exact absurd h (hne m')

/-- What a template does not name stays as it is. -/
lemma updateAll_keeps (hk : (k, p) ∈ kinds) (hkey : k ∈ keyClasses) (hflags : t ∉ historyFlags)
    (hl : ∀ e ∈ l, e.type ≠ t) (h : p.updateAll token isPrivate .UNWRAP l m = (CKR_OK, m')) :
    OrderedMap.get t m' = OrderedMap.get t m := by
  induction l generalizing m with
  | nil =>
    cases h
    rfl
  | cons e l ih =>
    obtain ⟨m₁, hentry, htail⟩ := updateAll_cons_ok h
    obtain ⟨a, ha, htype, -, hupdate⟩ := updateEntry_ok hentry
    have hne : t ≠ a.type := fun ht => hl e List.mem_cons_self (htype.symm.trans ht.symm)
    rw [ih (fun e he => hl e (List.mem_cons_of_mem _ he)) htail]
    exact update_keeps (takes_table _ hk hkey a ha) hne hflags hupdate

/-- **What a template leaves of an attribute that it names once.** -/
theorem updateAll_taken (hk : (k, p) ∈ kinds) (hkey : k ∈ keyClasses)
    (hl : l.filter (·.type = t) = [e])
    (hsame : t = CKA_CLASS ∨ t = CKA_KEY_TYPE →
      ∃ v, OrderedMap.get t m = some (.unsignedLong v))
    (hcopy : t = CKA_COPYABLE → ∀ a ∈ p.attributes, a.type = t →
      OrderedMap.get t m = some a.default)
    (h : p.updateAll token isPrivate .UNWRAP l m = (CKR_OK, m')) :
    ∃ a attr, p.attributeOf t = some a ∧ a.has ck6 = false ∧ OrderedMap.get t m' = some attr ∧
      Taken token isPrivate e a.default attr := by
  induction l generalizing m with
  | nil => cases hl
  | cons e' l ih =>
    obtain ⟨m₁, hentry, htail⟩ := updateAll_cons_ok h
    obtain ⟨a, ha, htype, hof, hupdate⟩ := updateEntry_ok hentry
    have htakes := takes_table _ hk hkey a ha
    by_cases ht : e'.type = t
    · rw [List.filter_cons_of_pos (by simpa using ht), List.cons.injEq] at hl
      obtain ⟨rfl, hrest⟩ := hl
      subst ht
      have hck := (of_update_unwrap hupdate).1
      have hflags : e'.type ∉ historyFlags := by
        intro hin
        rw [historyFlags_table _ hk hkey a ha (htype ▸ hin)] at hck
        cases hck
      obtain ⟨attr, hget, htaken⟩ := update_taken htakes (htype ▸ hsame)
        (fun hc => htype ▸ hcopy (htype ▸ hc) a ha htype) hupdate
      rw [htype] at hget
      refine ⟨a, attr, hof, hck, ?_, htaken⟩
      rw [updateAll_keeps hk hkey hflags (fun e he hte => ?_) htail, hget]
      exact List.filter_eq_nil_iff.1 hrest e he (decide_eq_true hte)
    · rw [List.filter_cons_of_neg (by simpa using ht)] at hl
      -- the class, the type of key and whether a key may be copied are set by no other entry
      have hkeeps : t ∉ historyFlags → OrderedMap.get t m₁ = OrderedMap.get t m := fun hflags =>
        update_keeps htakes (fun heq => ht (htype.symm.trans heq.symm)) hflags hupdate
      refine ih hl (fun hc => ?_) (fun hc a ha htype => ?_) htail
      · rw [hkeeps (by rcases hc with rfl | rfl <;> decide)]
        exact hsame hc
      · rw [hkeeps (by rw [hc]; decide)]
        exact hcopy hc a ha htype

end template

/-! ### What a key says of an entry -/

/-- The attributes of a key that are Boolean, and those that are templates. -/
def booleanTypes : List CK_ATTRIBUTE_TYPE :=
  [CKA_TOKEN, CKA_PRIVATE, CKA_MODIFIABLE, CKA_COPYABLE, CKA_DESTROYABLE, CKA_DERIVE, CKA_LOCAL,
    CKA_VENDOR_KEY_PIN_ENTER, CKA_VENDOR_KEY_CONFIRM_OP, CKA_VENDOR_KEY_JOURNAL,
    CKA_VENDOR_CONFIRM_BY_TOUCH, CKA_SENSITIVE, CKA_ENCRYPT, CKA_DECRYPT, CKA_SIGN,
    CKA_SIGN_RECOVER, CKA_VERIFY, CKA_WRAP, CKA_UNWRAP, CKA_EXTRACTABLE, CKA_ALWAYS_SENSITIVE,
    CKA_NEVER_EXTRACTABLE, CKA_WRAP_WITH_TRUSTED, CKA_TRUSTED, CKA_ALWAYS_AUTHENTICATE,
    CKA_DECAPSULATE]

def templateTypes : List CK_ATTRIBUTE_TYPE := [CKA_WRAP_TEMPLATE, CKA_UNWRAP_TEMPLATE]

lemma valueTag_table : ∀ x ∈ kinds, x.1 ∈ keyClasses → ∀ a ∈ x.2.attributes,
    (a.type ∈ booleanTypes ↔ valueTag a.default = 0) ∧
      (a.type ∈ templateTypes ↔ valueTag a.default = 4) ∧
        (a.type = CKA_ALLOWED_MECHANISMS ↔ valueTag a.default = 3) := by decide +kernel

/-- What is hidden of a key is refused where it is unwrapped. -/
lemma hidden_table : ∀ x ∈ kinds, x.1 ∈ keyClasses → ∀ a ∈ x.2.attributes,
    a.has ck6 = true ∨ a.has ck7 = false := by decide +kernel

/-- An attribute of the template is not what the key has in the end: it is a template that stands for
no bytes, or bytes for a template, or a truth value that is neither of the two. -/
inductive Lost : CK_ATTRIBUTE_TYPE × OSAttribute → Prop
  | template {type : CK_ATTRIBUTE_TYPE} {map : AttributeMap} (h : type ∉ templateTypes ∨ map ≠ []) :
      Lost (type, .attributeMap map)
  | array {type : CK_ATTRIBUTE_TYPE} {attr : OSAttribute} {b : ByteString}
      (htype : type ∈ templateTypes) (hpeek : peekValue attr = some b) : Lost (type, attr)
  | truth {type : CK_ATTRIBUTE_TYPE} {attr : OSAttribute} {b : ByteString}
      (htype : type ∈ booleanTypes) (hpeek : peekValue attr = some b)
      (hne : ∀ v, b ≠ bboolBytes v) : Lost (type, attr)

section carries

variable {decrypt : ByteString → Option ByteString} {fakeRutokenECP isPrivate : Bool}
  {token : TokenView} {m : AttributeMap} {a : P11Attribute} {t : CK_ATTRIBUTE_TYPE}
  {attr attr' : OSAttribute} {e : CK_ATTRIBUTE} {b v : ByteString}

lemma carries_value_iff (hshown : reportable fakeRutokenECP m t = some a)
    (hget : OrderedMap.get t m = some attr) (hpeek : peekValue attr' = some b) :
    Carries decrypt fakeRutokenECP m (t, attr') ↔
      ∃ v, P11Attribute.bytesOf decrypt a (P11Object.isPrivate m) attr = some v ∧ SameBytes t b v := by
  have hmap : ∀ map, attr' ≠ .attributeMap map := peekValue_map hpeek
  simp [Carries, reportedBytes, hshown, hget, hpeek, hmap]

lemma carries_map_iff (hshown : reportable fakeRutokenECP m t = some a)
    (hget : OrderedMap.get t m = some attr) {map : AttributeMap} :
    Carries decrypt fakeRutokenECP m (t, .attributeMap map) ↔
      ∃ map', mapOf attr = some map' ∧ SameMaps map map' := by
  simp [Carries, reportedTemplate, hshown, hget, peekValue, simpleValue]

lemma sameMaps_nil {map : AttributeMap} : SameMaps map [] ↔ map = [] := by
  constructor
  · rintro ⟨hlen, -⟩
    exact List.length_eq_zero_iff.1 hlen.symm
  · rintro rfl
    exact ⟨rfl, by simp⟩

/-- A byte is the bytes of its truth exactly if it is one of two. -/
lemma singleton_eq_bboolBytes (c : UInt8) :
    [c] = bboolBytes (decide (c ≠ CK_FALSE)) ↔ ∃ v, [c] = bboolBytes v := by
  refine ⟨fun h => ⟨_, h⟩, ?_⟩
  rintro ⟨v, h⟩
  cases v <;> rw [bboolBytes, List.singleton_inj] at h <;> rw [h] <;> rfl

/-- **What the key says of an entry that it was made with.** -/
theorem carries_iff (htags : (t ∈ booleanTypes ↔ valueTag a.default = 0) ∧
      (t ∈ templateTypes ↔ valueTag a.default = 4) ∧
        (t = CKA_ALLOWED_MECHANISMS ↔ valueTag a.default = 3))
    (hshown : reportable fakeRutokenECP m t = some a) (hget : OrderedMap.get t m = some attr)
    (htaken : Taken token isPrivate e a.default attr)
    (hplain : ∀ value, attr = .byteString value →
      a.plain decrypt (P11Object.isPrivate m) value = some e.bytes)
    (harray : token.arrayAt [] = []) (hgiven : given e = some ((peekValue attr').getD [])) :
    Carries decrypt fakeRutokenECP m (t, attr') ↔ ¬ Lost (t, attr') := by
  obtain ⟨hboolean, htemplate, hmechanisms⟩ := htags
  obtain ⟨hlen, hbytes⟩ := given_eq_some.1 hgiven
  generalize a.default = default at hboolean htemplate hmechanisms htaken
  cases hpeek : peekValue attr' with
  | none =>
    obtain ⟨map, rfl⟩ := peekValue_none hpeek
    rw [hpeek, Option.getD_none] at hbytes
    have hlost : Lost (t, .attributeMap map) ↔ t ∉ templateTypes ∨ map ≠ [] := by
      refine ⟨fun h => ?_, .template⟩
      cases h with
      | template h => exact h
      | array _ hp => cases hp
      | truth _ hp _ => cases hp
    rw [carries_map_iff hshown hget, hlost, not_or, not_not, not_not, htemplate]
    cases htaken with
    | template hdata =>
      rw [hbytes, harray] at hdata
      cases hdata
      simp [mapOf, sameMaps_nil, valueTag]
    | boolean => simp [mapOf, valueTag]
    | unsignedLong => simp [mapOf, valueTag]
    | byteString => simp [mapOf, valueTag]
    | mechanisms => simp [mapOf, valueTag]
  | some b =>
    rw [hpeek, Option.getD_some] at hbytes hlen
    have hlost : Lost (t, attr') ↔ t ∈ templateTypes ∨ t ∈ booleanTypes ∧ ∀ v, b ≠ bboolBytes v := by
      constructor
      · intro h
        cases h with
        | template => cases hpeek
        | array htype => exact .inl htype
        | truth htype hp hne =>
          obtain rfl := Option.some.inj (hpeek.symm.trans hp)
          exact .inr ⟨htype, hne⟩
      · rintro (htype | ⟨htype, hne⟩)
        · exact .array htype hpeek
        · exact .truth htype hpeek hne
    rw [carries_value_iff hshown hget hpeek, hlost, hboolean, htemplate]
    -- an attribute that is no set has the bytes themselves
    have heq : valueTag default ≠ 3 → ∀ v, SameBytes t b v ↔ b = v := fun hd v =>
      ⟨fun h => h.eq fun ht => hd (hmechanisms.1 ht), .inl⟩
    cases htaken with
    | boolean hsize =>
      obtain ⟨c, rfl⟩ := List.length_eq_one_iff.1 (hlen.symm.trans hsize)
      have hbool : e.bool = c := by rw [CK_ATTRIBUTE.bool, hbytes]; rfl
      have hsame := heq (by simp [valueTag])
      simp only [P11Attribute.bytesOf, peekValue, simpleValue, Option.some.injEq, exists_eq_left',
        hsame, hbool, singleton_eq_bboolBytes]
      simp [valueTag, or_iff_not_imp_left]
    | unsignedLong hsize =>
      have hround : ulongBytes (ulongAt b) = b := ulongBytes_ulongAt (hlen.symm.trans hsize)
      have hsame : SameBytes t b b := .inl rfl
      simp [P11Attribute.bytesOf, peekValue, simpleValue, valueTag, hbytes, hround, hsame]
    | byteString =>
      have hsame : SameBytes t b b := .inl rfl
      simp [P11Attribute.bytesOf, hplain _ rfl, valueTag, hbytes, hsame]
    | mechanisms hsize =>
      have hb : isMechanisms b := by rwa [isMechanisms, ← hlen]
      have hsame : SameBytes t b ((mechanismTypes (mechanismsAt b)).flatMap ulongBytes) :=
        .inr ⟨hmechanisms.2 rfl, hb, isMechanisms_of_set _, (mechanismsAt_set _).symm⟩
      simp [P11Attribute.bytesOf, peekValue, valueTag, hbytes, hsame]
    | template => simp [P11Attribute.bytesOf, peekValue, simpleValue, valueTag]

end carries

/-! ### A key that has been unwrapped -/

/-- The types of what a key is made of where it is unwrapped. -/
def valueTypes : List CK_ATTRIBUTE_TYPE :=
  [CKA_VALUE, CKA_MODULUS, CKA_PUBLIC_EXPONENT, CKA_PRIVATE_EXPONENT, CKA_PRIME_1, CKA_PRIME_2,
    CKA_EXPONENT_1, CKA_EXPONENT_2, CKA_COEFFICIENT, CKA_PRIME, CKA_SUBPRIME, CKA_BASE,
    CKA_EC_PARAMS, CKA_GOSTR3410_PARAMS, CKA_PARAMETER_SET, CKA_SEED]

/-- What a call puts of an unwrapped key is refused of its template. -/
lemma supplied_table : ∀ x ∈ kinds, x.1 ∈ keyClasses → ∀ a ∈ x.2.attributes,
    a.type ∈ CKA_LOCAL :: historyFlags ++ valueTypes → a.has ck6 = true := by decide +kernel

/-- Whether a preset is of some type and value. -/
def Preset.sets (type : CK_ATTRIBUTE_TYPE) (v : UInt64) : Preset → Bool
  | .value type' v' => type' = type && v' = v
  | .missing _ _ => false

lemma eq_of_sets {type : CK_ATTRIBUTE_TYPE} {v : UInt64} {y : Preset}
    (h : Preset.sets type v y = true) : y = .value type v := by
  cases y with
  | value type' v' =>
    simp only [Preset.sets, Bool.and_eq_true, decide_eq_true_eq] at h
    rw [h.1, h.2]
  | missing => cases h

/-- Whether a value says that there is none. -/
def unavailable : OSAttribute → Bool
  | .unsignedLong v => v = UInt64.ofNat CK_UNAVAILABLE_INFORMATION
  | _ => false

/-- A key has a class and a type of key, and no mechanism by which it was generated. -/
lemma key_table : ∀ x ∈ kinds, x.1 ∈ keyClasses →
    x.2.presets.any (Preset.sets CKA_CLASS x.1) = true ∧
      (keyTypesOf x.2).any (fun v => x.2.presets.any (Preset.sets CKA_KEY_TYPE v)) = true ∧
        ∃ a ∈ x.2.attributes, a.type = CKA_KEY_GEN_MECHANISM ∧ unavailable a.default = true := by
  decide +kernel

section unwrapped

variable {p : P11Object} {k : UInt64} {token : TokenView} {isPrivate : Bool} {m m' : AttributeMap}
  {t : CK_ATTRIBUTE_TYPE} {l : List CK_ATTRIBUTE} {plan : Plan} {material : Material}

/-- The class, the type of key and the mechanism are set by no entry. -/
lemma updateAll_fixed (hk : (k, p) ∈ kinds)
    (ht : t ∈ [CKA_LOCAL, CKA_KEY_GEN_MECHANISM, CKA_CLASS, CKA_KEY_TYPE, CKA_CERTIFICATE_TYPE])
    (h : p.updateAll token isPrivate .UNWRAP l m = (CKR_OK, m')) :
    OrderedMap.get t m' = OrderedMap.get t m := by
  induction l generalizing m with
  | nil =>
    cases h
    rfl
  | cons e l ih =>
    obtain ⟨m₁, hentry, htail⟩ := updateAll_cons_ok h
    obtain ⟨a, ha, -, -, hupdate⟩ := updateEntry_ok hentry
    have hfixed : OrderedMap.get t (a.update token isPrivate e .UNWRAP m).2 =
        OrderedMap.get t m :=
      update_fixed (c := changing p token isPrivate .UNWRAP []) hk ha ht e
    rw [ih htail, ← hfixed, hupdate]

/-- What the attributes of a key that has been unwrapped are. -/
structure Opened (plan : Plan) (m : AttributeMap) : Prop where
  kind : attributeKind m = some plan.p11object
  mechanism : absentGeneratedGostParams m = false
  named : ∀ t e, plan.attribs.filter (·.type = t) = [e] → ∃ a attr,
    plan.p11object.attributeOf t = some a ∧ a.has ck6 = false ∧
      OrderedMap.get t m = some attr ∧
        Taken plan.token (plan.info.isPrivate ≠ CK_FALSE) e a.default attr

/-- **What a key that has been unwrapped holds.** -/
theorem built_opened (hk : (plan.info.objClass, plan.p11object) ∈ kinds)
    (hkey : plan.info.objClass ∈ keyClasses) (hmaterial : ∀ y ∈ material.attributes, y.1 ∈ valueTypes)
    (h : Built plan .UNWRAP (supplyOf unwrapped (some material)) m) : Opened plan m := by
  obtain ⟨stores, m₀, m₁, l, hinit, hupdate, hl, rfl⟩ := h.steps
  have hown : putAll (ownOf plan .UNWRAP) m₁ = m₁ := rfl
  rw [hown] at hl ⊢
  cases hl
  -- what the call puts is of types that the template may not name
  have hput : ∀ t, t ∉ CKA_LOCAL :: historyFlags ++ valueTypes →
      OrderedMap.get t (putAll (unwrapped m₁ ++ material.attributes) m₁) =
        OrderedMap.get t m₁ := by
    intro t ht
    refine get_putAll (fun y hy => ?_) m₁
    rintro rfl
    refine ht (List.mem_append.2 ?_)
    rcases List.mem_append.1 hy with hy | hy
    · simp only [unwrapped, isLocal, alwaysSensitive, neverExtractable, List.mem_cons,
        List.not_mem_nil, or_false] at hy
      rcases hy with rfl | rfl | rfl <;> simp [historyFlags]
    · exact .inr (hmaterial y hy)
  have hwhole := whole_of_init hk hinit
  rw [attributes_stored] at hwhole
  obtain ⟨hclass, hkeyType, gen, hgen, hgenType, hnone⟩ := key_table _ hk hkey
  obtain ⟨y, hy, hsets⟩ := List.any_eq_true.1 hclass
  have hget := hwhole.presets CKA_CLASS plan.info.objClass (eq_of_sets hsets ▸ hy)
  obtain ⟨v, hv, hany⟩ := List.any_eq_true.1 hkeyType
  obtain ⟨z, hz, hsets⟩ := List.any_eq_true.1 hany
  have hget' := hwhole.presets CKA_KEY_TYPE v (eq_of_sets hsets ▸ hz)
  refine ⟨?_, ?_, fun t e ht => ?_⟩
  · have hclassOf : AttributeMap.getUnsignedLongValue
        (putAll (unwrapped m₁ ++ material.attributes) m₁) CKA_CLASS CKO_VENDOR_DEFINED =
          plan.info.objClass := by
      rw [getUnsignedLongValue, hput _ (by decide), updateAll_fixed hk (by decide) hupdate, hget]
    have hkeyTypeOf : AttributeMap.getUnsignedLongValue
        (putAll (unwrapped m₁ ++ material.attributes) m₁) CKA_KEY_TYPE CKK_RSA = v := by
      rw [getUnsignedLongValue, hput _ (by decide), updateAll_fixed hk (by decide) hupdate, hget']
    rw [attributeKind, hclassOf, hkeyTypeOf]
    exact p11ObjectOf_keyTypesOf hk hv _
  · have hgetGen := init_default hk hgen (by rw [hgenType]; decide) hinit
    rw [hgenType] at hgetGen
    have hgenOf : AttributeMap.getUnsignedLongValue
        (putAll (unwrapped m₁ ++ material.attributes) m₁) CKA_KEY_GEN_MECHANISM
          (UInt64.ofNat CK_UNAVAILABLE_INFORMATION) = UInt64.ofNat CK_UNAVAILABLE_INFORMATION := by
      rw [getUnsignedLongValue, hput _ (by decide), updateAll_fixed hk (by decide) hupdate, hgetGen]
      cases hd : gen.default with
      | unsignedLong v =>
        rw [hd] at hnone
        exact of_decide_eq_true hnone
      | _ => rfl
    rw [absentGeneratedGostParams, hgenOf]
    simp +decide
  · obtain ⟨a, attr, ha, hck, hgetm, htaken⟩ := updateAll_taken hk hkey ht
      (by rintro (rfl | rfl); exacts [⟨_, hget⟩, ⟨_, hget'⟩])
      (fun hc a ha htype => htype ▸ init_default hk ha (by rw [htype, hc]; decide) hinit) hupdate
    refine ⟨a, attr, ha, hck, ?_, htaken⟩
    rw [hput t fun hin => ?_, hgetm]
    obtain ⟨hmem, rfl⟩ := attributeOf_some ha
    rw [supplied_table _ hk hkey a hmem hin] at hck
    cases hck

end unwrapped

/-! ### The call -/

section call

variable {Obj Sess : Type} [DecidableEq Obj] [DecidableEq Sess] {P : Primitives} {x : Outside}
  {st st' : Store Obj Sess} {m : Making Obj} {hSession hUnwrappingKey hKey : ℕ}
  {pTemplate : Option (List CK_ATTRIBUTE)} {check : AttributeMap → CK_RV}
  {inconsistent : UInt64 → CK_KEY_TYPE → Bool} {unwrapping : Unwrapping Obj}
  {material : ByteString → Option Material} {t : CK_ATTRIBUTE_TYPE} {l : List CK_ATTRIBUTE}
  {e : CK_ATTRIBUTE}

lemma filter_reorder (l : List CK_ATTRIBUTE) :
    (reorder l).filter (·.type = t) = l.filter (·.type = t) := by
  by_cases ht : t = CKA_CHECK_VALUE
  · rw [ht, reorder, List.filter_append, List.filter_filter, List.filter_filter]
    simp
  · exact entriesOf_reorder ht l

lemma lastValue_of_filter {size : ℕ} (h : l.filter (·.type = t) = [e])
    (hsize : e.ulValueLen = size) (hsome : e.pValue.isSome = true) :
    lastValue t size l = some e := by
  have hfind : lastValue t size l =
      (l.filter (·.type = t)).reverse.find? fun e => e.ulValueLen = size && e.pValue.isSome := by
    rw [← List.filter_reverse, List.find?_filter, lastValue]
    congr 1
    funext e
    by_cases he : e.type = t <;> simp [he]
  rw [hfind, h]
  simp [hsize, hsome]

/-- A template that says whether an object is private is taken at its word. -/
lemma isPrivate_of_extract (info : ObjectInformation) (bImplicit : Bool)
    (h : (lastValue CKA_PRIVATE sizeof_CK_BBOOL l).isSome = true) :
    (extractObjectInformation l info bImplicit).2.isPrivate =
      boolOf CKA_PRIVATE info.isPrivate l := by
  unfold extractObjectInformation
  dsimp only
  split_ifs with _ _ _ _ hnone <;> first | rfl | skip
  rw [h] at hnone
  simp at hnone

/-- What the checks before the wrapped key is opened let through. -/
lemma of_planUnwrapKey_obeys {token : TokenView} {attribs : List CK_ATTRIBUTE}
    (h : planUnwrapKey P x hSession hUnwrappingKey pTemplate check inconsistent st =
      .ok (token, attribs)) :
    ∃ s key, keyToUse hSession hUnwrappingKey CKR_UNWRAPPING_KEY_HANDLE_INVALID st = .ok (s, key) ∧
      obeysUnwrapTemplate attribs key.attributes = true := by
  unfold planUnwrapKey at h
  cases pTemplate with
  | none => cases h
  | some t => ?_
  dsimp only at h
  obtain ⟨⟨s, key⟩, hkey, h⟩ := of_bind h
  replace h := (of_check h).2
  replace h := (of_check h).2
  replace h := (of_check h).2
  replace h := (of_check h).2
  replace h := (of_check h).2
  replace h := (of_check h).2
  obtain ⟨a, -, h⟩ := of_bind h
  obtain ⟨hobeys, h⟩ := of_check h
  cases h
  exact ⟨s, key, hkey, by simpa using hobeys⟩

/-- A call that gives a key has opened the wrapped one. -/
lemma of_unwrapKey (h : C_UnwrapKey P x m hSession hUnwrappingKey pTemplate check inconsistent
      unwrapping material st = (CKR_OK, hKey, st')) (hne : hKey ≠ CK_INVALID_HANDLE) :
    ∃ token attribs data, planUnwrapKey P x hSession hUnwrappingKey pTemplate check inconsistent st =
        .ok (token, attribs) ∧
      (Creation.unwrapKey m hSession hUnwrappingKey pTemplate check inconsistent unwrapping
        material).Makes P x st
          ⟨m, hSession, attribs, .UNWRAP, supplyOf unwrapped (material data), true⟩ := by
  unfold C_UnwrapKey at h
  cases hplan : planUnwrapKey P x hSession hUnwrappingKey pTemplate check inconsistent st with
  | error rv =>
    rw [hplan] at h
    exact absurd (congrArg (·.2.1) h).symm hne
  | ok r =>
    obtain ⟨token, attribs⟩ := r
    rw [hplan] at h
    refine ⟨token, attribs, ?_⟩
    cases unwrapping with
    | direct keydata =>
      cases keydata with
      | error rv => exact absurd (congrArg (·.2.1) h).symm hne
      | ok data => exact ⟨data, rfl, token, attribs, hplan, data, rfl, rfl⟩
    | rsaAes emphkeydata m' keydata =>
      dsimp only [UnwrapMechRsaAesKw] at h
      cases emphkeydata with
      | error rv => exact absurd (congrArg (·.2.1) h).symm hne
      | ok emphkey =>
        dsimp only at h
        split at h
        · rename_i heq
          split at heq
          · cases heq
            exact absurd (congrArg (·.2.1) h).symm hne
          · cases heq
            exact absurd (congrArg (·.2.1) h).symm hne
        · rename_i data heq
          split at heq
          · cases heq
            exact ⟨data, rfl, token, attribs, hplan, emphkey, rfl, .inr ⟨data, rfl, rfl⟩⟩
          · cases heq

/-- What is sealed is opened again. -/
lemma plain_of_encrypt (hP : SecureDataManager.Lawful P) {sdm : SecureDataManager}
    {a : P11Attribute} {isPrivate : Bool} {b value : ByteString}
    (h : (if isPrivate then (token P x sdm).encrypt b else some b) = some value) :
    a.plain (Search.decrypt P sdm) isPrivate value = some b := by
  cases isPrivate with
  | false => simpa [P11Attribute.plain] using h.symm
  | true =>
    rw [if_pos rfl] at h
    have henc : (sdm.encrypt P x.draws b).1 = some value := h
    have hguard : ((!sdm.userLoggedIn && !sdm.soLoggedIn) || sdm.maskedKey.length != 32) = false := by
      rw [← Bool.not_eq_true]
      intro hg
      rw [SecureDataManager.encrypt, if_pos hg] at henc
      cases henc
    rw [Bool.or_eq_false_iff, Bool.and_eq_false_iff, bne_eq_false_iff_eq] at hguard
    have hl : SecureDataManager.LoggedIn sdm := by
      simpa [SecureDataManager.LoggedIn, or_comm] using hguard.1
    have hm : SecureDataManager.Masks sdm (SecureDataManager.unmask sdm) := ⟨hguard.2, rfl⟩
    have hlen : 16 ≤ value.length := by
      rw [SecureDataManager.encrypt_spec hl hm] at henc
      rw [← Option.some.inj henc, List.length_append, length_generateRandom]
      exact Nat.le_add_right _ _
    have hdate : value.length ≠ sizeof_CK_DATE := Nat.ne_of_gt (Nat.lt_of_lt_of_le (by decide) hlen)
    have hlegacy : a.isLegacyPlaintext value.length = false := by
      unfold P11Attribute.isLegacyPlaintext
      split
      · exact decide_eq_false hdate
      · rfl
    have hpos : (true && decide (value.length ≠ 0)) = true := by
      rw [Bool.true_and, decide_eq_true_eq]
      exact Nat.ne_of_gt (Nat.lt_of_lt_of_le (by decide) hlen)
    rw [P11Attribute.plain, if_pos hpos, P11Attribute.readStored, hlegacy,
      if_neg Bool.false_ne_true]
    exact SecureDataManager.decrypt_encrypt hP hl hm hl hm henc

/-- What is known of the object that a successful call has made. -/
lemma opened_of_unwrapKey (hready : Ready (Creation.unwrapKey m hSession hUnwrappingKey pTemplate
      check inconsistent unwrapping material).news st)
    (hmaterial : ∀ data material', material data = some material' →
      ∀ y ∈ material'.attributes, y.1 ∈ valueTypes)
    (h : C_UnwrapKey P x m hSession hUnwrappingKey pTemplate check inconsistent unwrapping material
      st = (CKR_OK, hKey, st')) (hne : hKey ≠ CK_INVALID_HANDLE) :
    ∃ token attribs plan,
      planUnwrapKey P x hSession hUnwrappingKey pTemplate check inconsistent st =
        .ok (token, attribs) ∧
      planObject P x hSession (some attribs) st = .ok plan ∧
      plan.info.objClass ∈ keyClasses ∧ Opened plan (st'.object m.newObject).attributes := by
  obtain ⟨token, attribs, data, hplan, hmakes⟩ := of_unwrapKey h hne
  have hexec : (Creation.unwrapKey m hSession hUnwrappingKey pTemplate check inconsistent
      unwrapping material).exec P x st = (CKR_OK, st') := by
    rw [Creation.exec, h]
  have hfin := creation_finished (P := P) (x := x) _ hready
  rw [hexec] at hfin
  obtain ⟨plan, m', hobject, hbuilt, hstored⟩ := hfin.done rfl _ hmakes rfl
  obtain ⟨t, objClass, keyType, isOnToken, isPrivate, hclass, hadd⟩ := of_planUnwrapKey hplan
  have hkey : plan.info.objClass ∈ keyClasses := by
    have hof := classOf_addTemplate_nil [] (by simp) hadd
    rw [List.append_nil] at hof
    rw [class_of_plan hobject, hof]
    simp only [List.mem_cons, List.not_mem_nil, or_false] at hclass
    rcases hclass with rfl | rfl <;> decide
  obtain ⟨_, _, -, -, -, -, -, hkind, -⟩ := of_planObject hobject
  refine ⟨token, attribs, plan, hplan, hobject, hkey, ?_⟩
  rw [hstored, attributes_stored]
  -- the material is there, for it has been stored
  cases hdata : material data with
  | none =>
    obtain ⟨_, _, _, l, -, -, hl, -⟩ := hbuilt.steps
    rw [hdata] at hl
    cases hl
  | some material' =>
    rw [hdata] at hbuilt
    exact built_opened (p11ObjectOf_mem hkind) hkey (hmaterial data material' hdata) hbuilt

/-- Whether a key that is made is private, by the template and by its attributes. -/
lemma isPrivate_of_opened {attribs t : List CK_ATTRIBUTE} {objClass : UInt64}
    {keyType : CK_KEY_TYPE} {isOnToken isPrivate : UInt8} {plan : Plan} {m : AttributeMap}
    (hadd : addTemplate (keyAttribs objClass keyType isOnToken isPrivate) [] t = .ok attribs)
    (hobject : planObject P x hSession (some attribs) st = .ok plan)
    (hkey : plan.info.objClass ∈ keyClasses) (hopened : Opened plan m) :
    P11Object.isPrivate m = decide (plan.info.isPrivate ≠ CK_FALSE) := by
  obtain ⟨e, -, hfixed, hattribs⟩ := filter_fixed hadd (show CKA_PRIVATE ∈ fixedTypes by decide)
  have he : (keyAttribs objClass keyType isOnToken isPrivate).filter (·.type = CKA_PRIVATE) =
      [⟨CKA_PRIVATE, some [isPrivate], 0⟩] := by simp +decide [keyAttribs]
  obtain rfl : e = ⟨CKA_PRIVATE, some [isPrivate], 0⟩ :=
    List.singleton_inj.1 (hfixed.symm.trans he)
  obtain ⟨_, s, hs, -, hinfo, -, -, hkind, -, -, hplan⟩ := of_planObject hobject
  cases hs
  have hlast : lastValue CKA_PRIVATE sizeof_CK_BBOOL attribs =
      some ⟨CKA_PRIVATE, some [isPrivate], 0⟩ := lastValue_of_filter hattribs rfl rfl
  have hinfoPrivate : plan.info.isPrivate = isPrivate := by
    have h := isPrivate_of_extract ⟨CKO_DATA, CKK_RSA, CKC_X_509, CK_FALSE, CK_TRUE⟩ false
      (show (lastValue CKA_PRIVATE sizeof_CK_BBOOL attribs).isSome = true by rw [hlast]; rfl)
    rw [hinfo, boolOf, hlast] at h
    exact h
  obtain ⟨a, attr, ha, -, hget, htaken⟩ := hopened.named CKA_PRIVATE _
    (by rw [hplan, filter_reorder, hattribs])
  obtain ⟨hmem, htype⟩ := attributeOf_some ha
  have htag := (valueTag_table _ (p11ObjectOf_mem hkind) hkey a hmem).1.1 (by rw [htype]; decide)
  generalize a.default = default at htag htaken
  cases htaken with
  | boolean =>
    rw [P11Object.isPrivate, AttributeMap.attributeExists, hget, getBooleanValue, hget,
      hinfoPrivate]
    rfl
  | unsignedLong => cases htag
  | byteString => cases htag
  | mechanisms => cases htag
  | template => cases htag

/-- **When an unwrapped key satisfies the whole template**: exactly if the template has nothing that
is lost where the key is stored. -/
theorem unwrapped_satisfies_iff (hP : SecureDataManager.Lawful P)
    (hready : Ready (Creation.unwrapKey m hSession hUnwrappingKey pTemplate check inconsistent
      unwrapping material).news st) (harray : x.arrayAt [] = [])
    (hmaterial : ∀ data material', material data = some material' →
      ∀ y ∈ material'.attributes, y.1 ∈ valueTypes) {s : Sess} {unwrapKey : OSObject}
    (hunwrap : keyToUse hSession hUnwrappingKey CKR_UNWRAPPING_KEY_HANDLE_INVALID st =
      .ok (s, unwrapKey))
    (h : C_UnwrapKey P x m hSession hUnwrappingKey pTemplate check inconsistent unwrapping material
      st = (CKR_OK, hKey, st')) (hne : hKey ≠ CK_INVALID_HANDLE) :
    (∀ entry ∈ templateOf CKA_UNWRAP_TEMPLATE unwrapKey.attributes,
      Carries (Search.decrypt P (st.sdm (st.session s).slotID)) st.fakeRutokenECP
        (st'.object m.newObject).attributes entry) ↔
    ∀ entry ∈ templateOf CKA_UNWRAP_TEMPLATE unwrapKey.attributes, ¬ Lost entry := by
  obtain ⟨token', attribs, plan, hplan, hobject, hkey, hopened⟩ :=
    opened_of_unwrapKey hready hmaterial h hne
  obtain ⟨s', key', hkey', hobeys⟩ := of_planUnwrapKey_obeys hplan
  rw [hunwrap] at hkey'
  cases hkey'
  obtain ⟨t, objClass, keyType, isOnToken, isPrivate, -, hadd⟩ := of_planUnwrapKey hplan
  have hprivate := isPrivate_of_opened hadd hobject hkey hopened
  obtain ⟨_, s', hs, hsession, -, -, -, hkind, hslot, htoken, hattribs⟩ := of_planObject hobject
  cases hs
  obtain rfl : s' = s := Option.some.inj (hsession.symm.trans (of_keyToUse hunwrap).1)
  rw [obeysUnwrapTemplate_iff] at hobeys
  refine forall₂_congr fun entry hentry => ?_
  obtain ⟨type, attr'⟩ := entry
  obtain ⟨e, hfilter, hgiven⟩ := hobeys _ hentry
  obtain ⟨a, attr, ha, hck, hget, htaken⟩ := hopened.named type e
    (by rw [hattribs, filter_reorder, hfilter])
  obtain ⟨hmem, rfl⟩ := attributeOf_some ha
  have hhidden : a.hidden (st'.object m.newObject).attributes = false := by
    have hck7 := (hidden_table _ (p11ObjectOf_mem hkind) hkey a hmem).resolve_left
      (by rw [hck]; exact Bool.false_ne_true)
    rw [P11Attribute.hidden, hck7, Bool.false_and]
  have hreadable : readable st.fakeRutokenECP (st'.object m.newObject).attributes a.type = some a := by
    rw [readable, hopened.mechanism, Bool.and_false, Bool.false_and, if_neg Bool.false_ne_true,
      hopened.kind, Option.bind_some, ha]
  refine carries_iff (valueTag_table _ (p11ObjectOf_mem hkind) hkey a hmem)
    (reportable_eq_some.2 ⟨hreadable, hhidden⟩) hget htaken (fun value hvalue => ?_)
    (by rw [htoken]; exact harray) hgiven
  subst hvalue
  generalize a.default = default at htaken
  cases htaken with
  | byteString hsealed =>
    rw [hprivate, ← hslot]
    exact plain_of_encrypt hP (htoken ▸ hsealed)

end call

end SoftHSM.Create
