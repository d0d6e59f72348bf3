import SoftHSM.Library.Outcomes
import SoftHSM.Library.OneWay

/-!
What each call says about the origin of a key, and what that makes of the flags that tell its
history. What a key is made of does not touch them.
-/

set_option linter.unusedSectionVars false

namespace SoftHSM.Create

open CK_RV Search P11Object OSObject AttributeMap

variable {Obj Sess : Type} [DecidableEq Obj] [DecidableEq Sess]

/-! ### The flags -/

lemma flag_setAttribute (m : AttributeMap) (type t : CK_ATTRIBUTE_TYPE) (attr : OSAttribute) :
    (m.setAttribute type attr).flag t = if t = type then attr.truth else m.flag t := by
  split
  · rename_i h
    rw [h, flag_setAttribute_truth]
  · rename_i h
    exact flag_setAttribute_of_ne h

lemma flag_putAll_append (l : List (CK_ATTRIBUTE_TYPE × OSAttribute)) (material : Material)
    {t : CK_ATTRIBUTE_TYPE} (ht : t ∉ materialTypes) (m : AttributeMap) :
    (putAll (l ++ material.attributes) m).flag t = (putAll l m).flag t := by
  rw [putAll_append, flag_putAll]
  intro x hx hxt
  exact ht (hxt ▸ material.known x hx)

/-- The flags of a key that are one-way or tell its history. -/
structure Flags where
  sensitive : Option Bool
  extractable : Option Bool
  alwaysSensitive : Option Bool
  neverExtractable : Option Bool

def flagsOf (m : AttributeMap) : Flags :=
  ⟨m.flag CKA_SENSITIVE, m.flag CKA_EXTRACTABLE, m.flag CKA_ALWAYS_SENSITIVE,
    m.flag CKA_NEVER_EXTRACTABLE⟩

section origins

variable (mechanism : CK_MECHANISM_TYPE) (b : Bool) (baseKey otherKey m : AttributeMap)

lemma flagsOf_material (l : List (CK_ATTRIBUTE_TYPE × OSAttribute)) (material : Material) :
    flagsOf (putAll (l ++ material.attributes) m) = flagsOf (putAll l m) := by
  unfold flagsOf
  rw [flag_putAll_append l material (by decide), flag_putAll_append l material (by decide),
    flag_putAll_append l material (by decide), flag_putAll_append l material (by decide)]

lemma flagsOf_generatedPublic : flagsOf (putAll (generatedPublic mechanism m) m) = flagsOf m := by
  simp +decide [flagsOf, putAll, generatedPublic, isLocal, flag_setAttribute]

lemma flagsOf_generated : flagsOf (putAll (generated mechanism m) m) =
    ⟨m.flag CKA_SENSITIVE, m.flag CKA_EXTRACTABLE, some (m.getBooleanValue CKA_SENSITIVE false),
      some (m.getBooleanValue CKA_EXTRACTABLE false = false)⟩ := by
  simp +decide [flagsOf, putAll, generated, generatedPublic, isLocal, alwaysSensitive,
    neverExtractable, flag_setAttribute, OSAttribute.truth]

lemma flagsOf_generatedRutokenGost : flagsOf (putAll (generatedRutokenGost b mechanism m) m) =
    ⟨m.flag CKA_SENSITIVE, m.flag CKA_EXTRACTABLE, some false, some false⟩ := by
  simp +decide [flagsOf, putAll, generatedRutokenGost, isLocal, alwaysSensitive, neverExtractable,
    flag_setAttribute, OSAttribute.truth]

lemma flagsOf_unwrapped : flagsOf (putAll (unwrapped m) m) =
    ⟨m.flag CKA_SENSITIVE, m.flag CKA_EXTRACTABLE, some false, some false⟩ := by
  simp +decide [flagsOf, putAll, unwrapped, isLocal, alwaysSensitive, neverExtractable,
    flag_setAttribute, OSAttribute.truth]

lemma flagsOf_derived : flagsOf (putAll (derived baseKey m) m) =
    ⟨m.flag CKA_SENSITIVE, m.flag CKA_EXTRACTABLE,
      some (baseKey.getBooleanValue CKA_ALWAYS_SENSITIVE false &&
        m.getBooleanValue CKA_SENSITIVE false),
      some (baseKey.getBooleanValue CKA_NEVER_EXTRACTABLE true &&
        m.getBooleanValue CKA_EXTRACTABLE false = false)⟩ := by
  simp +decide [flagsOf, putAll, derived, isLocal, alwaysSensitive, neverExtractable,
    flag_setAttribute, OSAttribute.truth]

lemma flagsOf_concatenatedData : flagsOf (putAll (concatenatedData baseKey m) m) =
    ⟨if baseKey.getBooleanValue CKA_SENSITIVE true then some true else m.flag CKA_SENSITIVE,
      if !baseKey.getBooleanValue CKA_EXTRACTABLE false then some false
        else m.flag CKA_EXTRACTABLE,
      some (baseKey.getBooleanValue CKA_ALWAYS_SENSITIVE false),
      some (baseKey.getBooleanValue CKA_NEVER_EXTRACTABLE false)⟩ := by
  cases h1 : baseKey.getBooleanValue CKA_SENSITIVE true <;>
    cases h2 : baseKey.getBooleanValue CKA_EXTRACTABLE false <;>
    simp +decide [flagsOf, putAll, concatenatedData, isLocal, sensitive, extractable,
      alwaysSensitive, neverExtractable, flag_setAttribute, OSAttribute.truth, h1, h2]

lemma flagsOf_concatenatedKeys : flagsOf (putAll (concatenatedKeys baseKey otherKey m) m) =
    ⟨if baseKey.getBooleanValue CKA_SENSITIVE true || otherKey.getBooleanValue CKA_SENSITIVE true
        then some true else m.flag CKA_SENSITIVE,
      if !(baseKey.getBooleanValue CKA_EXTRACTABLE true &&
        otherKey.getBooleanValue CKA_EXTRACTABLE true) then some false else m.flag CKA_EXTRACTABLE,
      some (baseKey.getBooleanValue CKA_NEVER_EXTRACTABLE false &&
        otherKey.getBooleanValue CKA_NEVER_EXTRACTABLE false),
      m.flag CKA_NEVER_EXTRACTABLE⟩ := by
  cases h1 : (baseKey.getBooleanValue CKA_SENSITIVE true ||
      otherKey.getBooleanValue CKA_SENSITIVE true) <;>
    cases h2 : (baseKey.getBooleanValue CKA_EXTRACTABLE true &&
      otherKey.getBooleanValue CKA_EXTRACTABLE true) <;>
    simp +decide [flagsOf, putAll, concatenatedKeys, isLocal, sensitive, extractable,
      alwaysSensitive, flag_setAttribute, OSAttribute.truth, h1, h2]

end origins

/-- What `CreateObject` itself stores. -/
lemma ownOf_types (plan : Plan) (op : ObjectOp) : ∀ y ∈ ownOf plan op,
    y.1 ∈ [CKA_LOCAL, CKA_ALWAYS_SENSITIVE, CKA_NEVER_EXTRACTABLE] := by
  unfold ownOf ownAttributes
  split_ifs <;> simp

/-! ### The class of what is made -/

lemma class_of_extract (t : List CK_ATTRIBUTE) (info : ObjectInformation) (bImplicit : Bool) :
    (extractObjectInformation t info bImplicit).2.objClass = ulongOf CKA_CLASS info.objClass t := by
  unfold extractObjectInformation
  dsimp only
  split_ifs <;> rfl

/-- The class of a template that a call has worked out. -/
def classOf (attribs : List CK_ATTRIBUTE) : UInt64 := ulongOf CKA_CLASS CKO_DATA attribs

lemma class_of_plan {P : Primitives} {x : Outside} {hSession : ℕ} {t : List CK_ATTRIBUTE}
    {st : Store Obj Sess} {plan : Plan} (h : planObject P x hSession (some t) st = .ok plan) :
    plan.info.objClass = classOf t := by
  obtain ⟨t', s, ht, -, hx, -⟩ := of_planObject h
  cases ht
  have hc := class_of_extract t ⟨CKO_DATA, CKK_RSA, CKC_X_509, CK_FALSE, CK_TRUE⟩ false
  rw [hx] at hc
  exact hc

lemma of_addTemplate {attribs r t : List CK_ATTRIBUTE} {excluded : List CK_ATTRIBUTE_TYPE}
    (h : addTemplate attribs excluded t = .ok r) : t.length ≤ maxAttribs - attribs.length ∧
      r = attribs ++ t.filter fun e =>
        e.type ∉ [CKA_CLASS, CKA_TOKEN, CKA_PRIVATE, CKA_KEY_TYPE] ++ excluded := by
  unfold addTemplate at h
  split at h
  · cases h
  · rename_i hlen
    cases h
    exact ⟨not_lt.1 hlen, rfl⟩

/-- The class that a call gives a key is not that of the template. -/
lemma classOf_keyAttribs {objClass : UInt64} {keyType : CK_KEY_TYPE} {isOnToken isPrivate : UInt8}
    {rest : List CK_ATTRIBUTE} (h : ∀ e ∈ rest, e.type ≠ CKA_CLASS) :
    classOf (keyAttribs objClass keyType isOnToken isPrivate ++ rest) = objClass := by
  have hrest : rest.reverse.find? (fun e => e.type = CKA_CLASS &&
      e.ulValueLen = sizeof_CK_ULONG && e.pValue.isSome) = none := by
    rw [List.find?_eq_none]
    intro e he
    simp [h e (List.mem_reverse.1 he)]
  have hlast : lastValue CKA_CLASS sizeof_CK_ULONG
      (keyAttribs objClass keyType isOnToken isPrivate ++ rest) =
      some ⟨CKA_CLASS, some (ulongBytes objClass), 0⟩ := by
    rw [lastValue, List.reverse_append, List.find?_append, hrest, Option.none_or]
    simp +decide [keyAttribs, CK_ATTRIBUTE.ulValueLen, length_ulongBytes]
  rw [classOf, ulongOf, hlast, Option.map_some, Option.getD_some, CK_ATTRIBUTE.bytes,
    Option.getD_some, ulongAt_ulongBytes]

lemma classOf_addTemplate {objClass : UInt64} {keyType : CK_KEY_TYPE} {isOnToken isPrivate : UInt8}
    {fixed r t : List CK_ATTRIBUTE} (tail : List CK_ATTRIBUTE) {excluded : List CK_ATTRIBUTE_TYPE}
    (hfixed : ∀ e ∈ fixed, e.type ≠ CKA_CLASS) (htail : ∀ e ∈ tail, e.type ≠ CKA_CLASS)
    (h : addTemplate (keyAttribs objClass keyType isOnToken isPrivate ++ fixed) excluded t = .ok r) :
    classOf (r ++ tail) = objClass := by
  rw [(of_addTemplate h).2, List.append_assoc, List.append_assoc]
  refine classOf_keyAttribs fun e he => ?_
  simp only [List.mem_append] at he
  rcases he with he | he | he
  · exact hfixed e he
  · rintro hc
    simp [hc] at he
  · exact htail e he

lemma classOf_addTemplate_nil {objClass : UInt64} {keyType : CK_KEY_TYPE}
    {isOnToken isPrivate : UInt8} {r t : List CK_ATTRIBUTE} (tail : List CK_ATTRIBUTE)
    {excluded : List CK_ATTRIBUTE_TYPE} (htail : ∀ e ∈ tail, e.type ≠ CKA_CLASS)
    (h : addTemplate (keyAttribs objClass keyType isOnToken isPrivate) excluded t = .ok r) :
    classOf (r ++ tail) = objClass := by
  rw [← List.append_nil (keyAttribs objClass keyType isOnToken isPrivate)] at h
  exact classOf_addTemplate tail (by simp) htail h

/-- The order in which the entries are taken does not matter but for the check value. -/
lemma entriesOf_reorder {t : CK_ATTRIBUTE_TYPE} (ht : t ≠ CKA_CHECK_VALUE)
    (l : List CK_ATTRIBUTE) : entriesOf t (reorder l) = entriesOf t l := by
  have hcheck : (l.filter (·.type = CKA_CHECK_VALUE)).filter (·.type = t) = [] := by
    rw [List.filter_filter, List.filter_eq_nil_iff]
    intro e _ he
    simp only [Bool.and_eq_true, decide_eq_true_eq] at he
    exact ht (he.1.symm.trans he.2)
  rw [entriesOf, reorder, List.filter_append, hcheck, List.append_nil, List.filter_filter, entriesOf]
  refine List.filter_congr fun e _ => ?_
  by_cases he : e.type = t <;> simp [he, ht]

/-- The entries that are in the template of a caller alone. -/
lemma entriesOf_addTemplate {t : CK_ATTRIBUTE_TYPE} {attribs r pTemplate : List CK_ATTRIBUTE}
    {excluded : List CK_ATTRIBUTE_TYPE} (h : addTemplate attribs excluded pTemplate = .ok r)
    (ht : t ∉ [CKA_CLASS, CKA_TOKEN, CKA_PRIVATE, CKA_KEY_TYPE] ++ excluded)
    (hattribs : ∀ e ∈ attribs, e.type ≠ t) : entriesOf t r = entriesOf t pTemplate := by
  have hown : attribs.filter (·.type = t) = [] :=
    List.filter_eq_nil_iff.2 fun e he => by simp [hattribs e he]
  rw [(of_addTemplate h).2, entriesOf, List.filter_append, hown, List.nil_append,
    List.filter_filter, entriesOf]
  refine List.filter_congr fun e _ => ?_
  by_cases he : e.type = t
  · simp only [he, ht, not_false_eq_true, decide_true, Bool.and_self]
  · simp only [he, decide_false, Bool.false_and]

/-! ### The origin of what a call makes -/

/-- The classes of keys with a history. -/
def keyClasses : List UInt64 := [CKO_PRIVATE_KEY, CKO_SECRET_KEY]

/-- The entries of a derived key are those of its template, but for what the call sees to. -/
def FromTemplate (attribs pTemplate : List CK_ATTRIBUTE) : Prop :=
  ∀ t ∉ [CKA_CLASS, CKA_TOKEN, CKA_PRIVATE, CKA_KEY_TYPE, CKA_CHECK_VALUE, CKA_VALUE_LEN],
    entriesOf t attribs = entriesOf t pTemplate

/-- What a call says about the origin of what it makes. -/
inductive Origin (st : Store Obj Sess) (j : Job Obj) : Creation Obj →
    (AttributeMap → List (CK_ATTRIBUTE_TYPE × OSAttribute)) → Prop
  | generatedPublic (c : Creation Obj) (mechanism : CK_MECHANISM_TYPE)
      (h : classOf j.attribs ∉ keyClasses) : Origin st j c (generatedPublic mechanism)
  | generated (c : Creation Obj) (mechanism : CK_MECHANISM_TYPE)
      (h : classOf j.attribs ∈ keyClasses) : Origin st j c (generated mechanism)
  | generatedRutokenGost (c : Creation Obj) (b : Bool) (mechanism : CK_MECHANISM_TYPE)
      (h : classOf j.attribs ∈ keyClasses) : Origin st j c (generatedRutokenGost b mechanism)
  | unwrapped (c : Creation Obj) (h : classOf j.attribs ∈ keyClasses) : Origin st j c unwrapped
  | derived (c : Creation Obj) (o : Obj) (hv : (st.object o).valid = true)
      (h : classOf j.attribs ∈ keyClasses) : Origin st j c (derived (st.object o).attributes)
  | concatenatedData (m : Making Obj) (hSession hBaseKey : ℕ)
      (pTemplate : Option (List CK_ATTRIBUTE)) (check : AttributeMap → CK_KEY_TYPE → CK_RV)
      (derive : AttributeMap → List CK_ATTRIBUTE → Except CK_RV DerivedKey) (o : Obj)
      (ho : st.handleManager.getObject hBaseKey = some o) (hv : (st.object o).valid = true)
      (h : classOf j.attribs ∈ keyClasses) :
      Origin st j (.deriveKey m hSession hBaseKey pTemplate .data check derive)
        (concatenatedData (st.object o).attributes)
  | concatenatedKeys (m : Making Obj) (hSession hBaseKey hOtherKey : ℕ) (t : List CK_ATTRIBUTE)
      (check : AttributeMap → CK_KEY_TYPE → CK_RV)
      (derive : AttributeMap → List CK_ATTRIBUTE → Except CK_RV DerivedKey) (o o' : Obj)
      (result : DerivedKey)
      (ho : st.handleManager.getObject hBaseKey = some o) (hv : (st.object o).valid = true)
      (ho' : st.handleManager.getObject hOtherKey = some o') (hv' : (st.object o').valid = true)
      (hresult : derive (st.object o).attributes t = .ok result)
      (hfrom : FromTemplate j.attribs result.pTemplate) (h : classOf j.attribs ∈ keyClasses) :
      Origin st j (.deriveKey m hSession hBaseKey (some t) (.key hOtherKey) check derive)
        (concatenatedKeys (st.object o).attributes (st.object o').attributes)

/-- The types of what tells the origin. -/
def originTypes : List CK_ATTRIBUTE_TYPE :=
  [CKA_LOCAL, CKA_KEY_GEN_MECHANISM, CKA_SENSITIVE, CKA_EXTRACTABLE, CKA_ALWAYS_SENSITIVE,
    CKA_NEVER_EXTRACTABLE]

lemma origin_types {st : Store Obj Sess} {j : Job Obj} {c : Creation Obj}
    {origin : AttributeMap → List (CK_ATTRIBUTE_TYPE × OSAttribute)} (h : Origin st j c origin)
    (m : AttributeMap) : ∀ y ∈ origin m, y.1 ∈ originTypes := by
  cases h with
  | generatedPublic => simp [Create.generatedPublic, isLocal, originTypes]
  | generated =>
    simp [Create.generated, Create.generatedPublic, isLocal, alwaysSensitive, neverExtractable,
      originTypes]
  | generatedRutokenGost =>
    simp [Create.generatedRutokenGost, isLocal, alwaysSensitive, neverExtractable, originTypes]
  | unwrapped => simp [Create.unwrapped, isLocal, alwaysSensitive, neverExtractable, originTypes]
  | derived => simp [Create.derived, isLocal, alwaysSensitive, neverExtractable, originTypes]
  | concatenatedData =>
    unfold Create.concatenatedData
    split_ifs <;>
      simp [isLocal, sensitive, extractable, alwaysSensitive, neverExtractable, originTypes]
  | concatenatedKeys =>
    unfold Create.concatenatedKeys
    split_ifs <;> simp [isLocal, sensitive, extractable, alwaysSensitive, originTypes]

/-- What is stored for a key: its origin, and what it is made of. -/
def Supplies (supply : Supply) (origin : AttributeMap → List (CK_ATTRIBUTE_TYPE × OSAttribute)) :
    Prop :=
  ∀ m l, supply m = .ok l → ∃ material : Material, l = origin m ++ material.attributes

lemma supplies_supplyOf (origin : AttributeMap → List (CK_ATTRIBUTE_TYPE × OSAttribute))
    (material : Option Material) : Supplies (supplyOf origin material) origin := by
  intro m l h
  cases material with
  | none => cases h
  | some material =>
    cases h
    exact ⟨material, rfl⟩

lemma supplies_supplySecret (late : CK_RV) (material : Option Material) :
    Supplies (supplySecret late material) unwrapped := by
  intro m l h
  unfold supplySecret at h
  split at h
  · cases h
  · exact supplies_supplyOf unwrapped material m l h

section makes

variable {P : Primitives} {x : Outside} {st : Store Obj Sess} {c : Creation Obj} {j : Job Obj}

lemma classOf_nil_tail {objClass : UInt64} {keyType : CK_KEY_TYPE} {isOnToken isPrivate : UInt8}
    {r t : List CK_ATTRIBUTE} {excluded : List CK_ATTRIBUTE_TYPE}
    (h : addTemplate (keyAttribs objClass keyType isOnToken isPrivate) excluded t = .ok r) :
    classOf r = objClass := by
  have hclass := classOf_addTemplate_nil [] (by simp) h
  rwa [List.append_nil] at hclass

lemma secret_isKey : CKO_SECRET_KEY ∈ keyClasses := by decide

lemma classOf_planEncapsulation {hSession hKey : ℕ} {usage : CK_ATTRIBUTE_TYPE}
    {t attribs : List CK_ATTRIBUTE} {check : AttributeMap → CK_RV}
    (h : planEncapsulation hSession hKey usage t check st = .ok attribs) :
    classOf attribs ∈ keyClasses := by
  obtain ⟨keyType, isOnToken, isPrivate, hadd | ⟨rfl, -⟩⟩ := of_planEncapsulation h
  · rw [classOf_nil_tail hadd]
    exact secret_isKey
  · rw [← List.append_nil (keyAttribs _ _ _ _), classOf_keyAttribs (by simp)]
    exact secret_isKey

/-- The entries of a derived key are those of its template. -/
lemma fromTemplate_of_derive {keyType : CK_KEY_TYPE} {isOnToken isPrivate : UInt8}
    {excluded : List CK_ATTRIBUTE_TYPE} {fixed attribs pTemplate : List CK_ATTRIBUTE}
    (hfixed : fixed = [] ∧ excluded = [CKA_CHECK_VALUE] ∨
      ∃ v, fixed = [⟨CKA_VALUE_LEN, some v, 0⟩] ∧ excluded = [CKA_VALUE_LEN])
    (hadd : addTemplate (keyAttribs CKO_SECRET_KEY keyType isOnToken isPrivate ++ fixed) excluded
      pTemplate = .ok attribs) : FromTemplate attribs pTemplate := by
  intro t ht
  simp only [List.mem_cons, List.not_mem_nil, or_false, not_or] at ht
  refine entriesOf_addTemplate hadd ?_ fun e he => ?_
  · rcases hfixed with ⟨-, rfl⟩ | ⟨v, -, rfl⟩ <;> simp [ht]
  · rcases List.mem_append.1 he with he | he
    · simp only [keyAttribs, List.mem_cons, List.not_mem_nil, or_false] at he
      rcases he with rfl | rfl | rfl | rfl
      · exact fun hc => ht.1 hc.symm
      · exact fun hc => ht.2.1 hc.symm
      · exact fun hc => ht.2.2.1 hc.symm
      · exact fun hc => ht.2.2.2.1 hc.symm
    · rcases hfixed with ⟨rfl, -⟩ | ⟨v, rfl, -⟩
      · exact absurd he List.not_mem_nil
      · rw [List.mem_singleton.1 he]
        exact fun hc => ht.2.2.2.2.2 hc.symm

/-- **The origin of what a call makes.** -/
theorem makes_origin (h : c.Makes P x st j) :
    (∃ m hSession t, c = .createObject m hSession (some t) ∧
      j = ⟨m, hSession, t, .CREATE, fun _ => .ok [], true⟩) ∨
    j.op ∈ [.GENERATE, .DERIVE, .UNWRAP, .DECAPSULATE] ∧ ∃ origin, Supplies j.supply origin ∧
      Origin st j c origin := by
  cases c with
  | createObject m hSession pTemplate =>
    obtain ⟨t, rfl, rfl⟩ := h
    exact .inl ⟨m, hSession, t, rfl, rfl⟩
  | generateKey m hSession mechanism pTemplate generate =>
    obtain ⟨attribs, supply, hplan, rfl⟩ := h
    obtain ⟨_, objClass, _, _, _, _, origin, material, hadd, rfl, horigin⟩ := of_planGenerateKey hplan
    have hclass := classOf_nil_tail hadd
    refine .inr ⟨by simp, origin, supplies_supplyOf _ _, ?_⟩
    rcases horigin with ⟨rfl, rfl⟩ | ⟨rfl, rfl | ⟨b, rfl⟩⟩
    · exact .generatedPublic _ _ (by rw [hclass]; decide)
    · exact .generated _ _ (by rw [hclass]; decide)
    · exact .generatedRutokenGost _ _ _ (by rw [hclass]; decide)
  | generateKeyPair mPublic mPrivate hSession mechanism pPublicKeyTemplate pPrivateKeyTemplate
      generate =>
    obtain ⟨_, _, pair, hplan, hj⟩ := h
    obtain ⟨_, _, _, _, _, _, _, _, _, publicKeyAttribs, hadd, rfl, rfl⟩ :=
      of_planGenerateKeyPair hplan
    rcases hj with rfl | ⟨attribs, hprivate, rfl⟩
    · refine .inr ⟨by simp, _, supplies_supplyOf _ _, .generatedPublic _ _ ?_⟩
      have hclass := classOf_addTemplate_nil pair.defaulted (fun e he => by
        rw [pair.known e he]
        decide) hadd
      rw [hclass]
      decide
    · refine .inr ⟨by simp, _, supplies_supplyOf _ _, .generated _ _ ?_⟩
      rw [classOf_nil_tail hprivate]
      decide
  | unwrapKey m hSession hUnwrappingKey pTemplate check inconsistent unwrapping material =>
    obtain ⟨token, attribs, hplan, h⟩ := h
    obtain ⟨_, objClass, _, _, _, hobjClass, hadd⟩ := of_planUnwrapKey hplan
    have hclass : classOf attribs ∈ keyClasses := by
      rw [classOf_nil_tail hadd]
      simp only [List.mem_cons, List.not_mem_nil, or_false, keyClasses] at hobjClass ⊢
      exact hobjClass.symm
    cases unwrapping with
    | direct keydata =>
      obtain ⟨data, -, rfl⟩ := h
      exact .inr ⟨by simp, _, supplies_supplyOf _ _, .unwrapped _ hclass⟩
    | rsaAes emphkeydata m' keydata =>
      obtain ⟨emphkey, -, rfl | ⟨data, -, rfl⟩⟩ := h
      · exact .inr ⟨by simp, unwrapped,
          supplies_supplyOf unwrapped (some (emphkeyMaterial token emphkey)),
          .unwrapped _ (show classOf emphkeyAttribs ∈ keyClasses by decide)⟩
      · exact .inr ⟨by simp, _, supplies_supplyOf _ _, .unwrapped _ hclass⟩
  | deriveKey m hSession hBaseKey pTemplate derivation check derive =>
    obtain ⟨attribs, supply, hplan, rfl⟩ := h
    obtain ⟨o, origin, result, keyType, isOnToken, isPrivate, excluded, fixed, ho, hv,
      ⟨t, rfl, hresult⟩, rfl, hfixed, hadd, hd⟩ := of_planDeriveKey hplan
    have htypes : ∀ e ∈ fixed, e.type = CKA_VALUE_LEN := by
      rcases hfixed with ⟨rfl, -⟩ | ⟨v, rfl, -⟩
      · exact fun e he => absurd he List.not_mem_nil
      · exact fun e he => by rw [List.mem_singleton.1 he]
    have hclass : classOf attribs ∈ keyClasses := by
      have := classOf_addTemplate [] (fun e he => by rw [htypes e he]; decide)
        (by simp) hadd
      rw [List.append_nil] at this
      rw [this]
      exact secret_isKey
    refine .inr ⟨by simp, origin, supplies_supplyOf _ _, ?_⟩
    cases derivation with
    | key hOtherKey =>
      obtain ⟨o', ho', hv', rfl⟩ := hd
      exact .concatenatedKeys _ _ _ _ _ _ _ o o' result ho hv ho' hv' hresult
        (fromTemplate_of_derive hfixed hadd) hclass
    | data =>
      cases hd
      exact .concatenatedData _ _ _ _ _ _ o ho hv hclass
    | computed inheritProtection =>
      cases inheritProtection <;> cases hd
      · exact .unwrapped _ hclass
      · exact .derived _ o hv hclass
  | encapsulateKey m hSession hPublicKey pTemplate check hasBuffer late material buffer =>
    obtain ⟨attribs, hplan, -, rfl⟩ := h
    exact .inr ⟨by simp, _, supplies_supplySecret _ _,
      .unwrapped _ (classOf_planEncapsulation hplan)⟩
  | decapsulateKey m hSession hPrivateKey pTemplate check late material =>
    obtain ⟨attribs, hplan, rfl⟩ := h
    exact .inr ⟨by simp, _, supplies_supplySecret _ _,
      .unwrapped _ (classOf_planEncapsulation hplan)⟩

end makes

end SoftHSM.Create
