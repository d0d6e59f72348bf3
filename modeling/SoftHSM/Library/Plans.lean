import SoftHSM.Library.Kinds
import SoftHSM.Library.MakeKeys

/-!
What the checks of a call let through: the template and the kind of an object that is made, and
what is stored for each key.
-/

namespace SoftHSM.Create

open CK_RV Search P11Object

variable {Obj Sess : Type}

/-- A check that a call goes on after. -/
lemma of_check {α : Type} {c : Prop} [Decidable c] {rv : CK_RV} {k : PUnit → Except CK_RV α}
    {r : α} (h : (if c then throw rv >>= k else k PUnit.unit) = .ok r) :
    ¬ c ∧ k PUnit.unit = .ok r := by
  by_cases hc : c
  · rw [if_pos hc] at h
    cases h
  · rw [if_neg hc] at h
    exact ⟨hc, h⟩

lemma of_bind {α β : Type} {u : Except CK_RV β} {k : β → Except CK_RV α} {r : α}
    (h : u >>= k = .ok r) : ∃ v, u = .ok v ∧ k v = .ok r := by
  cases u with
  | error e => cases h
  | ok v => exact ⟨v, rfl, h⟩

lemma check_ne {α : Type} {c : Prop} [Decidable c] {rv : CK_RV} {k : PUnit → Except CK_RV α}
    (hrv : c → rv ≠ CKR_OK) (hk : k PUnit.unit ≠ .error CKR_OK) :
    (if c then throw rv >>= k else k PUnit.unit) ≠ .error CKR_OK := by
  by_cases hc : c
  · rw [if_pos hc]
    intro h
    cases h
    exact hrv hc rfl
  · rw [if_neg hc]
    exact hk

/-- No check that fails answers `CKR_OK`. -/
lemma planObject_ne {P : Primitives} {x : Outside} {hSession : ℕ}
    {pTemplate : Option (List CK_ATTRIBUTE)} {st : Store Obj Sess} :
    planObject P x hSession pTemplate st ≠ .error CKR_OK := by
  unfold planObject
  refine check_ne (fun _ => by simp) ?_
  cases pTemplate with
  | none => exact fun h => by cases h
  | some t => ?_
  dsimp only
  split
  case h_2 => exact fun h => by cases h
  refine check_ne id ?_
  refine check_ne id ?_
  refine check_ne id ?_
  refine check_ne id ?_
  refine check_ne (fun _ => by simp) ?_
  split
  · exact fun h => by cases h
  · exact fun h => by cases h

/-- **What the checks of `CreateObject` let through.** -/
theorem of_planObject {P : Primitives} {x : Outside} {hSession : ℕ}
    {pTemplate : Option (List CK_ATTRIBUTE)} {st : Store Obj Sess} {plan : Plan}
    (h : planObject P x hSession pTemplate st = .ok plan) :
    ∃ t s, pTemplate = some t ∧ st.handleManager.getSession hSession = some s ∧
      (extractObjectInformation t ⟨CKO_DATA, CKK_RSA, CKC_X_509, CK_FALSE, CK_TRUE⟩ false) =
        (CKR_OK, plan.info) ∧
      haveWrite (st.getState s) (plan.info.isOnToken ≠ CK_FALSE) (plan.info.isPrivate ≠ CK_FALSE) =
        CKR_OK ∧
      t.length ≤ maxAttribs ∧
      p11ObjectOf plan.info.objClass plan.info.keyType plan.info.certType = some plan.p11object ∧
      plan.slotID = (st.session s).slotID ∧ plan.token = token P x (st.sdm plan.slotID) ∧
      plan.attribs = reorder t := by
  unfold planObject at h
  replace h := (of_check h).2
  cases pTemplate with
  | none => cases h
  | some t => ?_
  dsimp only at h
  split at h
  case h_2 => cases h
  rename_i s hs
  rcases hx : extractObjectInformation t ⟨CKO_DATA, CKK_RSA, CKC_X_509, CK_FALSE, CK_TRUE⟩ false with
    ⟨rv, info⟩
  rw [hx] at h
  obtain ⟨hrv, h⟩ := of_check h
  obtain ⟨-, h⟩ := of_check h
  obtain ⟨-, h⟩ := of_check h
  obtain ⟨hw, h⟩ := of_check h
  obtain ⟨hlen, h⟩ := of_check h
  split at h
  case h_2 => cases h
  rename_i p hp
  rw [not_not] at hrv hw
  subst hrv
  cases h
  exact ⟨t, s, rfl, hs, hx, hw, not_lt.1 hlen, hp, rfl, rfl, rfl⟩

/-- What is stored for a key, by what the call says about its origin. -/
lemma supplyOf_ne (origin : AttributeMap → List (CK_ATTRIBUTE_TYPE × OSAttribute))
    (material : Option Material) (m : AttributeMap) :
    supplyOf origin material m ≠ .error CKR_OK := by
  cases material <;> simp [supplyOf]

lemma supplySecret_ne (late : CK_RV) (material : Option Material) (m : AttributeMap) :
    supplySecret late material m ≠ .error CKR_OK := by
  unfold supplySecret
  split
  · rename_i h
    simpa using h
  · exact supplyOf_ne unwrapped material m

lemma addTemplate_ne (attribs : List CK_ATTRIBUTE) (excluded : List CK_ATTRIBUTE_TYPE)
    (t : List CK_ATTRIBUTE) : addTemplate attribs excluded t ≠ .error CKR_OK := by
  unfold addTemplate
  split <;> simp

section plans

variable {P : Primitives} {x : Outside} {hSession : ℕ} {pTemplate : Option (List CK_ATTRIBUTE)}
  {st : Store Obj Sess} {attribs : List CK_ATTRIBUTE} {supply : Supply}

theorem of_planGenerateKey {mechanism : CK_MECHANISM_TYPE}
    {generate : List CK_ATTRIBUTE → Except CK_RV (Option Material)}
    (h : planGenerateKey x hSession mechanism pTemplate generate st = .ok (attribs, supply)) :
    ∃ t objClass keyType isOnToken isPrivate excluded origin material,
      addTemplate (keyAttribs objClass keyType isOnToken isPrivate) excluded t = .ok attribs ∧
      supply = supplyOf origin material ∧
      (objClass = CKO_DOMAIN_PARAMETERS ∧ origin = generatedPublic mechanism ∨
        objClass = CKO_SECRET_KEY ∧ (origin = generated mechanism ∨
          ∃ b, origin = generatedRutokenGost b mechanism)) := by
  unfold planGenerateKey at h
  replace h := (of_check h).2
  cases pTemplate with
  | none => cases h
  | some t => ?_
  dsimp only at h
  split at h
  case h_2 => cases h
  split at h
  case h_2 => cases h
  rename_i objClass keyType hgen
  obtain ⟨hclass, h⟩ := of_check h
  obtain ⟨hsame, h⟩ := of_check h
  replace h := (of_check h).2
  simp only [Bool.or_eq_true, decide_eq_true_eq, not_or, not_not] at hsame hclass
  rw [hsame.1] at hclass
  by_cases hg : keyType = CKK_GOST28147
  on_goal 1 =>
    rw [if_pos hg] at h
    replace h := (of_check (of_check h).2).2
  on_goal 2 => rw [if_neg hg] at h
  all_goals
    obtain ⟨material, -, h⟩ := of_bind h
    by_cases hdomain : objClass = CKO_DOMAIN_PARAMETERS
    · rw [if_pos hdomain] at h
      obtain ⟨a, ha, h⟩ := of_bind h
      cases h
      exact ⟨_, _, _, _, _, _, _, _, ha, rfl, .inl ⟨hdomain, rfl⟩⟩
    · rw [if_neg hdomain] at h
      have hsecret : objClass = CKO_SECRET_KEY := by simpa [hdomain] using hclass
      obtain ⟨a, ha, h⟩ := of_bind h
      cases h
      refine ⟨_, _, _, _, _, _, _, _, ha, rfl, .inr ⟨hsecret, ?_⟩⟩
      split
      · exact .inr ⟨_, rfl⟩
      · exact .inl rfl

theorem of_planGenerateKeyPair {mechanism : CK_MECHANISM_TYPE}
    {pPublicKeyTemplate pPrivateKeyTemplate : Option (List CK_ATTRIBUTE)}
    {generate : List CK_ATTRIBUTE → List CK_ATTRIBUTE → Except CK_RV Pair}
    {privateKeyAttribs : Except CK_RV (List CK_ATTRIBUTE)} {pair : Pair}
    (h : planGenerateKeyPair x hSession mechanism pPublicKeyTemplate pPrivateKeyTemplate generate
      st = .ok (attribs, privateKeyAttribs, pair)) :
    ∃ tPublic tPrivate keyType onToken onToken' isPrivate isPrivate' excluded excluded' publicKeyAttribs,
      addTemplate (keyAttribs CKO_PUBLIC_KEY keyType onToken isPrivate) excluded tPublic =
        .ok publicKeyAttribs ∧
      attribs = publicKeyAttribs ++ pair.defaulted ∧
      privateKeyAttribs = addTemplate
        (keyAttribs CKO_PRIVATE_KEY keyType onToken' isPrivate') excluded' tPrivate := by
  unfold planGenerateKeyPair at h
  replace h := (of_check h).2
  cases pPublicKeyTemplate with
  | none => cases h
  | some tPublic => ?_
  cases pPrivateKeyTemplate with
  | none => cases h
  | some tPrivate => ?_
  dsimp only at h
  split at h
  case h_2 => cases h
  split at h
  case h_2 => cases h
  replace h := (of_check h).2
  replace h := (of_check h).2
  replace h := (of_check h).2
  replace h := (of_check h).2
  replace h := (of_check h).2
  obtain ⟨pair', -, h⟩ := of_bind h
  obtain ⟨publicKeyAttribs, ha, h⟩ := of_bind h
  replace h := (of_check h).2
  cases h
  exact ⟨_, _, _, _, _, _, _, _, _, _, ha, rfl, rfl⟩

/-- What the check of a key that is used lets through. -/
lemma of_keyToUse {hKey : ℕ} {invalid : CK_RV} {s : Sess} {key : OSObject}
    (h : keyToUse hSession hKey invalid st = .ok (s, key)) :
    st.handleManager.getSession hSession = some s ∧
    ∃ o, st.handleManager.getObject hKey = some o ∧ key = st.object o ∧ key.valid = true := by
  unfold keyToUse at h
  replace h := (of_check h).2
  dsimp only at h
  split at h
  case h_2 => cases h
  rename_i s' hs
  split at h
  case h_2 => cases h
  rename_i o ho
  obtain ⟨hv, h⟩ := of_check h
  replace h := (of_check h).2
  cases h
  exact ⟨hs, o, ho, rfl, by simpa using hv⟩

theorem of_planUnwrapKey {hUnwrappingKey : ℕ} {check : AttributeMap → CK_RV}
    {inconsistent : UInt64 → CK_KEY_TYPE → Bool} {token : TokenView}
    (h : planUnwrapKey P x hSession hUnwrappingKey pTemplate check inconsistent st =
      .ok (token, attribs)) :
    ∃ t objClass keyType isOnToken isPrivate, objClass ∈ [CKO_SECRET_KEY, CKO_PRIVATE_KEY] ∧
      addTemplate (keyAttribs objClass keyType isOnToken isPrivate) [] t = .ok attribs := by
  unfold planUnwrapKey at h
  cases pTemplate with
  | none => cases h
  | some t => ?_
  dsimp only at h
  obtain ⟨⟨s, key⟩, -, h⟩ := of_bind h
  replace h := (of_check h).2
  replace h := (of_check h).2
  replace h := (of_check h).2
  obtain ⟨hclass, h⟩ := of_check h
  replace h := (of_check h).2
  replace h := (of_check h).2
  obtain ⟨a, ha, h⟩ := of_bind h
  replace h := (of_check h).2
  cases h
  exact ⟨t, _, _, _, _, not_not.1 hclass, ha⟩

theorem of_planDeriveKey {hBaseKey : ℕ} {derivation : Derivation}
    {check : AttributeMap → CK_KEY_TYPE → CK_RV}
    {derive : AttributeMap → List CK_ATTRIBUTE → Except CK_RV DerivedKey}
    (h : planDeriveKey hSession hBaseKey pTemplate derivation check derive st =
      .ok (attribs, supply)) :
    ∃ o origin result keyType isOnToken isPrivate excluded fixed,
      st.handleManager.getObject hBaseKey = some o ∧ (st.object o).valid = true ∧
      (∃ t, pTemplate = some t ∧ derive (st.object o).attributes t = .ok result) ∧
      supply = supplyOf origin result.material ∧
      (fixed = [] ∧ excluded = [CKA_CHECK_VALUE] ∨
        ∃ v, fixed = [⟨CKA_VALUE_LEN, some v, 0⟩] ∧ excluded = [CKA_VALUE_LEN]) ∧
      addTemplate (keyAttribs CKO_SECRET_KEY keyType isOnToken isPrivate ++ fixed) excluded
        result.pTemplate = .ok attribs ∧
      match derivation with
      | .key hOtherKey => ∃ o', st.handleManager.getObject hOtherKey = some o' ∧
          (st.object o').valid = true ∧
          origin = concatenatedKeys (st.object o).attributes (st.object o').attributes
      | .data => origin = concatenatedData (st.object o).attributes
      | .computed true => origin = derived (st.object o).attributes
      | .computed false => origin = unwrapped := by
  unfold planDeriveKey at h
  cases pTemplate with
  | none => cases h
  | some t => ?_
  dsimp only at h
  obtain ⟨⟨s, key⟩, hkey, h⟩ := of_bind h
  obtain ⟨-, o, ho, rfl, hv⟩ := of_keyToUse hkey
  replace h := (of_check h).2
  replace h := (of_check h).2
  replace h := (of_check h).2
  replace h := (of_check h).2
  replace h := (of_check h).2
  obtain ⟨origin, horigin, h⟩ := of_bind h
  obtain ⟨result, hresult, h⟩ := of_bind h
  obtain ⟨a, ha, h⟩ := of_bind h
  cases h
  have hattribs : ∃ keyType isOnToken isPrivate excluded fixed,
      (fixed = [] ∧ excluded = [CKA_CHECK_VALUE] ∨
        ∃ v, fixed = [⟨CKA_VALUE_LEN, some v, 0⟩] ∧ excluded = [CKA_VALUE_LEN]) ∧
      addTemplate (keyAttribs CKO_SECRET_KEY keyType isOnToken isPrivate ++ fixed) excluded
        result.pTemplate = .ok attribs := by
    unfold derivedAttribs at ha
    cases hl : result.valueLen with
    | none =>
      rw [hl] at ha
      exact ⟨_, _, _, _, [], .inl ⟨rfl, rfl⟩, by rw [List.append_nil]; exact ha⟩
    | some valueLen =>
      rw [hl] at ha
      exact ⟨_, _, _, _, _, .inr ⟨_, rfl, rfl⟩, ha⟩
  obtain ⟨keyType, isOnToken, isPrivate, excluded, fixed, hfixed, hadd⟩ := hattribs
  refine ⟨o, origin, result, keyType, isOnToken, isPrivate, excluded, fixed, ho, hv,
    ⟨t, rfl, hresult⟩, rfl, hfixed, hadd, ?_⟩
  cases derivation with
  | key hOtherKey =>
    unfold originOf at horigin
    dsimp only at horigin ⊢
    split at horigin
    case h_1 => cases horigin
    rename_i o' ho'
    split at horigin
    · cases horigin
    · rename_i hv'
      cases horigin
      exact ⟨o', ho', by simpa using hv', rfl⟩
  | data =>
    cases horigin
    rfl
  | computed inheritProtection =>
    cases inheritProtection <;> cases horigin <;> rfl

theorem of_planEncapsulation {hKey : ℕ} {usage : CK_ATTRIBUTE_TYPE} {t : List CK_ATTRIBUTE}
    {check : AttributeMap → CK_RV}
    (h : planEncapsulation hSession hKey usage t check st = .ok attribs) :
    ∃ keyType isOnToken isPrivate,
      addTemplate (keyAttribs CKO_SECRET_KEY keyType isOnToken isPrivate) [CKA_CHECK_VALUE] t =
        .ok attribs ∨
      attribs = keyAttribs CKO_SECRET_KEY keyType isOnToken isPrivate ∧
        maxAttribs - attribs.length < t.length := by
  unfold planEncapsulation at h
  replace h := (of_check h).2
  obtain ⟨⟨s, key⟩, -, h⟩ := of_bind h
  replace h := (of_check h).2
  dsimp only at h
  rcases hx : extractObjectInformation t ⟨0, 0, 0, CK_FALSE, CK_TRUE⟩ false with ⟨rv, info⟩
  rw [hx] at h
  replace h := (of_check h).2
  replace h := (of_check h).2
  replace h := (of_check h).2
  replace h := (of_check h).2
  cases h
  refine ⟨info.keyType, info.isOnToken, info.isPrivate, ?_⟩
  split
  · rename_i hadd
    exact .inl hadd
  · rename_i rv hadd
    refine .inr ⟨rfl, ?_⟩
    unfold addTemplate at hadd
    split at hadd
    · rename_i hlt
      exact hlt
    · cases hadd

end plans

end SoftHSM.Create
