import SoftHSM.Library.KeyUse

/-!
What `slots.mechanisms` and `CKA_ALLOWED_MECHANISMS` keep out. The calls that begin or make
something without a key never ask whether the mechanism is permitted, and only the first key of a
call is asked what it allows.
-/

namespace SoftHSM.Create

open CK_RV Search

variable {Obj Sess : Type}

/-- A key that says what it is for allows the mechanism. -/
def Allows (key : AttributeMap) (mechanism : CK_MECHANISM_TYPE) : Prop :=
  allowedMechanisms key = ∅ ∨ mechanism ∈ allowedMechanisms key

lemma isMechanismPermitted_iff {supported : List CK_MECHANISM_TYPE} {key : AttributeMap}
    {mechanism : CK_MECHANISM_TYPE} :
    isMechanismPermitted supported (some key) mechanism = true ↔
      mechanism ∈ supported ∧ Allows key mechanism := by
  unfold isMechanismPermitted Allows
  by_cases hm : mechanism ∈ supported
  · by_cases hempty : allowedMechanisms key = ∅
    · simp [hm, hempty]
    · simp [hm, hempty]
  · simp [hm]

namespace MechanismCall

/-- The calls that never ask. -/
def unasked : MechanismCall → Bool
  | .digestInit | .generateKey | .generateKeyPair => true
  | _ => false

/-- The handle of the second key that a call uses. -/
def second (mechanism : CK_MECHANISM_TYPE) : MechanismCall → Option ℕ
  | .wrapKey _ hKey => some hKey
  | .deriveKey _ hOtherKey _ =>
    if mechanism = CKM_CONCATENATE_BASE_AND_KEY then some hOtherKey else none
  | _ => none

/-- The policy holds of a call that succeeds: the mechanism is enabled, and every key that is used
allows it. -/
def Obeys (policy : List CK_MECHANISM_TYPE) (mechanism : CK_MECHANISM_TYPE) (used : List Used) :
    Prop :=
  mechanism ∈ policy ∧ ∀ u ∈ used, Allows u.key.attributes mechanism

/-- What the library does not look after itself: a call that never asks is made for an enabled
mechanism, as is every call where the profile has put its own list in place, and a second key
allows the mechanism. -/
def Covered (policy : List CK_MECHANISM_TYPE) (st : Store Obj Sess)
    (mechanism : CK_MECHANISM_TYPE) (call : MechanismCall) : Prop :=
  (call.unasked = true ∨ st.fakeRutokenECP = true → mechanism ∈ policy) ∧
    ∀ hKey ∈ call.second mechanism, ∀ o ∈ st.handleManager.getObject hKey,
      Allows (st.object o).attributes mechanism

variable {supported policy : List CK_MECHANISM_TYPE} {b : Build} {hSession : ℕ} {m : Mechanism}
  {rest : CK_RV} {st : Store Obj Sess} {used : List Used} {call : MechanismCall}

/-- What each call has used when it succeeds: nothing if it never asks; else a first key that was
checked, and the object of the second handle if there is one. -/
lemma of_perform (h : call.perform supported b hSession (some m) rest st = .ok used) :
    (call.unasked = true ∧ used = []) ∨
      ∃ key usage hKey use, call.unasked = false ∧
        Usable supported st hSession hKey usage m.mechanism key ∧
        match call.second m.mechanism with
        | none => used = [⟨use, key⟩]
        | some hSecond => ∃ o use', st.handleManager.getObject hSecond = some o ∧
            used = [⟨use, key⟩, ⟨use', st.object o⟩] := by
  cases call with
  | digestInit => exact .inl ⟨rfl, of_C_DigestInit h⟩
  | generateKey => exact .inl ⟨rfl, of_generates h⟩
  | generateKeyPair => exact .inl ⟨rfl, of_generates h⟩
  | encryptInit hKey | decryptInit hKey | signInit hKey | verifyInit hKey =>
    obtain ⟨key, types, rfl, hu, -, -⟩ := of_keyInit h
    exact .inr ⟨key, _, hKey, _, rfl, hu, rfl⟩
  | wrapKey hWrappingKey hKey =>
    obtain ⟨wrapKey, key, rfl, hu, hr, -⟩ := of_C_WrapKey h
    obtain ⟨o, ho, rfl⟩ := hr.object
    exact .inr ⟨wrapKey, _, hWrappingKey, _, rfl, hu, o, _, ho, rfl⟩
  | unwrapKey hUnwrappingKey template =>
    obtain ⟨key, rfl, hu, -⟩ := of_useToUnwrap h
    exact .inr ⟨key, _, hUnwrappingKey, _, rfl, hu, rfl⟩
  | deriveKey hBaseKey hOtherKey template =>
    obtain ⟨key, hu, -, -, -, hused⟩ := of_useToDerive h
    refine .inr ⟨key, _, hBaseKey, .derive, rfl, hu, ?_⟩
    dsimp only [second]
    by_cases hconcat : m.mechanism = CKM_CONCATENATE_BASE_AND_KEY
    · rw [if_pos hconcat] at hused ⊢
      obtain ⟨o, ho, -, rfl⟩ := hused
      exact ⟨o, _, ho, rfl⟩
    · rw [if_neg hconcat] at hused ⊢
      exact hused
  | encapsulateKey hPublicKey template =>
    obtain ⟨key, rfl, hu, -⟩ := of_useToEncapsulate h
    exact .inr ⟨key, _, hPublicKey, _, rfl, hu, rfl⟩
  | decapsulateKey hPrivateKey template =>
    obtain ⟨key, rfl, hu, -⟩ := of_useToEncapsulate h
    exact .inr ⟨key, _, hPrivateKey, _, rfl, hu, rfl⟩

lemma second_unasked (h : call.unasked = true) (mechanism : CK_MECHANISM_TYPE) :
    call.second mechanism = none := by
  cases call with
  | digestInit | generateKey | generateKeyPair => rfl
  | _ => cases h

/-- With its own list in force, the library asks for what the policy enables. -/
lemma obeys_iff_covered (hsupported : st.fakeRutokenECP = false → supported = policy)
    (h : call.perform supported b hSession (some m) rest st = .ok used) :
    Obeys policy m.mechanism used ↔ call.Covered policy st m.mechanism := by
  unfold Obeys Covered
  rcases of_perform h with ⟨hunasked, rfl⟩ | ⟨key, usage, hKey, use, hunasked, hu, hused⟩
  · rw [second_unasked hunasked]
    simp [hunasked]
  · obtain ⟨hin, hallows⟩ := isMechanismPermitted_iff.1 hu.permitted
    have hpolicy : m.mechanism ∈ policy ↔ (call.unasked = true ∨ st.fakeRutokenECP = true →
        m.mechanism ∈ policy) := by
      constructor
      · exact fun h _ => h
      · intro h
        by_cases hfake : st.fakeRutokenECP = true
        · exact h (.inr hfake)
        · rw [← hsupported (by simpa using hfake)]
          exact hin
    refine and_congr hpolicy ?_
    cases hsecond : call.second m.mechanism with
    | none =>
      rw [hsecond] at hused
      cases hused
      simp [hallows]
    | some hSecond =>
      rw [hsecond] at hused
      obtain ⟨o, use', ho, rfl⟩ := hused
      simp [hallows, ho]

end MechanismCall

lemma supportedMechanisms_plain (b : Build) (mechs : String) :
    supportedMechanisms b mechs false = prepareSupportedMechanisms (mechanisms_table b) mechs :=
  rfl

/-- What is reported is the list. -/
lemma C_GetMechanismList_reports (slots : CK_SLOT_ID → Bool) (l : List CK_MECHANISM_TYPE)
    {slotID : CK_SLOT_ID} (hslot : slots slotID = true) (count : ℕ) :
    C_GetMechanismList true slots l slotID false (some count) = (CKR_OK, some l.length, none) ∧
    C_GetMechanismList true slots l slotID true (some count) =
      if count < l.length then (CKR_BUFFER_TOO_SMALL, some l.length, none)
      else (CKR_OK, some l.length, some l) := by
  simp [C_GetMechanismList, hslot]

/-- **The mechanism policy.** For every build and every string: the list has exactly the mechanisms
that the string enables, each once if and only if the string names none twice where that counts;
it is what is reported outside the profile; and a call that succeeds obeys it, and the keys it
uses, if and only if what the library does not look after itself holds of the call. -/
theorem mechanism_policy (b : Build) (mechs : String) :
    (∀ m, m ∈ supportedMechanisms b mechs false ↔ Enables (mechanisms_table b) mechs m) ∧
    ((supportedMechanisms b mechs false).Nodup ↔ NamedOnce (mechanisms_table b) mechs) ∧
    (∀ (slots : CK_SLOT_ID → Bool) (slotID : CK_SLOT_ID) (count : ℕ), slots slotID = true →
      let l := supportedMechanisms b mechs false
      C_GetMechanismList true slots l slotID false (some count) = (CKR_OK, some l.length, none) ∧
      C_GetMechanismList true slots l slotID true (some count) =
        if count < l.length then (CKR_BUFFER_TOO_SMALL, some l.length, none)
        else (CKR_OK, some l.length, some l)) ∧
    ∀ (st : Store Obj Sess) (call : MechanismCall) (hSession : ℕ) (m : Mechanism) (rest : CK_RV)
      (used : List Used),
      call.perform (supportedMechanisms b mechs st.fakeRutokenECP) b hSession (some m) rest st =
        .ok used →
      (MechanismCall.Obeys (supportedMechanisms b mechs false) m.mechanism used ↔
        call.Covered (supportedMechanisms b mechs false) st m.mechanism) := by
  have htable := namesOnce_mechanisms_table b
  simp only [supportedMechanisms_plain]
  refine ⟨fun m => mem_prepareSupportedMechanisms htable,
    nodup_prepareSupportedMechanisms htable, fun slots slotID count hslot =>
    C_GetMechanismList_reports slots _ hslot count, ?_⟩
  intro st call hSession m rest used h
  refine MechanismCall.obeys_iff_covered (fun hfake => ?_) h
  rw [hfake, supportedMechanisms_plain]

/-- One public session, and no objects. -/
def publicSession : Store ℕ Unit where
  isInitialised := true
  fakeRutokenECP := false
  handleManager := (HandleManager.empty.addSession 0 ()).2
  session := fun _ => ⟨0, true, .none, none⟩
  sdm := fun _ => ⟨[], [], false, false, [], []⟩
  allObjects := fun _ => []
  object := fun _ => ⟨true, [], false, none, false⟩

/-- A digest that is not enabled begins, and a mechanism that is named twice is listed twice. -/
theorem digest_is_not_asked :
    (MechanismCall.digestInit.perform (supportedMechanisms plainBuild "CKM_AES_ECB" false)
      plainBuild 1 (some ⟨CKM_SHA256, CKR_OK⟩) CKR_OK publicSession = .ok [] ∧
      CKM_SHA256 ∉ supportedMechanisms plainBuild "CKM_AES_ECB" false) ∧
    ¬ (supportedMechanisms plainBuild "CKM_SHA256,CKM_SHA256" false).Nodup := by
  have hnames : names "CKM_AES_ECB" = ["CKM_AES_ECB"] := by decide +kernel
  refine ⟨⟨rfl, ?_⟩, ?_⟩
  · intro hmem
    rw [supportedMechanisms_plain] at hmem
    obtain ⟨n, hn, hnamed⟩ := (mem_prepareSupportedMechanisms
      (namesOnce_mechanisms_table plainBuild)).1 hmem
    have hname : n = "CKM_AES_ECB" := by
      rcases hnamed with hall | hnamed
      · exact absurd hall (by decide)
      · rw [if_neg (by decide), hnames] at hnamed
        exact List.mem_singleton.1 hnamed
    rw [hname] at hn
    exact absurd (mem_mechanisms_table (OrderedMap.mem_of_get hn)) (by decide +kernel)
  · intro hnodup
    have htwice : names "CKM_SHA256,CKM_SHA256" = ["CKM_SHA256", "CKM_SHA256"] := by
      decide +kernel
    have hknown := isSome_mechanisms_table (b := plainBuild) (n := "CKM_SHA256")
      (by decide +kernel)
    rw [supportedMechanisms_plain] at hnodup
    rcases (nodup_prepareSupportedMechanisms (namesOnce_mechanisms_table plainBuild)).1 hnodup
      with hall | hminus | honce
    · exact absurd hall (by decide)
    · exact absurd hminus (by decide)
    · rw [htwice] at honce
      simp [hknown] at honce

end SoftHSM.Create
