import SoftHSM.Library.Changes
import SoftHSM.Library.Creations

/-!
What a call that makes objects does to them, whether it succeeds or not: objects at other addresses
stay as they are, and what a new one shows is on the way of an object that is being made. After
a success it is an object that has been made.
-/

set_option linter.unusedSectionVars false

namespace SoftHSM.Create

open CK_RV Search P11Object OSObject
open RecordFile (Write)

variable {Obj Sess : Type} [DecidableEq Obj] [DecidableEq Sess]

/-! ### Keys -/

/-- An object that a call makes, and whether it is there after the call. -/
structure Job (Obj : Type) where
  making : Making Obj
  hSession : ℕ
  attribs : List CK_ATTRIBUTE
  op : ObjectOp
  supply : Supply
  kept : Bool

/-- What a new object may show after the call. -/
structure Outcome (P : Primitives) (x : Outside) (st : Store Obj Sess) (j : Job Obj)
    (st' : Store Obj Sess) : Prop where
  settled : (st'.object j.making.newObject).Settled
  listed : ∀ m', (st'.object j.making.newObject).shown = some m' →
    ∃ slotID, j.making.newObject ∈ st'.allObjects slotID
  leads : ∀ m', (st'.object j.making.newObject).shown = some m' →
    ∃ plan, planObject P x j.hSession (some j.attribs) st = .ok plan ∧
      (plan.changing j.op j.supply).Leads [] m'

/-- An object that a successful call has made. -/
def Done (P : Primitives) (x : Outside) (st : Store Obj Sess) (j : Job Obj)
    (st' : Store Obj Sess) : Prop :=
  ∃ plan m', planObject P x j.hSession (some j.attribs) st = .ok plan ∧
    Built plan j.op j.supply m' ∧ st'.object j.making.newObject = stored plan.onToken m'

section steps

variable {P : Primitives} {x : Outside} {st st' : Store Obj Sess} {j : Job Obj} {rv : CK_RV}
  {hKey k : ℕ} {plan : Plan}

/-- What is known of a new object before its handle is given back or removed. -/
structure Started (P : Primitives) (x : Outside) (st : Store Obj Sess) (j : Job Obj) (rv : CK_RV)
    (hKey : ℕ) (st' : Store Obj Sess) : Prop where
  settled : hKey = CK_INVALID_HANDLE → (st'.object j.making.newObject).Settled
  listed : ∃ slotID, j.making.newObject ∈ st'.allObjects slotID
  leads : ∀ m', (st'.object j.making.newObject).shown = some m' →
    ∃ plan, planObject P x j.hSession (some j.attribs) st = .ok plan ∧
      (plan.changing j.op j.supply).Leads [] m'
  done : rv = CKR_OK → Done P x st j st'

/-- What `makeObject` gives. -/
lemma makeObject_outcome {m : Making Obj} {op : ObjectOp} (supply : Supply)
    (hp : plan.p11object.attributes ≠ []) (h : op ≠ .SET) (h' : op ≠ .COPY) {y : OSObject}
    (hf : makeObject plan m op = (rv, some y)) :
    y.Settled ∧ (∀ m', y.shown = some m' → (plan.changing op supply).Leads [] m') ∧
    (rv = CKR_OK → ∃ m₀ m₁,
      plan.p11object.init m.stores (blank plan.onToken) = (true, stored plan.onToken m₀) ∧
      plan.p11object.updateAll plan.token (plan.info.isPrivate ≠ CK_FALSE) op plan.attribs m₀ =
        (CKR_OK, m₁) ∧
      incomplete plan.p11object op plan.attribs = false ∧
      y = stored plan.onToken (putAll (ownOf plan op) m₁)) := by
  have hfill : ((fillObject plan m op (blank plan.onToken)).1,
      some (fillObject plan m op (blank plan.onToken)).2) = (rv, some y) → _ := fun he =>
    fillObject_outcome supply hp h h' (show fillObject plan m op (blank plan.onToken) = (rv, y) by
      obtain ⟨h1, h2⟩ := Prod.mk.inj he
      exact Prod.ext h1 (Option.some.inj h2))
  unfold makeObject at hf
  by_cases ht : plan.info.isOnToken ≠ CK_FALSE
  · have hb : plan.onToken = true := decide_eq_true ht
    rw [if_pos ht] at hf
    rw [hb] at hfill ⊢
    cases hw : m.file with
    | done =>
      rw [hw] at hf
      exact hfill hf
    | refused =>
      rw [hw] at hf
      cases hf
    | torn =>
      rw [hw] at hf
      cases hf
      refine ⟨settled_of_invalid rfl, fun m' hm' => ?_, fun hr => by cases hr⟩
      cases hm'
      exact .refl
  · have hb : plan.onToken = false := decide_eq_false ht
    rw [if_neg ht] at hf
    rw [hb] at hfill ⊢
    exact hfill hf

/-- What `init` and the template have made of a new object. -/
def Plan.Filled (plan : Plan) (m : Making Obj) (op : ObjectOp) (y : OSObject) : Prop :=
  ∃ m₀ m₁, plan.p11object.init m.stores (blank plan.onToken) = (true, stored plan.onToken m₀) ∧
    plan.p11object.updateAll plan.token (plan.info.isPrivate ≠ CK_FALSE) op plan.attribs m₀ =
      (CKR_OK, m₁) ∧
    incomplete plan.p11object op plan.attribs = false ∧
    y = stored plan.onToken (putAll (ownOf plan op) m₁)

/-- **What `CreateObject` does to the new object**: nothing, or it is there, and has a handle exactly
if the call has succeeded. -/
theorem CreateObject_started {m : Making Obj} {hSession : ℕ} {t : List CK_ATTRIBUTE}
    {op : ObjectOp} (supply : Supply) (ho : st.handleManager.objects m.newObject = none)
    (hroom : Room (k + 1) st.handleManager) (hset : op ≠ .SET) (hcopy : op ≠ .COPY)
    (hr : CreateObject P x m hSession (some t) op st = (rv, hKey, st')) :
    rv ≠ CKR_OK ∧ hKey = CK_INVALID_HANDLE ∧ st' = st ∨
    ∃ plan y, planObject P x hSession (some t) st = .ok plan ∧ y.Settled ∧
      (∀ m', y.shown = some m' → (plan.changing op supply).Leads [] m') ∧
      (rv ≠ CKR_OK ∧ hKey = CK_INVALID_HANDLE ∧ st' = insertObject plan.slotID m y st ∨
        rv = CKR_OK ∧ plan.Filled m op y ∧ ∃ hm,
          st' = { insertObject plan.slotID m y st with handleManager := hm } ∧
          Issues m.newObject hKey st.handleManager.handles hm) := by
  cases hplan : planObject P x hSession (some t) st with
  | error rv' =>
    have hne : rv' ≠ CKR_OK := fun he => planObject_ne (he ▸ hplan)
    rw [CreateObject, hplan] at hr
    cases hr
    exact .inl ⟨hne, rfl, rfl⟩
  | ok plan =>
    rw [CreateObject_eq hplan] at hr
    rcases hmake : makeObject plan m op with ⟨rv', _ | y⟩
    · have hne : rv' ≠ CKR_OK := by
        -- an object that could not even be made is not answered with success
        rintro rfl
        unfold makeObject at hmake
        split at hmake
        · cases hw : m.file <;> rw [hw] at hmake <;> simp at hmake
        · simp at hmake
      rw [hmake] at hr
      have heq : (rv', CK_INVALID_HANDLE, st) = (rv, hKey, st') := by
        cases rv' <;> exact hr
      cases heq
      exact .inl ⟨hne, rfl, rfl⟩
    · obtain ⟨hsettled, hleads, hok⟩ :=
        makeObject_outcome supply (kind_ne_nil hplan) hset hcopy hmake
      rw [hmake] at hr
      refine .inr ⟨plan, y, rfl, hsettled, hleads, ?_⟩
      by_cases hne : rv' = CKR_OK
      · subst hne
        obtain ⟨h, hm, hadd, hi, -, -⟩ := addHandle_issues plan.slotID hSession
          (plan.info.isOnToken ≠ CK_FALSE) (plan.info.isPrivate ≠ CK_FALSE)
          (insertObject plan.slotID m y st) hroom ho
        dsimp only at hr
        rw [hadd] at hr
        cases hr
        exact .inr ⟨rfl, hok rfl, hm, rfl, hi⟩
      · have heq : (rv', CK_INVALID_HANDLE, insertObject plan.slotID m y st) = (rv, hKey, st') := by
          cases rv' <;> first | exact hr | exact absurd rfl hne
        cases heq
        exact .inl ⟨hne, rfl, rfl⟩

/-- **What `storeKey` does to the new object.** -/
theorem storeKey_started {aborts : Bool} (ho : st.handleManager.objects j.making.newObject = none)
    (hroom : Room (k + 1) st.handleManager) (hset : j.op ≠ .SET) (hcopy : j.op ≠ .COPY)
    (hs : ∀ m, j.supply m ≠ .error CKR_OK)
    (hr : storeKey P x j.making j.hSession j.attribs j.op aborts j.supply st = (rv, hKey, st')) :
    rv ≠ CKR_OK ∧ hKey = CK_INVALID_HANDLE ∧ st' = st ∨ Started P x st j rv hKey st' := by
  unfold storeKey at hr
  rcases hc : CreateObject P x j.making j.hSession (some j.attribs) j.op st with ⟨rv', h, st₁⟩
  rw [hc] at hr
  have hfail : rv' ≠ CKR_OK → (rv', h, st₁) = (rv, hKey, st') := by
    intro hne
    cases rv' <;> first | exact hr | exact absurd rfl hne
  rcases CreateObject_started j.supply ho hroom hset hcopy hc with
    ⟨hne, hinv, hst⟩ | ⟨plan, y, hplan, hsettled, hleads,
      ⟨hne, hinv, hst⟩ | ⟨rfl, ⟨m₀, m₁, hinit, hu, hinc, rfl⟩, hm, rfl, hi⟩⟩
  · cases hfail hne
    exact .inl ⟨hne, hinv, hst⟩
  · cases hfail hne
    subst hst
    refine .inr ⟨fun _ => ?_, ⟨plan.slotID, by simp [insertObject]⟩, ?_, fun he => absurd he hne⟩
    · rw [object_insertObject]
      exact hsettled
    · rw [object_insertObject]
      exact fun m' hm' => ⟨plan, hplan, hleads m' hm'⟩
  · dsimp only at hr
    rw [hi.getObject] at hr
    simp only [object_insertObject] at hr
    rcases hsup : supplyKey j.making.supply aborts j.supply
      (stored plan.onToken (putAll (ownOf plan j.op) m₁)) with ⟨rv'', y'⟩
    rw [hsup] at hr
    cases hr
    obtain ⟨hshown, hdone⟩ := supplyKey_outcome (hleads _ (shown_stored _)) ⟨m₀, m₁, hu, rfl⟩
      hs hsup
    refine .inr ⟨fun hinv => absurd hinv hi.valid, ⟨plan.slotID, by
      simp [Store.setObject, insertObject]⟩, fun m' hm' => ?_, fun he => ?_⟩
    · simp only [Store.setObject, Function.update_self] at hm'
      exact ⟨plan, hplan, hshown m' hm'⟩
    · obtain ⟨l, hl, rfl⟩ := hdone he
      refine ⟨plan, _, hplan, ⟨⟨_, m₀, m₁, l, hinit, hu, hl, rfl⟩, hinc⟩, ?_⟩
      simp only [Store.setObject, Function.update_self]

/-- A new object that is destroyed, or was never given a handle. -/
lemma Started.removed (h : Started P x st j rv hKey st') (r : Removal)
    (hget : hKey ≠ CK_INVALID_HANDLE →
      st'.handleManager.getObject hKey = some j.making.newObject) :
    Outcome P x st j (removeKey r hKey st') := by
  by_cases hinv : hKey = CK_INVALID_HANDLE
  · rw [hinv, removeKey_invalid]
    exact ⟨h.settled hinv, fun _ _ => h.listed, h.leads⟩
  rw [removeKey, if_neg hinv, hget hinv]
  dsimp only
  unfold destroyObject
  obtain ⟨slotID, hin⟩ := h.listed
  have hleads := h.leads
  dsimp only
  split
  · refine ⟨?_, fun m' hm' => ?_, fun m' hm' => ?_⟩ <;>
      simp only [Store.setObject, Function.update_self] at *
    · exact settled_of_invalid rfl
    · simp [shown] at hm'
    · simp [shown] at hm'
  · rename_i hc
    simp only [Bool.or_eq_true, Bool.and_eq_true, not_or, Bool.not_eq_true] at hc
    split
    · refine ⟨?_, fun m' hm' => ?_, fun m' hm' => ?_⟩ <;>
        simp only [Store.setObject, Function.update_self] at *
      · exact settled_of_invalid rfl
      · simp [shown] at hm'
      · simp [shown] at hm'
    · refine ⟨?_, fun m' hm' => ⟨slotID, hin⟩, fun m' hm' => ?_⟩ <;>
        simp only [Store.setObject, Function.update_self] at *
      · exact settled_of_invalid rfl
      · refine hleads m' ?_
        rw [shown_of_token hc.1]
        exact (shown_of_token (o := { st'.object j.making.newObject with
          attributes := [], valid := false }) hc.1).symm.trans hm'

/-- A new object that keeps its handle. -/
lemma Started.finished (h : Started P x st j rv hKey st') (hrv : rv = CKR_OK) :
    Outcome P x st j st' := by
  obtain ⟨plan, m', -, -, hy⟩ := h.done hrv
  refine ⟨?_, fun _ _ => h.listed, h.leads⟩
  rw [hy]
  exact settled_stored m'

/-- What other objects come to does not matter. -/
lemma Started.congr {st'' : Store Obj Sess} (h : Started P x st j rv hKey st')
    (hobj : st''.object j.making.newObject = st'.object j.making.newObject)
    (hmem : ∀ slotID, j.making.newObject ∈ st''.allObjects slotID ↔
      j.making.newObject ∈ st'.allObjects slotID) : Started P x st j rv hKey st'' := by
  obtain ⟨slotID, hin⟩ := h.listed
  refine ⟨hobj ▸ h.settled, ⟨slotID, (hmem slotID).2 hin⟩, hobj ▸ h.leads, fun hrv => ?_⟩
  obtain ⟨plan, m', hplan, hbuilt, hy⟩ := h.done hrv
  exact ⟨plan, m', hplan, hbuilt, hobj.trans hy⟩

lemma Outcome.congr {st'' : Store Obj Sess} (h : Outcome P x st j st')
    (hobj : st''.object j.making.newObject = st'.object j.making.newObject)
    (hmem : ∀ slotID, j.making.newObject ∈ st''.allObjects slotID ↔
      j.making.newObject ∈ st'.allObjects slotID) : Outcome P x st j st'' := by
  refine ⟨hobj ▸ h.settled, fun m' hm' => ?_, hobj ▸ h.leads⟩
  obtain ⟨slotID, hin⟩ := h.listed m' (hobj ▸ hm')
  exact ⟨slotID, (hmem slotID).2 hin⟩

/-- What a job is done from: another state with the same sessions. -/
lemma Started.from {st₀ : Store Obj Sess} (h : Started P x st j rv hKey st')
    (hplan : planObject P x j.hSession (some j.attribs) st =
      planObject P x j.hSession (some j.attribs) st₀) : Started P x st₀ j rv hKey st' := by
  refine ⟨h.settled, h.listed, hplan ▸ h.leads, fun hrv => ?_⟩
  obtain ⟨plan, m', hp, hrest⟩ := h.done hrv
  exact ⟨plan, m', hplan ▸ hp, hrest⟩

end steps

/-! ### One key -/

section key

variable {P : Primitives} {x : Outside} {st st₀ : Store Obj Sess} {j : Job Obj} {news : List Obj}
  {k : ℕ}

lemma removeKey_of_ne {o o' : Obj} {h : ℕ} (r : Removal)
    (hget : h ≠ CK_INVALID_HANDLE → st.handleManager.getObject h = some o) (hne : o' ≠ o) :
    (removeKey r h st).object o' = st.object o' ∧
      ∀ slotID, o' ∈ (removeKey r h st).allObjects slotID ↔ o' ∈ st.allObjects slotID := by
  by_cases hinv : h = CK_INVALID_HANDLE
  · rw [hinv, removeKey_invalid]
    exact ⟨rfl, fun _ => Iff.rfl⟩
  · rw [removeKey, if_neg hinv, hget hinv]
    obtain ⟨hmem, hobj⟩ := @destroyObject_of_ne Obj Sess _ _ { st with
      handleManager := (st.handleManager.destroyObject h).1 } o o' hne r
    exact ⟨hobj, hmem⟩

/-- **What `storeKey` does**: without a handle, or with one. -/
theorem storeKey_split (aborts : Bool) (hb : Beside news st₀ st)
    (hn : j.making.newObject ∈ news) (hnew : ¬ Left j.making.newObject st)
    (ho : st.handleManager.objects j.making.newObject = none)
    (hroom : Room (k + 1) st.handleManager) (hset : j.op ≠ .SET) (hcopy : j.op ≠ .COPY)
    (hs : ∀ m, j.supply m ≠ .error CKR_OK) {rv : CK_RV} {hKey : ℕ} {st' : Store Obj Sess}
    (hr : storeKey P x j.making j.hSession j.attribs j.op aborts j.supply st = (rv, hKey, st')) :
    rv ≠ CKR_OK ∧ hKey = CK_INVALID_HANDLE ∧ st'.handleManager = st.handleManager ∧
      Around news st₀ j.making.newObject st st' ∧
      (st' = st ∨ Started P x st j rv CK_INVALID_HANDLE st') ∨
    Started P x st j rv hKey st' ∧
      Issues j.making.newObject hKey st.handleManager.handles st'.handleManager ∧
      Room k st'.handleManager ∧ Around news st₀ j.making.newObject st st' := by
  have hstarted := storeKey_started ho hroom hset hcopy hs hr
  cases hplan : planObject P x j.hSession (some j.attribs) st with
  | error rv' =>
    have hne : rv' ≠ CKR_OK := fun he => planObject_ne (he ▸ hplan)
    have hr' : storeKey P x j.making j.hSession j.attribs j.op aborts j.supply st =
        (rv', CK_INVALID_HANDLE, st) := by
      rw [storeKey, CreateObject, hplan]
      cases rv' <;> first | rfl | exact absurd rfl hne
    rw [hr'] at hr
    cases hr
    exact .inl ⟨hne, rfl, rfl, .refl hb, .inl rfl⟩
  | ok plan =>
    rcases storeKey_cases aborts hb hn hnew ho hroom hplan (kind_ne_nil hplan) hset hcopy hs with
      ⟨rv', st'', hr', hne, -, hhm, haround, -⟩ |
      ⟨rv', hKey', st'', hr', -, -, hi, hroom', haround, -⟩ <;>
      rw [hr] at hr' <;> cases hr'
    · exact .inl ⟨hne, rfl, hhm, haround, hstarted.imp (fun hl => hl.2.2) id⟩
    · exact .inr ⟨hstarted.resolve_left fun hl => hi.valid hl.2.1, hi, hroom', haround⟩

/-- The call has done its job on the objects. -/
structure Finished (P : Primitives) (x : Outside) (st : Store Obj Sess) (j : Job Obj)
    (rv : CK_RV) (st' : Store Obj Sess) : Prop where
  others : ∀ o ≠ j.making.newObject, st'.object o = st.object o
  outcome : st'.object j.making.newObject = st.object j.making.newObject ∨ Outcome P x st j st'
  done : rv = CKR_OK → Done P x st j st'

/-- **What a call that makes one key does to the objects.** -/
theorem key_finished (aborts : Bool) (h : Nothing news (k + 1) st₀ st)
    (hn : j.making.newObject ∈ news) (ho : st.handleManager.objects j.making.newObject = none)
    (hset : j.op ≠ .SET) (hcopy : j.op ≠ .COPY) (hs : ∀ m, j.supply m ≠ .error CKR_OK)
    (buffer : CK_RV) :
    let r := storeKey P x j.making j.hSession j.attribs j.op aborts j.supply st
    let r' := cleanUp j.making.removal (if r.1 = CKR_OK then (buffer, r.2) else r)
    Finished P x st j r'.1 r'.2.2 := by
  dsimp only
  rcases hr : storeKey P x j.making j.hSession j.attribs j.op aborts j.supply st with ⟨rv, hKey, st'⟩
  rcases storeKey_split aborts h.beside hn (h.left _ hn) ho h.room hset hcopy hs hr with
    ⟨hne, rfl, -, haround, hst⟩ | ⟨hstarted, hi, -, haround⟩
  · rw [if_neg hne, cleanUp_of_ne hne]
    refine ⟨fun o hno => ?_, ?_, fun he => absurd he hne⟩
    · rw [removeKey_invalid]
      exact haround.object o hno
    · rcases hst with rfl | hstarted
      · exact .inl (by rw [removeKey_invalid])
      · exact .inr (hstarted.removed j.making.removal fun hinv => absurd rfl hinv)
  · have hgone : ∀ rv' : CK_RV, rv' ≠ CKR_OK →
        Finished P x st j (cleanUp j.making.removal (rv', hKey, st')).1
          (cleanUp j.making.removal (rv', hKey, st')).2.2 := by
      intro rv' hne
      rw [cleanUp_of_ne hne]
      exact ⟨fun o hno => (removeKey_of_ne _ (fun _ => hi.getObject) hno).1.trans
        (haround.object o hno), .inr (hstarted.removed _ fun _ => hi.getObject),
        fun he => absurd he hne⟩
    by_cases hrv : rv = CKR_OK
    · rw [if_pos hrv]
      by_cases hbuf : buffer = CKR_OK
      · subst hbuf
        exact ⟨haround.object, .inr (hstarted.finished hrv), fun _ => hstarted.done hrv⟩
      · exact hgone buffer hbuf
    · rw [if_neg hrv]
      exact hgone rv hrv

end key

/-! ### Every call -/

/-- What a call has to make, where its checks let it. -/
def Creation.Makes (P : Primitives) (x : Outside) (st : Store Obj Sess) (j : Job Obj) :
    Creation Obj → Prop
  | .createObject m hSession pTemplate => ∃ t, pTemplate = some t ∧
    j = ⟨m, hSession, t, .CREATE, fun _ => .ok [], true⟩
  | .generateKey m hSession mechanism pTemplate generate => ∃ attribs supply,
    planGenerateKey x hSession mechanism pTemplate generate st = .ok (attribs, supply) ∧
    j = ⟨m, hSession, attribs, .GENERATE, supply, true⟩
  | .generateKeyPair mPublic mPrivate hSession mechanism pPublicKeyTemplate pPrivateKeyTemplate
      generate => ∃ publicKeyAttribs privateKeyAttribs pair,
    planGenerateKeyPair x hSession mechanism pPublicKeyTemplate pPrivateKeyTemplate generate st =
      .ok (publicKeyAttribs, privateKeyAttribs, pair) ∧
    (j = ⟨mPublic, hSession, publicKeyAttribs, .GENERATE,
        supplyOf (generatedPublic mechanism) pair.publicKey, true⟩ ∨
      ∃ attribs, privateKeyAttribs = .ok attribs ∧ j = ⟨mPrivate, hSession, attribs, .GENERATE,
        supplyOf (generated mechanism) pair.privateKey, true⟩)
  | .unwrapKey m hSession hUnwrappingKey pTemplate check inconsistent unwrapping material =>
    ∃ token attribs,
    planUnwrapKey P x hSession hUnwrappingKey pTemplate check inconsistent st =
      .ok (token, attribs) ∧
    match unwrapping with
    | .direct keydata => ∃ data, keydata = .ok data ∧
      j = ⟨m, hSession, attribs, .UNWRAP, supplyOf unwrapped (material data), true⟩
    | .rsaAes emphkeydata m' keydata => ∃ emphkey, emphkeydata = .ok emphkey ∧
      (j = ⟨m', hSession, emphkeyAttribs, .UNWRAP,
          supplyOf unwrapped (some (emphkeyMaterial token emphkey)), false⟩ ∨
        ∃ data, keydata = .ok data ∧
          j = ⟨m, hSession, attribs, .UNWRAP, supplyOf unwrapped (material data), true⟩)
  | .deriveKey m hSession hBaseKey pTemplate derivation check derive => ∃ attribs supply,
    planDeriveKey hSession hBaseKey pTemplate derivation check derive st = .ok (attribs, supply) ∧
    j = ⟨m, hSession, attribs, .DERIVE, supply, true⟩
  | .encapsulateKey m hSession hPublicKey pTemplate check hasBuffer late material _ =>
    ∃ attribs, planEncapsulation hSession hPublicKey CKA_ENCAPSULATE pTemplate check st =
      .ok attribs ∧ hasBuffer = true ∧
    j = ⟨m, hSession, attribs, .DERIVE, supplySecret late material, true⟩
  | .decapsulateKey m hSession hPrivateKey pTemplate check late material =>
    ∃ attribs, planEncapsulation hSession hPrivateKey CKA_DECAPSULATE pTemplate check st =
      .ok attribs ∧
    j = ⟨m, hSession, attribs, .DECAPSULATE, supplySecret late material, true⟩

section calls

variable {P : Primitives} {x : Outside} {st st' : Store Obj Sess} {j : Job Obj} {rv : CK_RV}

/-- What a call does to the objects. -/
structure Creation.Finished (P : Primitives) (x : Outside) (st : Store Obj Sess)
    (c : Creation Obj) (rv : CK_RV) (st' : Store Obj Sess) : Prop where
  others : ∀ o ∉ c.news, st'.object o = st.object o
  outcome : ∀ o ∈ c.news, st'.object o = st.object o ∨
    ∃ j, c.Makes P x st j ∧ j.making.newObject = o ∧ Outcome P x st j st'
  done : rv = CKR_OK → ∀ j, c.Makes P x st j → j.kept = true → Done P x st j st'
  gone : rv = CKR_OK → ∀ j, c.Makes P x st j → j.kept = false →
    st'.object j.making.newObject = st.object j.making.newObject ∨
      (st'.object j.making.newObject).shown = none

/-- A call with one job. -/
lemma Finished.call {c : Creation Obj} (h : Finished P x st j rv st') (hkept : j.kept = true)
    (hnews : c.news = [j.making.newObject]) (hmakes : ∀ j', c.Makes P x st j' ↔ j' = j) :
    c.Finished P x st rv st' := by
  refine ⟨fun o ho => h.others o ?_, fun o ho => ?_, fun hrv j' hj' _ => ?_,
    fun _ j' hj' hk => ?_⟩
  · rintro rfl
    exact ho (hnews ▸ List.mem_cons_self)
  · rw [hnews, List.mem_singleton] at ho
    subst ho
    exact h.outcome.imp id fun ho => ⟨j, (hmakes j).2 rfl, rfl, ho⟩
  · rw [(hmakes j').1 hj']
    exact h.done hrv
  · rw [(hmakes j').1 hj', hkept] at hk
    cases hk

/-- A call that has nothing to make. -/
lemma Creation.Finished.refused {c : Creation Obj} (h : ∀ j, ¬ c.Makes P x st j) :
    c.Finished P x st rv st :=
  ⟨fun _ _ => rfl, fun _ _ => .inl rfl, fun _ j hj => absurd hj (h j),
    fun _ j hj => absurd hj (h j)⟩

/-- A call that makes one key and does nothing more. -/
lemma makeKey_finished {news : List Obj} {st₀ : Store Obj Sess} {k : ℕ} (aborts : Bool)
    (h : Nothing news (k + 1) st₀ st) (hn : j.making.newObject ∈ news)
    (ho : st.handleManager.objects j.making.newObject = none)
    (hset : j.op ≠ .SET) (hcopy : j.op ≠ .COPY) (hs : ∀ m, j.supply m ≠ .error CKR_OK) :
    Finished P x st j
      (makeKey P x j.making j.hSession j.attribs j.op aborts j.supply st).1
      (makeKey P x j.making j.hSession j.attribs j.op aborts j.supply st).2.2 := by
  have hkey := key_finished (P := P) (x := x) aborts h hn ho hset hcopy hs CKR_OK
  have heq : (if (storeKey P x j.making j.hSession j.attribs j.op aborts j.supply st).1 = CKR_OK then
      (CKR_OK, (storeKey P x j.making j.hSession j.attribs j.op aborts j.supply st).2)
      else storeKey P x j.making j.hSession j.attribs j.op aborts j.supply st) =
      storeKey P x j.making j.hSession j.attribs j.op aborts j.supply st := by
    split
    · rename_i hok
      rw [← hok]
    · rfl
  dsimp only at hkey
  rw [heq] at hkey
  exact hkey

/-- `C_CreateObject` stores nothing besides what `CreateObject` does. -/
lemma createObject_finished {m : Making Obj} {hSession : ℕ} {t : List CK_ATTRIBUTE}
    (h : Ready [m.newObject] st) :
    Finished P x st ⟨m, hSession, t, .CREATE, fun _ => .ok [], true⟩
      (C_CreateObject P x m hSession (some t) st).1
      (C_CreateObject P x m hSession (some t) st).2.2 := by
  have hn : m.newObject ∈ [m.newObject] := List.mem_cons_self
  have hset : ObjectOp.CREATE ≠ .SET := by decide
  have hcopy : ObjectOp.CREATE ≠ .COPY := by decide
  unfold C_CreateObject
  rcases hc : CreateObject P x m hSession (some t) .CREATE st with ⟨rv', h', st₁⟩
  rcases CreateObject_started (fun _ => .ok []) (h.objects _ hn) h.nothing.room hset hcopy hc with
    ⟨hne, -, rfl⟩ | ⟨plan, y, hplan, hsettled, hleads,
      ⟨hne, -, rfl⟩ | ⟨rfl, ⟨m₀, m₁, hinit, hu, hinc, rfl⟩, hm, rfl, -⟩⟩
  · exact ⟨fun _ _ => rfl, .inl rfl, fun he => absurd he hne⟩
  · have hothers : ∀ o ≠ m.newObject, (insertObject plan.slotID m y st).object o = st.object o :=
      fun o ho => object_insert_of_ne ho
    refine ⟨hothers, .inr ⟨?_, fun _ _ => ⟨plan.slotID, by
      simp [insertObject]⟩, ?_⟩, fun he => absurd he hne⟩ <;>
      simp only [object_insertObject]
    · exact hsettled
    · exact fun m' hm' => ⟨plan, hplan, hleads m' hm'⟩
  · have hothers : ∀ o ≠ m.newObject, (insertObject plan.slotID m
        (stored plan.onToken (putAll (ownOf plan .CREATE) m₁)) st).object o = st.object o :=
      fun o ho => object_insert_of_ne ho
    refine ⟨hothers, .inr ⟨?_, fun _ _ => ⟨plan.slotID, by
      simp [insertObject]⟩, ?_⟩, fun _ => ⟨plan, _, hplan,
        ⟨⟨_, m₀, m₁, [], hinit, hu, rfl, rfl⟩, hinc⟩, ?_⟩⟩ <;>
      simp only [object_insertObject]
    · exact hsettled
    · exact fun m' hm' => ⟨plan, hplan, hleads m' hm'⟩
    · rfl

/-- What a call does to the objects that makes two keys. -/
structure PairFinished (P : Primitives) (x : Outside) (st : Store Obj Sess) (jPublic : Job Obj)
    (jPrivate : Except CK_RV (Job Obj)) (oPrivate : Obj) (rv : CK_RV) (st' : Store Obj Sess) :
    Prop where
  others : ∀ o ∉ [jPublic.making.newObject, oPrivate], st'.object o = st.object o
  outcome : st'.object jPublic.making.newObject = st.object jPublic.making.newObject ∨
    Outcome P x st jPublic st'
  outcome' : st'.object oPrivate = st.object oPrivate ∨
    ∃ j, jPrivate = .ok j ∧ j.making.newObject = oPrivate ∧ Outcome P x st j st'
  done : rv = CKR_OK → Done P x st jPublic st' ∧ ∀ j, jPrivate = .ok j → Done P x st j st'

/-- **What a call that makes two keys does to the objects.** -/
theorem makePair_finished {mPublic mPrivate : Making Obj} {hSession : ℕ}
    {publicKeyAttribs : List CK_ATTRIBUTE} {privateKeyAttribs : Except CK_RV (List CK_ATTRIBUTE)}
    {supplyPublic supplyPrivate : Supply} (h : Ready [mPublic.newObject, mPrivate.newObject] st)
    (hs : ∀ m, supplyPublic m ≠ .error CKR_OK) (hs' : ∀ m, supplyPrivate m ≠ .error CKR_OK)
    (hprivate : privateKeyAttribs ≠ .error CKR_OK) {phPublicKey phPrivateKey : ℕ}
    (hr : makePair P x mPublic mPrivate hSession publicKeyAttribs privateKeyAttribs supplyPublic
      supplyPrivate st = (rv, phPublicKey, phPrivateKey, st')) :
    PairFinished P x st ⟨mPublic, hSession, publicKeyAttribs, .GENERATE, supplyPublic, true⟩
      (privateKeyAttribs.map fun attribs =>
        ⟨mPrivate, hSession, attribs, .GENERATE, supplyPrivate, true⟩)
      mPrivate.newObject rv st' := by
  have hnothing := h.nothing
  have hset : ObjectOp.GENERATE ≠ .SET := by decide
  have hcopy : ObjectOp.GENERATE ≠ .COPY := by decide
  have hne : mPrivate.newObject ≠ mPublic.newObject := by
    have hnd := h.nodup
    simp only [List.nodup_cons, List.mem_singleton] at hnd
    exact fun he => hnd.1 he.symm
  have hpublic : mPublic.newObject ∈ [mPublic.newObject, mPrivate.newObject] := List.mem_cons_self
  have hpriv : mPrivate.newObject ∈ [mPublic.newObject, mPrivate.newObject] := by simp
  unfold makePair at hr
  rcases hr₁ : storeKey P x mPublic hSession publicKeyAttribs .GENERATE true supplyPublic st with
    ⟨rv₁, h₁, st₁⟩
  rw [hr₁] at hr
  have hsplit := storeKey_split (j := ⟨mPublic, hSession, publicKeyAttribs, .GENERATE,
    supplyPublic, true⟩) true hnothing.beside hpublic (hnothing.left _ hpublic)
    (h.objects _ hpublic) hnothing.room hset hcopy hs hr₁
  have hfail : rv₁ ≠ CKR_OK → (rv₁, CK_INVALID_HANDLE, CK_INVALID_HANDLE,
      removeKey mPublic.removal h₁ st₁) = (rv, phPublicKey, phPrivateKey, st') := by
    intro hne
    cases rv₁ <;> first | exact hr | exact absurd rfl hne
  rcases hsplit with ⟨hne₁, rfl, -, haround, hst⟩ | ⟨hstarted, hi, hroom, haround⟩
  · cases hfail hne₁
    have hobj : ∀ o ≠ mPublic.newObject,
        (removeKey mPublic.removal CK_INVALID_HANDLE st₁).object o = st.object o := fun o hno => by
      rw [removeKey_invalid]
      exact haround.object o hno
    refine ⟨fun o ho => hobj o fun he => ho (he ▸ hpublic), ?_, .inl (hobj _ hne),
      fun he => absurd he hne₁⟩
    rcases hst with rfl | hstarted
    · exact .inl (by rw [removeKey_invalid])
    · exact .inr (hstarted.removed _ fun hinv => absurd rfl hinv)
  -- the public key has its handle
  have hremoved : ∀ rv' : CK_RV, rv' ≠ CKR_OK →
      PairFinished P x st ⟨mPublic, hSession, publicKeyAttribs, .GENERATE, supplyPublic, true⟩
        (privateKeyAttribs.map fun attribs =>
          ⟨mPrivate, hSession, attribs, .GENERATE, supplyPrivate, true⟩)
        mPrivate.newObject rv' (removeKey mPublic.removal h₁ st₁) := by
    intro rv' hne'
    have hobj : ∀ o ≠ mPublic.newObject,
        (removeKey mPublic.removal h₁ st₁).object o = st.object o := fun o hno =>
      (removeKey_of_ne _ (fun _ => hi.getObject) hno).1.trans (haround.object o hno)
    exact ⟨fun o ho => hobj o fun he => ho (he ▸ hpublic),
      .inr (hstarted.removed _ fun _ => hi.getObject), .inl (hobj _ hne),
      fun he => absurd he hne'⟩
  by_cases hok₁ : rv₁ = CKR_OK
  swap
  · cases hfail hok₁
    exact hremoved _ hok₁
  subst hok₁
  cases privateKeyAttribs with
  | error rv₂ =>
    cases hr
    exact hremoved _ fun he => hprivate (by rw [he])
  | ok attribs =>
    dsimp only at hr
    rcases hr₂ : storeKey P x mPrivate hSession attribs .GENERATE true supplyPrivate st₁ with
      ⟨rv₂, h₂, st₂⟩
    rw [hr₂] at hr
    have hfresh : st₁.handleManager.objects mPrivate.newObject = none := by
      rw [haround.fresh _ hne]
      exact h.objects _ hpriv
    have hnl : ¬ Left mPrivate.newObject st₁ := by
      rw [haround.others hne]
      exact hnothing.left _ hpriv
    have hsame : planObject P x hSession (some attribs) st₁ =
        planObject P x hSession (some attribs) st :=
      planObject_congr haround.isInitialised (hi.getSession hSession) haround.session haround.sdm
    have hsplit := storeKey_split (j := ⟨mPrivate, hSession, attribs, .GENERATE, supplyPrivate,
      true⟩) true haround.beside hpriv hnl hfresh hroom hset hcopy hs' hr₂
    have hfail : rv₂ ≠ CKR_OK → (rv₂, CK_INVALID_HANDLE, CK_INVALID_HANDLE,
        removeKey mPublic.removal h₁ (removeKey mPrivate.removal h₂ st₂)) =
        (rv, phPublicKey, phPrivateKey, st') := by
      intro hne
      cases rv₂ <;> first | exact hr | exact absurd rfl hne
    -- whatever has become of the private key, the public one is removed as it was
    have hboth : rv₂ ≠ CKR_OK → Around [mPublic.newObject, mPrivate.newObject] st
          mPrivate.newObject st₁ st₂ →
        (removeKey mPrivate.removal h₂ st₂).handleManager.getObject h₁ = some mPublic.newObject →
        (∀ o ≠ mPrivate.newObject, (removeKey mPrivate.removal h₂ st₂).object o = st₂.object o ∧
          ∀ slotID, o ∈ (removeKey mPrivate.removal h₂ st₂).allObjects slotID ↔
            o ∈ st₂.allObjects slotID) →
        ((removeKey mPrivate.removal h₂ st₂).object mPrivate.newObject =
            st₁.object mPrivate.newObject ∨
          Outcome P x st ⟨mPrivate, hSession, attribs, .GENERATE, supplyPrivate, true⟩
            (removeKey mPrivate.removal h₂ st₂)) →
        PairFinished P x st ⟨mPublic, hSession, publicKeyAttribs, .GENERATE, supplyPublic, true⟩
          (.ok ⟨mPrivate, hSession, attribs, .GENERATE, supplyPrivate, true⟩)
          mPrivate.newObject rv₂
          (removeKey mPublic.removal h₁ (removeKey mPrivate.removal h₂ st₂)) := by
      intro hne₂ har hget hothers hout
      have hpub := hothers _ hne.symm
      have hobj : ∀ o ≠ mPublic.newObject,
          (removeKey mPublic.removal h₁ (removeKey mPrivate.removal h₂ st₂)).object o =
            (removeKey mPrivate.removal h₂ st₂).object o ∧
          ∀ slotID, o ∈ (removeKey mPublic.removal h₁
              (removeKey mPrivate.removal h₂ st₂)).allObjects slotID ↔
            o ∈ (removeKey mPrivate.removal h₂ st₂).allObjects slotID :=
        fun o hno => removeKey_of_ne _ (fun _ => hget) hno
      have hst := hstarted.congr (hpub.1.trans (har.object _ hne.symm)) fun slotID =>
        (hpub.2 slotID).trans (har.mem _ hne.symm slotID)
      refine ⟨fun o ho => ?_, .inr (hst.removed _ fun _ => hget), ?_, fun he => absurd he hne₂⟩
      · have h1 : o ≠ mPublic.newObject := fun he => ho (he ▸ hpublic)
        have h2 : o ≠ mPrivate.newObject := fun he => ho (he ▸ hpriv)
        rw [(hobj o h1).1, (hothers o h2).1, har.object o h2, haround.object o h1]
      · rcases hout with hout | hout
        · exact .inl (by rw [(hobj _ hne).1, hout, haround.object _ hne])
        · exact .inr ⟨_, rfl, rfl, hout.congr (hobj _ hne).1 (hobj _ hne).2⟩
    rcases hsplit with ⟨hne₂, rfl, hhm, haround', hst⟩ | ⟨hstarted', hi', -, haround'⟩
    · cases hfail hne₂
      refine hboth hne₂ haround' ?_ ?_ ?_
      · rw [removeKey_invalid, hhm, hi.getObject]
      · rw [removeKey_invalid]
        exact fun _ _ => ⟨rfl, fun _ => Iff.rfl⟩
      · rcases hst with rfl | hstarted'
        · exact .inl (by rw [removeKey_invalid])
        · exact .inr ((hstarted'.from hsame).removed _ fun hinv => absurd rfl hinv)
    · by_cases hok₂ : rv₂ = CKR_OK
      swap
      · cases hfail hok₂
        refine hboth hok₂ haround' ?_ (fun o hno =>
          removeKey_of_ne _ (fun _ => hi'.getObject) hno)
          (.inr ((hstarted'.from hsame).removed _ fun _ => hi'.getObject))
        rw [removeKey_eq hi', (destroyObject_frame _ _ _).1]
        unfold HandleManager.getObject
        dsimp only
        rw [hi'.destroy]
        exact hi.getObject
      · subst hok₂
        cases hr
        have hpub := hstarted.congr (haround'.object _ hne.symm) (haround'.mem _ hne.symm)
        have hpriv' := hstarted'.from hsame
        refine ⟨fun o ho => ?_, .inr (hpub.finished rfl), .inr ⟨_, rfl, rfl, hpriv'.finished rfl⟩,
          fun _ => ⟨hpub.done rfl, ?_⟩⟩
        · have h1 : o ≠ mPublic.newObject := fun he => ho (he ▸ hpublic)
          have h2 : o ≠ mPrivate.newObject := fun he => ho (he ▸ hpriv)
          rw [haround'.object o h2, haround.object o h1]
        · rintro _ ⟨⟩
          exact hpriv'.done rfl

lemma present_of_shown {o : OSObject} {m : AttributeMap} (h : o.shown = some m) :
    present o = true := by
  unfold shown at h
  unfold present
  cases hs : o.isSession <;> rw [hs] at h
  · simp only [Bool.false_eq_true, if_false] at h
    simp [h]
  · cases hv : o.valid
    · simp [hv] at h
    · rfl

/-- An object that is not left shows nothing. -/
lemma Outcome.shown_none (h : Outcome P x st j st') (hl : ¬ Left j.making.newObject st') :
    (st'.object j.making.newObject).shown = none := by
  by_contra hne
  obtain ⟨m', hm'⟩ := Option.ne_none_iff_exists'.1 hne
  exact hl ⟨h.listed m' hm', present_of_shown hm'⟩

lemma Outcome.of_none (hs : (st'.object j.making.newObject).Settled)
    (h : (st'.object j.making.newObject).shown = none) : Outcome P x st j st' := by
  refine ⟨hs, fun m' hm' => ?_, fun m' hm' => ?_⟩ <;> rw [h] at hm' <;> cases hm'

/-- The job of a call, from a state before that the call has come from. -/
lemma Outcome.from {st₀ : Store Obj Sess} (h : Outcome P x st j st')
    (hplan : planObject P x j.hSession (some j.attribs) st =
      planObject P x j.hSession (some j.attribs) st₀) : Outcome P x st₀ j st' :=
  ⟨h.settled, h.listed, hplan ▸ h.leads⟩

/-- **What a call that unwraps a key does to the objects.** -/
theorem unwrap_finished {m : Making Obj} {hSession hUnwrappingKey : ℕ}
    {pTemplate : Option (List CK_ATTRIBUTE)} {check : AttributeMap → CK_RV}
    {inconsistent : UInt64 → CK_KEY_TYPE → Bool} {unwrapping : Unwrapping Obj}
    {material : ByteString → Option Material}
    (h : Ready (Creation.unwrapKey m hSession hUnwrappingKey pTemplate check inconsistent unwrapping
      material).news st) :
    (Creation.unwrapKey m hSession hUnwrappingKey pTemplate check inconsistent unwrapping
      material).Finished P x st
      (C_UnwrapKey P x m hSession hUnwrappingKey pTemplate check inconsistent unwrapping material
        st).1
      (C_UnwrapKey P x m hSession hUnwrappingKey pTemplate check inconsistent unwrapping material
        st).2.2 := by
  have hset : ObjectOp.UNWRAP ≠ .SET := by decide
  have hcopy : ObjectOp.UNWRAP ≠ .COPY := by decide
  unfold C_UnwrapKey
  cases hplan : planUnwrapKey P x hSession hUnwrappingKey pTemplate check inconsistent st with
  | error rv =>
    refine .refused ?_
    rintro j ⟨token, attribs, hp, -⟩
    rw [hplan] at hp
    cases hp
  | ok r =>
    obtain ⟨token, attribs⟩ := r
    cases unwrapping with
    | direct keydata =>
      cases keydata with
      | error rv =>
        refine .refused ?_
        rintro j ⟨token, attribs, hp, data, hd, -⟩
        cases hd
      | ok data =>
        have hnew : m.newObject ∈ [m.newObject] := List.mem_cons_self
        have hfin := makeKey_finished (P := P) (x := x) (j := ⟨m, hSession, attribs,
          .UNWRAP, supplyOf unwrapped (material data), true⟩) true h.nothing hnew (h.objects _ hnew)
          hset hcopy (supplyOf_ne _ _)
        refine hfin.call rfl rfl fun j' => ?_
        constructor
        · rintro ⟨token', attribs', hp, data', hd, rfl⟩
          rw [hplan] at hp
          cases hp
          cases hd
          rfl
        · rintro rfl
          exact ⟨token, attribs, hplan, data, rfl, rfl⟩
    | rsaAes emphkeydata m' keydata =>
      cases emphkeydata with
      | error rv =>
        refine .refused ?_
        rintro j ⟨token, attribs, hp, emphkey, hd, -⟩
        cases hd
      | ok emphkey =>
        have hnothing := h.nothing
        have hne : m.newObject ≠ m'.newObject := by
          have hnd := h.nodup
          simp only [Creation.news, List.nodup_cons, List.mem_singleton] at hnd
          exact fun he => hnd.1 he.symm
        have hnew : m'.newObject ∈ [m'.newObject, m.newObject] := List.mem_cons_self
        let jAes : Job Obj := ⟨m', hSession, emphkeyAttribs, .UNWRAP,
          supplyOf unwrapped (some (emphkeyMaterial token emphkey)), false⟩
        have hmakes : (Creation.unwrapKey m hSession hUnwrappingKey pTemplate check inconsistent
            (.rsaAes (.ok emphkey) m' keydata) material).Makes P x st jAes :=
          ⟨token, attribs, hplan, emphkey, rfl, .inl rfl⟩
        rcases hr : storeKey P x m' hSession emphkeyAttribs .UNWRAP true
          (supplyOf unwrapped (some (emphkeyMaterial token emphkey))) st with ⟨rv, hKey, st₁⟩
        have hmech : UnwrapMechRsaAesKw P x m' hSession token (.ok emphkey) keydata st =
            (if rv = CKR_OK then keydata else .error rv, removeKey m'.removal hKey st₁) := by
          rw [UnwrapMechRsaAesKw, hr]
          cases rv <;> rfl
        dsimp only
        rw [hmech]
        -- the AES key is gone, and nothing else has changed
        have hafter : (∀ o ≠ m'.newObject,
              (removeKey m'.removal hKey st₁).object o = st.object o) ∧
            ((removeKey m'.removal hKey st₁).object m'.newObject = st.object m'.newObject ∨
              Outcome P x st jAes (removeKey m'.removal hKey st₁)) ∧
            (rv = CKR_OK → Nothing [m'.newObject, m.newObject] 1 st (removeKey m'.removal hKey st₁) ∧
              (removeKey m'.removal hKey st₁).handleManager.objects m.newObject = none ∧
              ∀ t, planObject P x hSession t (removeKey m'.removal hKey st₁) =
                planObject P x hSession t st) := by
          rcases storeKey_split (j := jAes) true hnothing.beside hnew (hnothing.left _ hnew)
              (h.objects _ hnew) hnothing.room hset hcopy
              (supplyOf_ne unwrapped (some (emphkeyMaterial token emphkey))) hr with
            ⟨hne₁, rfl, -, haround, hst⟩ | ⟨hstarted, hi, hroom, haround⟩
          · refine ⟨fun o hno => ?_, ?_, fun he => absurd he hne₁⟩
            · rw [removeKey_invalid]
              exact haround.object o hno
            · rcases hst with rfl | hstarted
              · exact .inl (by rw [removeKey_invalid])
              · exact .inr (hstarted.removed _ fun hinv => absurd rfl hinv)
          · refine ⟨fun o hno => (removeKey_of_ne _ (fun _ => hi.getObject) hno).1.trans
              (haround.object o hno), .inr (hstarted.removed _ fun _ => hi.getObject), fun he => ?_⟩
            obtain ⟨slotID, hin⟩ := hstarted.listed
            obtain ⟨plan, m₂, hp, -, hy⟩ := hstarted.done he
            obtain ⟨hhandles, hroom', har, hl⟩ :=
              removeKey_cases haround.beside hnew hi hroom hy hin m'.removal
            have hremains : remains m'.removal (stored plan.onToken m₂) = false := by
              rw [emphkey_onToken hp]
              rfl
            refine ⟨⟨har.beside, fun o ho => ?_, hhandles, hroom'⟩, ?_, fun t => ?_⟩
            · rcases List.mem_cons.1 ho with rfl | ho
              · change ¬ Left jAes.making.newObject _
                rw [hl, hremains]
                simp
              · rw [List.mem_singleton.1 ho, har.others hne, haround.others hne]
                exact hnothing.left _ (List.mem_cons_of_mem _ List.mem_cons_self)
            · rw [har.fresh _ hne, haround.fresh _ hne]
              exact h.objects _ (List.mem_cons_of_mem _ List.mem_cons_self)
            · refine planObject_congr (har.isInitialised.trans haround.isInitialised) ?_
                (har.session.trans haround.session) (har.sdm.trans haround.sdm)
              rw [HandleManager.getSession, hhandles, HandleManager.getSession]
        obtain ⟨hothers, haes, hrest⟩ := hafter
        have hrefused : ∀ rv' : CK_RV,
            (rv' = CKR_OK → rv = CKR_OK ∧ ∀ data, keydata ≠ .ok data) →
            (Creation.unwrapKey m hSession hUnwrappingKey pTemplate check inconsistent
              (.rsaAes (.ok emphkey) m' keydata) material).Finished P x st rv'
              (removeKey m'.removal hKey st₁) := by
          intro rv' hrv'
          refine ⟨fun o ho => hothers o fun he => ho (he ▸ hnew), fun o ho => ?_,
            fun he j hj hk => ?_, fun he j hj hk => ?_⟩
          · rcases List.mem_cons.1 ho with rfl | ho
            · exact haes.imp id fun ho => ⟨jAes, hmakes, rfl, ho⟩
            · rw [List.mem_singleton.1 ho]
              exact .inl (hothers _ hne)
          · obtain ⟨-, hno⟩ := hrv' he
            obtain ⟨_, _, -, _, -, rfl | ⟨data, hd, -⟩⟩ := hj
            · cases hk
            · exact absurd hd (hno data)
          · obtain ⟨hok, -⟩ := hrv' he
            obtain ⟨_, _, hp, _, hd, rfl | ⟨data, -, rfl⟩⟩ := hj
            · exact haes.imp id fun hout => hout.shown_none ((hrest hok).1.left _ hnew)
            · cases hk
        by_cases hok : rv = CKR_OK
        swap
        · rw [if_neg hok]
          exact hrefused rv fun he => absurd he hok
        rw [if_pos hok]
        obtain ⟨hnot, hfresh, hsame⟩ := hrest hok
        cases keydata with
        | error rv' => exact hrefused rv' fun _ => ⟨hok, fun _ hd => by cases hd⟩
        | ok data =>
          have hfin := makeKey_finished (P := P) (x := x) (j := ⟨m, hSession,
            attribs, .UNWRAP, supplyOf unwrapped (material data), true⟩) true hnot (by simp) hfresh
            hset hcopy (supplyOf_ne _ _)
          have hmakes' : (Creation.unwrapKey m hSession hUnwrappingKey pTemplate check inconsistent
              (.rsaAes (.ok emphkey) m' (.ok data)) material).Makes P x st ⟨m, hSession, attribs,
                .UNWRAP, supplyOf unwrapped (material data), true⟩ :=
            ⟨token, attribs, hplan, emphkey, rfl, .inr ⟨data, rfl, rfl⟩⟩
          refine ⟨fun o ho => ?_, fun o ho => ?_, fun he j hj hk => ?_, fun he j hj hk => ?_⟩
          · have h1 : o ≠ m'.newObject := fun he => ho (he ▸ hnew)
            have h2 : o ≠ m.newObject := fun he =>
              ho (he ▸ List.mem_cons_of_mem _ List.mem_cons_self)
            rw [hfin.others o h2]
            exact hothers o h1
          · rcases List.mem_cons.1 ho with rfl | ho
            · have hobj := hfin.others _ hne.symm
              rcases haes with hsame' | hout
              · exact .inl (hobj.trans hsame')
              · refine .inr ⟨jAes, hmakes, rfl, .of_none ?_ ?_⟩
                · exact hobj ▸ hout.settled
                · exact hobj ▸ hout.shown_none (hnot.left _ hnew)
            · rw [List.mem_singleton.1 ho]
              rcases hfin.outcome with hsame' | hout
              · exact .inl (hsame'.trans (hothers _ hne))
              · exact .inr ⟨_, hmakes', rfl, hout.from (hsame _)⟩
          · obtain ⟨_, _, hp, _, -, rfl | ⟨data', hd, rfl⟩⟩ := hj
            · cases hk
            · rw [hplan] at hp
              cases hp
              cases hd
              obtain ⟨plan, m₂, hp', hbuilt, hy⟩ := hfin.done he
              exact ⟨plan, m₂, (hsame _).symm.trans hp', hbuilt, hy⟩
          · obtain ⟨_, _, -, _, -, rfl | ⟨data', -, rfl⟩⟩ := hj
            · have hobj := hfin.others _ hne.symm
              exact haes.imp hobj.trans fun hout => hobj ▸ hout.shown_none (hnot.left _ hnew)
            · cases hk

/-- **What a call that makes objects does to them**, whether it succeeds or not. -/
theorem creation_finished (c : Creation Obj) (h : Ready c.news st) :
    c.Finished P x st (c.exec P x st).1 (c.exec P x st).2 := by
  cases c with
  | createObject m hSession pTemplate =>
    simp only [Creation.exec]
    cases pTemplate with
    | none =>
      have hr : C_CreateObject P x m hSession none st =
          ((C_CreateObject P x m hSession none st).1, CK_INVALID_HANDLE, st) := by
        unfold C_CreateObject CreateObject
        cases hp : planObject P x hSession none st with
        | error rv => rfl
        | ok plan =>
          obtain ⟨t, s, ht, -⟩ := of_planObject hp
          cases ht
      rw [hr]
      refine .refused ?_
      rintro j ⟨t, ht, -⟩
      cases ht
    | some t =>
      refine (createObject_finished h).call rfl rfl fun j => ?_
      constructor
      · rintro ⟨t', ht, rfl⟩
        cases ht
        rfl
      · rintro rfl
        exact ⟨t, rfl, rfl⟩
  | generateKey m hSession mechanism pTemplate generate =>
    have hn : m.newObject ∈ [m.newObject] := List.mem_cons_self
    simp only [Creation.exec, C_GenerateKey]
    cases hplan : planGenerateKey x hSession mechanism pTemplate generate st with
    | error rv =>
      refine .refused ?_
      rintro j ⟨_, _, hp, -⟩
      rw [hplan] at hp
      cases hp
    | ok r =>
      obtain ⟨attribs, supply⟩ := r
      obtain ⟨_, _, _, _, _, _, origin, material, -, rfl, -⟩ := of_planGenerateKey hplan
      refine (makeKey_finished (j := ⟨m, hSession, attribs, .GENERATE, supplyOf origin material,
        true⟩) true h.nothing hn (h.objects _ hn) (fun he => by cases he) (fun he => by cases he) (supplyOf_ne _ _)).call rfl rfl
        fun j => ?_
      constructor
      · rintro ⟨_, _, hp, rfl⟩
        rw [hplan] at hp
        cases hp
        rfl
      · rintro rfl
        exact ⟨_, _, hplan, rfl⟩
  | generateKeyPair mPublic mPrivate hSession mechanism pPublicKeyTemplate pPrivateKeyTemplate
      generate =>
    simp only [Creation.exec, C_GenerateKeyPair]
    cases hplan : planGenerateKeyPair x hSession mechanism pPublicKeyTemplate pPrivateKeyTemplate
        generate st with
    | error rv =>
      refine .refused ?_
      rintro j ⟨_, _, _, hp, -⟩
      rw [hplan] at hp
      cases hp
    | ok r =>
      obtain ⟨publicKeyAttribs, privateKeyAttribs, pair⟩ := r
      obtain ⟨_, _, _, _, _, _, _, _, _, _, -, -, hprivate⟩ := of_planGenerateKeyPair hplan
      have hne : privateKeyAttribs ≠ .error CKR_OK := by
        rw [hprivate]
        exact addTemplate_ne _ _ _
      rcases hr : makePair P x mPublic mPrivate hSession publicKeyAttribs privateKeyAttribs
        (supplyOf (generatedPublic mechanism) pair.publicKey)
        (supplyOf (generated mechanism) pair.privateKey) st with ⟨rv, hPublic, hPrivate, st'⟩
      have hfin := makePair_finished h (supplyOf_ne _ _) (supplyOf_ne _ _) hne hr
      dsimp only
      rw [hr]
      refine ⟨hfin.others, fun o ho => ?_, fun he j hj _ => ?_, fun _ j hj hk => ?_⟩
      · rcases List.mem_cons.1 ho with rfl | ho
        · exact hfin.outcome.imp id fun ho => ⟨_, ⟨_, _, _, hplan, .inl rfl⟩, rfl, ho⟩
        · rw [List.mem_singleton.1 ho]
          refine hfin.outcome'.imp id ?_
          rintro ⟨j, hj, hnew, hout⟩
          cases privateKeyAttribs with
          | error rv => cases hj
          | ok attribs =>
            cases hj
            exact ⟨_, ⟨_, _, _, hplan, .inr ⟨attribs, rfl, rfl⟩⟩, rfl, hout⟩
      · obtain ⟨_, _, _, hp, rfl | ⟨attribs, ha, rfl⟩⟩ := hj <;> rw [hplan] at hp <;> cases hp
        · exact (hfin.done he).1
        · exact (hfin.done he).2 _ (by rw [ha]; rfl)
      · obtain ⟨_, _, _, _, rfl | ⟨_, _, rfl⟩⟩ := hj <;> cases hk
  | unwrapKey m hSession hUnwrappingKey pTemplate check inconsistent unwrapping material =>
    exact unwrap_finished h
  | deriveKey m hSession hBaseKey pTemplate derivation check derive =>
    have hn : m.newObject ∈ [m.newObject] := List.mem_cons_self
    simp only [Creation.exec, C_DeriveKey]
    cases hplan : planDeriveKey hSession hBaseKey pTemplate derivation check derive st with
    | error rv =>
      refine .refused ?_
      rintro j ⟨_, _, hp, -⟩
      rw [hplan] at hp
      cases hp
    | ok r =>
      obtain ⟨attribs, supply⟩ := r
      obtain ⟨_, origin, result, _, _, _, _, _, -, -, -, rfl, -⟩ := of_planDeriveKey hplan
      refine (makeKey_finished (j := ⟨m, hSession, attribs, .DERIVE, supplyOf origin
        result.material, true⟩) true h.nothing hn (h.objects _ hn) (fun he => by cases he) (fun he => by cases he)
        (supplyOf_ne _ _)).call rfl rfl fun j => ?_
      constructor
      · rintro ⟨_, _, hp, rfl⟩
        rw [hplan] at hp
        cases hp
        rfl
      · rintro rfl
        exact ⟨_, _, hplan, rfl⟩
  | encapsulateKey m hSession hPublicKey pTemplate check hasBuffer late material buffer =>
    have hn : m.newObject ∈ [m.newObject] := List.mem_cons_self
    simp only [Creation.exec, C_EncapsulateKey]
    cases hplan : planEncapsulation hSession hPublicKey CKA_ENCAPSULATE pTemplate check st with
    | error rv =>
      refine .refused ?_
      rintro j ⟨_, hp, -⟩
      rw [hplan] at hp
      cases hp
    | ok attribs =>
      cases hasBuffer
      · refine .refused ?_
        rintro j ⟨_, -, hb, -⟩
        cases hb
      · simp only [Bool.not_true, Bool.false_eq_true, if_false]
        refine (key_finished (j := ⟨m, hSession, attribs, .DERIVE, supplySecret late material,
          true⟩) true h.nothing hn (h.objects _ hn) (fun he => by cases he) (fun he => by cases he)
          (supplySecret_ne late material) buffer).call rfl rfl fun j => ?_
        constructor
        · rintro ⟨_, hp, -, rfl⟩
          rw [hplan] at hp
          cases hp
          rfl
        · rintro rfl
          exact ⟨_, hplan, rfl, rfl⟩
  | decapsulateKey m hSession hPrivateKey pTemplate check late material =>
    have hn : m.newObject ∈ [m.newObject] := List.mem_cons_self
    simp only [Creation.exec, C_DecapsulateKey]
    cases hplan : planEncapsulation hSession hPrivateKey CKA_DECAPSULATE pTemplate check st with
    | error rv =>
      refine .refused ?_
      rintro j ⟨_, hp, -⟩
      rw [hplan] at hp
      cases hp
    | ok attribs =>
      refine (makeKey_finished (j := ⟨m, hSession, attribs, .DECAPSULATE, supplySecret late
        material, true⟩) _ h.nothing hn (h.objects _ hn) (fun he => by cases he) (fun he => by cases he)
        (supplySecret_ne late material)).call rfl rfl fun j => ?_
      constructor
      · rintro ⟨_, hp, rfl⟩
        rw [hplan] at hp
        cases hp
        rfl
      · rintro rfl
        exact ⟨_, hplan, rfl⟩

end calls

end SoftHSM.Create
