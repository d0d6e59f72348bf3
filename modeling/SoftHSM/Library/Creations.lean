import SoftHSM.Library.Atomic
import SoftHSM.Library.Plans
import SoftHSM.Library.SearchAgrees

/-!
The calls that make objects, together: when a call that fails leaves the objects and the handles
as they were.
-/

set_option linter.unusedSectionVars false

namespace SoftHSM.Create

open CK_RV Search P11Object OSObject
open RecordFile (Write)

variable {Obj Sess : Type} [DecidableEq Obj] [DecidableEq Sess]

/-! ### The calls -/

/-- A call that makes objects, with how its making turns out. -/
inductive Creation (Obj : Type)
  | createObject (m : Making Obj) (hSession : ℕ) (pTemplate : Option (List CK_ATTRIBUTE))
  | generateKey (m : Making Obj) (hSession : ℕ) (mechanism : CK_MECHANISM_TYPE)
      (pTemplate : Option (List CK_ATTRIBUTE))
      (generate : List CK_ATTRIBUTE → Except CK_RV (Option Material))
  | generateKeyPair (mPublic mPrivate : Making Obj) (hSession : ℕ) (mechanism : CK_MECHANISM_TYPE)
      (pPublicKeyTemplate pPrivateKeyTemplate : Option (List CK_ATTRIBUTE))
      (generate : List CK_ATTRIBUTE → List CK_ATTRIBUTE → Except CK_RV Pair)
  | unwrapKey (m : Making Obj) (hSession hUnwrappingKey : ℕ)
      (pTemplate : Option (List CK_ATTRIBUTE)) (check : AttributeMap → CK_RV)
      (inconsistent : UInt64 → CK_KEY_TYPE → Bool) (unwrapping : Unwrapping Obj)
      (material : ByteString → Option Material)
  | deriveKey (m : Making Obj) (hSession hBaseKey : ℕ) (pTemplate : Option (List CK_ATTRIBUTE))
      (derivation : Derivation) (check : AttributeMap → CK_KEY_TYPE → CK_RV)
      (derive : AttributeMap → List CK_ATTRIBUTE → Except CK_RV DerivedKey)
  | encapsulateKey (m : Making Obj) (hSession hPublicKey : ℕ) (pTemplate : List CK_ATTRIBUTE)
      (check : AttributeMap → CK_RV) (hasBuffer : Bool) (late : CK_RV) (material : Option Material)
      (buffer : CK_RV)
  | decapsulateKey (m : Making Obj) (hSession hPrivateKey : ℕ) (pTemplate : List CK_ATTRIBUTE)
      (check : AttributeMap → CK_RV) (late : CK_RV) (material : Option Material)

/-- The answer of a call, and the store after it. -/
def Creation.exec (P : Primitives) (x : Outside) (c : Creation Obj) (st : Store Obj Sess) :
    CK_RV × Store Obj Sess :=
  match c with
  | .createObject m hSession pTemplate =>
    let r := C_CreateObject P x m hSession pTemplate st
    (r.1, r.2.2)
  | .generateKey m hSession mechanism pTemplate generate =>
    let r := C_GenerateKey P x m hSession mechanism pTemplate generate st
    (r.1, r.2.2)
  | .generateKeyPair mPublic mPrivate hSession mechanism pPublicKeyTemplate pPrivateKeyTemplate
      generate =>
    let r := C_GenerateKeyPair P x mPublic mPrivate hSession mechanism pPublicKeyTemplate
      pPrivateKeyTemplate generate st
    (r.1, r.2.2.2)
  | .unwrapKey m hSession hUnwrappingKey pTemplate check inconsistent unwrapping material =>
    let r := C_UnwrapKey P x m hSession hUnwrappingKey pTemplate check inconsistent unwrapping
      material st
    (r.1, r.2.2)
  | .deriveKey m hSession hBaseKey pTemplate derivation check derive =>
    let r := C_DeriveKey P x m hSession hBaseKey pTemplate derivation check derive st
    (r.1, r.2.2)
  | .encapsulateKey m hSession hPublicKey pTemplate check hasBuffer late material buffer =>
    let r := C_EncapsulateKey P x m hSession hPublicKey pTemplate check hasBuffer late material
      buffer st
    (r.1, r.2.2)
  | .decapsulateKey m hSession hPrivateKey pTemplate check late material =>
    let r := C_DecapsulateKey P x m hSession hPrivateKey pTemplate check late material st
    (r.1, r.2.2)

/-- The addresses of the objects that a call may make. -/
def Creation.news : Creation Obj → List Obj
  | .createObject m _ _ => [m.newObject]
  | .generateKey m _ _ _ _ => [m.newObject]
  | .generateKeyPair mPublic mPrivate _ _ _ _ _ => [mPublic.newObject, mPrivate.newObject]
  | .unwrapKey m _ _ _ _ _ unwrapping _ =>
    match unwrapping with
    | .direct _ => [m.newObject]
    | .rsaAes _ m' _ => [m'.newObject, m.newObject]
  | .deriveKey m _ _ _ _ _ _ => [m.newObject]
  | .encapsulateKey m _ _ _ _ _ _ _ _ => [m.newObject]
  | .decapsulateKey m _ _ _ _ _ _ => [m.newObject]

/-- New objects are at new addresses, which no handle is kept for, and handles do not run out. -/
structure Ready (news : List Obj) (st : Store Obj Sess) : Prop where
  nodup : news.Nodup
  lists : ∀ o ∈ news, ∀ slotID, o ∉ st.allObjects slotID
  objects : ∀ o ∈ news, st.handleManager.objects o = none
  rep : ∃ home, HandleManager.Rep home st.handleManager
  room : st.handleManager.handleCounter + 2 < 2 ^ 64

/-! ### When a call that fails leaves nothing -/

/-- A key that is made leaves nothing when the call fails: an object that cannot be completed
cannot be read either, and one that has its handle can be removed, if it has to be. -/
def KeyAtomic (P : Primitives) (x : Outside) (m : Making Obj) (hSession : ℕ)
    (attribs : List CK_ATTRIBUTE) (op : ObjectOp) (supply : Supply) (buffer : CK_RV)
    (st : Store Obj Sess) : Prop :=
  ∀ plan, planObject P x hSession (some attribs) st = .ok plan → Clean plan m op ∧
    (Made plan m op → Supplied plan m op supply ∧ buffer = CKR_OK ∨ Removable plan m op supply)

/-- Of two keys the public one has to be removed also where the private one fails. -/
def PairAtomic (P : Primitives) (x : Outside) (mPublic mPrivate : Making Obj) (hSession : ℕ)
    (publicKeyAttribs : List CK_ATTRIBUTE) (privateKeyAttribs : Except CK_RV (List CK_ATTRIBUTE))
    (supplyPublic supplyPrivate : Supply) (st : Store Obj Sess) : Prop :=
  ∀ plan, planObject P x hSession (some publicKeyAttribs) st = .ok plan →
    Clean plan mPublic .GENERATE ∧
    (Made plan mPublic .GENERATE → Supplied plan mPublic .GENERATE supplyPublic →
      (∀ attribs, privateKeyAttribs = .ok attribs →
        KeyAtomic P x mPrivate hSession attribs .GENERATE supplyPrivate CKR_OK st) ∧
      ((∃ attribs plan', privateKeyAttribs = .ok attribs ∧
          planObject P x hSession (some attribs) st = .ok plan' ∧
          Made plan' mPrivate .GENERATE ∧ Supplied plan' mPrivate .GENERATE supplyPrivate) ∨
        Removable plan mPublic .GENERATE supplyPublic)) ∧
    (Made plan mPublic .GENERATE → ¬ Supplied plan mPublic .GENERATE supplyPublic →
      Removable plan mPublic .GENERATE supplyPublic)

/-- The AES key of a key that is wrapped twice leaves nothing, and where it is made, the key that
is unwrapped with it. -/
def UnwrapAtomic (P : Primitives) (x : Outside) (m : Making Obj) (hSession : ℕ)
    (attribs : List CK_ATTRIBUTE) (unwrapping : Unwrapping Obj)
    (material : ByteString → Option Material) (st : Store Obj Sess) : Prop :=
  match unwrapping with
  | .direct keydata => ∀ data, keydata = .ok data →
    KeyAtomic P x m hSession attribs .UNWRAP (supplyOf unwrapped (material data)) CKR_OK st
  | .rsaAes emphkeydata m' keydata => ∀ emphkey, emphkeydata = .ok emphkey →
    ∀ plan, planObject P x hSession (some emphkeyAttribs) st = .ok plan →
      Clean plan m' .UNWRAP ∧ (Made plan m' .UNWRAP → ∀ data, keydata = .ok data →
        KeyAtomic P x m hSession attribs .UNWRAP (supplyOf unwrapped (material data)) CKR_OK st)

/-- When a call leaves nothing if it fails. -/
def Creation.Atomic (P : Primitives) (x : Outside) (st : Store Obj Sess) : Creation Obj → Prop
  | .createObject m hSession pTemplate =>
    ∀ plan, planObject P x hSession pTemplate st = .ok plan → Clean plan m .CREATE
  | .generateKey m hSession mechanism pTemplate generate => ∀ attribs supply,
    planGenerateKey x hSession mechanism pTemplate generate st = .ok (attribs, supply) →
    KeyAtomic P x m hSession attribs .GENERATE supply CKR_OK st
  | .generateKeyPair mPublic mPrivate hSession mechanism pPublicKeyTemplate pPrivateKeyTemplate
      generate => ∀ publicKeyAttribs privateKeyAttribs pair,
    planGenerateKeyPair x hSession mechanism pPublicKeyTemplate pPrivateKeyTemplate generate st =
      .ok (publicKeyAttribs, privateKeyAttribs, pair) →
    PairAtomic P x mPublic mPrivate hSession publicKeyAttribs privateKeyAttribs
      (supplyOf (generatedPublic mechanism) pair.publicKey)
      (supplyOf (generated mechanism) pair.privateKey) st
  | .unwrapKey m hSession hUnwrappingKey pTemplate check inconsistent unwrapping material =>
    ∀ token attribs,
    planUnwrapKey P x hSession hUnwrappingKey pTemplate check inconsistent st =
      .ok (token, attribs) →
    UnwrapAtomic P x m hSession attribs unwrapping material st
  | .deriveKey m hSession hBaseKey pTemplate derivation check derive => ∀ attribs supply,
    planDeriveKey hSession hBaseKey pTemplate derivation check derive st = .ok (attribs, supply) →
    KeyAtomic P x m hSession attribs .DERIVE supply CKR_OK st
  | .encapsulateKey m hSession hPublicKey pTemplate check hasBuffer late material buffer =>
    ∀ attribs, planEncapsulation hSession hPublicKey CKA_ENCAPSULATE pTemplate check st =
      .ok attribs → hasBuffer = true →
    KeyAtomic P x m hSession attribs .DERIVE (supplySecret late material) buffer st
  | .decapsulateKey m hSession hPrivateKey pTemplate check late material =>
    ∀ attribs, planEncapsulation hSession hPrivateKey CKA_DECAPSULATE pTemplate check st =
      .ok attribs →
    KeyAtomic P x m hSession attribs .DECAPSULATE (supplySecret late material) CKR_OK st

/-! ### One key -/

section key

variable {P : Primitives} {x : Outside} {m : Making Obj} {hSession : ℕ} {op : ObjectOp}
  {attribs : List CK_ATTRIBUTE} {st st₀ : Store Obj Sess} {news : List Obj} {k : ℕ}
  {supply : Supply}

/-- A state of a call in which nothing has been left, and new objects can be made. -/
structure Nothing (news : List Obj) (k : ℕ) (st₀ st : Store Obj Sess) : Prop where
  beside : Beside news st₀ st
  left : ∀ o ∈ news, ¬ Left o st
  handles : st.handleManager.handles = st₀.handleManager.handles
  room : Room k st.handleManager

lemma Nothing.unchanged (h : Nothing news k st₀ st) : Unchanged st₀ st :=
  (h.beside.unchanged_iff h.handles).2 h.left

lemma Ready.nothing (h : Ready news st) : Nothing news 2 st st := by
  obtain ⟨home, hrep⟩ := h.rep
  exact ⟨.refl h.lists, fun o ho hl => by
    obtain ⟨⟨slotID, hin⟩, -⟩ := hl
    exact h.lists o ho slotID hin, rfl, ⟨fun k e he => (hrep.issued k e he).2, h.room⟩⟩

lemma kind_ne_nil {pTemplate : Option (List CK_ATTRIBUTE)} {plan : Plan}
    (h : planObject P x hSession pTemplate st = .ok plan) : plan.p11object.attributes ≠ [] := by
  obtain ⟨t, s, -, -, -, -, -, hp, -⟩ := of_planObject h
  exact kinds_ne_nil _ (p11ObjectOf_mem hp)

/-- The state in which one of the new objects may be left. -/
lemma unchanged_iff_left (h : Nothing news k st₀ st) {st' : Store Obj Sess} {o : Obj}
    (ho : o ∈ news) (ha : Around news st₀ o st st')
    (hh : st'.handleManager.handles = st₀.handleManager.handles) :
    Unchanged st₀ st' ↔ ¬ Left o st' := by
  rw [ha.beside.unchanged_iff hh]
  constructor
  · exact fun hall => hall o ho
  · intro hn o' ho'
    by_cases heq : o' = o
    · rw [heq]
      exact hn
    · rw [ha.others heq]
      exact h.left o' ho'

lemma removeKey_invalid (r : Removal) (st : Store Obj Sess) :
    removeKey r CK_INVALID_HANDLE st = st := if_pos rfl

lemma cleanUp_of_ne {rv : CK_RV} (h : rv ≠ CKR_OK) (r : Removal) (hKey : ℕ)
    (st : Store Obj Sess) :
    cleanUp r (rv, hKey, st) = (rv, CK_INVALID_HANDLE, removeKey r hKey st) := by
  cases rv <;> first | rfl | exact absurd rfl h

/-- **A call that makes one key**: it leaves nothing exactly if the key does not. -/
theorem key_atomic_iff (aborts : Bool) (h : Nothing news (k + 1) st₀ st) (hn : m.newObject ∈ news)
    (ho : st.handleManager.objects m.newObject = none) (hset : op ≠ .SET) (hcopy : op ≠ .COPY)
    (hs : ∀ m, supply m ≠ .error CKR_OK) (buffer : CK_RV) :
    ((cleanUp m.removal (if (storeKey P x m hSession attribs op aborts supply st).1 = CKR_OK then
        (buffer, (storeKey P x m hSession attribs op aborts supply st).2)
        else storeKey P x m hSession attribs op aborts supply st)).1 ≠ CKR_OK →
      Unchanged st₀ (cleanUp m.removal
        (if (storeKey P x m hSession attribs op aborts supply st).1 = CKR_OK then
          (buffer, (storeKey P x m hSession attribs op aborts supply st).2)
          else storeKey P x m hSession attribs op aborts supply st)).2.2) ↔
    KeyAtomic P x m hSession attribs op supply buffer st := by
  cases hplan : planObject P x hSession (some attribs) st with
  | error rv =>
    have hrv : rv ≠ CKR_OK := fun he => planObject_ne (he ▸ hplan)
    have hr : storeKey P x m hSession attribs op aborts supply st = (rv, CK_INVALID_HANDLE, st) := by
      rw [storeKey, CreateObject, hplan]
      cases rv <;> first | rfl | exact absurd rfl hrv
    rw [hr, if_neg hrv, cleanUp_of_ne hrv, removeKey_invalid]
    refine iff_of_true (fun _ => h.unchanged) fun plan hp => ?_
    rw [hplan] at hp
    cases hp
  | ok plan =>
    have hkey : KeyAtomic P x m hSession attribs op supply buffer st ↔ Clean plan m op ∧
        (Made plan m op → Supplied plan m op supply ∧ buffer = CKR_OK ∨
          Removable plan m op supply) := by
      unfold KeyAtomic
      rw [hplan]
      simp
    rw [hkey]
    rcases storeKey_cases aborts h.beside hn (h.left _ hn) ho h.room hplan
        (kind_ne_nil hplan) hset hcopy hs with
      ⟨rv, st', hr, hrv, hnot, hhm, haround, hleft⟩ |
      ⟨rv, hKey, st', hr, hmade, hrv, hi, hroom, haround, y, slotID, hy, hin, hrem⟩
    · -- no handle: what is left stays
      rw [hr, if_neg hrv, cleanUp_of_ne hrv, removeKey_invalid]
      have hiff := unchanged_iff_left h hn haround (by rw [hhm, h.handles])
      rw [hleft, not_not] at hiff
      exact ⟨fun hu => ⟨hiff.1 (hu hrv), fun hm => absurd hm hnot⟩, fun hc _ => hiff.2 hc.1⟩
    · -- a handle: what can be removed is removed, unless the call succeeds
      have hclean : Clean plan m op := .inl hmade
      have hgone : ∀ rv' : CK_RV, rv' ≠ CKR_OK →
          (Unchanged st₀ (cleanUp m.removal (rv', hKey, st')).2.2 ↔
            Removable plan m op supply) := by
        intro rv' hne
        obtain ⟨hhandles, -, har, hl⟩ := removeKey_cases haround.beside hn hi hroom hy hin m.removal
        rw [cleanUp_of_ne hne]
        have hleft' : ∀ o' ∈ news, o' ≠ m.newObject → ¬ Left o' (removeKey m.removal hKey st') := by
          intro o' ho' hne'
          rw [har.others hne', haround.others hne']
          exact h.left o' ho'
        rw [har.beside.unchanged_iff (hhandles.trans h.handles)]
        rw [← hrem, ← Bool.not_eq_true, ← hl]
        constructor
        · exact fun hall => hall _ hn
        · intro hnl o' ho'
          by_cases heq : o' = m.newObject
          · rw [heq]
            exact hnl
          · exact hleft' o' ho' heq
      rw [hr]
      by_cases hok : rv = CKR_OK
      · have hsup := hrv.1 hok
        subst hok
        rw [if_pos rfl]
        by_cases hbuf : buffer = CKR_OK
        · subst hbuf
          exact iff_of_true (fun hne => absurd rfl hne) ⟨hclean, fun _ => .inl ⟨hsup, rfl⟩⟩
        · have hne : (cleanUp m.removal (buffer, hKey, st')).1 ≠ CKR_OK := by
            rw [cleanUp_of_ne hbuf]
            exact hbuf
          rw [imp_iff_right hne, hgone buffer hbuf]
          simp [hclean, hmade, hbuf]
      · have hsup : ¬ Supplied plan m op supply := fun hs => hok (hrv.2 hs)
        rw [if_neg hok]
        have hne : (cleanUp m.removal (rv, hKey, st')).1 ≠ CKR_OK := by
          rw [cleanUp_of_ne hok]
          exact hok
        rw [imp_iff_right hne, hgone rv hok]
        simp [hclean, hmade, hsup]

end key

/-! ### Two keys -/

section pair

variable {P : Primitives} {x : Outside} {mPublic mPrivate : Making Obj} {hSession : ℕ}
  {publicKeyAttribs : List CK_ATTRIBUTE} {privateKeyAttribs : Except CK_RV (List CK_ATTRIBUTE)}
  {supplyPublic supplyPrivate : Supply} {st st' : Store Obj Sess} {news : List Obj}

/-- The public key is removed, whatever became of the private one. -/
lemma removePublic_iff {o o' : Obj} {h k : ℕ} {y : OSObject} {slotID : CK_SLOT_ID}
    (hne : o' ≠ o) (hb : Beside [o, o'] st st')
    (hi : Issues o h st.handleManager.handles st'.handleManager) (hroom : Room k st'.handleManager)
    (hy : st'.object o = y) (hin : o ∈ st'.allObjects slotID) (r : Removal) :
    Unchanged st (removeKey r h st') ↔ remains r y = false ∧ ¬ Left o' st' := by
  obtain ⟨hhandles, -, har, hl⟩ := removeKey_cases hb List.mem_cons_self hi hroom hy hin r
  rw [har.beside.unchanged_iff hhandles]
  simp only [List.mem_cons, List.not_mem_nil, or_false, forall_eq_or_imp, forall_eq, hl,
    har.others hne, Bool.not_eq_true]

/-- **A call that makes two keys.** -/
theorem pair_atomic_iff (h : Ready [mPublic.newObject, mPrivate.newObject] st)
    (hs : ∀ m, supplyPublic m ≠ .error CKR_OK) (hs' : ∀ m, supplyPrivate m ≠ .error CKR_OK)
    (hprivate : privateKeyAttribs ≠ .error CKR_OK) :
    ((makePair P x mPublic mPrivate hSession publicKeyAttribs privateKeyAttribs supplyPublic
        supplyPrivate st).1 ≠ CKR_OK →
      Unchanged st (makePair P x mPublic mPrivate hSession publicKeyAttribs privateKeyAttribs
        supplyPublic supplyPrivate st).2.2.2) ↔
    PairAtomic P x mPublic mPrivate hSession publicKeyAttribs privateKeyAttribs supplyPublic
      supplyPrivate st := by
  have hnothing := h.nothing
  have hset : ObjectOp.GENERATE ≠ .SET := by decide
  have hcopy : ObjectOp.GENERATE ≠ .COPY := by decide
  have hne : mPrivate.newObject ≠ mPublic.newObject := by
    have hnd := h.nodup
    simp only [List.nodup_cons, List.mem_singleton] at hnd
    exact fun he => hnd.1 he.symm
  have hpublic : mPublic.newObject ∈ [mPublic.newObject, mPrivate.newObject] := List.mem_cons_self
  have hpriv : mPrivate.newObject ∈ [mPublic.newObject, mPrivate.newObject] := by simp
  have hpair : ∀ {rv : CK_RV} {h : ℕ} {st' : Store Obj Sess}, rv ≠ CKR_OK →
      storeKey P x mPublic hSession publicKeyAttribs .GENERATE true supplyPublic st = (rv, h, st') →
      makePair P x mPublic mPrivate hSession publicKeyAttribs privateKeyAttribs supplyPublic
        supplyPrivate st =
        (rv, CK_INVALID_HANDLE, CK_INVALID_HANDLE, removeKey mPublic.removal h st') := by
    intro rv h st' hrv hr
    rw [makePair, hr]
    cases rv <;> first | rfl | exact absurd rfl hrv
  cases hplan : planObject P x hSession (some publicKeyAttribs) st with
  | error rv =>
    have hrv : rv ≠ CKR_OK := fun he => planObject_ne (he ▸ hplan)
    have hr : storeKey P x mPublic hSession publicKeyAttribs .GENERATE true supplyPublic st =
        (rv, CK_INVALID_HANDLE, st) := by
      rw [storeKey, CreateObject, hplan]
      cases rv <;> first | rfl | exact absurd rfl hrv
    rw [hpair hrv hr, removeKey_invalid]
    refine iff_of_true (fun _ => hnothing.unchanged) fun plan hp => ?_
    rw [hplan] at hp
    cases hp
  | ok plan =>
    have hatomic : ∀ Q : Plan → Prop,
        (∀ p, planObject P x hSession (some publicKeyAttribs) st = .ok p → Q p) ↔ Q plan := by
      intro Q
      rw [hplan]
      simp
    rw [PairAtomic, hatomic]
    rcases storeKey_cases true hnothing.beside hpublic (hnothing.left _ hpublic)
        (h.objects _ hpublic) hnothing.room hplan (kind_ne_nil hplan) hset hcopy hs with
      ⟨rv, st', hr, hrv, hnot, hhm, haround, hleft⟩ |
      ⟨rv, hKey, st', hr, hmade, hrv, hi, hroom, haround, y, slotID, hy, hin, hrem⟩
    · rw [hpair hrv hr, removeKey_invalid]
      have hiff := unchanged_iff_left hnothing hpublic haround (by rw [hhm])
      rw [hleft, not_not] at hiff
      exact ⟨fun hu => ⟨hiff.1 (hu hrv), fun hm => absurd hm hnot, fun hm => absurd hm hnot⟩,
        fun hc _ => hiff.2 hc.1⟩
    have hclean : Clean plan mPublic .GENERATE := .inl hmade
    have hnl : ¬ Left mPrivate.newObject st' := by
      rw [haround.others hne]
      exact hnothing.left _ hpriv
    by_cases hok : rv = CKR_OK
    swap
    · rw [hpair hok hr, removePublic_iff hne haround.beside hi hroom hy hin, hrem]
      have hsup : ¬ Supplied plan mPublic .GENERATE supplyPublic := fun hs => hok (hrv.2 hs)
      rw [imp_iff_right hok]
      simp [hclean, hmade, hsup, hnl]
    have hsup := hrv.1 hok
    subst hok
    cases privateKeyAttribs with
    | error rv =>
      have hne' : rv ≠ CKR_OK := fun he => hprivate (by rw [he])
      have hmake : makePair P x mPublic mPrivate hSession publicKeyAttribs (.error rv) supplyPublic
          supplyPrivate st =
          (rv, CK_INVALID_HANDLE, CK_INVALID_HANDLE, removeKey mPublic.removal hKey st') := by
        rw [makePair, hr]
      rw [hmake, removePublic_iff hne haround.beside hi hroom hy hin, hrem, imp_iff_right hne']
      simp [hclean, hmade, hsup, hnl]
    | ok attribs =>
      have hfail : ∀ {rv : CK_RV} {h : ℕ} {st₂ : Store Obj Sess}, rv ≠ CKR_OK →
          storeKey P x mPrivate hSession attribs .GENERATE true supplyPrivate st' = (rv, h, st₂) →
          makePair P x mPublic mPrivate hSession publicKeyAttribs (.ok attribs) supplyPublic
            supplyPrivate st = (rv, CK_INVALID_HANDLE, CK_INVALID_HANDLE,
              removeKey mPublic.removal hKey (removeKey mPrivate.removal h st₂)) := by
        intro rv h st₂ hrv' hr'
        rw [makePair, hr]
        dsimp only
        rw [hr']
        cases rv <;> first | rfl | exact absurd rfl hrv'
      have hsame : planObject P x hSession (some attribs) st' =
          planObject P x hSession (some attribs) st :=
        planObject_congr haround.isInitialised (hi.getSession hSession) haround.session haround.sdm
      cases hplan' : planObject P x hSession (some attribs) st with
      | error rv =>
        have hrv' : rv ≠ CKR_OK := fun he => planObject_ne (he ▸ hplan')
        have hr' : storeKey P x mPrivate hSession attribs .GENERATE true supplyPrivate st' =
            (rv, CK_INVALID_HANDLE, st') := by
          rw [storeKey, CreateObject, hsame, hplan']
          cases rv <;> first | rfl | exact absurd rfl hrv'
        rw [hfail hrv' hr', removeKey_invalid,
          removePublic_iff hne haround.beside hi hroom hy hin, hrem, imp_iff_right hrv']
        have hkey : KeyAtomic P x mPrivate hSession attribs .GENERATE supplyPrivate CKR_OK st := by
          intro plan' hp
          rw [hplan'] at hp
          cases hp
        simp [hclean, hmade, hsup, hnl, hplan', hkey]
      | ok plan' =>
        rw [hplan'] at hsame
        have hkey : KeyAtomic P x mPrivate hSession attribs .GENERATE supplyPrivate CKR_OK st ↔
            Clean plan' mPrivate .GENERATE ∧ (Made plan' mPrivate .GENERATE →
              Supplied plan' mPrivate .GENERATE supplyPrivate ∨
              Removable plan' mPrivate .GENERATE supplyPrivate) := by
          unfold KeyAtomic
          rw [hplan']
          simp
        have hfresh : st'.handleManager.objects mPrivate.newObject = none := by
          rw [haround.fresh _ hne]
          exact h.objects _ hpriv
        rcases storeKey_cases true haround.beside hpriv hnl hfresh hroom hsame
            (kind_ne_nil hsame) hset hcopy hs' with
          ⟨rv, st₂, hr', hrv', hnot, hhm, haround', hleft⟩ |
          ⟨rv, hKey', st₂, hr', hmade', hrv', hi', hroom', haround', y', slotID', hy', hin', hrem'⟩
        · have hi₂ : Issues mPublic.newObject hKey st.handleManager.handles st₂.handleManager := by
            rw [hhm]
            exact hi
          have hy₂ : st₂.object mPublic.newObject = y := by rw [haround'.object _ hne.symm, hy]
          have hin₂ := (haround'.mem _ hne.symm slotID).2 hin
          rw [hfail hrv' hr', removeKey_invalid, removePublic_iff hne haround'.beside hi₂
            (by rw [hhm]; exact hroom) hy₂ hin₂, hrem, imp_iff_right hrv', hleft]
          simp [hclean, hmade, hsup, hplan', hkey, hnot, and_comm]
        · have hclean' : Clean plan' mPrivate .GENERATE := .inl hmade'
          by_cases hok' : rv = CKR_OK
          · have hsup' := hrv'.1 hok'
            subst hok'
            have hmake : (makePair P x mPublic mPrivate hSession publicKeyAttribs (.ok attribs)
                supplyPublic supplyPrivate st).1 = CKR_OK := by
              rw [makePair, hr]
              dsimp only
              rw [hr']
            rw [hmake]
            refine iff_of_true (fun hn => absurd rfl hn) ?_
            simp [hclean, hsup, hplan', hkey, hmade', hsup', hclean']
          · have hsup' : ¬ Supplied plan' mPrivate .GENERATE supplyPrivate :=
              fun hs => hok' (hrv'.2 hs)
            obtain ⟨hhandles, hroom₃, har₃, hl₃⟩ :=
              removeKey_cases haround'.beside hpriv hi' hroom' hy' hin' mPrivate.removal
            have hi₃ : Issues mPublic.newObject hKey st.handleManager.handles
                (removeKey mPrivate.removal hKey' st₂).handleManager := by
              refine ⟨hi.valid, hi.free, ?_⟩
              rw [hhandles]
              exact hi.handles
            have hy₃ : (removeKey mPrivate.removal hKey' st₂).object mPublic.newObject = y := by
              rw [har₃.object _ hne.symm, haround'.object _ hne.symm, hy]
            have hin₃ := (har₃.mem _ hne.symm slotID).2 ((haround'.mem _ hne.symm slotID).2 hin)
            rw [hfail hok' hr', removePublic_iff hne har₃.beside hi₃ hroom₃ hy₃ hin₃, hrem,
              imp_iff_right hok', hl₃, Bool.not_eq_true, hrem']
            simp [hclean, hmade, hsup, hplan', hkey, hmade', hsup', hclean', and_comm]

end pair

/-! ### Unwrapping -/

section unwrap

variable {P : Primitives} {x : Outside} {m m' : Making Obj} {hSession : ℕ}
  {attribs : List CK_ATTRIBUTE} {st st' : Store Obj Sess}

/-- The AES key that is unwrapped first is an object of the session. -/
lemma emphkey_onToken {plan : Plan}
    (h : planObject P x hSession (some emphkeyAttribs) st = .ok plan) : plan.onToken = false := by
  obtain ⟨t, s, ht, -, hx, -⟩ := of_planObject h
  cases ht
  have hinfo : (extractObjectInformation emphkeyAttribs
      ⟨CKO_DATA, CKK_RSA, CKC_X_509, CK_FALSE, CK_TRUE⟩ false).2.isOnToken = CK_FALSE := by decide
  rw [hx] at hinfo
  exact decide_eq_false (not_not.2 hinfo)

lemma keyAtomic_congr {op : ObjectOp} {supply : Supply} {buffer : CK_RV}
    (h : planObject P x hSession (some attribs) st' = planObject P x hSession (some attribs) st) :
    KeyAtomic P x m hSession attribs op supply buffer st' ↔
      KeyAtomic P x m hSession attribs op supply buffer st := by
  unfold KeyAtomic
  rw [h]

/-- A call that makes one key and does nothing more. -/
lemma makeKey_atomic_iff {news : List Obj} {st₀ : Store Obj Sess} {k : ℕ} {op : ObjectOp}
    {supply : Supply} {aborts : Bool} (h : Nothing news (k + 1) st₀ st) (hn : m.newObject ∈ news)
    (ho : st.handleManager.objects m.newObject = none) (hset : op ≠ .SET) (hcopy : op ≠ .COPY)
    (hs : ∀ m, supply m ≠ .error CKR_OK) :
    ((makeKey P x m hSession attribs op aborts supply st).1 ≠ CKR_OK →
      Unchanged st₀ (makeKey P x m hSession attribs op aborts supply st).2.2) ↔
    KeyAtomic P x m hSession attribs op supply CKR_OK st := by
  rw [← key_atomic_iff aborts h hn ho hset hcopy hs CKR_OK]
  have heq : (if (storeKey P x m hSession attribs op aborts supply st).1 = CKR_OK then
      (CKR_OK, (storeKey P x m hSession attribs op aborts supply st).2)
      else storeKey P x m hSession attribs op aborts supply st) =
      storeKey P x m hSession attribs op aborts supply st := by
    split
    · rename_i hok
      rw [← hok]
    · rfl
  rw [heq, makeKey]

/-- **How an AES key is unwrapped for a moment.** -/
theorem UnwrapMechRsaAesKw_cases (hSession : ℕ) (h : Ready [m'.newObject, m.newObject] st) (token : TokenView)
    (emphkey : ByteString) (keydata : Except CK_RV ByteString) :
    (∃ rv, rv ≠ CKR_OK ∧
      UnwrapMechRsaAesKw P x m' hSession token (.ok emphkey) keydata st = (.error rv, st) ∧
      ∀ plan, planObject P x hSession (some emphkeyAttribs) st ≠ .ok plan) ∨
    ∃ plan, planObject P x hSession (some emphkeyAttribs) st = .ok plan ∧
      ((∃ rv st', rv ≠ CKR_OK ∧ ¬ Made plan m' .UNWRAP ∧
        UnwrapMechRsaAesKw P x m' hSession token (.ok emphkey) keydata st = (.error rv, st') ∧
        (Unchanged st st' ↔ Clean plan m' .UNWRAP)) ∨
      ∃ st', Made plan m' .UNWRAP ∧
        UnwrapMechRsaAesKw P x m' hSession token (.ok emphkey) keydata st = (keydata, st') ∧
        Nothing [m'.newObject, m.newObject] 1 st st' ∧
        st'.handleManager.objects m.newObject = none ∧
        ∀ t, planObject P x hSession t st' = planObject P x hSession t st) := by
  have hnothing := h.nothing
  have hne : m.newObject ≠ m'.newObject := by
    have hnd := h.nodup
    simp only [List.nodup_cons, List.mem_singleton] at hnd
    exact fun he => hnd.1 he.symm
  have hnew : m'.newObject ∈ [m'.newObject, m.newObject] := List.mem_cons_self
  have hfail : ∀ {rv : CK_RV} {hKey : ℕ} {st' : Store Obj Sess}, rv ≠ CKR_OK →
      storeKey P x m' hSession emphkeyAttribs .UNWRAP true
        (supplyOf unwrapped (some (emphkeyMaterial token emphkey))) st = (rv, hKey, st') →
      UnwrapMechRsaAesKw P x m' hSession token (.ok emphkey) keydata st =
        (.error rv, removeKey m'.removal hKey st') := by
    intro rv hKey st' hrv hr
    rw [UnwrapMechRsaAesKw, hr]
    cases rv <;> first | rfl | exact absurd rfl hrv
  cases hplan : planObject P x hSession (some emphkeyAttribs) st with
  | error rv =>
    left
    have hrv : rv ≠ CKR_OK := fun he => planObject_ne (he ▸ hplan)
    have hr : storeKey P x m' hSession emphkeyAttribs .UNWRAP true
        (supplyOf unwrapped (some (emphkeyMaterial token emphkey))) st =
        (rv, CK_INVALID_HANDLE, st) := by
      rw [storeKey, CreateObject, hplan]
      cases rv <;> first | rfl | exact absurd rfl hrv
    exact ⟨rv, hrv, by rw [hfail hrv hr, removeKey_invalid], fun plan hp => by cases hp⟩
  | ok plan =>
    right
    have hsession := emphkey_onToken hplan
    have hset : ObjectOp.UNWRAP ≠ .SET := by decide
    have hcopy : ObjectOp.UNWRAP ≠ .COPY := by decide
    refine ⟨plan, rfl, ?_⟩
    have hs := supplyOf_ne unwrapped (some (emphkeyMaterial token emphkey))
    rcases storeKey_cases true hnothing.beside hnew (hnothing.left _ hnew) (h.objects _ hnew)
        hnothing.room hplan (kind_ne_nil hplan) hset hcopy hs with
      ⟨rv, st', hr, hrv, hnot, hhm, haround, hleft⟩ |
      ⟨rv, hKey, st', hr, hmade, hrv, hi, hroom, haround, y, slotID, hy, hin, hrem⟩
    · left
      refine ⟨rv, st', hrv, hnot, by rw [hfail hrv hr, removeKey_invalid], ?_⟩
      rw [unchanged_iff_left hnothing hnew haround (by rw [hhm]), hleft, not_not]
    · right
      have hsup : Supplied plan m' .UNWRAP
          (supplyOf unwrapped (some (emphkeyMaterial token emphkey))) :=
        ⟨⟨_, rfl⟩, fun ht => by rw [hsession] at ht; cases ht⟩
      have hok := hrv.2 hsup
      subst hok
      obtain ⟨hhandles, hroom', har, hl⟩ :=
        removeKey_cases haround.beside hnew hi hroom hy hin m'.removal
      refine ⟨removeKey m'.removal hKey st', hmade, ?_, ⟨har.beside, ?_, hhandles, hroom'⟩, ?_, ?_⟩
      · rw [UnwrapMechRsaAesKw, hr]
      · intro o ho
        rcases List.mem_cons.1 ho with rfl | ho
        · rw [hl, Bool.not_eq_true, hrem]
          exact .inl hsession
        · rw [List.mem_singleton.1 ho, har.others hne, haround.others hne]
          exact hnothing.left _ (by simp)
      · rw [har.fresh _ hne, haround.fresh _ hne]
        exact h.objects _ (by simp)
      · intro t
        refine planObject_congr (har.isInitialised.trans haround.isInitialised) ?_
          (har.session.trans haround.session) (har.sdm.trans haround.sdm)
        rw [HandleManager.getSession, hhandles, HandleManager.getSession]

/-- **A call that unwraps a key.** -/
theorem unwrap_atomic_iff {hUnwrappingKey : ℕ} {pTemplate : Option (List CK_ATTRIBUTE)}
    {check : AttributeMap → CK_RV} {inconsistent : UInt64 → CK_KEY_TYPE → Bool}
    {unwrapping : Unwrapping Obj} {material : ByteString → Option Material}
    (h : Ready (Creation.unwrapKey m hSession hUnwrappingKey pTemplate check inconsistent unwrapping
      material).news st) :
    ((C_UnwrapKey P x m hSession hUnwrappingKey pTemplate check inconsistent unwrapping material
        st).1 ≠ CKR_OK →
      Unchanged st (C_UnwrapKey P x m hSession hUnwrappingKey pTemplate check inconsistent unwrapping
        material st).2.2) ↔
    ∀ token attribs, planUnwrapKey P x hSession hUnwrappingKey pTemplate check inconsistent st =
        .ok (token, attribs) → UnwrapAtomic P x m hSession attribs unwrapping material st := by
  have hset : ObjectOp.UNWRAP ≠ .SET := by decide
  have hcopy : ObjectOp.UNWRAP ≠ .COPY := by decide
  unfold C_UnwrapKey
  cases hplan : planUnwrapKey P x hSession hUnwrappingKey pTemplate check inconsistent st with
  | error rv => exact iff_of_true (fun _ => .refl st) fun _ _ hp => by cases hp
  | ok r =>
    obtain ⟨token, attribs⟩ := r
    have hall : ∀ Q : List CK_ATTRIBUTE → Prop,
        (∀ token' attribs', (Except.ok (token, attribs) : Except CK_RV _) =
          .ok (token', attribs') → Q attribs') ↔ Q attribs := by
      intro Q
      simp
    rw [hall]
    unfold UnwrapAtomic
    cases unwrapping with
    | direct keydata =>
      cases keydata with
      | error rv => exact iff_of_true (fun _ => .refl st) fun _ hp => by cases hp
      | ok data =>
        have hnew : m.newObject ∈ [m.newObject] := List.mem_cons_self
        simp only [Except.ok.injEq, forall_eq']
        exact makeKey_atomic_iff h.nothing hnew (h.objects _ hnew) hset hcopy (supplyOf_ne _ _)
    | rsaAes emphkeydata m' keydata =>
      cases emphkeydata with
      | error rv => exact iff_of_true (fun _ => .refl st) fun _ hp => by cases hp
      | ok emphkey =>
        simp only [Except.ok.injEq, forall_eq']
        rcases UnwrapMechRsaAesKw_cases (P := P) (x := x) hSession h token emphkey keydata with
          ⟨rv, hrv, hr, hno⟩ | ⟨plan, hp, ⟨rv, st', hrv, hnot, hr, hiff⟩ |
            ⟨st', hmade, hr, hnothing, hfresh, hsame⟩⟩
        · rw [hr]
          exact iff_of_true (fun _ => .refl st) fun plan hp => absurd hp (hno plan)
        · rw [hr]
          simp only [hp, Except.ok.injEq, forall_eq', hnot, false_implies, and_true, ← hiff]
          exact imp_iff_right hrv
        · have hclean : Clean plan m' .UNWRAP := .inl hmade
          rw [hr]
          simp only [hp, Except.ok.injEq, forall_eq', hmade, true_implies, hclean, true_and]
          cases keydata with
          | error rv => exact iff_of_true (fun _ => hnothing.unchanged) fun _ hd => by cases hd
          | ok data =>
            simp only [Except.ok.injEq, forall_eq']
            rw [← keyAtomic_congr (hsame _)]
            exact makeKey_atomic_iff hnothing (by simp) hfresh hset hcopy (supplyOf_ne _ _)

end unwrap

/-! ### Every call -/

section calls

variable {P : Primitives} {x : Outside} {st : Store Obj Sess}

/-- **When object creation is atomic**: a call that fails leaves the objects and the handles as they
were, exactly if what it has made is complete, cannot be read or can be removed. -/
theorem creation_atomic_iff (c : Creation Obj) (h : Ready c.news st) :
    ((c.exec P x st).1 ≠ CKR_OK → Unchanged st (c.exec P x st).2) ↔ c.Atomic P x st := by
  cases c with
  | createObject m hSession pTemplate =>
    have hnothing := h.nothing
    have hn : m.newObject ∈ [m.newObject] := List.mem_cons_self
    have hset : ObjectOp.CREATE ≠ .SET := by decide
    have hcopy : ObjectOp.CREATE ≠ .COPY := by decide
    simp only [Creation.exec, Creation.Atomic, C_CreateObject]
    cases hplan : planObject P x hSession pTemplate st with
    | error rv =>
      have hr : CreateObject P x m hSession pTemplate .CREATE st = (rv, CK_INVALID_HANDLE, st) := by
        rw [CreateObject, hplan]
      rw [hr]
      exact iff_of_true (fun _ => .refl st) fun plan hp => by cases hp
    | ok plan =>
      simp only [Except.ok.injEq, forall_eq']
      rcases CreateObject_cases hnothing.beside hn (hnothing.left _ hn) (h.objects _ hn)
          hnothing.room hplan (kind_ne_nil hplan) hset hcopy with
        ⟨rv, st', hr, hrv, -, hhm, haround, hleft⟩ | ⟨m', hKey, hm, hr, hmade, -⟩
      · rw [hr, imp_iff_right hrv, unchanged_iff_left hnothing hn haround (by rw [hhm]), hleft,
          not_not]
      · rw [hr]
        exact iff_of_true (fun hne => absurd rfl hne) (.inl hmade)
  | generateKey m hSession mechanism pTemplate generate =>
    have hn : m.newObject ∈ [m.newObject] := List.mem_cons_self
    simp only [Creation.exec, Creation.Atomic, C_GenerateKey]
    cases hplan : planGenerateKey x hSession mechanism pTemplate generate st with
    | error rv => exact iff_of_true (fun _ => .refl st) fun _ _ hp => by cases hp
    | ok r =>
      obtain ⟨attribs, supply⟩ := r
      obtain ⟨_, _, _, _, _, _, origin, material, -, rfl, -⟩ := of_planGenerateKey hplan
      simp only [Except.ok.injEq, Prod.mk.injEq, and_imp, forall_apply_eq_imp_iff, forall_eq']
      exact makeKey_atomic_iff h.nothing hn (h.objects _ hn) (by decide) (by decide)
        (supplyOf_ne _ _)
  | generateKeyPair mPublic mPrivate hSession mechanism pPublicKeyTemplate pPrivateKeyTemplate
      generate =>
    simp only [Creation.exec, Creation.Atomic, C_GenerateKeyPair]
    cases hplan : planGenerateKeyPair x hSession mechanism pPublicKeyTemplate pPrivateKeyTemplate
        generate st with
    | error rv => exact iff_of_true (fun _ => .refl st) fun _ _ _ hp => by cases hp
    | ok r =>
      obtain ⟨publicKeyAttribs, privateKeyAttribs, pair⟩ := r
      obtain ⟨_, _, _, _, _, _, _, _, _, _, -, -, hprivate⟩ := of_planGenerateKeyPair hplan
      have hne : privateKeyAttribs ≠ .error CKR_OK := by
        rw [hprivate]
        exact addTemplate_ne _ _ _
      have hall : ∀ Q : List CK_ATTRIBUTE → Except CK_RV (List CK_ATTRIBUTE) → Pair → Prop,
          (∀ a b c, (Except.ok (publicKeyAttribs, privateKeyAttribs, pair) : Except CK_RV _) =
            .ok (a, b, c) → Q a b c) ↔ Q publicKeyAttribs privateKeyAttribs pair := by
        intro Q
        constructor
        · exact fun hq => hq _ _ _ rfl
        · intro hq a b c he
          cases he
          exact hq
      rw [hall]
      exact pair_atomic_iff h (supplyOf_ne _ _) (supplyOf_ne _ _) hne
  | unwrapKey m hSession hUnwrappingKey pTemplate check inconsistent unwrapping material =>
    exact unwrap_atomic_iff h
  | deriveKey m hSession hBaseKey pTemplate derivation check derive =>
    have hn : m.newObject ∈ [m.newObject] := List.mem_cons_self
    simp only [Creation.exec, Creation.Atomic, C_DeriveKey]
    cases hplan : planDeriveKey hSession hBaseKey pTemplate derivation check derive st with
    | error rv => exact iff_of_true (fun _ => .refl st) fun _ _ hp => by cases hp
    | ok r =>
      obtain ⟨attribs, supply⟩ := r
      obtain ⟨_, origin, result, _, _, _, _, _, -, -, -, rfl, -⟩ := of_planDeriveKey hplan
      simp only [Except.ok.injEq, Prod.mk.injEq, and_imp, forall_apply_eq_imp_iff, forall_eq']
      exact makeKey_atomic_iff h.nothing hn (h.objects _ hn) (by decide) (by decide)
        (supplyOf_ne _ _)
  | encapsulateKey m hSession hPublicKey pTemplate check hasBuffer late material buffer =>
    have hn : m.newObject ∈ [m.newObject] := List.mem_cons_self
    simp only [Creation.exec, Creation.Atomic, C_EncapsulateKey]
    cases hplan : planEncapsulation hSession hPublicKey CKA_ENCAPSULATE pTemplate check st with
    | error rv => exact iff_of_true (fun _ => .refl st) fun _ hp => by cases hp
    | ok attribs =>
      simp only [Except.ok.injEq, forall_eq']
      cases hasBuffer
      · exact iff_of_true (fun _ => .refl st) fun hb => by cases hb
      · simp only [Bool.not_true, Bool.false_eq_true, if_false, forall_const]
        exact key_atomic_iff true h.nothing hn (h.objects _ hn) (by decide) (by decide)
          (supplySecret_ne _ _) buffer
  | decapsulateKey m hSession hPrivateKey pTemplate check late material =>
    have hn : m.newObject ∈ [m.newObject] := List.mem_cons_self
    simp only [Creation.exec, Creation.Atomic, C_DecapsulateKey]
    cases hplan : planEncapsulation hSession hPrivateKey CKA_DECAPSULATE pTemplate check st with
    | error rv => exact iff_of_true (fun _ => .refl st) fun _ hp => by cases hp
    | ok attribs =>
      simp only [Except.ok.injEq, forall_eq']
      exact makeKey_atomic_iff h.nothing hn (h.objects _ hn) (by decide) (by decide)
        (supplySecret_ne _ _)

end calls

/-! ### A template with an attribute that the object does not have -/

/-- Nothing is looked up outside. -/
def noOutside : Outside :=
  ⟨noDraws, fun _ _ => [], fun _ => none, fun _ => [], false, false, fun _ => false,
    fun _ _ => false⟩

/-- Every step that can fail outside the call succeeds. -/
def smooth (o : ℕ) : Making ℕ :=
  ⟨o, 0, .done, fun _ => .done, ⟨true, .done⟩, ⟨true, .done⟩, ⟨true, .done⟩, ⟨true, true⟩⟩

/-- One session of the user, and no objects. -/
def oneSession : Store ℕ Unit where
  isInitialised := true
  fakeRutokenECP := false
  handleManager := (HandleManager.empty.addSession 0 ()).2
  session := fun _ => ⟨0, true, .none, none⟩
  sdm := fun _ => ⟨[], [], false, true, List.replicate 32 0, List.replicate 32 0⟩
  allObjects := fun _ => []
  object := fun _ => ⟨true, [], false, none, false⟩

lemma ready_oneSession {news : List ℕ} (h : news.Nodup) : Ready news oneSession where
  nodup := h
  lists _ _ _ := List.not_mem_nil
  objects _ _ := rfl
  rep := ⟨fun _ => 0, HandleManager.rep_addSession (HandleManager.rep_empty fun _ => 0) (by decide) 0 ()⟩
  room := by decide

/-- A data object of the session with an attribute that it does not have. -/
def unknownAttribute : Creation ℕ :=
  .createObject (smooth 0) 1
    (some [⟨CKA_CLASS, some (ulongBytes CKO_DATA), 0⟩, ⟨0x9999, some [], 0⟩])

/-- A data object of the session. -/
def dataObject : Creation ℕ :=
  .createObject (smooth 0) 1 (some [⟨CKA_CLASS, some (ulongBytes CKO_DATA), 0⟩])

theorem creation_atomic_dataObject : dataObject.Atomic plainCopies noOutside oneSession :=
  (creation_atomic_iff dataObject (ready_oneSession (by decide +kernel))).1
    fun hne => absurd (by decide +kernel) hne

/-- The call fails, and a half-built object is found afterwards. -/
theorem failed_creation_is_found : ∃ (c : Creation ℕ) (st : Store ℕ Unit), Ready c.news st ∧
    (c.exec plainCopies noOutside st).1 = CKR_ATTRIBUTE_TYPE_INVALID ∧
    ¬ Unchanged st (c.exec plainCopies noOutside st).2 ∧
    ((C_FindObjectsInit plainCopies 1 (some []) (c.exec plainCopies noOutside st).2).map
      fun r => (C_FindObjects 1 10 r.2).2.1) = some [2] := by
  refine ⟨unknownAttribute, oneSession, ready_oneSession (by decide +kernel), by decide +kernel, fun h => ?_,
    by decide +kernel⟩
  have hp := h.objects 0
  have hleft : presentObjects (unknownAttribute.exec plainCopies noOutside oneSession).2 0 = [0] := by
    decide +kernel
  rw [hleft] at hp
  cases hp

end SoftHSM.Create
