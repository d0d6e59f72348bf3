import SoftHSM.SlotMgr.HalfMade
import SoftHSM.SlotMgr.LoginState
import SoftHSM.SlotMgr.SharedToken

/-!
What the operations of a token answer and store when every step succeeds, as long as the blob that they
look into is sealed under the PIN that was set last.
-/

namespace SoftHSM.SharedToken

open RecordFile TokenObject SecureDataManager PinPolicy CK_RV
open Token (policyOf pinLocked pinResult readBlobs)

variable {P : Primitives} {key cur pin blob : ByteString} {d : TokenObject} {p : PinPolicy}
  {m m' : SecureDataManager}

/-! ### Blobs -/

/-- The PIN derives the key of the one that the blob is sealed under only if it is that PIN. -/
def Distinct (P : Primitives) (blob pin cur : ByteString) : Prop :=
  ∀ k, RFC4880.PBEDeriveKey P pin (ByteString.substr blob 0 8) = some k →
    RFC4880.PBEDeriveKey P cur (ByteString.substr blob 0 8) = some k → pin = cur

/-- **A sealed blob** opens under its PIN alone. -/
theorem openBlob_eq (hP : Lawful P) (h : Seals P key cur blob) (hd : Distinct P blob pin cur) :
    openBlob P pin blob = if pin = cur then some key else none := by
  split
  · rename_i he
    rw [he]
    exact h.openBlob hP
  rename_i hne
  obtain ⟨salt, iv, k, hs, hi, hk, rfl⟩ := h
  obtain ⟨h1, h2, h3⟩ := parts (d := P.encrypt k iv (magic ++ key)) hs hi
  unfold Distinct at hd
  rw [h1] at hd
  unfold openBlob
  rw [h1, h2, h3]
  rcases hq : RFC4880.PBEDeriveKey P pin salt with _ | k'
  · simp only [hq]
  rcases hm : P.decrypt k' iv (P.encrypt k iv (magic ++ key)) with _ | x
  · simp only [hq, hm]
  have hkk : k ≠ k' := fun he => hne (hd k' hq (he ▸ hk))
  have hwrong := hP.wrong_passphrase cur pin salt k k' iv key x hk hq hkk hi hm
  simp only [hq, hm, ne_eq, hwrong, not_false_eq_true, if_true]

lemma loginSO_fst (r : Draws) (pin : ByteString) (m : SecureDataManager) :
    (SecureDataManager.loginSO P r pin m).1 = (openBlob P pin m.soEncryptedKey).isSome := by
  rcases @login_spec P r pin m.soEncryptedKey m with ⟨hl, ho⟩ | ⟨key, hl, ho⟩
  · simp only [SecureDataManager.loginSO, hl, ho, Option.isSome_none]
  · simp only [SecureDataManager.loginSO, hl, ho, Option.isSome_some]

lemma loginUser_fst (r : Draws) (pin : ByteString) (m : SecureDataManager) :
    (SecureDataManager.loginUser P r pin m).1 = (openBlob P pin m.userEncryptedKey).isSome := by
  rcases @login_spec P r pin m.userEncryptedKey m with ⟨hl, ho⟩ | ⟨key, hl, ho⟩
  · simp only [SecureDataManager.loginUser, hl, ho, Option.isSome_none]
  · simp only [SecureDataManager.loginUser, hl, ho, Option.isSome_some]

/-- A new SO PIN under a login of the SO, with every primitive succeeding. -/
lemma setSOPIN_spec {r : Draws} (hp : 0 < pin.length) (hl : m.soLoggedIn = true)
    (hb : 0 < m.soEncryptedKey.length) (hm : Masks m key) :
    ∃ m', SecureDataManager.setSOPIN P .none r pin m = (true, m') ∧
      Seals P key pin m'.soEncryptedKey := by
  obtain ⟨blob, he, hblob⟩ := pbeEncryptKey_spec (P := P) (r := r) (b := m.soEncryptedKey) hp hm
  have hp0 : pin.length ≠ 0 := Nat.ne_of_gt hp
  have hb0 : m.soEncryptedKey.length ≠ 0 := Nat.ne_of_gt hb
  refine ⟨{ remask r.remask key m with soEncryptedKey := blob }, ?_, hblob⟩
  simp only [SecureDataManager.setSOPIN, hp0, hb0, hl, if_false, he, Bool.not_true, Bool.and_false,
    Bool.false_eq_true]

lemma setSOPIN_refused {r : Draws} (hb : 0 < m.soEncryptedKey.length)
    (h : ¬ (m.soLoggedIn = true ∧ pin ≠ [])) :
    (SecureDataManager.setSOPIN P .none r pin m).1 = false := by
  unfold SecureDataManager.setSOPIN
  split
  · rfl
  rename_i hp
  have hl : m.soLoggedIn = false := by
    by_contra hl
    exact h ⟨by simpa using hl, fun he => hp (by rw [he]; rfl)⟩
  rw [if_pos (by simp [hb, hl])]

lemma setUserPIN_refused {r : Draws} (h : ¬ (LoggedIn m ∧ pin ≠ [])) :
    (SecureDataManager.setUserPIN P .none r pin m).1 = false := by
  unfold SecureDataManager.setUserPIN
  split
  · rfl
  rename_i hl
  have hin : LoggedIn m := by
    by_contra hn
    simp only [LoggedIn, not_or, Bool.not_eq_true] at hn
    simp [hn.1, hn.2] at hl
  split
  · rfl
  rename_i hp
  exact absurd ⟨hin, fun he => hp (by rw [he]; rfl)⟩ h

/-! ### Attempts -/

/-- The record reads as a policy, and the flags are there. -/
structure Stands (d : TokenObject) (p : PinPolicy) : Prop where
  policy : policyOf d = some p
  flags : d.TOKENFLAGS.isSome = true

/-- The blobs are the same. -/
def SameBlobs (d d' : TokenObject) : Prop := d'.SOPIN = d.SOPIN ∧ d'.USERPIN = d.USERPIN

lemma SameBlobs.refl (d : TokenObject) : SameBlobs d d := ⟨rfl, rfl⟩

lemma Stands.valid (h : Stands d p) : p.Valid := getPinPolicy_valid h.policy

lemma eval_pinLocked (h : Stands d p) (so : Bool) :
    (pinLocked so).eval d = (decide (p.left so = 0), d) := by
  have hget : TokenObject.getPinPolicy.eval d = (policyOf d, d) := rfl
  unfold pinLocked
  rw [Prog.eval_bind, hget, h.policy]
  rfl

lemma eval_getTokenFlags (h : Stands d p) : ∃ flags, getTokenFlags.eval d = (some flags, d) := by
  obtain ⟨flags, hf⟩ := Option.isSome_iff_exists.1 h.flags
  have hget : getTokenFlags.eval d = (flagsOf d, d) := rfl
  rw [hget, flagsOf, hf]
  exact ⟨_, rfl⟩

lemma eval_advancePinPolicy (h : Stands d p) (w : Transaction) (so success : Bool) : ∃ bytes,
    (TokenObject.advancePinPolicy w so success).eval d =
      (some bytes, { d with PINPOLICY := some bytes }) ∧
    Stands { d with PINPOLICY := some bytes } (p.advance so success) ∧
    byte bytes (leftIndex so) = (p.advance so success).left so := by
  obtain ⟨bytes, hadv, hget, hleft, -⟩ := advancePinPolicy_spec h.policy so success
  refine ⟨bytes, ?_, ⟨hget, h.flags⟩, hleft⟩
  unfold TokenObject.advancePinPolicy TokenObject.transaction
  rw [Prog.eval_bind]
  simp only [Prog.eval, hadv, Option.map_some]
  rfl

/-- The end of an attempt. -/
lemma eval_pinResult (h : Stands d p) (e : Token.ResultWrites) (so success : Bool)
    (sdm : SecureDataManager) : ∃ d', (pinResult e so success sdm).eval d =
      (if (p.advance so success).left so = 0 then (CKR_PIN_LOCKED, logout sdm)
        else (if success then CKR_OK else CKR_PIN_INCORRECT, sdm), d') ∧
      Stands d' (p.advance so success) ∧ SameBlobs d d' := by
  obtain ⟨bytes, hadv, hstands, hleft⟩ := eval_advancePinPolicy h e.policy so success
  obtain ⟨flags, hflags⟩ := eval_getTokenFlags hstands
  have hset : ∀ w flags, (setTokenFlags w flags).eval { d with PINPOLICY := some bytes } =
      (true, { d with PINPOLICY := some bytes, TOKENFLAGS := some flags }) := fun _ _ => rfl
  have hrun : ∃ flags, (pinResult e so success sdm).eval d =
      (if (p.advance so success).left so = 0 then (CKR_PIN_LOCKED, logout sdm)
        else (if success then CKR_OK else CKR_PIN_INCORRECT, sdm),
        { d with PINPOLICY := some bytes, TOKENFLAGS := some flags }) := by
    unfold pinResult
    simp only [Prog.eval_bind, hadv, hflags, hset, hleft, Bool.not_true, Bool.false_eq_true, if_false]
    rw [Prog.eval_ite]
    exact ⟨_, (apply_ite (·, _) _ _ _).symm⟩
  obtain ⟨flags, hrun⟩ := hrun
  exact ⟨_, hrun, ⟨hstands.policy, rfl⟩, rfl, rfl⟩

/-- What an operation under a PIN of a role comes to: when it is accepted, whether the PIN is right, and
what it stores. A right PIN costs no attempt. -/
structure Outcome (d : TokenObject) (p : PinPolicy) (so : Bool) (accepted right : Prop)
    (stored : TokenObject → Prop) (rv : CK_RV) (d' : TokenObject) : Prop where
  ok : rv = CKR_OK ↔ accepted
  policy : ∃ p', Stands d' p' ∧ (right → p.left so ≤ p'.left so)
  done : rv = CKR_OK → stored d'
  kept : rv ≠ CKR_OK → SameBlobs d d'

variable {so : Bool} {accepted right : Prop} {stored : TokenObject → Prop}

/-- An answer that leaves everything. -/
lemma Outcome.refused (h : Stands d p) (hno : ¬ accepted) {rv : CK_RV} (hrv : rv ≠ CKR_OK) :
    Outcome d p so accepted right stored rv d where
  ok := iff_of_false hrv hno
  policy := ⟨p, h, fun _ => UInt8.le_refl _⟩
  done he := absurd he hrv
  kept _ := SameBlobs.refl d

/-- The end of an attempt under a wrong PIN. -/
lemma outcome_wrong (h : Stands d p) (hno : ¬ accepted) (hright : ¬ right)
    (e : Token.ResultWrites) (sdm : SecureDataManager) :
    Outcome d p so accepted right stored ((pinResult e so false sdm).eval d).1.1
      ((pinResult e so false sdm).eval d).2 := by
  obtain ⟨d', heval, hstands, hsame⟩ := eval_pinResult h e so false sdm
  rw [heval]
  have hrv : (if (p.advance so false).left so = 0 then (CKR_PIN_LOCKED, logout sdm)
      else (if false then CKR_OK else CKR_PIN_INCORRECT, sdm)).1 ≠ CKR_OK := by
    split <;> exact CK_RV.noConfusion
  exact ⟨iff_of_false hrv hno, ⟨_, hstands, fun hr => absurd hr hright⟩, fun he => absurd he hrv,
    fun _ => hsame⟩

/-- The end of an attempt under the right PIN. -/
lemma eval_pinResult_right (h : Stands d p) (hleft : p.left so ≠ 0) (e : Token.ResultWrites)
    (sdm : SecureDataManager) : ∃ d' p', (pinResult e so true sdm).eval d = ((CKR_OK, sdm), d') ∧
      Stands d' p' ∧ SameBlobs d d' ∧ p.left so ≤ p'.left so := by
  obtain ⟨d', heval, hstands, hsame⟩ := eval_pinResult h e so true sdm
  rw [if_neg (Token.left_advance_success h.valid so hleft), if_pos rfl] at heval
  have hmax : (p.advance so true).left so = p.max so := by
    cases so <;> simp only [advance, hleft, if_false, if_true] <;> rfl
  refine ⟨d', _, heval, hstands, hsame, ?_⟩
  rw [hmax]
  exact left_le_max h.valid so

/-- The check that every attempt comes after. -/
lemma outcome_unlocked (h : Stands d p) (haccepted : accepted → p.left so ≠ 0)
    {sdm : SecureDataManager} {body : Prog (CK_RV × SecureDataManager)}
    (hbody : p.left so ≠ 0 → Outcome d p so accepted right stored (body.eval d).1.1 (body.eval d).2) :
    let prog : Prog (CK_RV × SecureDataManager) := do
      if ← pinLocked so then return (CKR_PIN_LOCKED, sdm)
      body
    Outcome d p so accepted right stored (prog.eval d).1.1 (prog.eval d).2 := by
  intro prog
  simp only [prog]
  rw [Prog.eval_bind, eval_pinLocked h]
  by_cases hleft : p.left so = 0
  · rw [decide_eq_true hleft]
    exact Outcome.refused h (fun ha => haccepted ha hleft) CK_RV.noConfusion
  · rw [decide_eq_false hleft]
    exact hbody hleft

/-- **An attempt.** -/
lemma outcome_attempt (h : Stands d p) (ok : Bool) (hright : right ↔ ok = true)
    (haccepted : accepted ↔ p.left so ≠ 0 ∧ right) (e : Token.ResultWrites)
    (sdm sdm' : SecureDataManager) :
    let prog : Prog (CK_RV × SecureDataManager) := do
      if ← pinLocked so then return (CKR_PIN_LOCKED, sdm)
      pinResult e so ok sdm'
    Outcome d p so accepted right (SameBlobs d) (prog.eval d).1.1 (prog.eval d).2 := by
  refine outcome_unlocked h (fun ha => (haccepted.1 ha).1) fun hleft => ?_
  cases ok with
  | false =>
    have hno : ¬ right := fun hr => Bool.false_ne_true (hright.1 hr)
    exact outcome_wrong h (fun ha => hno (haccepted.1 ha).2) hno e sdm'
  | true =>
    obtain ⟨d', p', heval, hstands, hsame, hle⟩ := eval_pinResult_right h hleft e sdm'
    rw [heval]
    exact ⟨iff_of_true rfl (haccepted.2 ⟨hleft, hright.2 rfl⟩), ⟨p', hstands, fun _ => hle⟩,
      fun _ => hsame, fun hne => absurd rfl hne⟩

/-! ### Logins -/

/-- The user blob is sealed under the user PIN, or there is none. -/
def UserBlob (P : Primitives) (key : ByteString) : Option ByteString → ByteString → Prop
  | none, blob => blob = []
  | some cur, blob => Seals P key cur blob

variable {userPIN : Option ByteString} {oldPIN newPIN : ByteString}

lemma openUser_eq (hP : Lawful P) (h : UserBlob P key userPIN blob)
    (hd : ∀ cur ∈ userPIN, Distinct P blob pin cur) :
    openBlob P pin blob = if userPIN = some pin then some key else none := by
  cases userPIN with
  | none =>
    obtain rfl : blob = [] := h
    rw [openBlob_nil, if_neg (by simp)]
  | some cur =>
    rw [openBlob_eq hP h (hd cur rfl)]
    simp only [Option.some.injEq, eq_comm]

lemma isSome_ite {c : Prop} [Decidable c] (key : ByteString) :
    (if c then some key else none).isSome = true ↔ c := by
  split <;> simp_all

section logins

variable (hP : Lawful P) (h : Stands d p)
include hP h

lemma outcome_loginSO (hs : Seals P key cur m.soEncryptedKey)
    (hd : Distinct P m.soEncryptedKey pin cur) (r : Draws) (e : Token.ResultWrites) :
    Outcome d p true (¬ LoggedIn m ∧ p.left true ≠ 0 ∧ pin = cur) (pin = cur) (SameBlobs d)
      ((Token.loginSO P r e pin m).eval d).1.1 ((Token.loginSO P r e pin m).eval d).2 := by
  unfold Token.loginSO
  split
  · rename_i hl
    exact Outcome.refused h (fun ha => ha.1 (.inr hl)) CK_RV.noConfusion
  rename_i hu
  split
  · rename_i hl
    exact Outcome.refused h (fun ha => ha.1 (.inl hl)) CK_RV.noConfusion
  rename_i hso
  have hnobody : ¬ LoggedIn m := fun hl => hl.elim hso hu
  refine outcome_attempt h (SecureDataManager.loginSO P r pin m).1 ?_ (and_iff_right hnobody) e m _
  rw [loginSO_fst, openBlob_eq hP hs hd, isSome_ite]

lemma outcome_loginUser (hs : UserBlob P key userPIN m.userEncryptedKey)
    (hd : ∀ cur ∈ userPIN, Distinct P m.userEncryptedKey pin cur) (r : Draws)
    (e : Token.ResultWrites) :
    Outcome d p false (¬ LoggedIn m ∧ p.left false ≠ 0 ∧ userPIN = some pin) (userPIN = some pin)
      (SameBlobs d) ((Token.loginUser P r e pin m).eval d).1.1
      ((Token.loginUser P r e pin m).eval d).2 := by
  unfold Token.loginUser
  split
  · rename_i hl
    exact Outcome.refused h (fun ha => ha.1 (.inl hl)) CK_RV.noConfusion
  rename_i hso
  split
  · rename_i hl
    exact Outcome.refused h (fun ha => ha.1 (.inr hl)) CK_RV.noConfusion
  rename_i hu
  split
  · rename_i hblob
    refine Outcome.refused h (fun ha => ?_) CK_RV.noConfusion
    rw [ha.2.2] at hs
    exact absurd hblob (Nat.ne_of_gt (Seals.ne_nil hs))
  have hnobody : ¬ LoggedIn m := fun hl => hl.elim hso hu
  refine outcome_attempt h (SecureDataManager.loginUser P r pin m).1 ?_ (and_iff_right hnobody) e m _
  rw [loginUser_fst, openUser_eq hP hs hd, isSome_ite]

lemma outcome_reAuthenticate_so (hl : m.soLoggedIn = true) (hs : Seals P key cur m.soEncryptedKey)
    (hd : Distinct P m.soEncryptedKey pin cur) (e : Token.ResultWrites) :
    Outcome d p true (p.left true ≠ 0 ∧ pin = cur) (pin = cur) (SameBlobs d)
      ((Token.reAuthenticate P e pin m).eval d).1.1 ((Token.reAuthenticate P e pin m).eval d).2 := by
  unfold Token.reAuthenticate
  rw [if_pos hl]
  refine outcome_attempt h _ ?_ Iff.rfl e m m
  rw [reAuthenticateSO, SecureDataManager.reAuthenticate, openBlob_eq hP hs hd, isSome_ite]

lemma outcome_reAuthenticate_user (hso : m.soLoggedIn = false) (hl : m.userLoggedIn = true)
    (hs : UserBlob P key userPIN m.userEncryptedKey)
    (hd : ∀ cur ∈ userPIN, Distinct P m.userEncryptedKey pin cur) (e : Token.ResultWrites) :
    Outcome d p false (p.left false ≠ 0 ∧ userPIN = some pin) (userPIN = some pin) (SameBlobs d)
      ((Token.reAuthenticate P e pin m).eval d).1.1 ((Token.reAuthenticate P e pin m).eval d).2 := by
  unfold Token.reAuthenticate
  rw [if_neg (by simp [hso]), if_pos hl]
  refine outcome_attempt h _ ?_ Iff.rfl e m m
  rw [reAuthenticateUser, SecureDataManager.reAuthenticate, openUser_eq hP hs hd, isSome_ite]

end logins

lemma eval_reAuthenticate_nobody (h : ¬ LoggedIn m) (e : Token.ResultWrites) :
    (Token.reAuthenticate P e pin m).eval d = ((CKR_OPERATION_NOT_INITIALIZED, m), d) := by
  simp only [LoggedIn, not_or, Bool.not_eq_true] at h
  unfold Token.reAuthenticate
  rw [if_neg (by simp [h.1]), if_neg (by simp [h.2])]
  rfl

/-! ### Changes of a PIN -/

lemma eval_storeSOPIN (h : Stands d p) (w w' : Write) (blob : ByteString) : ∃ flags,
    (TokenObject.setSOPIN w w' blob).eval d =
      (true, { d with SOPIN := some blob, TOKENFLAGS := some flags }) := by
  obtain ⟨flags, hflags⟩ := eval_getTokenFlags (d := { d with SOPIN := some blob }) ⟨h.policy, h.flags⟩
  unfold TokenObject.setSOPIN
  rw [Prog.eval_bind]
  change ∃ _, Prog.eval (getTokenFlags >>= _) { d with SOPIN := some blob } = _
  rw [Prog.eval_bind, hflags]
  exact ⟨_, rfl⟩

lemma eval_storeUserPIN (h : Stands d p) (w w' : Write) (blob : ByteString) : ∃ flags,
    (TokenObject.setUserPIN w w' blob).eval d =
      (true, { d with USERPIN := some blob, TOKENFLAGS := some flags }) := by
  obtain ⟨flags, hflags⟩ := eval_getTokenFlags (d := { d with USERPIN := some blob })
    ⟨h.policy, h.flags⟩
  unfold TokenObject.setUserPIN
  rw [Prog.eval_bind]
  change ∃ _, Prog.eval (getTokenFlags >>= _) { d with USERPIN := some blob } = _
  rw [Prog.eval_bind, hflags]
  exact ⟨_, rfl⟩

lemma eval_readBlobs (d : TokenObject) : readBlobs.eval d =
    ((match d.SOPIN with
      | none => ([], [])
      | some soPINBlob => (soPINBlob, d.USERPIN.getD [])), d) := by
  have hso : getSOPIN.eval d = (d.SOPIN, d) := rfl
  unfold readBlobs
  rw [Prog.eval_bind, hso]
  cases d.SOPIN <;> rfl

/-- The end of a change of a PIN, behind the blob. -/
lemma eval_setPinDefault (d : TokenObject) (w : Transaction) (id : ℕ) (isDefault : Bool) :
    (setPinDefault w id isDefault).eval d =
      (true, { d with PINDEFAULT := Function.update d.PINDEFAULT id isDefault }) := rfl

lemma outcome_setSOPIN (hP : Lawful P) (h : Stands d p) (hs : Seals P key cur m.soEncryptedKey)
    (hd : Distinct P m.soEncryptedKey oldPIN cur) (hm : LoggedIn m → Masks m key)
    {e : Token.PinEnv} (he : e.pbe = .none) :
    Outcome d p true (p.left true ≠ 0 ∧ oldPIN = cur ∧ m.soLoggedIn = true ∧ newPIN ≠ [])
      (oldPIN = cur)
      (fun d' => ∃ blob, d'.SOPIN = some blob ∧ Seals P key newPIN blob ∧ d'.USERPIN = d.USERPIN)
      ((Token.setSOPIN P e oldPIN newPIN m).eval d).1.1
      ((Token.setSOPIN P e oldPIN newPIN m).eval d).2 := by
  refine outcome_unlocked h (fun ha => ha.1) fun hleft => ?_
  dsimp only
  have hok : (SecureDataManager.loginSO P e.verifier oldPIN
      (create e.verifier m.soEncryptedKey m.userEncryptedKey)).1 = true ↔ oldPIN = cur := by
    have hopen := openBlob_eq hP hs hd
    rw [loginSO_fst, create, hopen, isSome_ite]
  by_cases hold : oldPIN = cur
  swap
  · rw [Bool.eq_false_iff.2 fun he => hold (hok.1 he)]
    exact outcome_wrong h (fun ha => hold ha.2.1) hold _ _
  rw [hok.2 hold, he]
  by_cases hnew : m.soLoggedIn = true ∧ newPIN ≠ []
  swap
  · have hset := @setSOPIN_refused P newPIN m e.draws hs.ne_nil hnew
    rcases hr : SecureDataManager.setSOPIN P .none e.draws newPIN m with ⟨ok, m'⟩
    rw [hr] at hset
    obtain rfl : ok = false := hset
    exact Outcome.refused h (fun ha => hnew ha.2.2) CK_RV.noConfusion
  obtain ⟨m', hset, hseals⟩ := @setSOPIN_spec P key newPIN m e.draws (List.length_pos_iff.2 hnew.2)
    hnew.1 hs.ne_nil (hm (.inl hnew.1))
  obtain ⟨flags, hstore⟩ := eval_storeSOPIN h e.blob e.flags m'.soEncryptedKey
  obtain ⟨d', p', hresult, hstands, hsame, hle⟩ := eval_pinResult_right
    (d := { d with SOPIN := some m'.soEncryptedKey, TOKENFLAGS := some flags,
                   PINDEFAULT := Function.update d.PINDEFAULT CKU_SO (LocalPin.isFactoryPIN newPIN true) })
    ⟨h.policy, rfl⟩ hleft e.result m'
  rw [hset]
  simp only [Bool.not_true, Bool.false_eq_true, if_false, Prog.eval_bind, hstore, eval_setPinDefault,
    eval_readBlobs, hresult]
  exact ⟨iff_of_true rfl ⟨hleft, hold, hnew⟩, ⟨p', hstands, fun _ => hle⟩,
    fun _ => ⟨_, hsame.1, hseals, hsame.2⟩, fun hne => absurd rfl hne⟩

lemma outcome_setUserPIN (hP : Lawful P) (h : Stands d p) (hkey : key.length = 32)
    (hs : UserBlob P key userPIN m.userEncryptedKey)
    (hd : ∀ cur ∈ userPIN, Distinct P m.userEncryptedKey oldPIN cur) {e : Token.PinEnv}
    (he : e.pbe = .none) :
    Outcome d p false (p.left false ≠ 0 ∧ userPIN = some oldPIN ∧ newPIN ≠ []) (userPIN = some oldPIN)
      (fun d' => ∃ blob, d'.USERPIN = some blob ∧ Seals P key newPIN blob ∧ d'.SOPIN = d.SOPIN)
      ((Token.setUserPIN P e oldPIN newPIN m).eval d).1.1
      ((Token.setUserPIN P e oldPIN newPIN m).eval d).2 := by
  refine outcome_unlocked h (fun ha => ha.1) fun hleft => ?_
  dsimp only
  by_cases hold : userPIN = some oldPIN
  swap
  · have hwrong : (SecureDataManager.loginUser P e.verifier oldPIN
        (create e.verifier m.soEncryptedKey m.userEncryptedKey)).1 = false := by
      have hopen := openUser_eq hP hs hd
      rw [loginUser_fst, create, hopen, if_neg hold]
      rfl
    rcases hr : SecureDataManager.loginUser P e.verifier oldPIN
      (create e.verifier m.soEncryptedKey m.userEncryptedKey) with ⟨ok, m'⟩
    rw [hr] at hwrong
    obtain rfl : ok = false := hwrong
    exact outcome_wrong h (fun ha => hold ha.2.1) hold _ _
  rw [hold] at hs
  have hlogin := @loginUser_of_seals P hP e.verifier oldPIN key
    (create e.verifier m.soEncryptedKey m.userEncryptedKey) hs
  rw [hlogin, he]
  generalize hm₁ : { remask e.verifier.remask key
    (logout (create e.verifier m.soEncryptedKey m.userEncryptedKey)) with userLoggedIn := true } = m₁
  have hin : LoggedIn m₁ := hm₁ ▸ .inr rfl
  have hmasks : Masks m₁ key := hm₁ ▸ masks_remask
    (m := logout (create e.verifier m.soEncryptedKey m.userEncryptedKey)) hkey
  by_cases hnew : newPIN ≠ []
  swap
  · have hset := @setUserPIN_refused P newPIN m₁ e.draws fun hl => hnew hl.2
    rcases hr : SecureDataManager.setUserPIN P .none e.draws newPIN m₁ with ⟨ok, m'⟩
    rw [hr] at hset
    obtain rfl : ok = false := hset
    exact Outcome.refused h (fun ha => hnew ha.2.2) CK_RV.noConfusion
  obtain ⟨m', hset, hseals, -⟩ := @setUserPIN_spec P e.draws newPIN key m₁
    (List.length_pos_iff.2 hnew) hin hmasks
  obtain ⟨flags, hstore⟩ := eval_storeUserPIN h e.blob e.flags m'.userEncryptedKey
  obtain ⟨d', p', hresult, hstands, hsame, hle⟩ := eval_pinResult_right
    (d := { d with USERPIN := some m'.userEncryptedKey, TOKENFLAGS := some flags,
                   PINDEFAULT := Function.update d.PINDEFAULT CKU_USER
                     (LocalPin.isFactoryPIN newPIN false) })
    ⟨h.policy, rfl⟩ hleft e.result (if m.userLoggedIn then m' else logout m')
  have hexpired : (setUserPinExpired e.expired false).eval d' =
      (true, { d' with USERPINEXPIRED := false }) := rfl
  rw [hset]
  simp only [Bool.not_true, Bool.false_eq_true, if_false, Prog.eval_bind, hstore, eval_setPinDefault,
    eval_readBlobs, hresult, ne_eq, not_true_eq_false, hexpired]
  exact ⟨iff_of_true rfl ⟨hleft, hold, hnew⟩, ⟨p', ⟨hstands.policy, hstands.flags⟩, fun _ => hle⟩,
    fun _ => ⟨_, hsame.2, hseals, hsame.1⟩, fun hne => absurd rfl hne⟩

lemma eval_refillUser (h : Stands d p) (w w' : Write) (sdm : SecureDataManager) : ∃ d' p',
    (Token.refillUser w w' sdm).eval d = ((CKR_OK, sdm), d') ∧ Stands d' p' ∧ SameBlobs d d' := by
  have hpolicy : TokenObject.getPinPolicy.eval d = (some p, d) := by
    rw [← h.policy]
    rfl
  obtain ⟨flags, hflags⟩ := eval_getTokenFlags h
  have hvalid : ({ p with leftUser := p.maxUser } : PinPolicy).Valid :=
    @valid_setLeft _ h.valid false _ (UInt8.le_refl _)
  unfold Token.refillUser
  rw [Prog.eval_bind, hpolicy]
  dsimp only
  rw [Prog.eval_bind, hflags]
  exact ⟨_, _, rfl, ⟨getPinPolicy_setPinPolicy hvalid, rfl⟩, rfl, rfl⟩

/-- `initUserPIN` writes before it reads: it starts from the copy. -/
lemma visit_initUserPIN_stored (c d : TokenObject) {q : PinPolicy} (h : Stands c q) {e : Token.PinEnv}
    (hset : SecureDataManager.setUserPIN P e.pbe e.draws newPIN m = (true, m')) :
    ∃ c' q', (Token.initUserPIN P e newPIN m).visit c d = ((CKR_OK, m'), c', c') ∧ Stands c' q' ∧
      c'.SOPIN = c.SOPIN ∧ c'.USERPIN = some m'.userEncryptedKey := by
  obtain ⟨flags, hstore⟩ := eval_storeUserPIN h e.blob e.flags m'.userEncryptedKey
  obtain ⟨c', q', hrefill, hstands, hsame⟩ := eval_refillUser
    (d := { c with USERPIN := some m'.userEncryptedKey, TOKENFLAGS := some flags,
                   PINDEFAULT := Function.update c.PINDEFAULT CKU_USER
                     (LocalPin.isFactoryPIN newPIN false) })
    ⟨h.policy, rfl⟩ e.policy e.policyFlags m'
  refine ⟨c', q', ?_, hstands, hsame⟩
  have hblind : ∀ w w' blob, (TokenObject.setUserPIN w w' blob).Blind := fun _ _ _ => trivial
  unfold Token.initUserPIN
  rw [hset]
  simp only [Bool.not_true, Bool.false_eq_true, if_false]
  rw [Prog.visit_of_blind ((hblind _ _ _).bind _), Prog.visit_self]
  simp only [Prog.eval_bind, hstore, eval_setPinDefault, eval_readBlobs, hrefill, Bool.not_true,
    Bool.false_eq_true, if_false]

lemma visit_initUserPIN_refused (c d : TokenObject) {e : Token.PinEnv}
    (hset : (SecureDataManager.setUserPIN P e.pbe e.draws newPIN m).1 = false) :
    ∃ m', (Token.initUserPIN P e newPIN m).visit c d = ((CKR_GENERAL_ERROR, m'), c, d) := by
  rcases hr : SecureDataManager.setUserPIN P e.pbe e.draws newPIN m with ⟨ok, m'⟩
  rw [hr] at hset
  obtain rfl : ok = false := hset
  unfold Token.initUserPIN
  rw [hr]
  exact ⟨m', rfl⟩

lemma visit_initUserPIN (c d : TokenObject) {q : PinPolicy} (h : Stands c q)
    (hm : LoggedIn m → Masks m key) {e : Token.PinEnv} (he : e.pbe = .none) :
    (¬ (LoggedIn m ∧ newPIN ≠ []) ∧ ∃ m', (Token.initUserPIN P e newPIN m).visit c d =
        ((CKR_GENERAL_ERROR, m'), c, d)) ∨
      (LoggedIn m ∧ newPIN ≠ []) ∧ ∃ m' c' q' blob, (Token.initUserPIN P e newPIN m).visit c d =
        ((CKR_OK, m'), c', c') ∧ Stands c' q' ∧ c'.SOPIN = c.SOPIN ∧ c'.USERPIN = some blob ∧
          Seals P key newPIN blob := by
  by_cases hnew : LoggedIn m ∧ newPIN ≠ []
  swap
  · exact .inl ⟨hnew, visit_initUserPIN_refused c d (he ▸ setUserPIN_refused hnew)⟩
  obtain ⟨m', hset, hseals, -⟩ := @setUserPIN_spec P e.draws newPIN key m
    (List.length_pos_iff.2 hnew.2) hnew.1 (hm hnew.1)
  obtain ⟨c', q', hvisit, hstands, hso, huser⟩ := visit_initUserPIN_stored c d h (he ▸ hset)
  exact .inr ⟨hnew, m', c', q', m'.userEncryptedKey, hvisit, hstands, hso, huser, hseals⟩

/-! ### Formats -/

lemma eval_deleteUserPIN (w : Write) (d : TokenObject) :
    (deleteUserPIN w).eval d = (true, { d with USERPIN := none }) := by
  obtain ⟨label, name, flags, soPIN, userPIN, policy, locals, defaults, expired⟩ := d
  cases userPIN <;> rfl

/-- A reset takes the user PIN, and leaves the blob of the SO, the policy and the flags. -/
lemma eval_reset (h : Stands d p) {e : ResetWrites} (he : e.objects = true) (label : ByteString) :
    ∃ d', (resetToken e label).eval d = (true, d') ∧ Stands d' p ∧ d'.SOPIN = d.SOPIN ∧
      d'.USERPIN = none := by
  obtain ⟨flags, hflags⟩ := Option.isSome_iff_exists.1 h.flags
  have hf : flagsOf d = some (if d.USERPIN.isSome then flags ||| CKF_USER_PIN_INITIALIZED else flags) := by
    simp only [flagsOf, hflags, Option.map_some]
  have htrue := eval_resetToken he hf label
  have hso := (@leaves_resetToken _ TokenObject.SOPIN (fun _ _ _ _ _ _ _ _ => rfl) e label).eval d
  have hpolicy := (@leaves_resetToken _ policyOf (fun _ _ _ _ _ _ _ _ => rfl) e label).eval d
  have hrest : ((resetToken e label).eval d).2.USERPIN = none ∧
      ((resetToken e label).eval d).2.TOKENFLAGS.isSome = true := by
    have hget : getTokenFlags.eval d = (flagsOf d, d) := rfl
    have hlabel : ∀ w a, (setAttribute w fun a => { a with TOKENLABEL := label }).eval a =
      (true, { a with TOKENLABEL := label }) := fun _ _ => rfl
    have hset : ∀ w flags a, (setTokenFlags w flags).eval a =
      (true, { a with TOKENFLAGS := some flags }) := fun _ _ _ => rfl
    -- what comes behind the user PIN leaves it and the flags
    have hleft : ∀ {q : Prog Bool} {a : TokenObject}, q.Leaves (fun a => (a.USERPIN, a.TOKENFLAGS)) →
        a.USERPIN = none → a.TOKENFLAGS.isSome = true →
        (q.eval a).2.USERPIN = none ∧ (q.eval a).2.TOKENFLAGS.isSome = true := by
      intro q a hq huser hflags
      obtain ⟨hu, hf⟩ := Prod.mk.inj (hq.eval a)
      exact ⟨hu.trans huser, by rw [hf, hflags]⟩
    have hname : (deleteTokenName e.name).Leaves fun a => (a.USERPIN, a.TOKENFLAGS) :=
      leaves_deleteExisting _ fun _ => rfl
    have hlocals := @leaves_deleteLocalPINs _ (fun a => (a.USERPIN, a.TOKENFLAGS)) (fun _ _ => rfl)
      (fun _ _ => rfl) e ((List.range 29).map (· + 3))
    have hdefault : ∀ w id, (deletePinDefault w id).Leaves fun a => (a.USERPIN, a.TOKENFLAGS) :=
      fun _ _ => leaves_deleteExisting _ fun _ => rfl
    have hexpired : (deleteUserPinExpired e.expired).Leaves fun a => (a.USERPIN, a.TOKENFLAGS) :=
      leaves_deleteExisting _ fun _ => rfl
    unfold resetToken
    rw [Prog.eval_bind, hget, hf]
    dsimp only
    rw [if_neg (by simp [he]), Prog.eval_bind, hlabel]
    dsimp only
    rw [if_neg (by simp), Prog.eval_bind, hset]
    dsimp only
    rw [if_neg (by simp), Prog.eval_bind, eval_deleteUserPIN]
    dsimp only
    rw [if_neg (by simp)]
    refine hleft ?_ rfl rfl
    refine hname.bind fun _ => .ite trivial (hlocals.bind fun _ => .ite trivial ?_)
    exact (hdefault _ _).bind fun _ => .ite trivial ((hdefault _ _).bind fun _ => .ite trivial hexpired)
  exact ⟨_, Prod.ext htrue rfl, ⟨hpolicy.trans h.policy, hrest.2⟩, hso, hrest.1⟩

lemma eval_setPinPolicy (d : TokenObject) (w : Write) (q : PinPolicy) :
    (TokenObject.setPinPolicy w q).eval d =
      (true, { d with PINPOLICY := some (PinPolicy.setPinPolicy q) }) := rfl

/-- The end of `createToken` on a token that is there. -/
lemma eval_recreated (h : Stands d p) {e : Token.FormatEnv} (he : e.reset.objects = true)
    {q : PinPolicy} (hq : q.Valid) (soPIN label : ByteString) (flags : CK_FLAGS)
    (sdm : SecureDataManager) :
    let prog : Prog (Option (CK_RV × Option SecureDataManager)) := do
      let _ ← setTokenFlags e.flags flags
      if !(← resetToken e.reset label) then return some (CKR_DEVICE_ERROR, some sdm)
      return some (← Token.storePolicy e q soPIN (some sdm))
    ∃ m' d', prog.eval d = (some (CKR_OK, some m'), d') ∧ Stands d' q ∧ d'.SOPIN = d.SOPIN ∧
      d'.USERPIN = none := by
  intro prog
  have hset : (setTokenFlags e.flags flags).eval d = (true, { d with TOKENFLAGS := some flags }) := rfl
  obtain ⟨d₁, hreset, hstands, hso, huser⟩ := eval_reset (d := { d with TOKENFLAGS := some flags })
    ⟨h.policy, rfl⟩ he label
  simp only [prog, Token.storePolicy, Bool.not_true, Bool.false_eq_true, if_false, Prog.eval_bind, hset,
    hreset, eval_setPinPolicy, eval_setPinDefault, eval_readBlobs]
  exact ⟨_, _, rfl, ⟨getPinPolicy_setPinPolicy hq, hstands.flags⟩, hso, huser⟩

/-- `createToken` on a token that is there. -/
lemma eval_recreate (hP : Lawful P) (h : Stands d p) (hs : Seals P key cur m.soEncryptedKey)
    (hd : Distinct P m.soEncryptedKey pin cur) {e : Token.FormatEnv} (he : e.reset.objects = true)
    {q : PinPolicy} (hq : q.Valid) (label : ByteString) :
    ∃ rv m' d', (Token.recreate P e q pin label (some m)).eval d = (some (rv, some m'), d') ∧
      Outcome d p true (p.left true ≠ 0 ∧ pin = cur) False
        (fun d' => d'.SOPIN = d.SOPIN ∧ d'.USERPIN = none) rv d' := by
  obtain ⟨flags, hflags⟩ := eval_getTokenFlags h
  unfold Token.recreate
  rw [Prog.eval_bind, eval_pinLocked h]
  by_cases hleft : p.left true = 0
  · rw [decide_eq_true hleft]
    exact ⟨_, m, d, rfl, Outcome.refused h (fun ha => ha.1 hleft) CK_RV.noConfusion⟩
  rw [decide_eq_false hleft]
  dsimp only
  rw [if_neg (by simp), Prog.eval_bind, hflags]
  dsimp only
  rw [if_pos hs.ne_nil]
  have hok : (SecureDataManager.loginSO P e.verifier pin m).1 = true ↔ pin = cur := by
    rw [loginSO_fst, openBlob_eq hP hs hd, isSome_ite]
  rcases hr : SecureDataManager.loginSO P e.verifier pin m with ⟨ok, m₁⟩
  rw [hr] at hok
  cases ok with
  | false =>
    have hne : pin ≠ cur := fun heq => Bool.false_ne_true (hok.2 heq)
    have hwrong := @outcome_wrong d p true (p.left true ≠ 0 ∧ pin = cur) False
      (fun d' => d'.SOPIN = d.SOPIN ∧ d'.USERPIN = none) h (fun ha => hne ha.2) id e.result m₁
    simp only [Bool.not_false, if_true, Prog.eval_bind]
    exact ⟨_, _, _, rfl, hwrong⟩
  | true =>
    obtain ⟨m', d', heval, hstands, hso, huser⟩ := eval_recreated h he hq pin label
      (flags &&& ~~~CKF_SO_PIN_COUNT_LOW) m₁
    dsimp only at heval ⊢
    exact ⟨_, m', d', heval, iff_of_true rfl ⟨hleft, hok.1 rfl⟩, ⟨q, hstands, False.elim⟩,
      fun _ => ⟨hso, huser⟩, fun hne => absurd rfl hne⟩

/-- The fresh key of a format, under both new PINs. -/
lemma freshKey_drawn (hP : Lawful P) {e : Token.FormatEnv} (he : e.pbe = .none)
    (he' : e.userPbe = .none) {newSOPIN newUserPIN : ByteString} (hso : 0 < newSOPIN.length)
    (hu : 0 < newUserPIN.length) :
    ∃ gen, Token.freshKey P e newSOPIN newUserPIN = some gen ∧
      Seals P (generateRandom e.draws.key 32) newSOPIN gen.soEncryptedKey ∧
      Seals P (generateRandom e.draws.key 32) newUserPIN gen.userEncryptedKey := by
  obtain ⟨m₁, hset, hseals, -⟩ := setSOPIN_fresh (P := P) (r := e.draws) hso
  have hlogin := @loginSO_of_seals P hP e.login newSOPIN _ m₁ hseals
  obtain ⟨gen, hgen, huser, hsame⟩ := setUserPIN_spec (P := P) (r := e.userDraws) hu
    (m := { remask e.login.remask (generateRandom e.draws.key 32) (logout m₁) with soLoggedIn := true })
    (.inl rfl) (masks_remask (m := logout m₁) (length_generateRandom _ _))
  refine ⟨logout gen, ?_, ?_, huser⟩
  · simp only [Token.freshKey, he, he', hset, hlogin, hgen, Bool.not_true, Bool.false_eq_true, if_false]
  · rw [show (logout gen).soEncryptedKey = m₁.soEncryptedKey from hsame]
    exact hseals

/-- Both blobs are sealed, the user's under the same key. -/
def Renewed (P : Primitives) (key soPIN userPIN : ByteString) (d : TokenObject) : Prop :=
  ∃ so user, d.SOPIN = some so ∧ Seals P key soPIN so ∧ d.USERPIN = some user ∧
    Seals P key userPIN user

/-- What comes of a format that is authorised. -/
lemma eval_storeParameters (h : Stands d p) {e : Token.FormatEnv}
    {c : CK_RUTOKEN_INIT_PARAM.Checked} (hc : c.policy.Valid) (sdm : Option SecureDataManager) :
    ∃ m' d', (Token.storeParameters e c sdm).eval d = ((CKR_OK, some m'), d') ∧
      Stands d' c.policy ∧ SameBlobs d d' := by
  unfold Token.storeParameters
  simp only [Bool.not_true, Bool.false_eq_true, if_false, Prog.eval_bind, eval_setPinPolicy,
    eval_setPinDefault, eval_readBlobs]
  exact ⟨_, _, rfl, ⟨getPinPolicy_setPinPolicy hc, h.flags⟩, rfl, rfl⟩

/-- The check of a format: nothing is changed where the answer is that it may go on. -/
lemma eval_authorise (hP : Lawful P) (h : Stands d p) {repairMode : Bool} {e : Token.FormatEnv}
    (hs : repairMode = false → Seals P key cur m.soEncryptedKey)
    (hd : repairMode = false → Distinct P m.soEncryptedKey pin cur) :
    let accepted := if repairMode then p.left true = 0 else p.left true ≠ 0 ∧ pin = cur
    (accepted ∧ (Token.authorise P e repairMode pin (some m)).eval d = ((none, some m), d)) ∨
      ∃ rv m' d', (Token.authorise P e repairMode pin (some m)).eval d = ((some rv, some m'), d') ∧
        ∀ stored, Outcome d p true accepted False stored rv d' := by
  intro accepted
  unfold Token.authorise
  cases repairMode with
  | true =>
    simp only [if_true, Prog.eval_bind, eval_pinLocked h]
    by_cases hleft : p.left true = 0
    · rw [decide_eq_true hleft]
      exact .inl ⟨hleft, rfl⟩
    · rw [decide_eq_false hleft]
      exact .inr ⟨_, m, d, rfl, fun _ => Outcome.refused h hleft CK_RV.noConfusion⟩
  | false =>
    have hseals := hs rfl
    dsimp only
    rw [if_neg (by simp), if_neg (Nat.ne_of_gt hseals.ne_nil), Prog.eval_bind, eval_pinLocked h]
    by_cases hleft : p.left true = 0
    · rw [decide_eq_true hleft]
      exact .inr ⟨_, m, d, rfl, fun _ => Outcome.refused h (fun ha => ha.1 hleft) CK_RV.noConfusion⟩
    rw [decide_eq_false hleft]
    have hok : (SecureDataManager.loginSO P e.verifier pin
        (create e.verifier m.soEncryptedKey m.userEncryptedKey)).1 = true ↔ pin = cur := by
      have hopen := openBlob_eq hP hseals (hd rfl)
      rw [loginSO_fst, create, hopen, isSome_ite]
    dsimp only
    by_cases hpin : pin = cur
    · rw [hok.2 hpin]
      exact .inl ⟨⟨hleft, hpin⟩, rfl⟩
    · rw [Bool.eq_false_iff.2 fun he => hpin (hok.1 he)]
      have hbind := Prog.eval_bind (pinResult e.result true false m)
        (fun r => pure (some r.1, some r.2)) d
      exact .inr ⟨_, _, _, hbind, fun _ => outcome_wrong h (fun ha => hpin ha.2) id e.result m⟩

/-- A format that may go on, with its fresh key. -/
lemma eval_reformatted (h : Stands d p) {e : Token.FormatEnv} (hobjects : e.reset.objects = true)
    {c : CK_RUTOKEN_INIT_PARAM.Checked} (hc : c.policy.Valid) {gen : SecureDataManager}
    (hauth : (Token.authorise P e c.repairMode pin (some m)).eval d = ((none, some m), d))
    (hgen : Token.freshKey P e c.newSOPIN c.newUserPIN = some gen) :
    ∃ m' d', (Token.reformat P e pin c (some m)).eval d = ((CKR_OK, some m'), d') ∧
      Stands d' c.policy ∧ d'.SOPIN = some gen.soEncryptedKey ∧
      d'.USERPIN = some gen.userEncryptedKey := by
  obtain ⟨d₁, hreset, hstands₁, -, -⟩ := eval_reset h hobjects c.label
  obtain ⟨flags, hstoreSO⟩ := eval_storeSOPIN hstands₁ e.soBlob e.soFlags gen.soEncryptedKey
  obtain ⟨flags', hstoreUser⟩ := eval_storeUserPIN (d := { d₁ with
    SOPIN := some gen.soEncryptedKey, TOKENFLAGS := some flags }) ⟨hstands₁.policy, rfl⟩ e.userBlob
    e.userFlags gen.userEncryptedKey
  obtain ⟨m', d', hparameters, hstands, hsame⟩ := eval_storeParameters (d := { d₁ with
    SOPIN := some gen.soEncryptedKey, USERPIN := some gen.userEncryptedKey
    TOKENFLAGS := some flags' }) ⟨hstands₁.policy, rfl⟩ (e := e) hc (some m)
  have hpins : (Token.storePINs e gen).eval d₁ = (true, { d₁ with
      SOPIN := some gen.soEncryptedKey, USERPIN := some gen.userEncryptedKey
      TOKENFLAGS := some flags' }) := by
    unfold Token.storePINs
    rw [Prog.eval_bind, hstoreSO]
    exact hstoreUser
  unfold Token.reformat
  rw [Prog.eval_bind, hauth]
  simp only [hgen, Bool.not_true, Bool.false_eq_true, if_false, Prog.eval_bind, hreset, hpins,
    hparameters]
  exact ⟨m', d', rfl, hstands, hsame.1, hsame.2⟩

/-- `initTokenExtended` on a token that is there. -/
lemma eval_reformat (hP : Lawful P) (h : Stands d p) {e : Token.FormatEnv} (he : e.pbe = .none)
    (he' : e.userPbe = .none) (hobjects : e.reset.objects = true)
    {c : CK_RUTOKEN_INIT_PARAM.Checked} (hc : c.policy.Valid) (hso : 0 < c.newSOPIN.length)
    (hu : 0 < c.newUserPIN.length) (hs : c.repairMode = false → Seals P key cur m.soEncryptedKey)
    (hd : c.repairMode = false → Distinct P m.soEncryptedKey pin cur) :
    ∃ rv m' d', (Token.reformat P e pin c (some m)).eval d = ((rv, some m'), d') ∧
      Outcome d p true (if c.repairMode then p.left true = 0 else p.left true ≠ 0 ∧ pin = cur) False
        (Renewed P (generateRandom e.draws.key 32) c.newSOPIN c.newUserPIN) rv d' := by
  rcases @eval_authorise P key cur pin d p m hP h c.repairMode e hs hd with
    ⟨hallowed, hauth⟩ | ⟨rv, m', d', hauth, houtcome⟩
  swap
  · unfold Token.reformat
    rw [Prog.eval_bind, hauth]
    exact ⟨rv, m', d', rfl, houtcome _⟩
  obtain ⟨gen, hgen, hgenSO, hgenUser⟩ := freshKey_drawn hP he he' hso hu
  obtain ⟨m', d', heval, hstands, hsoBlob, huserBlob⟩ := eval_reformatted h hobjects hc hauth hgen
  exact ⟨_, m', d', heval, iff_of_true rfl hallowed, ⟨_, hstands, False.elim⟩,
    fun _ => ⟨_, _, hsoBlob, hgenSO, huserBlob, hgenUser⟩, fun hne => absurd rfl hne⟩

/-! ### New tokens -/

lemma createNew_done {r : FormatDraws} {q : PinPolicy} (hq : q.Valid) {soPIN : ByteString}
    (hp : 0 < soPIN.length) (label : ByteString) :
    ∃ m a, Token.createNew P (formatEnv r) q soPIN label = (CKR_OK, some ⟨File.settled a, some m⟩) ∧
      Stands a q ∧ a.USERPIN = none ∧
      ∃ blob, a.SOPIN = some blob ∧ Seals P (generateRandom r.draws.key 32) soPIN blob := by
  obtain ⟨gen, hset, hseals, -⟩ := setSOPIN_fresh (P := P) (r := r.draws) hp
  obtain ⟨flags, hpin⟩ := Creation.run_setSOPIN_done label gen.soEncryptedKey
  obtain ⟨m, hpolicy⟩ := (Creation.run_storePolicy (formatEnv r) q soPIN { created label with
    SOPIN := some gen.soEncryptedKey, TOKENFLAGS := some flags }).1 ⟨rfl, rfl⟩
  have hpbe : (formatEnv r).pbe = .none := rfl
  have hdraws : (formatEnv r).draws = r.draws := rfl
  have hnew : (formatEnv r).newToken = true := rfl
  have hstored : (TokenObject.setSOPIN (formatEnv r).soBlob (formatEnv r).soFlags gen.soEncryptedKey).run
    ⟨some (created label), created label, true⟩ = _ := hpin
  unfold Token.createNew
  simp only [hpbe, hdraws, hset, hnew, hstored, Bool.not_true, Bool.false_eq_true, if_false]
  refine ⟨m, _, congrArg (fun x => (x.1.1, some (Token.mk x.2 x.1.2))) hpolicy, ?_⟩
  exact ⟨⟨getPinPolicy_setPinPolicy hq, rfl⟩, rfl, _, rfl, hseals⟩

lemma initNew_of_fresh {r : FormatDraws} {c : CK_RUTOKEN_INIT_PARAM.Checked} (hc : c.policy.Valid)
    {gen : SecureDataManager}
    (hgen : Token.freshKey P (formatEnv r) c.newSOPIN c.newUserPIN = some gen) :
    ∃ m a, Token.initNew P (formatEnv r) c = (CKR_OK, some ⟨File.settled a, some m⟩) ∧
      Stands a c.policy ∧ a.SOPIN = some gen.soEncryptedKey ∧
      a.USERPIN = some gen.userEncryptedKey := by
  obtain ⟨flags, hpins⟩ := Creation.run_storePINs_done (e := formatEnv r) ⟨rfl, rfl, rfl, rfl⟩ c.label gen
  obtain ⟨m, hparameters⟩ := (Creation.run_storeParameters (formatEnv r) c { created c.label with
    SOPIN := some gen.soEncryptedKey, USERPIN := some gen.userEncryptedKey
    TOKENFLAGS := some flags }).1 ⟨rfl, rfl, rfl⟩
  have hnew : (formatEnv r).newToken = true := rfl
  have hstored : (Token.storePINs (formatEnv r) gen).run
    ⟨some (created c.label), created c.label, true⟩ = _ := hpins
  unfold Token.initNew
  rw [hgen]
  simp only [hnew, hstored, Bool.not_true, Bool.false_eq_true, if_false]
  refine ⟨m, _, congrArg (fun x => (x.1.1, some (Token.mk x.2 x.1.2))) hparameters, ?_⟩
  exact ⟨⟨getPinPolicy_setPinPolicy hc, rfl⟩, rfl, rfl⟩

lemma initNew_done (hP : Lawful P) {r : FormatDraws} {c : CK_RUTOKEN_INIT_PARAM.Checked}
    (hc : c.policy.Valid) (hso : 0 < c.newSOPIN.length) (hu : 0 < c.newUserPIN.length) :
    ∃ m a, Token.initNew P (formatEnv r) c = (CKR_OK, some ⟨File.settled a, some m⟩) ∧
      Stands a c.policy ∧ Renewed P (generateRandom r.draws.key 32) c.newSOPIN c.newUserPIN a := by
  obtain ⟨gen, hgen, hgenSO, hgenUser⟩ := freshKey_drawn hP (e := formatEnv r) rfl rfl hso hu
  obtain ⟨m, a, hnew, ha, hsoBlob, huserBlob⟩ := initNew_of_fresh hc hgen
  exact ⟨m, a, hnew, ha, _, _, hsoBlob, hgenSO, huserBlob, hgenUser⟩

/-! ### Processes -/

lemma fresh_loginSO (r : Draws) (e : Token.ResultWrites) (pin : ByteString) :
    (Token.loginSO P r e pin m).Fresh := by
  unfold Token.loginSO
  split
  · trivial
  split
  · trivial
  · exact trivial

lemma fresh_loginUser (r : Draws) (e : Token.ResultWrites) (pin : ByteString) :
    (Token.loginUser P r e pin m).Fresh := by
  unfold Token.loginUser
  split
  · trivial
  split
  · trivial
  split
  · trivial
  · exact trivial

lemma fresh_reAuthenticate (e : Token.ResultWrites) (pin : ByteString) :
    (Token.reAuthenticate P e pin m).Fresh := by
  unfold Token.reAuthenticate
  split
  · exact trivial
  split
  · exact trivial
  · exact trivial

lemma fresh_setSOPIN (e : Token.PinEnv) (oldPIN newPIN : ByteString) :
    (Token.setSOPIN P e oldPIN newPIN m).Fresh := trivial

lemma fresh_reformat (e : Token.FormatEnv) (soPIN : ByteString) (k : CK_RUTOKEN_INIT_PARAM.Checked) :
    (Token.reformat P e soPIN k (some m)).Fresh := by
  unfold Token.reformat
  refine Prog.Fresh.bind ?_ fun r => ?_
  · unfold Token.authorise
    cases k.repairMode with
    | true => exact trivial
    | false =>
      dsimp only
      rw [if_neg Bool.false_ne_true]
      split
      · trivial
      · exact trivial
  · obtain ⟨_ | rv, sdm⟩ := r
    swap
    · trivial
    dsimp only
    cases Token.freshKey P e k.newSOPIN k.newUserPIN with
    | none => trivial
    | some gen => exact trivial

lemma fresh_setUserPIN (e : Token.PinEnv) (oldPIN newPIN : ByteString) :
    (Token.setUserPIN P e oldPIN newPIN m).Fresh := trivial

/-- The copy of a process that looked at the file first. -/
lemma visit_stands {α : Type} {c : TokenObject} (hc : ∃ q, Stands c q) {prog : Prog α}
    (hfresh : prog.Fresh) (hd : ∃ q, Stands (prog.eval d).2 q) :
    ∃ c', (∃ q, Stands c' q) ∧ prog.visit c d = ((prog.eval d).1, c', (prog.eval d).2) := by
  obtain ⟨hvalue, hdisk, hcopy⟩ := Prog.visit_of_fresh hfresh c d
  refine ⟨(prog.visit c d).2.1, ?_, Prod.ext hvalue (Prod.ext rfl hdisk)⟩
  rcases hcopy with he | he
  · rw [he]
    exact hc
  · rw [he]
    exact hd

section system

variable {ι : Type} {s : System ι} {i : ι} {c : TokenObject}

lemma note_id (r : Reply × System ι) : System.note id r = r := by
  unfold System.note
  split <;> rfl

lemma note_absent (f : System ι → System ι) : System.note f (.absent, s) = (.absent, s) := by
  unfold System.note
  rw [if_neg Reply.noConfusion]

variable [DecidableEq ι]

lemma call_eq (hprocess : s.process i = some ⟨c, some m⟩) (hdisk : s.disk = some d)
    (op : SecureDataManager → Prog (CK_RV × SecureDataManager)) :
    s.call i op = (.rv ((op m).visit c d).1.1, s.set i ((op m).visit c d).2.1
      ((op m).visit c d).2.2 (some ((op m).visit c d).1.2)) := by
  unfold System.call
  rw [hprocess, hdisk]

lemma compute_eq (hprocess : s.process i = some ⟨c, some m⟩) (hdisk : s.disk = some d)
    (op : SecureDataManager → Option ByteString × SecureDataManager) :
    s.compute i op = (.bytes (op m).1, s.set i c d (some (op m).2)) := by
  unfold System.compute
  rw [hprocess, hdisk]

lemma call_absent (h : s.process i = none)
    (op : SecureDataManager → Prog (CK_RV × SecureDataManager)) : s.call i op = (.absent, s) := by
  unfold System.call
  rw [h]

lemma compute_absent (h : s.process i = none)
    (op : SecureDataManager → Option ByteString × SecureDataManager) :
    s.compute i op = (.absent, s) := by
  unfold System.compute
  rw [h]

end system

end SoftHSM.SharedToken
