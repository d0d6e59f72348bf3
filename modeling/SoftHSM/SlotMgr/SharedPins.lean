import SoftHSM.SlotMgr.SharedSteps

/-!
A token that several processes use: the PIN of a role is one value for all of them, and so is the master
key, as long as every process that looks into a blob of its manager has the one that is stored, writes
no SO blob from its copy that another process has replaced, and holds the master key of the token.
-/

namespace SoftHSM.SharedToken

open RecordFile TokenObject SecureDataManager PinPolicy CK_RV Transition
open Token (policyOf)
open Creation (check_pins)

variable {ι : Type} {P : Primitives}

/-! ### What a process has -/

/-- The SO blob of the manager is the one that is stored. -/
def SOCurrent (d : TokenObject) (m : SecureDataManager) : Prop := d.SOPIN = some m.soEncryptedKey

/-- The user blob of the manager is the one that is stored. -/
def UserCurrent (d : TokenObject) (m : SecureDataManager) : Prop :=
  d.USERPIN.getD [] = m.userEncryptedKey

/-- A login holds the master key of the token. -/
def KeyCurrent (s : System ι) (m : SecureDataManager) : Prop := LoggedIn m → unmask m = s.key

/-- The stored SO blob is the one that the manager has, and no PIN but that of the SO derives its key. -/
def LooksSO (P : Primitives) (s : System ι) (d : TokenObject) (m : SecureDataManager)
    (pin : ByteString) : Prop :=
  SOCurrent d m ∧ Distinct P m.soEncryptedKey pin s.soPIN

def LooksUser (P : Primitives) (s : System ι) (d : TokenObject) (m : SecureDataManager)
    (pin : ByteString) : Prop :=
  UserCurrent d m ∧ ∀ cur ∈ s.userPIN, Distinct P m.userEncryptedKey pin cur

/-- What an operation needs of the process that makes it, with the copy `c` and the manager `m`. -/
def Op.Fits (P : Primitives) (s : System ι) (c d : TokenObject) (m : SecureDataManager) : Op → Prop
  | .start _ => True
  | .loginSO _ pin => LooksSO P s d m pin
  | .loginUser _ pin => LooksUser P s d m pin
  | .reAuthenticate pin =>
    if m.soLoggedIn then LooksSO P s d m pin else m.userLoggedIn = true → LooksUser P s d m pin
  | .logout => True
  | .setSOPIN _ _ oldPIN _ => LooksSO P s d m oldPIN ∧ KeyCurrent s m
  | .setUserPIN _ _ oldPIN _ => LooksUser P s d m oldPIN
  | .initUserPIN _ _ => c.SOPIN = d.SOPIN ∧ KeyCurrent s m
  | .createToken _ _ soPIN _ => LooksSO P s d m soPIN
  | .initTokenExtended _ soPIN pInitInfo => pInitInfo.UseRepairMode = 0 → LooksSO P s d m soPIN
  | .encrypt _ _ => KeyCurrent s m
  | .decrypt _ _ => KeyCurrent s m

/-- The process that makes the operation is up to date as far as the operation needs it. -/
def Fits (P : Primitives) (s : System ι) (l : ι × Op) : Prop :=
  ∀ c m d, s.process l.1 = some ⟨c, some m⟩ → s.disk = some d → l.2.Fits P s c d m

/-! ### What the processes are promised -/

/-- The operations that are to succeed, on a token with the policy `p`: the role has attempts left, and the
PIN is the one that any process set last. -/
def Op.Accepted (s : System ι) (p : PinPolicy) (m : SecureDataManager) : Op → Prop
  | .start _ => True
  | .loginSO _ pin => ¬ LoggedIn m ∧ p.left true ≠ 0 ∧ pin = s.soPIN
  | .loginUser _ pin => ¬ LoggedIn m ∧ p.left false ≠ 0 ∧ s.userPIN = some pin
  | .reAuthenticate pin =>
    if m.soLoggedIn then p.left true ≠ 0 ∧ pin = s.soPIN
    else m.userLoggedIn = true ∧ p.left false ≠ 0 ∧ s.userPIN = some pin
  | .logout => True
  | .setSOPIN _ _ oldPIN newPIN =>
    p.left true ≠ 0 ∧ oldPIN = s.soPIN ∧ m.soLoggedIn = true ∧ newPIN ≠ []
  | .setUserPIN _ _ oldPIN newPIN => p.left false ≠ 0 ∧ s.userPIN = some oldPIN ∧ newPIN ≠ []
  | .initUserPIN _ pin => LoggedIn m ∧ pin ≠ []
  | .createToken _ requested soPIN label =>
    (∃ policy, newPolicy requested = some policy ∧ policy.minSOLength.toNat ≤ soPIN.length ∧
      soPIN.length ≤ policy.maxLength.toNat) ∧ label.isSome = true ∧
      p.left true ≠ 0 ∧ soPIN = s.soPIN
  | .initTokenExtended _ soPIN pInitInfo => pInitInfo.check.isSome = true ∧
      if pInitInfo.UseRepairMode != 0 then p.left true = 0 else p.left true ≠ 0 ∧ soPIN = s.soPIN
  | .encrypt _ _ => False
  | .decrypt _ _ => False

/-- The current PIN of a role is presented. -/
def Op.Right (s : System ι) (m : SecureDataManager) (so : Bool) : Op → Prop
  | .loginSO _ pin => so = true ∧ pin = s.soPIN
  | .loginUser _ pin => so = false ∧ s.userPIN = some pin
  | .reAuthenticate pin =>
    if m.soLoggedIn then so = true ∧ pin = s.soPIN
    else m.userLoggedIn = true ∧ so = false ∧ s.userPIN = some pin
  | .setSOPIN _ _ oldPIN _ => so = true ∧ oldPIN = s.soPIN
  | .setUserPIN _ _ oldPIN _ => so = false ∧ s.userPIN = some oldPIN
  | _ => False

/-- **The promise** on one operation: it succeeds if and only if it is to, the current PIN costs no
attempt, and what was encrypted is decrypted. -/
structure Kept [DecidableEq ι] (P : Primitives) (s : System ι) (l : ι × Op) : Prop where
  accepted : ∀ c m d p, s.process l.1 = some ⟨c, some m⟩ → s.disk = some d → policyOf d = some p →
    ((s.exec P l.1 l.2).1 = .rv CKR_OK ↔ l.2.Accepted s p m)
  free : ∀ c m d p so d' p', s.process l.1 = some ⟨c, some m⟩ → s.disk = some d →
    policyOf d = some p → l.2.Right s m so → (s.exec P l.1 l.2).2.disk = some d' →
    policyOf d' = some p' → p.left so ≤ p'.left so
  decrypted : ∀ c m r x y, s.process l.1 = some ⟨c, some m⟩ → LoggedIn m → l.2 = .decrypt r y →
    (x, y) ∈ s.encrypted → (s.exec P l.1 l.2).1 = .bytes (some x)

/-- The stored blobs seal one master key, under the PINs that were set last. -/
def OneKey (P : Primitives) (s : System ι) : Prop :=
  ∀ d, s.disk = some d →
    (∃ blob, d.SOPIN = some blob ∧ Seals P s.key s.soPIN blob) ∧
    ∀ blob, d.USERPIN = some blob → ∃ pin, s.userPIN = some pin ∧ Seals P s.key pin blob

/-! ### The invariant -/

/-- The user blob is stored as the history has it. -/
def StoredUser (P : Primitives) (key : ByteString) (d : TokenObject) : Option ByteString → Prop
  | none => d.USERPIN = none
  | some cur => ∃ blob, d.USERPIN = some blob ∧ Seals P key cur blob

structure Sound (P : Primitives) (s : System ι) (d : TokenObject) : Prop where
  disk : s.disk = some d
  stands : ∃ p, Stands d p
  key : s.key.length = 32
  so : ∃ blob, d.SOPIN = some blob ∧ Seals P s.key s.soPIN blob
  user : StoredUser P s.key d s.userPIN
  copies : ∀ i c sdm, s.process i = some ⟨c, sdm⟩ → (∃ q, Stands c q) ∧ sdm.isSome = true
  encrypted : ∀ x y, (x, y) ∈ s.encrypted →
    ∃ iv : ByteString, iv.length = blockSize ∧ y = iv ++ P.encrypt s.key iv x

/-- There is no token yet, or a sound one. -/
def Inv (P : Primitives) (s : System ι) : Prop :=
  (s.disk = none ∧ ∀ i, s.process i = none) ∨ ∃ d, Sound P s d

variable {s : System ι} {i : ι} {c c' d d' : TokenObject} {m m' : SecureDataManager} {p : PinPolicy}

lemma Sound.oneKey (h : Sound P s d) : OneKey P s := by
  intro d' hd
  obtain rfl := Option.some.inj (h.disk.symm.trans hd)
  refine ⟨h.so, fun blob hblob => ?_⟩
  have huser := h.user
  cases hpin : s.userPIN with
  | none =>
    rw [hpin] at huser
    rw [show d.USERPIN = none from huser] at hblob
    cases hblob
  | some pin =>
    rw [hpin] at huser
    obtain ⟨blob', hblob', hseals⟩ := huser
    obtain rfl := Option.some.inj (hblob'.symm.trans hblob)
    exact ⟨pin, rfl, hseals⟩

lemma LooksSO.seals (h : Sound P s d) {pin : ByteString} (hl : LooksSO P s d m pin) :
    Seals P s.key s.soPIN m.soEncryptedKey := by
  obtain ⟨blob, hblob, hseals⟩ := h.so
  obtain rfl := Option.some.inj (hblob.symm.trans hl.1)
  exact hseals

lemma LooksUser.blob (h : Sound P s d) {pin : ByteString} (hl : LooksUser P s d m pin) :
    UserBlob P s.key s.userPIN m.userEncryptedKey := by
  have huser := h.user
  rw [← hl.1]
  cases hpin : s.userPIN with
  | none =>
    rw [hpin] at huser
    rw [show d.USERPIN = none from huser]
    rfl
  | some cur =>
    rw [hpin] at huser
    obtain ⟨blob, hblob, hseals⟩ := huser
    rw [hblob]
    exact hseals

/-- A login that holds the key of the token holds it under its mask. -/
lemma KeyCurrent.masks (h : Sound P s d) (hk : KeyCurrent s m) (hl : LoggedIn m) : Masks m s.key := by
  have hkey := hk hl
  refine ⟨?_, hkey⟩
  have hlength := congrArg List.length hkey
  rw [unmask, ByteString.length_xorAssign, h.key] at hlength
  exact hlength

lemma StoredUser.congr {key : ByteString} {userPIN : Option ByteString}
    (h : StoredUser P key d userPIN) (hd : d'.USERPIN = d.USERPIN) : StoredUser P key d' userPIN := by
  cases userPIN with
  | none => exact hd.trans h
  | some cur =>
    obtain ⟨blob, hblob, hseals⟩ := h
    exact ⟨blob, hd.trans hblob, hseals⟩

lemma Inv.oneKey (h : Inv P s) : OneKey P s := by
  rcases h with ⟨hdisk, -⟩ | ⟨d, h⟩
  · exact fun d hd => nomatch hdisk.symm.trans hd
  · exact h.oneKey

variable [DecidableEq ι]

/-- The token after an operation of one process. -/
lemma Sound.step (h : Sound P s d) {s' : System ι} (hdisk : s'.disk = some d')
    (hprocess : s'.process = Function.update s.process i (some ⟨c', some m'⟩))
    (hd : ∃ p, Stands d' p) (hc : ∃ q, Stands c' q) (hkey : s'.key.length = 32)
    (hso : ∃ blob, d'.SOPIN = some blob ∧ Seals P s'.key s'.soPIN blob)
    (huser : StoredUser P s'.key d' s'.userPIN)
    (hencrypted : ∀ x y, (x, y) ∈ s'.encrypted →
      ∃ iv : ByteString, iv.length = blockSize ∧ y = iv ++ P.encrypt s'.key iv x) : Sound P s' d' where
  disk := hdisk
  stands := hd
  key := hkey
  so := hso
  user := huser
  copies := by
    intro j c sdm hj
    rw [hprocess] at hj
    by_cases he : j = i
    · rw [he, Function.update_self] at hj
      cases hj
      exact ⟨hc, rfl⟩
    · rw [Function.update_of_ne he] at hj
      exact h.copies j c sdm hj
  encrypted := hencrypted

/-- The token after an operation that changes no blob. -/
lemma Sound.same (h : Sound P s d) (hd : ∃ p, Stands d' p) (hc : ∃ q, Stands c' q)
    (hsame : SameBlobs d d') : Sound P (s.set i c' d' (some m')) d' := by
  obtain ⟨blob, hblob, hseals⟩ := h.so
  exact h.step rfl rfl hd hc h.key ⟨blob, hsame.1.trans hblob, hseals⟩ (h.user.congr hsame.2)
    h.encrypted

/-! ### One operation -/

section settle

variable {so : Bool} {accepted right : Prop} {stored : TokenObject → Prop} {rv : CK_RV}
  {f : System ι → System ι}

/-- What an answer to a process comes to: whether it is `CKR_OK`, what it costs, and that the token is
sound again. -/
def Settled (P : Primitives) (p : PinPolicy) (so : Bool) (accepted right : Prop)
    (r : Reply × System ι) : Prop :=
  (r.1 = .rv CKR_OK ↔ accepted) ∧
    (right → ∀ d' p', r.2.disk = some d' → policyOf d' = some p' → p.left so ≤ p'.left so) ∧
    ∃ d', Sound P r.2 d'

lemma settled_of_outcome (h : Sound P s d) (hc : ∃ q, Stands c' q)
    (ho : Outcome d p so accepted right stored rv d') (hf : ∀ s, (f s).disk = s.disk)
    (hdone : (∃ p, Stands d' p) → stored d' → Sound P (f (s.set i c' d' (some m'))) d') :
    Settled P p so accepted right (System.note f (.rv rv, s.set i c' d' (some m'))) := by
  obtain ⟨p', hstands, hle⟩ := ho.policy
  have hcost : ∀ r : Reply × System ι, r.2.disk = some d' → right → ∀ d'' p'',
      r.2.disk = some d'' → policyOf d'' = some p'' → p.left so ≤ p''.left so := by
    intro r hr hright d'' p'' hd hp
    obtain rfl := Option.some.inj (hr.symm.trans hd)
    obtain rfl := Option.some.inj (hstands.policy.symm.trans hp)
    exact hle hright
  unfold System.note
  by_cases hrv : rv = CKR_OK
  · rw [if_pos (congrArg Reply.rv hrv)]
    exact ⟨iff_of_true (congrArg Reply.rv hrv) (ho.ok.1 hrv), hcost (_, _) (hf _),
      d', hdone ⟨p', hstands⟩ (ho.done hrv)⟩
  · have hne : Reply.rv rv ≠ .rv CKR_OK := fun he => hrv (Reply.rv.inj he)
    rw [if_neg hne]
    exact ⟨iff_of_false hne fun ha => hrv (ho.ok.2 ha), hcost (_, _) rfl,
      d', h.same ⟨p', hstands⟩ hc (ho.kept hrv)⟩

/-- A process that looks at the file first. -/
lemma settled_call (h : Sound P s d) (hprocess : s.process i = some ⟨c, some m⟩)
    {op : SecureDataManager → Prog (CK_RV × SecureDataManager)} (hfresh : (op m).Fresh)
    (ho : Outcome d p so accepted right stored ((op m).eval d).1.1 ((op m).eval d).2)
    (hf : ∀ s, (f s).disk = s.disk)
    (hdone : ∀ c' d' m', (∃ q, Stands c' q) → (∃ p, Stands d' p) → stored d' →
      Sound P (f (s.set i c' d' (some m'))) d') :
    Settled P p so accepted right (System.note f (s.call i op)) := by
  obtain ⟨c', hc, hvisit⟩ := visit_stands (h.copies i c _ hprocess).1 hfresh (ho.policy.imp fun _ hp => hp.1)
  rw [call_eq hprocess h.disk, hvisit]
  exact settled_of_outcome h hc ho hf (hdone _ _ _ hc)

/-- The same where no blob is changed. -/
lemma settled_same (h : Sound P s d) (hprocess : s.process i = some ⟨c, some m⟩)
    {op : SecureDataManager → Prog (CK_RV × SecureDataManager)} (hfresh : (op m).Fresh)
    (ho : Outcome d p so accepted right (SameBlobs d) ((op m).eval d).1.1 ((op m).eval d).2) :
    Settled P p so accepted right (s.call i op) := by
  rw [← note_id (s.call i op)]
  exact settled_call h hprocess hfresh ho (fun _ => rfl) fun c' d' m' hc hd hsame =>
    h.same hd hc hsame

end settle

/-- The promise, from what the answer comes to. -/
lemma kept_of_settled {so : Bool} {accepted right : Prop} {l : ι × Op} (h : Sound P s d)
    (hp : Stands d p) (hprocess : s.process l.1 = some ⟨c, some m⟩)
    (hset : Settled P p so accepted right (s.exec P l.1 l.2))
    (haccepted : l.2.Accepted s p m ↔ accepted)
    (hright : ∀ so', l.2.Right s m so' → so' = so ∧ right) (hop : ∀ r y, l.2 ≠ .decrypt r y) :
    Kept P s l ∧ Inv P (s.exec P l.1 l.2).2 := by
  obtain ⟨hok, hcost, hsound⟩ := hset
  have hsame : ∀ {c' m' d' p'}, s.process l.1 = some ⟨c', some m'⟩ → s.disk = some d' →
      policyOf d' = some p' → m' = m ∧ d' = d ∧ p' = p := by
    intro c' m' d' p' hprocess' hdisk hpolicy
    have hpair := hprocess'.symm.trans hprocess
    cases hpair
    obtain rfl := Option.some.inj (hdisk.symm.trans h.disk)
    exact ⟨rfl, rfl, Option.some.inj (hpolicy.symm.trans hp.policy)⟩
  refine ⟨⟨fun c' m' d' p' hprocess' hdisk hpolicy => ?_,
    fun c' m' d' p' so' d'' p'' hprocess' hdisk hpolicy hr hdisk' hpolicy' => ?_,
    fun c' m' r x y _ _ he _ => absurd he (hop r y)⟩, .inr hsound⟩
  · obtain ⟨rfl, rfl, rfl⟩ := hsame hprocess' hdisk hpolicy
    exact hok.trans haccepted.symm
  · obtain ⟨rfl, rfl, rfl⟩ := hsame hprocess' hdisk hpolicy
    obtain ⟨rfl, hr⟩ := hright so' hr
    exact hcost hr d'' p'' hdisk' hpolicy'

section steps

variable (h : Sound P s d) (hp : Stands d p) (hprocess : s.process i = some ⟨c, some m⟩)
include h hp hprocess

lemma step_start {r : Draws} : Kept P s (i, .start r) ∧ Inv P (s.exec P i (.start r)).2 := by
  have hset : Settled P p true True False (s.exec P i (.start r)) := by
    unfold System.exec
    dsimp only
    rw [h.disk]
    exact ⟨iff_of_true rfl trivial, False.elim, d, h.same h.stands h.stands (SameBlobs.refl d)⟩
  exact kept_of_settled h hp hprocess hset Iff.rfl (fun _ hr => hr.elim) fun _ _ => Op.noConfusion

lemma step_initUserPIN {draws : Draws} {pin : ByteString} (hc : c.SOPIN = d.SOPIN)
    (hk : KeyCurrent s m) : Kept P s (i, .initUserPIN draws pin) ∧
      Inv P (s.exec P i (.initUserPIN draws pin)).2 := by
  obtain ⟨⟨q, hq⟩, -⟩ := h.copies i c _ hprocess
  have hset : Settled P p true (LoggedIn m ∧ pin ≠ []) False (s.exec P i (.initUserPIN draws pin)) := by
    unfold System.exec
    dsimp only
    rw [call_eq hprocess h.disk]
    rcases @visit_initUserPIN P s.key m pin c d q hq (hk.masks h) (pinEnv draws draws) rfl with
      ⟨hno, m', hvisit⟩ | ⟨hyes, m', c', q', blob, hvisit, hstands, hso, huser, hseals⟩
    · rw [hvisit]
      have ho := @Outcome.refused d p true (LoggedIn m ∧ pin ≠ []) False (fun _ => False) hp hno
        CKR_GENERAL_ERROR CK_RV.noConfusion
      exact settled_of_outcome h ⟨q, hq⟩ ho (fun _ => rfl) fun _ => False.elim
    · rw [hvisit]
      obtain ⟨soBlob, hsoBlob, hsoSeals⟩ := h.so
      have ho : Outcome d p true (LoggedIn m ∧ pin ≠ []) False
          (fun _ => True) CKR_OK c' :=
        ⟨iff_of_true rfl hyes, ⟨q', hstands, False.elim⟩, fun _ => trivial, fun hne => absurd rfl hne⟩
      exact settled_of_outcome h ⟨q', hstands⟩ ho (fun _ => rfl) fun hd _ =>
        h.step rfl rfl hd ⟨q', hstands⟩ h.key ⟨soBlob, (hso.trans hc).trans hsoBlob, hsoSeals⟩
          ⟨blob, huser, hseals⟩ h.encrypted
  exact kept_of_settled h hp hprocess hset Iff.rfl (fun _ hr => hr.elim) fun _ _ => Op.noConfusion

lemma step_logout : Kept P s (i, .logout) ∧ Inv P (s.exec P i .logout).2 := by
  have ho : Outcome d p true True False (SameBlobs d) CKR_OK d :=
    ⟨iff_of_true rfl trivial, ⟨p, hp, False.elim⟩, fun _ => SameBlobs.refl d, fun hne => absurd rfl hne⟩
  have hset : Settled P p true True False (s.exec P i .logout) := settled_same h hprocess trivial ho
  exact kept_of_settled h hp hprocess hset Iff.rfl (fun _ hr => hr.elim) fun _ _ => Op.noConfusion

lemma step_encrypt {r : Draws} {x : ByteString} (hk : KeyCurrent s m) :
    Kept P s (i, .encrypt r x) ∧ Inv P (s.exec P i (.encrypt r x)).2 := by
  have hc := (h.copies i c _ hprocess).1
  have hset : Settled P p true False False (s.exec P i (.encrypt r x)) := by
    unfold System.exec
    dsimp only
    rw [compute_eq hprocess h.disk]
    by_cases hl : LoggedIn m
    · rw [encrypt_spec hl (hk.masks h hl)]
      refine ⟨iff_of_false Reply.noConfusion id, False.elim, d, ?_⟩
      refine h.step rfl rfl ⟨p, hp⟩ hc h.key h.so h.user fun y z hin => ?_
      rcases List.mem_cons.1 hin with he | hin
      · cases he
        exact ⟨_, length_generateRandom _ _, rfl⟩
      · exact h.encrypted y z hin
    · have hnone : SecureDataManager.encrypt P r x m = (none, m) := by
        simp only [SecureDataManager.encrypt, guard_of_nobody hl, if_true]
      rw [hnone]
      exact ⟨iff_of_false Reply.noConfusion id, False.elim, d, h.same ⟨p, hp⟩ hc (SameBlobs.refl d)⟩
  exact kept_of_settled h hp hprocess hset Iff.rfl (fun _ hr => hr.elim) fun _ _ => Op.noConfusion

variable (hP : Lawful P)
include hP

lemma step_decrypt {r : Draws} {y : ByteString} (hk : KeyCurrent s m) :
    Kept P s (i, .decrypt r y) ∧ Inv P (s.exec P i (.decrypt r y)).2 := by
  have hexec := compute_eq hprocess h.disk (SecureDataManager.decrypt P r y)
  have hsound : Sound P (s.set i c d (some (SecureDataManager.decrypt P r y m).2)) d :=
    h.same ⟨p, hp⟩ (h.copies i c _ hprocess).1 (SameBlobs.refl d)
  have hno : (s.exec P i (.decrypt r y)).1 ≠ .rv CKR_OK := by
    unfold System.exec
    dsimp only
    rw [hexec]
    exact Reply.noConfusion
  refine ⟨⟨fun _ _ _ _ _ _ _ => iff_of_false hno id,
    fun _ _ _ _ _ _ _ _ _ _ hr => hr.elim, ?_⟩, .inr ⟨d, ?_⟩⟩
  · intro c' m' r' x y' hprocess' hl he hin
    have hpair := hprocess'.symm.trans hprocess
    cases hpair
    cases he
    obtain ⟨iv, hi, rfl⟩ := h.encrypted x y hin
    unfold System.exec
    dsimp only
    rw [hexec, decrypt_sealed hP hl (hk.masks h hl) hi]
  · unfold System.exec
    dsimp only
    rw [hexec]
    exact hsound

lemma step_loginSO {r : Draws} {pin : ByteString} (hl : LooksSO P s d m pin) :
    Kept P s (i, .loginSO r pin) ∧ Inv P (s.exec P i (.loginSO r pin)).2 := by
  have ho := outcome_loginSO hP hp (hl.seals h) hl.2 r .done
  have hset := settled_same h hprocess (fresh_loginSO r .done pin) ho
  exact kept_of_settled h hp hprocess hset Iff.rfl (fun _ hr => hr) fun _ _ => Op.noConfusion

lemma step_loginUser {r : Draws} {pin : ByteString} (hl : LooksUser P s d m pin) :
    Kept P s (i, .loginUser r pin) ∧ Inv P (s.exec P i (.loginUser r pin)).2 := by
  have ho := outcome_loginUser hP hp (hl.blob h) hl.2 r .done
  have hset := settled_same h hprocess (fresh_loginUser r .done pin) ho
  exact kept_of_settled h hp hprocess hset Iff.rfl (fun _ hr => hr) fun _ _ => Op.noConfusion

lemma step_reAuthenticate {pin : ByteString} (hl : if m.soLoggedIn then LooksSO P s d m pin
      else m.userLoggedIn = true → LooksUser P s d m pin) :
    Kept P s (i, .reAuthenticate pin) ∧ Inv P (s.exec P i (.reAuthenticate pin)).2 := by
  have hfresh := @fresh_reAuthenticate P m .done pin
  by_cases hso : m.soLoggedIn = true
  · rw [if_pos hso] at hl
    have ho := outcome_reAuthenticate_so hP hp hso (hl.seals h) hl.2 .done
    have hset := settled_same h hprocess hfresh ho
    refine kept_of_settled h hp hprocess (l := (i, .reAuthenticate pin)) hset ?_ (fun so' hr => ?_)
      fun _ _ => Op.noConfusion
    · simp only [Op.Accepted, hso, if_true]
    · simpa only [Op.Right, hso, if_true] using hr
  rw [if_neg hso] at hl
  by_cases hu : m.userLoggedIn = true
  · have hlu := hl hu
    have ho := outcome_reAuthenticate_user hP hp (Bool.not_eq_true _ ▸ hso) hu (hlu.blob h) hlu.2 .done
    have hset := settled_same h hprocess hfresh ho
    refine kept_of_settled h hp hprocess (l := (i, .reAuthenticate pin)) hset ?_ (fun so' hr => ?_)
      fun _ _ => Op.noConfusion
    · simp only [Op.Accepted, hso, hu, Bool.false_eq_true, if_false, true_and]
    · simpa only [Op.Right, hso, hu, Bool.false_eq_true, if_false, true_and] using hr
  · have hno : ¬ LoggedIn m := fun hlogin => hlogin.elim hso hu
    have ho : Outcome d p true False False (SameBlobs d)
        ((Token.reAuthenticate P .done pin m).eval d).1.1
        ((Token.reAuthenticate P .done pin m).eval d).2 := by
      rw [eval_reAuthenticate_nobody hno]
      exact Outcome.refused hp id CK_RV.noConfusion
    have hset := settled_same h hprocess hfresh ho
    refine kept_of_settled h hp hprocess (l := (i, .reAuthenticate pin)) hset ?_ (fun so' hr => ?_)
      fun _ _ => Op.noConfusion
    · simp only [Op.Accepted, hso, hu, Bool.false_eq_true, if_false, false_and]
    · simp only [Op.Right, hso, hu, Bool.false_eq_true, if_false, false_and] at hr

lemma step_setSOPIN {verifier draws : Draws} {oldPIN newPIN : ByteString}
    (hl : LooksSO P s d m oldPIN) (hk : KeyCurrent s m) :
    Kept P s (i, .setSOPIN verifier draws oldPIN newPIN) ∧
      Inv P (s.exec P i (.setSOPIN verifier draws oldPIN newPIN)).2 := by
  have ho := @outcome_setSOPIN P _ _ d p m oldPIN newPIN hP hp (hl.seals h) hl.2 (hk.masks h)
    (pinEnv verifier draws) rfl
  have hset := settled_call (f := fun s => { s with soPIN := newPIN }) h hprocess
    (fresh_setSOPIN _ _ _) ho
    (fun _ => rfl) fun c' d' m' hc hd ⟨blob, hblob, hseals, huser⟩ =>
      h.step rfl rfl hd hc h.key ⟨blob, hblob, hseals⟩ (h.user.congr huser) h.encrypted
  exact kept_of_settled h hp hprocess hset Iff.rfl (fun _ hr => hr) fun _ _ => Op.noConfusion

lemma step_setUserPIN {verifier draws : Draws} {oldPIN newPIN : ByteString}
    (hl : LooksUser P s d m oldPIN) :
    Kept P s (i, .setUserPIN verifier draws oldPIN newPIN) ∧
      Inv P (s.exec P i (.setUserPIN verifier draws oldPIN newPIN)).2 := by
  have ho := @outcome_setUserPIN P _ d p m _ oldPIN newPIN hP hp h.key (hl.blob h) hl.2
    (pinEnv verifier draws) rfl
  obtain ⟨soBlob, hsoBlob, hso⟩ := h.so
  have hset := settled_call (f := fun s => { s with userPIN := some newPIN }) h hprocess
    (fresh_setUserPIN _ _ _) ho
    (fun _ => rfl) fun c' d' m' hc hd ⟨blob, hblob, hseals, hsame⟩ =>
      h.step rfl rfl hd hc h.key ⟨soBlob, hsame.trans hsoBlob, hso⟩ ⟨blob, hblob, hseals⟩ h.encrypted
  exact kept_of_settled h hp hprocess hset Iff.rfl (fun _ hr => hr) fun _ _ => Op.noConfusion

lemma step_createToken {r : FormatDraws} {requested : Option ByteString} {soPIN : ByteString}
    {label : Option ByteString} (hl : LooksSO P s d m soPIN) :
    Kept P s (i, .createToken r requested soPIN label) ∧
      Inv P (s.exec P i (.createToken r requested soPIN label)).2 := by
  have hset : Settled P p true (Op.Accepted s p m (.createToken r requested soPIN label)) False
      (s.exec P i (.createToken r requested soPIN label)) := by
    have hbad : ∀ {rv : CK_RV}, rv ≠ CKR_OK →
        ¬ Op.Accepted s p m (.createToken r requested soPIN label) →
        Settled P p true (Op.Accepted s p m (.createToken r requested soPIN label)) False
          (.rv rv, s) := fun hrv hno =>
      ⟨iff_of_false (fun he => hrv (Reply.rv.inj he)) hno, False.elim, d, h⟩
    unfold System.exec System.createToken
    dsimp only
    rw [hprocess, h.disk]
    dsimp only
    cases hpolicy : newPolicy requested with
    | none =>
      refine hbad CK_RV.noConfusion fun ha => ?_
      obtain ⟨policy, hsome, -⟩ := ha.1
      rw [hpolicy] at hsome
      cases hsome
    | some policy =>
      dsimp only
      split
      · rename_i hlength
        refine hbad CK_RV.noConfusion fun ha => ?_
        obtain ⟨policy', hsome, hmin, hmax⟩ := ha.1
        rw [hpolicy] at hsome
        cases hsome
        simp only [Bool.or_eq_true, decide_eq_true_eq] at hlength
        omega
      rename_i hlength
      simp only [Bool.or_eq_true, decide_eq_true_eq, not_or, Nat.not_lt] at hlength
      cases label with
      | none => exact hbad CK_RV.noConfusion fun ha => nomatch ha.2.1
      | some label =>
        obtain ⟨rv, m', d', heval, ho⟩ := eval_recreate hP hp (hl.seals h) hl.2 (e := formatEnv r) rfl
          (valid_newPolicy hpolicy).1 label
        obtain ⟨c', hc', hvisit⟩ := visit_stands (h.copies i c _ hprocess).1
          (show (Token.recreate P (formatEnv r) policy soPIN label (some m)).Fresh from trivial)
          (by rw [heval]; exact ho.policy.imp fun _ hp => hp.1)
        have hiff : Op.Accepted s p m (.createToken r requested soPIN (some label)) ↔
            p.left true ≠ 0 ∧ soPIN = s.soPIN :=
          ⟨fun ha => ha.2.2, fun ha => ⟨⟨policy, hpolicy, hlength⟩, rfl, ha⟩⟩
        have hdone : Outcome d p true (p.left true ≠ 0 ∧ soPIN = s.soPIN) False
            (fun d' => soPIN = s.soPIN ∧ d'.SOPIN = d.SOPIN ∧ d'.USERPIN = none) rv d' :=
          { ho with done := fun hrv => ⟨(ho.ok.1 hrv).2, ho.done hrv⟩ }
        dsimp only
        rw [hvisit, heval, hiff]
        refine settled_of_outcome h hc' hdone (fun _ => rfl) fun hd ⟨hpin, hso, huser⟩ => ?_
        obtain ⟨blob, hblob, hseals⟩ := h.so
        exact h.step rfl rfl hd hc' h.key ⟨blob, hso.trans hblob, hpin ▸ hseals⟩ huser h.encrypted
  exact kept_of_settled h hp hprocess hset Iff.rfl (fun _ hr => hr.elim) fun _ _ => Op.noConfusion

lemma step_initTokenExtended {r : FormatDraws} {soPIN : ByteString}
    {pInitInfo : CK_RUTOKEN_INIT_PARAM} (hl : pInitInfo.UseRepairMode = 0 → LooksSO P s d m soPIN) :
    Kept P s (i, .initTokenExtended r soPIN pInitInfo) ∧
      Inv P (s.exec P i (.initTokenExtended r soPIN pInitInfo)).2 := by
  have hset : Settled P p true (Op.Accepted s p m (.initTokenExtended r soPIN pInitInfo)) False
      (s.exec P i (.initTokenExtended r soPIN pInitInfo)) := by
    unfold System.exec System.initTokenExtended
    dsimp only
    cases hcheck : pInitInfo.check with
    | none =>
      have hno : ¬ Op.Accepted s p m (.initTokenExtended r soPIN pInitInfo) := fun ha => by
        have hsome := ha.1
        rw [hcheck] at hsome
        cases hsome
      exact ⟨iff_of_false (fun he => CK_RV.noConfusion (Reply.rv.inj he)) hno, False.elim, d, h⟩
    | some k =>
      have hmode := Token.check_repairMode hcheck
      obtain ⟨-, -, hso, hu⟩ := check_pins hcheck
      have hlooks : k.repairMode = false → LooksSO P s d m soPIN := fun hk =>
        hl (by simpa [hmode] using hk)
      obtain ⟨rv, m', d', heval, ho⟩ := @eval_reformat P _ _ soPIN d p m hP hp (formatEnv r) rfl rfl rfl k
        (valid_check hcheck).1 hso hu (fun hk => (hlooks hk).seals h) fun hk => (hlooks hk).2
      obtain ⟨c', hc', hvisit⟩ := visit_stands (h.copies i c _ hprocess).1 (fresh_reformat (formatEnv r) soPIN k)
        (by rw [heval]; exact ho.policy.imp fun _ hp => hp.1)
      have hiff : Op.Accepted s p m (.initTokenExtended r soPIN pInitInfo) ↔
          if k.repairMode then p.left true = 0 else p.left true ≠ 0 ∧ soPIN = s.soPIN := by
        simp only [Op.Accepted, hcheck, Option.isSome_some, true_and, hmode]
      dsimp only
      rw [hprocess, h.disk]
      dsimp only
      rw [hvisit, heval, hiff]
      refine settled_of_outcome h hc' ho (fun _ => rfl) fun hd ⟨so, user, hso, hsoSeals, huser, hseals⟩ => ?_
      exact h.step rfl rfl hd hc' (length_generateRandom _ _) ⟨so, hso, hsoSeals⟩ ⟨user, huser, hseals⟩
        fun _ _ hin => nomatch hin
  exact kept_of_settled h hp hprocess hset Iff.rfl (fun _ hr => hr.elim) fun _ _ => Op.noConfusion

end steps

/-! ### Processes without token -/

lemma kept_absent {op : Op} (h : s.process i = none) : Kept P s (i, op) where
  accepted _ _ _ _ hprocess := nomatch hprocess.symm.trans h
  free _ _ _ _ _ _ _ hprocess := nomatch hprocess.symm.trans h
  decrypted _ _ _ _ _ hprocess := nomatch hprocess.symm.trans h

/-- The first process makes the token. -/
lemma Sound.first (hnone : ∀ i, s.process i = none) {a : TokenObject} {q : PinPolicy}
    (ha : Stands a q) {key soPIN : ByteString} {userPIN : Option ByteString} (hkey : key.length = 32)
    (hso : ∃ blob, a.SOPIN = some blob ∧ Seals P key soPIN blob)
    (huser : StoredUser P key a userPIN) :
    Sound P (System.mk (some a) (Function.update s.process i (some ⟨a, some m⟩)) soPIN userPIN key [])
      a where
  disk := rfl
  stands := ⟨q, ha⟩
  key := hkey
  so := hso
  user := huser
  copies := by
    intro j c sdm hj
    dsimp only at hj
    by_cases he : j = i
    · rw [he, Function.update_self] at hj
      cases hj
      exact ⟨⟨q, ha⟩, rfl⟩
    · rw [Function.update_of_ne he, hnone] at hj
      cases hj
  encrypted _ _ hin := nomatch hin

lemma inv_createToken (hnone : ∀ i, s.process i = none) (hdisk : s.disk = none) (r : FormatDraws)
    (requested : Option ByteString) (soPIN : ByteString) (label : Option ByteString) :
    Inv P (s.exec P i (.createToken r requested soPIN label)).2 := by
  have hsame : Inv P s := .inl ⟨hdisk, hnone⟩
  unfold System.exec System.createToken
  dsimp only
  rw [hnone, hdisk]
  dsimp only
  unfold Token.createToken
  cases hpolicy : newPolicy requested with
  | none => exact hsame
  | some policy =>
    dsimp only
    by_cases hlength : (decide (soPIN.length < policy.minSOLength.toNat) ||
        decide (soPIN.length > policy.maxLength.toNat)) = true
    · rw [if_pos hlength]
      exact hsame
    rw [if_neg hlength]
    simp only [Bool.or_eq_true, decide_eq_true_eq, not_or, Nat.not_lt] at hlength
    cases label with
    | none => exact hsame
    | some label =>
      have hvalid := (valid_newPolicy hpolicy).1
      have hmin : 6 ≤ policy.minSOLength.toNat := hvalid.minSOLength
      have hpos : 0 < soPIN.length := by
        have hle := hlength.1
        omega
      obtain ⟨m, a, hnew, ha, huser, hso⟩ := createNew_done (P := P) (r := r) hvalid hpos label
      dsimp only
      rw [hnew]
      exact .inr ⟨a, Sound.first hnone ha (length_generateRandom _ _) hso huser⟩

lemma inv_initTokenExtended (hP : Lawful P) (hnone : ∀ i, s.process i = none) (hdisk : s.disk = none)
    (r : FormatDraws) (soPIN : ByteString) (pInitInfo : CK_RUTOKEN_INIT_PARAM) :
    Inv P (s.exec P i (.initTokenExtended r soPIN pInitInfo)).2 := by
  unfold System.exec System.initTokenExtended
  dsimp only
  cases hcheck : pInitInfo.check with
  | none => exact .inl ⟨hdisk, hnone⟩
  | some k =>
    obtain ⟨-, -, hso, hu⟩ := check_pins hcheck
    obtain ⟨m, a, hnew, ha, so, user, hso, hsoSeals, huser, hseals⟩ := initNew_done hP (r := r)
      (valid_check hcheck).1 hso hu
    dsimp only
    rw [hnone, hdisk]
    dsimp only
    rw [hnew]
    exact .inr ⟨a, Sound.first hnone ha (length_generateRandom _ _) ⟨so, hso, hsoSeals⟩
      ⟨user, huser, hseals⟩⟩

lemma inv_start (h : Sound P s d) (r : Draws) : Inv P (s.exec P i (.start r)).2 := by
  unfold System.exec
  dsimp only
  rw [h.disk]
  exact .inr ⟨d, h.same h.stands h.stands (SameBlobs.refl d)⟩

/-! ### Runs -/

lemma inv_absent (hP : Lawful P) (h : Inv P s) (hprocess : s.process i = none) (op : Op) :
    Inv P (s.exec P i op).2 := by
  cases op with
  | start r =>
    rcases h with ⟨hdisk, hnone⟩ | ⟨d, h⟩
    · simp only [System.exec, hdisk]
      exact .inl ⟨hdisk, hnone⟩
    · exact inv_start h r
  | createToken r requested soPIN label =>
    rcases h with ⟨hdisk, hnone⟩ | ⟨d, h⟩
    · exact inv_createToken hnone hdisk r requested soPIN label
    · simp only [System.exec, System.createToken, hprocess, h.disk]
      exact .inr ⟨d, h⟩
  | initTokenExtended r soPIN pInitInfo =>
    rcases h with ⟨hdisk, hnone⟩ | ⟨d, h⟩
    · exact inv_initTokenExtended hP hnone hdisk r soPIN pInitInfo
    · unfold System.exec System.initTokenExtended
      dsimp only
      cases pInitInfo.check with
      | none => exact .inr ⟨d, h⟩
      | some k =>
        dsimp only
        rw [hprocess, h.disk, note_absent]
        exact .inr ⟨d, h⟩
  | setSOPIN _ _ _ _ | setUserPIN _ _ _ _ | initUserPIN _ _ =>
    simpa only [System.exec, call_absent hprocess, note_absent] using h
  | loginSO _ _ | loginUser _ _ | reAuthenticate _ | logout =>
    simpa only [System.exec, call_absent hprocess] using h
  | encrypt _ _ | decrypt _ _ => simpa only [System.exec, compute_absent hprocess] using h

/-- **One step.** -/
lemma kept_step (hP : Lawful P) (h : Inv P s) {l : ι × Op} (hl : Fits P s l) :
    Kept P s l ∧ Inv P (s.exec P l.1 l.2).2 := by
  obtain ⟨i, op⟩ := l
  cases hprocess : s.process i with
  | none => exact ⟨kept_absent hprocess, inv_absent hP h hprocess op⟩
  | some process =>
    rcases h with ⟨-, hnone⟩ | ⟨d, h⟩
    · exact nomatch hprocess.symm.trans (hnone i)
    obtain ⟨c, sdm⟩ := process
    obtain ⟨p, hp⟩ := h.stands
    obtain ⟨m, rfl⟩ := Option.isSome_iff_exists.1 (h.copies i c sdm hprocess).2
    have hfits := hl c m d hprocess h.disk
    cases op with
    | start r => exact step_start h hp hprocess
    | loginSO r pin => exact step_loginSO h hp hprocess hP hfits
    | loginUser r pin => exact step_loginUser h hp hprocess hP hfits
    | reAuthenticate pin => exact step_reAuthenticate h hp hprocess hP hfits
    | logout => exact step_logout h hp hprocess
    | setSOPIN verifier draws oldPIN newPIN => exact step_setSOPIN h hp hprocess hP hfits.1 hfits.2
    | setUserPIN verifier draws oldPIN newPIN => exact step_setUserPIN h hp hprocess hP hfits
    | initUserPIN draws pin => exact step_initUserPIN h hp hprocess hfits.1 hfits.2
    | createToken r requested soPIN label => exact step_createToken h hp hprocess hP hfits
    | initTokenExtended r soPIN pInitInfo => exact step_initTokenExtended h hp hprocess hP hfits
    | encrypt r plaintext => exact step_encrypt h hp hprocess hfits
    | decrypt r encrypted => exact step_decrypt h hp hprocess hP hfits

lemma kept_run (hP : Lawful P) {ls : List (ι × Op)} (hs : Inv P s)
    (h : AllAllowed (Fits P) (fun s l => (s.exec P l.1 l.2).2) s ls) :
    AllAllowed (Kept P) (fun s l => (s.exec P l.1 l.2).2) s ls ∧
      EveryState (OneKey P) (fun s l => (s.exec P l.1 l.2).2) s ls := by
  induction ls generalizing s with
  | nil => exact ⟨trivial, hs.oneKey⟩
  | cons l ls ih =>
    obtain ⟨hkept, hnext⟩ := kept_step hP hs h.1
    obtain ⟨hrest, hstates⟩ := ih hnext h.2
    exact ⟨⟨hkept, hrest⟩, hs.oneKey, hstates⟩

end SoftHSM.SharedToken
