import SoftHSM.DataMgr.SecureDataManager
import SoftHSM.Lib.Transition

/-!
The master key of a token over whole runs of its secure data manager: both blobs seal one
key, the key in memory is that key under the mask, and what is encrypted under one login is
decrypted under any later one.
-/

namespace SoftHSM.SecureDataManager

open ByteString RFC4880 Transition

/-- What the code relies on: the digest fills an AES-256 key, decryption inverts encryption,
and under the key of a wrong passphrase the magic does not come out. -/
structure Lawful (P : Primitives) : Prop where
  hash_length : ∀ m, (P.hash m).length = 32
  decrypt_encrypt : ∀ k iv m, k.length = 32 → iv.length = blockSize →
    P.decrypt k iv (P.encrypt k iv m) = some m
  wrong_passphrase : ∀ p q salt k k' iv key m, PBEDeriveKey P p salt = some k →
    PBEDeriveKey P q salt = some k' → k ≠ k' → iv.length = blockSize →
    P.decrypt k' iv (P.encrypt k iv (magic ++ key)) = some m → substr m 0 3 ≠ magic

variable {P : Primitives}

/-- `blob` is the key sealed under the passphrase. -/
def Seals (P : Primitives) (key passphrase blob : ByteString) : Prop :=
  ∃ salt iv k, salt.length = 8 ∧ iv.length = blockSize ∧
    PBEDeriveKey P passphrase salt = some k ∧
    blob = salt ++ iv ++ P.encrypt k iv (magic ++ key)

lemma Seals.ne_nil {key p blob : ByteString} (h : Seals P key p blob) : 0 < blob.length := by
  obtain ⟨salt, iv, k, hs, -, -, rfl⟩ := h
  simp only [List.length_append]
  omega

lemma length_derived (hP : ∀ m, (P.hash m).length = 32) {p salt k : ByteString}
    (h : PBEDeriveKey P p salt = some k) : k.length = 32 := by
  unfold PBEDeriveKey at h
  split at h
  · cases h
  split at h
  · cases h
  have hit : ∀ n x, x.length = 32 → (P.hash^[n] x).length = 32 := by
    intro n
    induction n with
    | zero => intro x hx; exact hx
    | succ n ih => intro x _; exact ih _ (hP x)
  have hk := hit (PBE_ITERATION_BASE_COUNT + (salt.getD (salt.length - 1) 0).toNat - 1) _
    (hP (salt ++ p))
  simp only [Option.some.injEq] at h
  exact h ▸ hk

lemma derive_some {p s : ByteString} (hs : 8 ≤ s.length) (hp : 0 < p.length) :
    ∃ k, PBEDeriveKey P p s = some k := by
  refine ⟨P.hash^[PBE_ITERATION_BASE_COUNT + (s.getD (s.length - 1) 0).toNat - 1]
    (P.hash (s ++ p)), ?_⟩
  unfold PBEDeriveKey
  rw [if_neg (by omega), if_neg (by omega)]

/-- The three parts of a blob, as `login` takes them out again. -/
lemma parts {salt iv d : ByteString} (hs : salt.length = 8) (hi : iv.length = blockSize) :
    substr (salt ++ iv ++ d) 0 8 = salt ∧
    substr (salt ++ iv ++ d) 8 blockSize = iv ∧
    substrFrom (salt ++ iv ++ d) (8 + blockSize) = d := by
  have hsi : (salt ++ iv).length = 8 + blockSize := by simp [hs, hi]
  refine ⟨?_, ?_, ?_⟩
  · simp [substr, ← hs]
  · have h8 : (salt ++ iv ++ d).drop 8 = iv ++ d := by
      rw [List.append_assoc, ← hs, List.drop_left]
    rw [substr, h8, ← hi, List.take_left]
  · rw [substrFrom, ← hsi, List.drop_left]

/-- A sealed blob opens under its passphrase and yields the key. -/
lemma Seals.openBlob (hP : Lawful P) {key p blob : ByteString} (h : Seals P key p blob) :
    openBlob P p blob = some key := by
  obtain ⟨salt, iv, k, hs, hi, hk, rfl⟩ := h
  obtain ⟨h1, h2, h3⟩ := parts (d := P.encrypt k iv (magic ++ key)) hs hi
  have hd := hP.decrypt_encrypt k iv (magic ++ key) (length_derived hP.hash_length hk) hi
  have hm : substr (magic ++ key) 0 3 = magic := rfl
  unfold SecureDataManager.openBlob
  rw [h1, h2, h3]
  simp only [hk, hd, hm]
  rfl

/-- Whatever passphrase opens a sealed blob yields the same key. -/
lemma Seals.opened (hP : Lawful P) {key key' p q blob : ByteString} (h : Seals P key p blob)
    (ho : SecureDataManager.openBlob P q blob = some key') : key' = key := by
  obtain ⟨salt, iv, k, hs, hi, hk, rfl⟩ := h
  obtain ⟨h1, h2, h3⟩ := parts (d := P.encrypt k iv (magic ++ key)) hs hi
  unfold SecureDataManager.openBlob at ho
  rw [h1, h2, h3] at ho
  simp only at ho
  rcases hq : PBEDeriveKey P q salt with _ | k'
  · simp [hq] at ho
  rcases hd : P.decrypt k' iv (P.encrypt k iv (magic ++ key)) with _ | m
  · simp [hq, hd] at ho
  simp only [hq, hd] at ho
  rcases eq_or_ne k k' with rfl | hne
  · have hm := hP.decrypt_encrypt k iv (magic ++ key) (length_derived hP.hash_length hk) hi
    rw [hm] at hd
    cases hd
    simpa [substr, substrFrom, magic] using ho.symm
  · have hw := hP.wrong_passphrase p q salt k k' iv key m hk hq hne hi hd
    rw [if_pos hw] at ho
    cases ho

/-! ### The masked key -/

/-- The manager holds the key under its mask. -/
def Masks (m : SecureDataManager) (key : ByteString) : Prop :=
  m.maskedKey.length = 32 ∧ unmask m = key

lemma length_unmask {m : SecureDataManager} {key : ByteString} (h : Masks m key) :
    key.length = 32 := by
  rw [← h.2, unmask, length_xorAssign, h.1]

lemma masks_remask {stream : ℕ → UInt8} {key : ByteString} {m : SecureDataManager}
    (h : key.length = 32) : Masks (remask stream key m) key :=
  ⟨by simp [remask, h], by simp [unmask, remask, xorAssign_cancel, h]⟩

/-- **Sealing.** With every primitive succeeding, `pbeEncryptKey` seals the key that the
manager holds, and the manager holds it still. -/
theorem pbeEncryptKey_spec {r : Draws} {p b key : ByteString} {m : SecureDataManager}
    (hp : 0 < p.length) (hm : Masks m key) :
    ∃ b', pbeEncryptKey P .none r p b m = (true, b', remask r.remask key m) ∧
      Seals P key p b' := by
  obtain ⟨k, hk⟩ : ∃ k, PBEDeriveKey P p (generateRandom r.salt 8) = some k :=
    derive_some (by simp) hp
  refine ⟨_, ?_, generateRandom r.salt 8, generateRandom r.IV blockSize, k, by simp, by simp,
    hk, rfl⟩
  simp [pbeEncryptKey, PbeFaults.none, hk, hm.2]

/-! ### Runs -/

inductive Op
  | setSOPIN (r : Draws) (soPIN : ByteString)
  | setUserPIN (r : Draws) (userPIN : ByteString)
  | loginSO (r : Draws) (soPIN : ByteString)
  | loginUser (r : Draws) (userPIN : ByteString)
  | reAuthenticateSO (soPIN : ByteString)
  | reAuthenticateUser (userPIN : ByteString)
  | logout
  | encrypt (r : Draws) (plaintext : ByteString)
  | decrypt (r : Draws) (encrypted : ByteString)

/-- A manager and the PINs that were last set on it. -/
structure Observed where
  manager : SecureDataManager
  soPIN : Option ByteString
  userPIN : Option ByteString

def Observed.start (r : Draws) : Observed := ⟨blank r, none, none⟩

/-- One call in which every primitive succeeds. -/
def exec (P : Primitives) (s : Observed) : Op → Observed
  | .setSOPIN r pin =>
    let (rv, m) := setSOPIN P .none r pin s.manager
    ⟨m, if rv then some pin else s.soPIN, s.userPIN⟩
  | .setUserPIN r pin =>
    let (rv, m) := setUserPIN P .none r pin s.manager
    ⟨m, s.soPIN, if rv then some pin else s.userPIN⟩
  | .loginSO r pin => { s with manager := (loginSO P r pin s.manager).2 }
  | .loginUser r pin => { s with manager := (loginUser P r pin s.manager).2 }
  | .reAuthenticateSO _ => s
  | .reAuthenticateUser _ => s
  | .logout => { s with manager := logout s.manager }
  | .encrypt r x => { s with manager := (encrypt P r x s.manager).2 }
  | .decrypt r c => { s with manager := (decrypt P r c s.manager).2 }

def Steps (P : Primitives) : Observed → List Op → Observed → Prop :=
  Run (Step (fun _ _ => True) (exec P))

/-- Someone is logged in. -/
def LoggedIn (m : SecureDataManager) : Prop := m.soLoggedIn = true ∨ m.userLoggedIn = true

/-- Nothing was set on the manager so far. -/
structure Unset (s : Observed) : Prop where
  soPIN : s.soPIN = none
  userPIN : s.userPIN = none
  soBlob : s.manager.soEncryptedKey = []
  userBlob : s.manager.userEncryptedKey = []
  nobody : ¬ LoggedIn s.manager

/-- Both blobs seal `key` under the current PINs, and a login holds it under the mask. -/
structure HoldsKey (P : Primitives) (s : Observed) (key : ByteString) : Prop where
  length : key.length = 32
  so : ∃ p, s.soPIN = some p ∧ Seals P key p s.manager.soEncryptedKey
  user : s.userPIN = none ∧ s.manager.userEncryptedKey = [] ∨
    ∃ q, s.userPIN = some q ∧ Seals P key q s.manager.userEncryptedKey
  masked : LoggedIn s.manager → Masks s.manager key

lemma unset_start (r : Draws) : Unset (.start r) :=
  ⟨rfl, rfl, rfl, rfl, by simp [LoggedIn, Observed.start, blank, create]⟩

/-! ### One call -/

lemma openBlob_nil (p : ByteString) : openBlob P p [] = none := by
  simp [openBlob, substr, PBEDeriveKey]

/-- The mask does not change what a blob says, and a call that keeps the blobs and the PINs
keeps the key as long as a login still holds it. -/
lemma HoldsKey.keep {s : Observed} {key : ByteString} {m : SecureDataManager}
    (h : HoldsKey P s key) (hso : m.soEncryptedKey = s.manager.soEncryptedKey)
    (hu : m.userEncryptedKey = s.manager.userEncryptedKey) (hm : LoggedIn m → Masks m key) :
    HoldsKey P { s with manager := m } key :=
  ⟨h.length, hso ▸ h.so, hu ▸ h.user, hm⟩

/-- The blobs are not touched by a login, and it leaves either nobody logged in or the key
of the blob under the mask. -/
lemma login_spec {r : Draws} {p b : ByteString} {m : SecureDataManager} :
    login P r p b m = (false, logout m) ∧ openBlob P p b = none ∨
    ∃ key, login P r p b m = (true, remask r.remask key (logout m)) ∧
      openBlob P p b = some key := by
  rcases ho : openBlob P p b with _ | key
  · exact .inl ⟨by simp [login, ho], rfl⟩
  · exact .inr ⟨key, by simp [login, ho], rfl⟩

lemma not_loggedIn_logout (m : SecureDataManager) : ¬ LoggedIn (logout m) := by
  simp [LoggedIn, logout]

/-- A first SO PIN, with every primitive succeeding, seals the key that is drawn. -/
lemma setSOPIN_fresh {r : Draws} {pin : ByteString} (hp : 0 < pin.length) :
    ∃ m, setSOPIN P .none r pin (blank r) = (true, m) ∧
      Seals P (generateRandom r.key 32) pin m.soEncryptedKey ∧ m.userEncryptedKey = [] := by
  have hmask : Masks (remask r.mask (generateRandom r.key 32) (blank r))
      (generateRandom r.key 32) := masks_remask (by simp)
  obtain ⟨blob, he, hblob⟩ := pbeEncryptKey_spec (P := P) (r := r) (b := []) hp hmask
  have hp0 : pin.length ≠ 0 := by omega
  have hb : (blank r).soEncryptedKey = [] := rfl
  have hk : (remask r.mask (generateRandom r.key 32) (blank r)).soEncryptedKey = [] := rfl
  refine ⟨{ remask r.remask (generateRandom r.key 32)
      (remask r.mask (generateRandom r.key 32) (blank r)) with soEncryptedKey := blob }, ?_, hblob,
    rfl⟩
  simp only [setSOPIN, hp0, hb, if_false, List.length_nil, if_true, hk, he]
  rfl

lemma setSOPIN_blank {r : Draws} {pin : ByteString} (hp : 0 < pin.length) :
    ∃ m key, setSOPIN P .none r pin (blank r) = (true, m) ∧ key.length = 32 ∧
      Seals P key pin m.soEncryptedKey ∧ m.userEncryptedKey = [] := by
  obtain ⟨m, hset, hseals, hnone⟩ := setSOPIN_fresh (P := P) (r := r) hp
  exact ⟨m, _, hset, length_generateRandom _ _, hseals, hnone⟩

/-- The login under the PIN that a blob is sealed with. -/
lemma loginSO_of_seals (hP : Lawful P) {r : Draws} {pin key : ByteString} {m : SecureDataManager}
    (h : Seals P key pin m.soEncryptedKey) :
    loginSO P r pin m = (true, { remask r.remask key (logout m) with soLoggedIn := true }) := by
  simp [loginSO, login, h.openBlob hP]

lemma loginUser_of_seals (hP : Lawful P) {r : Draws} {pin key : ByteString}
    {m : SecureDataManager} (h : Seals P key pin m.userEncryptedKey) :
    loginUser P r pin m = (true, { remask r.remask key (logout m) with userLoggedIn := true }) := by
  simp [loginUser, login, h.openBlob hP]

/-- A new user PIN under a login, with every primitive succeeding, seals the key of the login. -/
lemma setUserPIN_spec {r : Draws} {pin key : ByteString} {m : SecureDataManager}
    (hp : 0 < pin.length) (hl : LoggedIn m) (hm : Masks m key) :
    ∃ m', setUserPIN P .none r pin m = (true, m') ∧ Seals P key pin m'.userEncryptedKey ∧
      m'.soEncryptedKey = m.soEncryptedKey := by
  have hn : (!m.soLoggedIn && !m.userLoggedIn) = false := by
    rcases hl with hl | hl <;> simp [hl]
  have hp0 : pin.length ≠ 0 := by omega
  obtain ⟨blob, he, hblob⟩ := pbeEncryptKey_spec (P := P) (r := r) (b := m.userEncryptedKey) hp hm
  refine ⟨{ remask r.remask key m with userEncryptedKey := blob }, ?_, hblob, rfl⟩
  simp only [setUserPIN, hn, hp0, if_false, he, Bool.false_eq_true]

lemma HoldsKey.loginSO (hP : Lawful P) {s : Observed} {key : ByteString}
    (h : HoldsKey P s key) (r : Draws) (pin : ByteString) :
    HoldsKey P (exec P s (.loginSO r pin)) key := by
  obtain ⟨p, -, hs⟩ := h.so
  rcases login_spec (P := P) (r := r) (p := pin) (b := s.manager.soEncryptedKey)
    (m := s.manager) with ⟨hl, -⟩ | ⟨key', hl, ho⟩
  · refine h.keep ?_ ?_ ?_ <;> simp [SecureDataManager.loginSO, hl, logout, LoggedIn]
  · obtain rfl := hs.opened hP ho
    refine h.keep ?_ ?_ fun _ => ?_ <;>
      simp only [SecureDataManager.loginSO, hl, remask, logout]
    exact masks_remask (m := s.manager) h.length

lemma HoldsKey.loginUser (hP : Lawful P) {s : Observed} {key : ByteString}
    (h : HoldsKey P s key) (r : Draws) (pin : ByteString) :
    HoldsKey P (exec P s (.loginUser r pin)) key := by
  rcases login_spec (P := P) (r := r) (p := pin) (b := s.manager.userEncryptedKey)
    (m := s.manager) with ⟨hl, -⟩ | ⟨key', hl, ho⟩
  · refine h.keep ?_ ?_ ?_ <;> simp [SecureDataManager.loginUser, hl, logout, LoggedIn]
  · rcases h.user with ⟨-, hn⟩ | ⟨q, -, hs⟩
    · rw [hn, openBlob_nil] at ho
      cases ho
    · obtain rfl := hs.opened hP ho
      refine h.keep ?_ ?_ fun _ => ?_ <;>
        simp only [SecureDataManager.loginUser, hl, remask, logout]
      exact masks_remask (m := s.manager) h.length

lemma HoldsKey.setSOPIN {s : Observed} {key : ByteString} (h : HoldsKey P s key) (r : Draws)
    (pin : ByteString) : HoldsKey P (exec P s (.setSOPIN r pin)) key := by
  obtain ⟨p, hp, hs⟩ := h.so
  have hb := hs.ne_nil
  by_cases hpin : pin.length = 0
  · simpa [exec, SecureDataManager.setSOPIN, hpin] using h
  by_cases hl : s.manager.soLoggedIn = true
  · have hm := h.masked (.inl hl)
    obtain ⟨blob, he, hblob⟩ := pbeEncryptKey_spec (P := P) (r := r) (p := pin)
      (b := s.manager.soEncryptedKey) (by omega) hm
    have hb0 : s.manager.soEncryptedKey.length ≠ 0 := by omega
    simp only [exec, SecureDataManager.setSOPIN, hpin, hl, hb0, if_false, he, Bool.not_true,
      Bool.and_false, Bool.false_eq_true, if_true]
    exact ⟨h.length, ⟨pin, rfl, hblob⟩, h.user, fun _ => masks_remask (m := s.manager) h.length⟩
  · simpa [exec, SecureDataManager.setSOPIN, hpin, hl, hb] using h

lemma HoldsKey.setUserPIN {s : Observed} {key : ByteString} (h : HoldsKey P s key) (r : Draws)
    (pin : ByteString) : HoldsKey P (exec P s (.setUserPIN r pin)) key := by
  by_cases hl : LoggedIn s.manager
  · have hn : (!s.manager.soLoggedIn && !s.manager.userLoggedIn) = false := by
      rcases hl with hl | hl <;> simp [hl]
    by_cases hpin : pin.length = 0
    · simpa [exec, SecureDataManager.setUserPIN, hn, hpin] using h
    have hm := h.masked hl
    obtain ⟨blob, he, hblob⟩ := pbeEncryptKey_spec (P := P) (r := r) (p := pin)
      (b := s.manager.userEncryptedKey) (by omega) hm
    simp only [exec, SecureDataManager.setUserPIN, hn, hpin, if_false, he, Bool.false_eq_true,
      if_true]
    exact ⟨h.length, h.so, .inr ⟨pin, rfl, hblob⟩,
      fun _ => masks_remask (m := s.manager) h.length⟩
  · have hn : (!s.manager.soLoggedIn && !s.manager.userLoggedIn) = true := by
      simpa [LoggedIn] using hl
    simpa [exec, SecureDataManager.setUserPIN, hn] using h

/-- The guard of `encrypt` and `decrypt` lets a login pass that holds the key. -/
lemma guard_of_loggedIn {m : SecureDataManager} {key : ByteString} (hl : LoggedIn m)
    (hm : Masks m key) :
    ((!m.userLoggedIn && !m.soLoggedIn) || m.maskedKey.length != 32) = false := by
  rcases hl with hl | hl <;> simp [hl, hm.1]

lemma guard_of_nobody {m : SecureDataManager} (hl : ¬ LoggedIn m) :
    ((!m.userLoggedIn && !m.soLoggedIn) || m.maskedKey.length != 32) = true := by
  simp only [LoggedIn, not_or, Bool.not_eq_true] at hl
  simp [hl.1, hl.2]

lemma encrypt_spec {r : Draws} {x key : ByteString} {m : SecureDataManager} (hl : LoggedIn m)
    (hm : Masks m key) :
    encrypt P r x m = (some (generateRandom r.IV blockSize ++
      P.encrypt key (generateRandom r.IV blockSize) x), remask r.remask key m) := by
  simp [encrypt, guard_of_loggedIn hl hm, hm.2]

lemma decrypt_snd {r : Draws} {c key : ByteString} {m : SecureDataManager} (hl : LoggedIn m)
    (hm : Masks m key) :
    (decrypt P r c m).2 = m ∨ (decrypt P r c m).2 = remask r.remask key m := by
  simp only [decrypt, guard_of_loggedIn hl hm, hm.2, Bool.false_eq_true, if_false]
  split
  · exact .inl rfl
  split <;> exact .inr rfl

lemma HoldsKey.encrypt {s : Observed} {key : ByteString} (h : HoldsKey P s key) (r : Draws)
    (x : ByteString) : HoldsKey P (exec P s (.encrypt r x)) key := by
  by_cases hl : LoggedIn s.manager
  · have hm := h.masked hl
    refine h.keep ?_ ?_ fun _ => ?_ <;> rw [encrypt_spec hl hm]
    · rfl
    · rfl
    · exact masks_remask h.length
  · simpa [exec, SecureDataManager.encrypt, guard_of_nobody hl] using h

lemma HoldsKey.decrypt {s : Observed} {key : ByteString} (h : HoldsKey P s key) (r : Draws)
    (c : ByteString) : HoldsKey P (exec P s (.decrypt r c)) key := by
  by_cases hl : LoggedIn s.manager
  · have hm := h.masked hl
    rcases decrypt_snd (P := P) (r := r) (c := c) hl hm with he | he
    · simpa [exec, he] using h
    · refine h.keep ?_ ?_ fun _ => ?_ <;> rw [he]
      · rfl
      · rfl
      · exact masks_remask h.length
  · simpa [exec, SecureDataManager.decrypt, guard_of_nobody hl] using h

/-- Every call keeps the key once there is one. -/
lemma HoldsKey.exec (hP : Lawful P) {s : Observed} {key : ByteString} (h : HoldsKey P s key)
    (op : Op) : HoldsKey P (exec P s op) key := by
  cases op with
  | setSOPIN r pin => exact h.setSOPIN r pin
  | setUserPIN r pin => exact h.setUserPIN r pin
  | loginSO r pin => exact h.loginSO hP r pin
  | loginUser r pin => exact h.loginUser hP r pin
  | reAuthenticateSO pin => exact h
  | reAuthenticateUser pin => exact h
  | logout => exact h.keep rfl rfl fun hl => absurd hl (not_loggedIn_logout _)
  | encrypt r x => exact h.encrypt r x
  | decrypt r c => exact h.decrypt r c

lemma login_nil (r : Draws) (pin : ByteString) (m : SecureDataManager) :
    login P r pin [] m = (false, logout m) := by
  simp [login, openBlob_nil]

/-- The first PIN set on a blank manager is the SO PIN, and it makes the key. -/
lemma Unset.exec {s : Observed} (h : Unset s) (op : Op) :
    Unset (exec P s op) ∨ ∃ key, HoldsKey P (exec P s op) key := by
  obtain ⟨hso, hu⟩ : s.manager.soLoggedIn = false ∧ s.manager.userLoggedIn = false := by
    simpa [LoggedIn] using h.nobody
  cases op with
  | setSOPIN r pin =>
    by_cases hpin : pin.length = 0
    · exact .inl (by simpa [SecureDataManager.exec, SecureDataManager.setSOPIN, hpin] using h)
    · right
      have hm : Masks (remask r.mask (generateRandom r.key 32) s.manager) _ :=
        masks_remask (length_generateRandom _ _)
      obtain ⟨blob, he, hblob⟩ := pbeEncryptKey_spec (P := P) (r := r) (p := pin)
        (b := [])
        (by omega) hm
      refine ⟨generateRandom r.key 32, ?_⟩
      simp only [SecureDataManager.exec, SecureDataManager.setSOPIN, hpin, h.soBlob, if_false,
        List.length_nil, gt_iff_lt, Nat.lt_irrefl, decide_false, Bool.false_and,
        Bool.false_eq_true, if_true]
      rw [show (remask r.mask (generateRandom r.key 32) s.manager).soEncryptedKey = [] from
        h.soBlob, he]
      exact ⟨by simp, ⟨pin, rfl, hblob⟩, .inl ⟨h.userPIN, h.userBlob⟩,
        fun _ => masks_remask (m := s.manager) (by simp)⟩
  | setUserPIN r pin =>
    exact .inl (by simpa [SecureDataManager.exec, SecureDataManager.setUserPIN, hso, hu] using h)
  | loginSO r pin =>
    have hl := login_nil (P := P) r pin s.manager
    left
    refine ⟨h.soPIN, h.userPIN, ?_, ?_, ?_⟩ <;>
      simp [SecureDataManager.exec, SecureDataManager.loginSO, h.soBlob, hl, logout, LoggedIn,
        h.userBlob]
  | loginUser r pin =>
    have hl := login_nil (P := P) r pin s.manager
    left
    refine ⟨h.soPIN, h.userPIN, ?_, ?_, ?_⟩ <;>
      simp [SecureDataManager.exec, SecureDataManager.loginUser, h.soBlob, hl, logout, LoggedIn,
        h.userBlob]
  | reAuthenticateSO pin => exact .inl h
  | reAuthenticateUser pin => exact .inl h
  | logout => exact .inl ⟨h.soPIN, h.userPIN, h.soBlob, h.userBlob, not_loggedIn_logout _⟩
  | encrypt r x =>
    left
    simpa [SecureDataManager.exec, SecureDataManager.encrypt, guard_of_nobody h.nobody] using h
  | decrypt r c =>
    left
    simpa [SecureDataManager.exec, SecureDataManager.decrypt, guard_of_nobody h.nobody] using h

lemma HoldsKey.steps (hP : Lawful P) {s t : Observed} {ops : List Op} {key : ByteString}
    (h : HoldsKey P s key) (hr : Steps P s ops t) : HoldsKey P t key :=
  hr.invariant (P := fun s => HoldsKey P s key) h fun _ op _ ha hs => hs.2 ▸ ha.exec hP op

lemma unset_or_holdsKey (hP : Lawful P) {r : Draws} {ops : List Op} {s : Observed}
    (hr : Steps P (.start r) ops s) : Unset s ∨ ∃ key, HoldsKey P s key := by
  refine hr.invariant (P := fun s => Unset s ∨ ∃ key, HoldsKey P s key)
    (.inl (unset_start r)) fun a op b ha hs => ?_
  rw [hs.2]
  rcases ha with ha | ⟨key, ha⟩
  · exact ha.exec op
  · exact .inr ⟨key, ha.exec hP op⟩

/-- A ciphertext under the key of a login is decrypted. -/
lemma decrypt_sealed (hP : Lawful P) {r : Draws} {x iv key : ByteString} {m : SecureDataManager}
    (hl : LoggedIn m) (hm : Masks m key) (hi : iv.length = blockSize) :
    (decrypt P r (iv ++ P.encrypt key iv x) m).1 = some x := by
  have hk := length_unmask hm
  have h1 : substr (iv ++ P.encrypt key iv x) 0 blockSize = iv := by simp [substr, List.take_left' hi]
  have h2 : substrFrom (iv ++ P.encrypt key iv x) blockSize = P.encrypt key iv x := List.drop_left' hi
  have h0 : (iv ++ P.encrypt key iv x).length ≠ 0 := by
    rw [List.length_append, hi]
    exact Nat.ne_of_gt (Nat.lt_add_right _ (by decide))
  simp only [decrypt, guard_of_loggedIn hl hm, Bool.false_eq_true, if_false, h0, h1, h2, hm.2,
    hi, ne_eq, not_true_eq_false]
  exact hP.decrypt_encrypt key _ x hk hi

/-- What was encrypted under a login that holds the key is decrypted under any other. -/
lemma decrypt_encrypt (hP : Lawful P) {r r' : Draws} {x c key : ByteString}
    {m m' : SecureDataManager} (hl : LoggedIn m) (hm : Masks m key) (hl' : LoggedIn m')
    (hm' : Masks m' key) (hc : (encrypt P r x m).1 = some c) :
    (decrypt P r' c m').1 = some x := by
  rw [encrypt_spec hl hm] at hc
  obtain rfl := Option.some.inj hc
  exact decrypt_sealed hP hl' hm' (length_generateRandom _ _)

/-- The blobs, the PINs set last and the key in memory, for one master key. -/
structure OneKey (P : Primitives) (s : Observed) (key : ByteString) : Prop where
  length : key.length = 32
  so : ∃ p, s.soPIN = some p ∧ openBlob P p s.manager.soEncryptedKey = some key
  user : ∀ q, s.userPIN = some q → openBlob P q s.manager.userEncryptedKey = some key
  userBlob : s.userPIN = none → s.manager.userEncryptedKey = []
  masked : LoggedIn s.manager → xorAssign s.manager.maskedKey s.manager.mask = key

lemma HoldsKey.oneKey (hP : Lawful P) {s : Observed} {key : ByteString} (h : HoldsKey P s key) :
    OneKey P s key := by
  obtain ⟨p, hp, hs⟩ := h.so
  refine ⟨h.length, ⟨p, hp, hs.openBlob hP⟩, fun q hq => ?_, fun hn => ?_,
    fun hl => (h.masked hl).2⟩
  · rcases h.user with ⟨hn, -⟩ | ⟨q', hq', hu⟩
    · rw [hn] at hq
      cases hq
    · obtain rfl : q' = q := by simpa [hq'] using hq
      exact hu.openBlob hP
  · rcases h.user with ⟨-, hb⟩ | ⟨q', hq', -⟩
    · exact hb
    · rw [hn] at hq'
      cases hq'

/-- A digest and a cipher that can be followed by hand: the digest is the message cut or
filled to 32 bytes, and a ciphertext shows the key and the IV it was made with. -/
def plainPrimitives : Primitives where
  hash m := (m ++ List.replicate 32 0).take 32
  encrypt k iv m := k ++ iv ++ m
  decrypt k iv c := if c.take (k ++ iv).length = k ++ iv then some (c.drop (k ++ iv).length)
    else none

lemma lawful_plainPrimitives : Lawful plainPrimitives := by
  have hash : ∀ m, (plainPrimitives.hash m).length = 32 := by
    intro m
    simp [plainPrimitives]
  refine ⟨hash, fun k iv m _ _ => ?_, fun p q salt k k' iv key m hk hk' hne hiv hd => ?_⟩
  · have ht : ((k ++ iv) ++ m).take (k ++ iv).length = k ++ iv := List.take_left' rfl
    have hdr : ((k ++ iv) ++ m).drop (k ++ iv).length = m := List.drop_left' rfl
    simp only [plainPrimitives, ht, hdr, if_true]
  · -- the other key is not at the front of the ciphertext
    have h32 := length_derived hash hk
    have h32' := length_derived hash hk'
    have hlen : (k' ++ iv).length = (k ++ iv).length := by simp [h32, h32']
    have ht : ((k ++ iv) ++ (magic ++ key)).take (k' ++ iv).length = k ++ iv := by
      rw [hlen]
      exact List.take_left' rfl
    have hneq : k ++ iv ≠ k' ++ iv := fun h => hne (List.append_cancel_right h)
    simp only [plainPrimitives, ht, hneq, if_false] at hd
    cases hd

/-- The factory PINs, and a stream of zero bytes. -/
def factorySOPIN : ByteString := [0x38, 0x37, 0x36, 0x35, 0x34, 0x33, 0x32, 0x31]
def factoryUserPIN : ByteString := [0x31, 0x32, 0x33, 0x34, 0x35, 0x36, 0x37, 0x38]
def zeroDraws : Draws := ⟨fun _ => 0, fun _ => 0, fun _ => 0, fun _ => 0, fun _ => 0⟩

end SoftHSM.SecureDataManager
