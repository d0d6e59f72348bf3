import SoftHSM.SlotMgr.Creation
import SoftHSM.SlotMgr.PolicyRuns

/-!
Which creations leave nothing half-made: exactly those that do not spoil the directory of the
new token, and that store its parameters once its PINs are stored. Nothing after the PINs is
rolled back.
-/

namespace SoftHSM.Creation

open RecordFile TokenObject SecureDataManager PinPolicy LocalPin CK_RV Token ObjectStore
open RecordFile.File (settled)

/-! ### The PINs -/

section pins

variable {P : Primitives}

/-- A key is only sealed where no primitive fails. -/
lemma pbeFaults_of_sealed {f : PbeFaults} {r : Draws} {pin blob : ByteString}
    {m : SecureDataManager} (h : (pbeEncryptKey P f r pin blob m).1 = true) : f = .none := by
  unfold pbeEncryptKey at h
  split at h
  · cases h
  rename_i hsalt
  dsimp only at h
  split at h
  · cases h
  rename_i hderive
  split at h
  · cases h
  rename_i hIV
  split at h
  · cases h
  rename_i hinit
  split at h
  · cases h
  rename_i hkey
  split at h
  · cases h
  rename_i hfinal
  have hd : f.derive = false := by
    by_contra hn
    rw [Bool.not_eq_false] at hn
    rw [hn, if_pos rfl] at hderive
    cases hderive
  rw [Bool.or_eq_true, not_or] at hinit
  obtain ⟨salt, derive, IV, encryptInit, encryptMagic, encryptKey, encryptFinal⟩ := f
  simp only [Bool.not_eq_true] at hsalt hd hIV hinit hkey hfinal
  obtain ⟨hinit, hmagic⟩ := hinit
  subst hsalt hd hIV hinit hmagic hkey hfinal
  rfl

lemma setSOPIN_blank_iff {f : PbeFaults} {r : Draws} {pin : ByteString} (hp : 0 < pin.length) :
    (SecureDataManager.setSOPIN P f r pin (blank r)).1 = true ↔ f = .none := by
  constructor
  · intro h
    unfold SecureDataManager.setSOPIN at h
    rw [if_neg (Nat.ne_of_gt hp), if_neg (by simp [blank, create])] at h
    exact pbeFaults_of_sealed h
  · rintro rfl
    obtain ⟨m, key, hset, -⟩ := setSOPIN_blank (P := P) (r := r) hp
    rw [hset]

/-- The fresh key of `initTokenExtended` and its two blobs. -/
lemma freshKey_seals (hP : Lawful P) {e : FormatEnv} (he : e.pbe = .none) (he' : e.userPbe = .none)
    {newSOPIN newUserPIN : ByteString} (hso : 0 < newSOPIN.length) (hu : 0 < newUserPIN.length) :
    ∃ gen key, freshKey P e newSOPIN newUserPIN = some gen ∧
      Seals P key newSOPIN gen.soEncryptedKey ∧ Seals P key newUserPIN gen.userEncryptedKey := by
  obtain ⟨m, key, hset, hkey, hseals, -⟩ := setSOPIN_blank (P := P) (r := e.draws) hso
  obtain ⟨gen, hgen, huser, hsame⟩ := setUserPIN_spec (P := P) (r := e.userDraws) hu
    (m := { remask e.login.remask key (logout m) with soLoggedIn := true }) (.inl rfl)
    (masks_remask (m := logout m) hkey)
  refine ⟨logout gen, key, ?_, ?_, huser⟩
  · simp only [freshKey, he, he', hset, loginSO_of_seals hP hseals, hgen, Bool.not_true,
      Bool.false_eq_true, if_false]
  · change Seals P key newSOPIN gen.soEncryptedKey
    rw [hsame]
    exact hseals

lemma freshKey_none {e : FormatEnv} (he : ¬ (e.pbe = .none ∧ e.userPbe = .none))
    {newSOPIN newUserPIN : ByteString} (hso : 0 < newSOPIN.length) :
    freshKey P e newSOPIN newUserPIN = none := by
  unfold freshKey
  rcases hset : SecureDataManager.setSOPIN P e.pbe e.draws newSOPIN (blank e.draws) with ⟨ok, gen⟩
  have hiff := setSOPIN_blank_iff (P := P) (f := e.pbe) (r := e.draws) hso
  rw [hset] at hiff
  rcases ok with _ | _
  · rfl
  have huser : e.userPbe ≠ .none := fun h => he ⟨hiff.1 rfl, h⟩
  simp only [Bool.not_true, Bool.false_eq_true, if_false]
  split
  · rfl
  have hfalse : ∀ m, (SecureDataManager.setUserPIN P e.userPbe e.userDraws newUserPIN m).1 = false := by
    intro m
    unfold SecureDataManager.setUserPIN
    split
    · rfl
    split
    · rfl
    rw [← Bool.not_eq_true]
    exact fun h => huser (pbeFaults_of_sealed h)
  rw [hfalse]
  rfl

lemma ne_zero_of_three_le {x : UInt8} (h : 3 ≤ x) : x ≠ 0 := by
  rintro rfl
  exact absurd h (by decide)

/-- A new token accepts the SO PIN that its blob is sealed under. -/
lemma acceptsSO (hP : Lawful P) {a : TokenObject} {p : PinPolicy} (hp : p.Valid)
    (hleft : p.leftSO = p.maxSO) (hpolicy : a.PINPOLICY = some (PinPolicy.setPinPolicy p))
    (hf : a.TOKENFLAGS.isSome = true) {key pin blob : ByteString} (hblob : a.SOPIN = some blob)
    (hs : Seals P key pin blob) : AcceptsSO P a pin := by
  intro r r'
  have hm : (manager r a).soEncryptedKey = blob := by
    simp [manager, readBlobs, getSOPIN, getUserPIN, Prog.eval, hblob, create]
  have hread : policyOf a = some p := by
    rw [policyOf, hpolicy, getPinPolicy_setPinPolicy hp]
  have hleft0 : p.leftSO ≠ 0 := hleft ▸ ne_zero_of_three_le hp.maxSO.1
  rw [← hm] at hs
  obtain ⟨_, _, hrun, -⟩ := run_loginSO hP hread hf hleft0 hs rfl r'
  rw [hrun]

lemma acceptsUser (hP : Lawful P) {a : TokenObject} {p : PinPolicy} (hp : p.Valid)
    (hleft : p.leftUser = p.maxUser) (hpolicy : a.PINPOLICY = some (PinPolicy.setPinPolicy p))
    (hf : a.TOKENFLAGS.isSome = true) {key pin soBlob blob : ByteString}
    (hso : a.SOPIN = some soBlob) (hblob : a.USERPIN = some blob) (hs : Seals P key pin blob) :
    AcceptsUser P a pin := by
  intro r r'
  have hm : (manager r a).userEncryptedKey = blob := by
    simp [manager, readBlobs, getSOPIN, getUserPIN, Prog.eval, hso, hblob, create]
  have hread : policyOf a = some p := by
    rw [policyOf, hpolicy, getPinPolicy_setPinPolicy hp]
  have hleft0 : p.leftUser ≠ 0 := hleft ▸ ne_zero_of_three_le hp.maxUser.1
  rw [← hm] at hs
  obtain ⟨_, _, hrun, -⟩ := run_loginUser hP hread hf hleft0 hs rfl r'
  rw [hrun]

end pins

/-! ### The two functions, exactly -/

section exact

variable {P : Primitives} {b : Backend} {n : NewToken} {e : FormatEnv} {s : ObjectStore}

/-- The writes behind the PINs of a call, and those behind its parameters. -/
def Call.PinsStored (e : FormatEnv) : Call → Prop
  | .C_InitToken _ _ => e.soBlob = .done ∧ e.soFlags = .done
  | .C_EX_InitToken _ _ _ =>
    e.soBlob = .done ∧ e.soFlags = .done ∧ e.userBlob = .done ∧ e.userFlags = .done

def Call.ParametersStored (e : FormatEnv) : Call → Prop
  | .C_InitToken _ _ => e.policy = .done ∧ e.soDefault = .done
  | .C_EX_InitToken _ _ _ => e.policy = .done ∧ e.soDefault = .done ∧ e.userDefault = .done

lemma run_setSOPIN_created (label blob : ByteString) (w w' : Write) :
    ((TokenObject.setSOPIN w w' blob).run (settled (TokenObject.created label))).1 = true ↔
      w = .done ∧ w' = .done := by
  cases w <;> cases w' <;> simp only [reduceCtorEq, and_self, and_false, false_and, iff_false,
    iff_true] <;> first | exact Bool.false_ne_true | rfl

lemma run_setPinDefault (w : Transaction) (id : ℕ) (isDefault : Bool) (a : TokenObject) :
    (w = .done → (setPinDefault w id isDefault).run (settled a) =
      (true, settled { a with PINDEFAULT := Function.update a.PINDEFAULT id isDefault })) ∧
    (w ≠ .done → ((setPinDefault w id isDefault).run (settled a)).1 = false) := by
  obtain ⟨locked, commit⟩ := w
  refine ⟨fun h => ?_, fun h => ?_⟩
  · rw [h]
    rfl
  · cases locked <;> cases commit <;> first | rfl | exact absurd rfl h

lemma run_setPinPolicy (w : Write) (p : PinPolicy) (a : TokenObject) :
    (w = .done → (TokenObject.setPinPolicy w p).run (settled a) =
      (true, settled { a with PINPOLICY := some (PinPolicy.setPinPolicy p) })) ∧
    (w ≠ .done → ((TokenObject.setPinPolicy w p).run (settled a)).1 = false) := by
  refine ⟨fun h => ?_, fun h => ?_⟩
  · rw [h]
    rfl
  · cases w <;> first | rfl | exact absurd rfl h

/-- A new token object with its SO PIN. -/
lemma run_setSOPIN_done (label blob : ByteString) : ∃ flags,
    (TokenObject.setSOPIN .done .done blob).run (settled (TokenObject.created label)) =
      (true, settled { TokenObject.created label with
        SOPIN := some blob, TOKENFLAGS := some flags }) := ⟨_, rfl⟩

lemma run_readBlobs (o : File TokenObject) : ∃ blobs, readBlobs.run o = (blobs, o) := by
  unfold readBlobs
  rw [Prog.run_bind]
  have hget : getSOPIN.run o = (o.copy.bind (·.SOPIN), o) := rfl
  rw [hget]
  cases o.copy.bind (·.SOPIN) with
  | none => exact ⟨_, rfl⟩
  | some soPINBlob => exact ⟨_, rfl⟩

/-- The parameters of `createToken`, on a token that has its PIN. -/
lemma run_storePolicy (e : FormatEnv) (p : PinPolicy) (soPIN : ByteString) (a : TokenObject) :
    (e.policy = .done ∧ e.soDefault = .done → ∃ sdm,
      (storePolicy e p soPIN none).run (settled a) = ((CKR_OK, some sdm), settled { a with
        PINPOLICY := some (PinPolicy.setPinPolicy p)
        PINDEFAULT := Function.update a.PINDEFAULT CKU_SO (isFactoryPIN soPIN true) })) ∧
    (¬ (e.policy = .done ∧ e.soDefault = .done) →
      ((storePolicy e p soPIN none).run (settled a)).1.1 ≠ CKR_OK) := by
  unfold storePolicy
  refine ⟨fun ⟨hpolicy, hdefault⟩ => ?_, fun hn => ?_⟩
  · rw [Prog.run_bind, (run_setPinPolicy _ p a).1 hpolicy]
    simp only [Bool.not_true, Bool.false_eq_true, if_false]
    rw [Prog.run_bind, (run_setPinDefault _ _ _ _).1 hdefault]
    simp only [Bool.not_true, Bool.false_eq_true, if_false]
    obtain ⟨blobs, hblobs⟩ := run_readBlobs (settled { a with
      PINPOLICY := some (PinPolicy.setPinPolicy p)
      PINDEFAULT := Function.update a.PINDEFAULT CKU_SO (isFactoryPIN soPIN true) })
    rw [Prog.run_bind, hblobs]
    exact ⟨_, rfl⟩
  · by_cases hpolicy : e.policy = .done
    · have hdefault : e.soDefault ≠ .done := fun h => hn ⟨hpolicy, h⟩
      rw [Prog.run_bind, (run_setPinPolicy _ p a).1 hpolicy]
      simp only [Bool.not_true, Bool.false_eq_true, if_false]
      rw [Prog.run_bind, (run_setPinDefault _ _ _ _).2 hdefault]
      exact CK_RV.noConfusion
    · rw [Prog.run_bind, (run_setPinPolicy _ p a).2 hpolicy]
      exact CK_RV.noConfusion

/-- **`createToken` on an empty slot**, from a policy that a record may hold. -/
lemma whole_createNew (hP : Lawful P) {p : PinPolicy} (hp : p.Valid)
    (hleft : p.leftSO = p.maxSO) {soPIN label : ByteString} (hso : 0 < soPIN.length) :
    Whole P (some soPIN) none s (createNew P b n e p soPIN label s) ↔
      (e.pbe = .none → ¬ n.Spoiled b s.directories ∧ (n.Complete s.directories →
        e.soBlob = .done ∧ e.soFlags = .done → e.policy = .done ∧ e.soDefault = .done)) := by
  by_cases hpbe : e.pbe = .none
  swap
  · have hfalse : (SecureDataManager.setSOPIN P e.pbe e.draws soPIN (blank e.draws)).1 = false := by
      rw [← Bool.not_eq_true, setSOPIN_blank_iff hso]
      exact hpbe
    refine iff_of_true ?_ fun h => absurd h hpbe
    unfold createNew
    rcases hset : SecureDataManager.setSOPIN P e.pbe e.draws soPIN (blank e.draws) with ⟨ok, gen⟩
    rw [hset] at hfalse
    obtain rfl : ok = false := hfalse
    exact ⟨fun _ => undone_same s _, fun h => absurd h CK_RV.noConfusion⟩
  obtain ⟨m, key, hset, -, hseals, -⟩ := setSOPIN_blank (P := P) (r := e.draws) hso
  have hcreate : createNew P b n e p soPIN label s = install b n label
      (TokenObject.setSOPIN e.soBlob e.soFlags m.soEncryptedKey) (storePolicy e p soPIN none) s := by
    simp only [createNew, hpbe, hset, Bool.not_true, Bool.false_eq_true, if_false]
  rw [hcreate, forall_prop_of_true hpbe]
  obtain ⟨flags, hpins⟩ := run_setSOPIN_done label m.soEncryptedKey
  have hok := run_setSOPIN_created label m.soEncryptedKey e.soBlob e.soFlags
  have hwith : e.soBlob = .done ∧ e.soFlags = .done →
      withPins label (TokenObject.setSOPIN e.soBlob e.soFlags m.soEncryptedKey) =
        settled { TokenObject.created label with
          SOPIN := some m.soEncryptedKey, TOKENFLAGS := some flags } := by
    rintro ⟨h, h'⟩
    rw [withPins, h, h', hpins]
  obtain ⟨hdone, hfailed⟩ := run_storePolicy e p soPIN { TokenObject.created label with
    SOPIN := some m.soEncryptedKey, TOKENFLAGS := some flags }
  rw [whole_install (fun _ => rfl) (fun h => by
    rw [hwith (hok.1 h)]
    exact ⟨fun h => (hdone h).elim fun sdm hsdm => ⟨some sdm, hsdm⟩, hfailed⟩), hok]
  intro _ _
  refine ⟨fun pin hpin => ?_, by rintro _ ⟨⟩, ?_⟩
  · obtain rfl := Option.some.inj hpin
    exact acceptsSO hP hp hleft rfl rfl rfl hseals
  · exact Option.isSome_iff_exists.2 ⟨p, getPinPolicy_setPinPolicy hp⟩

lemma run_storePINs_created (label : ByteString) (e : FormatEnv) (gen : SecureDataManager) :
    ((storePINs e gen).run (settled (TokenObject.created label))).1 = true ↔
      e.soBlob = .done ∧ e.soFlags = .done ∧ e.userBlob = .done ∧ e.userFlags = .done := by
  unfold storePINs
  rw [Prog.run_bind]
  by_cases hso : e.soBlob = .done ∧ e.soFlags = .done
  · obtain ⟨flags, hrun⟩ := run_setSOPIN_done label gen.soEncryptedKey
    rw [hso.1, hso.2, hrun]
    simp only [Bool.not_true, Bool.false_eq_true, if_false, true_and]
    cases e.userBlob <;> cases e.userFlags <;> simp only [reduceCtorEq, and_self, and_false,
      false_and, iff_false, iff_true] <;> first | exact Bool.false_ne_true | rfl
  · have hfalse := mt (run_setSOPIN_created label gen.soEncryptedKey e.soBlob e.soFlags).1 hso
    rw [Bool.not_eq_true] at hfalse
    rw [hfalse]
    exact iff_of_false Bool.false_ne_true fun h => hso ⟨h.1, h.2.1⟩

/-- A new token object with both PINs. -/
lemma run_storePINs_done {e : FormatEnv} (h : e.soBlob = .done ∧ e.soFlags = .done ∧
    e.userBlob = .done ∧ e.userFlags = .done) (label : ByteString) (gen : SecureDataManager) :
    ∃ flags, (storePINs e gen).run (settled (TokenObject.created label)) =
      (true, settled { TokenObject.created label with
        SOPIN := some gen.soEncryptedKey
        USERPIN := some gen.userEncryptedKey
        TOKENFLAGS := some flags }) := by
  unfold storePINs
  rw [h.1, h.2.1, h.2.2.1, h.2.2.2]
  exact ⟨_, rfl⟩

/-- The parameters of `initTokenExtended`, on a token that has its PINs. -/
lemma run_storeParameters (e : FormatEnv) (c : CK_RUTOKEN_INIT_PARAM.Checked) (a : TokenObject) :
    (e.policy = .done ∧ e.soDefault = .done ∧ e.userDefault = .done → ∃ sdm,
      (storeParameters e c none).run (settled a) = ((CKR_OK, some sdm), settled { a with
        PINPOLICY := some (PinPolicy.setPinPolicy c.policy)
        PINDEFAULT := Function.update (Function.update a.PINDEFAULT CKU_SO
          (isFactoryPIN c.newSOPIN true)) CKU_USER (isFactoryPIN c.newUserPIN false) })) ∧
    (¬ (e.policy = .done ∧ e.soDefault = .done ∧ e.userDefault = .done) →
      ((storeParameters e c none).run (settled a)).1.1 ≠ CKR_OK) := by
  unfold storeParameters
  by_cases hpolicy : e.policy = .done
  swap
  · refine ⟨fun h => absurd h.1 hpolicy, fun _ => ?_⟩
    rw [Prog.run_bind, (run_setPinPolicy _ _ a).2 hpolicy]
    exact CK_RV.noConfusion
  rw [Prog.run_bind, (run_setPinPolicy _ _ a).1 hpolicy]
  simp only [Bool.not_true, Bool.false_eq_true, if_false]
  by_cases hso : e.soDefault = .done
  swap
  · refine ⟨fun h => absurd h.2.1 hso, fun _ => ?_⟩
    rw [Prog.run_bind, (run_setPinDefault _ _ _ _).2 hso]
    exact CK_RV.noConfusion
  rw [Prog.run_bind, (run_setPinDefault _ _ _ _).1 hso]
  simp only [Bool.not_true, Bool.false_eq_true, if_false]
  by_cases hu : e.userDefault = .done
  swap
  · refine ⟨fun h => absurd h.2.2 hu, fun _ => ?_⟩
    rw [Prog.run_bind, (run_setPinDefault _ _ _ _).2 hu]
    exact CK_RV.noConfusion
  refine ⟨fun _ => ?_, fun h => absurd ⟨hpolicy, hso, hu⟩ h⟩
  rw [Prog.run_bind, (run_setPinDefault _ _ _ _).1 hu]
  simp only [Bool.not_true, Bool.false_eq_true, if_false]
  obtain ⟨blobs, hblobs⟩ := run_readBlobs (settled { a with
    PINPOLICY := some (PinPolicy.setPinPolicy c.policy)
    PINDEFAULT := Function.update (Function.update a.PINDEFAULT CKU_SO
      (isFactoryPIN c.newSOPIN true)) CKU_USER (isFactoryPIN c.newUserPIN false) })
  rw [Prog.run_bind, hblobs]
  exact ⟨_, rfl⟩

lemma whole_initNew (hP : Lawful P) {c : CK_RUTOKEN_INIT_PARAM.Checked} (hp : c.policy.Valid)
    (hleft : c.policy.leftSO = c.policy.maxSO) (hleft' : c.policy.leftUser = c.policy.maxUser)
    (hso : 0 < c.newSOPIN.length) (hu : 0 < c.newUserPIN.length) :
    Whole P (some c.newSOPIN) (some c.newUserPIN) s (initNew P b n e c s) ↔
      (e.pbe = .none ∧ e.userPbe = .none → ¬ n.Spoiled b s.directories ∧
        (n.Complete s.directories →
          e.soBlob = .done ∧ e.soFlags = .done ∧ e.userBlob = .done ∧ e.userFlags = .done →
          e.policy = .done ∧ e.soDefault = .done ∧ e.userDefault = .done)) := by
  by_cases hpbe : e.pbe = .none ∧ e.userPbe = .none
  swap
  · refine iff_of_true ?_ fun h => absurd h hpbe
    unfold initNew
    rw [freshKey_none hpbe hso]
    exact ⟨fun _ => undone_same s _, fun h => absurd h CK_RV.noConfusion⟩
  obtain ⟨gen, key, hgen, hseals, hseals'⟩ := freshKey_seals hP hpbe.1 hpbe.2 hso hu
  have hinit : initNew P b n e c s =
      install b n c.label (storePINs e gen) (storeParameters e c none) s := by
    unfold initNew
    rw [hgen]
  rw [hinit, forall_prop_of_true hpbe]
  have hok := run_storePINs_created c.label e gen
  obtain ⟨flags, hpins⟩ : ∃ flags, e.soBlob = .done ∧ e.soFlags = .done ∧ e.userBlob = .done ∧
      e.userFlags = .done → (storePINs e gen).run (settled (TokenObject.created c.label)) =
        (true, settled { TokenObject.created c.label with
          SOPIN := some gen.soEncryptedKey
          USERPIN := some gen.userEncryptedKey
          TOKENFLAGS := some flags }) := by
    by_cases h : e.soBlob = .done ∧ e.soFlags = .done ∧ e.userBlob = .done ∧ e.userFlags = .done
    · obtain ⟨flags, hrun⟩ := run_storePINs_done h c.label gen
      exact ⟨flags, fun _ => hrun⟩
    · exact ⟨0, fun h' => absurd h' h⟩
  obtain ⟨hdone, hfailed⟩ := run_storeParameters e c { TokenObject.created c.label with
    SOPIN := some gen.soEncryptedKey
    USERPIN := some gen.userEncryptedKey
    TOKENFLAGS := some flags }
  have hwith := fun h => congrArg Prod.snd (hpins h)
  rw [whole_install (fun _ => rfl) (fun h => by
    rw [withPins, hwith (hok.1 h)]
    exact ⟨fun h => (hdone h).elim fun sdm hsdm => ⟨some sdm, hsdm⟩, hfailed⟩), hok]
  intro _ _
  refine ⟨fun pin hpin => ?_, fun pin hpin => ?_, ?_⟩
  · obtain rfl := Option.some.inj hpin
    exact acceptsSO hP hp hleft rfl rfl rfl hseals
  · obtain rfl := Option.some.inj hpin
    exact acceptsUser hP hp hleft' rfl rfl rfl rfl hseals'
  · exact Option.isSome_iff_exists.2 ⟨c.policy, getPinPolicy_setPinPolicy hp⟩

/-- The PINs of parameters that pass the checks. -/
lemma check_pins {pInitInfo : CK_RUTOKEN_INIT_PARAM} {c : CK_RUTOKEN_INIT_PARAM.Checked}
    (h : pInitInfo.check = some c) :
    pInitInfo.newAdminPin = some c.newSOPIN ∧ pInitInfo.newUserPin = some c.newUserPIN ∧
      0 < c.newSOPIN.length ∧ 0 < c.newUserPIN.length := by
  unfold CK_RUTOKEN_INIT_PARAM.check at h
  split at h
  · cases h
  split at h
  case h_2 => cases h
  rename_i newSOPIN newUserPIN hso huser
  dsimp only at h
  split at h
  · cases h
  rename_i hmin
  split at h
  · cases h
  rename_i hlen
  simp only [Bool.or_eq_true, decide_eq_true_eq, not_or, Nat.not_lt, gt_iff_lt] at hmin hlen
  unfold CK_RUTOKEN_INIT_PARAM.modelMinPin at hmin
  split at h
  · cases h
  split at h
  · cases h
  split at h
  · cases h
  split at h
  · cases h
  cases h
  exact ⟨hso, huser, by dsimp only; omega, by dsimp only; omega⟩

/-- The call passes the checks in front of the storage, and its PINs are sealed. -/
def Call.Reaches (p : Process) (e : FormatEnv) : Call → Prop
  | .C_InitToken pPin pLabel =>
    p.isInitialised = true ∧ p.haveSession = false ∧ pLabel.isSome = true ∧ e.pbe = .none ∧
      ∃ soPIN policy, pPin = some soPIN ∧ newPolicy p.requested = some policy ∧
        policy.minSOLength.toNat ≤ soPIN.length ∧ soPIN.length ≤ policy.maxLength.toNat
  | .C_EX_InitToken pPin ulPinLen pInitInfo =>
    p.isInitialised = true ∧ p.fakeRutokenECP = true ∧ p.haveSession = false ∧
      (pInitInfo.bind (·.check)).isSome = true ∧ (pPin = none → ulPinLen = 0) ∧
      e.pbe = .none ∧ e.userPbe = .none

/-- A call that is refused changes nothing. -/
lemma whole_refused {soPIN userPIN : Option ByteString} (s : ObjectStore) {rv : CK_RV}
    (h : rv ≠ CKR_OK) : Whole P soPIN userPIN s (rv, none, s) :=
  ⟨fun _ => undone_same s rv, fun h' => absurd h' h⟩

lemma whole_C_InitToken (hP : Lawful P) {p : Process} (pPin pLabel : Option ByteString) :
    Whole P pPin none s (C_InitToken P b n e p pPin pLabel s) ↔
      ((Call.C_InitToken pPin pLabel).Reaches p e → ¬ n.Spoiled b s.directories ∧
        (n.Complete s.directories → e.soBlob = .done ∧ e.soFlags = .done →
          e.policy = .done ∧ e.soDefault = .done)) := by
  unfold C_InitToken
  rcases hi : p.isInitialised with _ | _
  · exact iff_of_true (whole_refused s CK_RV.noConfusion) fun h =>
      absurd (hi.symm.trans h.1) Bool.false_ne_true
  rcases hsession : p.haveSession with _ | _
  swap
  · exact iff_of_true (whole_refused s CK_RV.noConfusion) fun h =>
      absurd (h.2.1.symm.trans hsession) Bool.false_ne_true
  rcases pPin with _ | soPIN
  · refine iff_of_true (whole_refused s CK_RV.noConfusion) fun h => ?_
    obtain ⟨-, -, -, -, soPIN, policy, ⟨⟩, -⟩ := h
  simp only [Bool.not_true, Bool.false_eq_true, if_false, createToken]
  rcases hpolicy : newPolicy p.requested with _ | policy
  · refine iff_of_true (whole_refused s CK_RV.noConfusion) fun h => ?_
    obtain ⟨-, -, -, -, -, policy, -, h, -⟩ := h
    rw [hpolicy] at h
    cases h
  dsimp only
  obtain ⟨hv, hleft, -⟩ := valid_newPolicy hpolicy
  split
  · rename_i hlen
    refine iff_of_true (whole_refused s CK_RV.noConfusion) fun h => ?_
    obtain ⟨-, -, -, -, pin, policy', hpin, h, hmin, hmax⟩ := h
    rw [hpolicy] at h
    cases h
    cases hpin
    simp only [Bool.or_eq_true, decide_eq_true_eq] at hlen
    omega
  rename_i hlen
  rcases pLabel with _ | label
  · exact iff_of_true (whole_refused s CK_RV.noConfusion) fun h =>
      absurd h.2.2.1 Bool.false_ne_true
  simp only [Bool.or_eq_true, decide_eq_true_eq, not_or, Nat.not_lt, gt_iff_lt] at hlen
  have hso : 0 < soPIN.length := by
    have h6 := UInt8.le_iff_toNat_le.1 hv.minSOLength
    have h6' : (6 : UInt8).toNat = 6 := rfl
    omega
  dsimp only
  rw [whole_createNew hP hv hleft hso]
  refine ⟨fun h hr => h hr.2.2.2.1, fun h hpbe => h ?_⟩
  exact ⟨hi, hsession, rfl, hpbe, soPIN, policy, rfl, hpolicy, hlen.1, hlen.2⟩

lemma whole_C_EX_InitToken (hP : Lawful P) {p : Process} (pPin : Option ByteString)
    (ulPinLen : ℕ) (pInitInfo : Option CK_RUTOKEN_INIT_PARAM) :
    Whole P (pInitInfo.bind (·.newAdminPin)) (pInitInfo.bind (·.newUserPin)) s
        (C_EX_InitToken P b n e p pPin ulPinLen pInitInfo s) ↔
      ((Call.C_EX_InitToken pPin ulPinLen pInitInfo).Reaches p e → ¬ n.Spoiled b s.directories ∧
        (n.Complete s.directories →
          e.soBlob = .done ∧ e.soFlags = .done ∧ e.userBlob = .done ∧ e.userFlags = .done →
          e.policy = .done ∧ e.soDefault = .done ∧ e.userDefault = .done)) := by
  unfold C_EX_InitToken
  rcases hi : p.isInitialised with _ | _
  · exact iff_of_true (whole_refused s CK_RV.noConfusion) fun h =>
      absurd (hi.symm.trans h.1) Bool.false_ne_true
  rcases hprofile : p.fakeRutokenECP with _ | _
  · exact iff_of_true (whole_refused s CK_RV.noConfusion) fun h =>
      absurd (hprofile.symm.trans h.2.1) Bool.false_ne_true
  rcases hsession : p.haveSession with _ | _
  swap
  · exact iff_of_true (whole_refused s CK_RV.noConfusion) fun h =>
      absurd (h.2.2.1.symm.trans hsession) Bool.false_ne_true
  rcases hcheck : pInitInfo.bind (·.check) with _ | c
  · refine iff_of_true (whole_refused s CK_RV.noConfusion) fun h => ?_
    have hsome := h.2.2.2.1
    rw [hcheck] at hsome
    cases hsome
  simp only [Bool.not_true, Bool.false_eq_true, if_false]
  obtain ⟨info, rfl, hinfo⟩ := Option.bind_eq_some_iff.1 hcheck
  obtain ⟨hadmin, huser, hso, hu⟩ := check_pins hinfo
  obtain ⟨hv, hleft, hleft'⟩ := valid_check hinfo
  split
  · rename_i hpin
    refine iff_of_true (whole_refused s CK_RV.noConfusion) fun h => ?_
    simp only [Bool.and_eq_true, Option.isNone_iff_eq_none, bne_iff_ne] at hpin
    exact absurd (h.2.2.2.2.1 hpin.1) hpin.2
  rename_i hpin
  rw [Option.bind_some, Option.bind_some, hadmin, huser,
    whole_initNew hP hv hleft hleft' hso hu]
  refine ⟨fun h hr => h hr.2.2.2.2.2, fun h hpbe => h ?_⟩
  refine ⟨hi, hprofile, hsession, ?_, fun hnone => ?_, hpbe⟩
  · rw [hcheck]
    rfl
  · by_contra hne
    exact hpin (by simp [hnone, hne])

/-- A new token on an empty store, every step of which is done. -/
def completeToken : NewToken := ⟨1, true, true, true, .done, true, true, true, true, true⟩

def emptyStore : ObjectStore := ⟨fun _ => none, [], [], fun _ h => nomatch h⟩

def rutoken : Process := ⟨true, true, false, none⟩

lemma not_spoiled_completeToken (b : Backend) (d : Directories) : ¬ completeToken.Spoiled b d := by
  rintro ⟨-, -, -, h | h | ⟨-, -, -, h⟩⟩
  · exact Bool.false_ne_true h.symm
  · exact Write.noConfusion h
  · exact Bool.false_ne_true h.symm

lemma newToken_opened (h : n.opened = true) (label : ByteString) (s : ObjectStore) :
    (newToken b n label s).1 = none ∨ (newToken b n label s).1 =
      some (s.allTokens.length, ⟨some (TokenObject.created label), TokenObject.created label, true⟩) := by
  unfold newToken
  obtain ⟨-, d', hd, -⟩ | ⟨-, -, hd⟩ | ⟨-, -, -, hd⟩ :=
    createTokenObject_cases b n label s.directories
  · rw [hd]
    exact .inl rfl
  · rw [hd]
    exact .inl rfl
  · rw [hd, h]
    exact .inr rfl

/-- A creation, as the slot sees it. -/
lemma install_slot (h : n.opened = true) (label : ByteString) (pins : Prog Bool)
    (parameters : Prog (CK_RV × Option SecureDataManager)) (s : ObjectStore) :
    ((install b n label pins parameters s).1, (install b n label pins parameters s).2.1) =
      if !(newToken b n label s).1.isSome then (CKR_DEVICE_ERROR, none)
      else
        let (ok, token) := pins.run
          ⟨some (TokenObject.created label), TokenObject.created label, true⟩
        if !ok then (CKR_DEVICE_ERROR, none)
        else
          let ((rv, sdm), token) := parameters.run token
          (rv, some ⟨token, sdm⟩) := by
  have hcases := newToken_opened (b := b) h label s
  unfold install
  rcases hnew : newToken b n label s with ⟨token, s'⟩
  rw [hnew] at hcases
  obtain rfl | rfl := hcases
  · rfl
  · dsimp only [Option.isSome_some, Bool.not_true]
    cases (pins.run ⟨some (TokenObject.created label), TokenObject.created label, true⟩).1 <;> rfl

/-- **The two functions are those of the slot**, where the store makes a token or does not. -/
theorem creation_of_slot (h : n.opened = true) (s : ObjectStore) :
    (∀ p soPIN label,
      ((createNew P b n e p soPIN label s).1, (createNew P b n e p soPIN label s).2.1) =
        Token.createNew P { e with newToken := (newToken b n label s).1.isSome } p soPIN label) ∧
    ∀ c, ((initNew P b n e c s).1, (initNew P b n e c s).2.1) =
      Token.initNew P { e with newToken := (newToken b n c.label s).1.isSome } c := by
  refine ⟨fun p soPIN label => ?_, fun c => ?_⟩
  · unfold createNew Token.createNew
    dsimp only
    cases (SecureDataManager.setSOPIN P e.pbe e.draws soPIN (blank e.draws)).1 with
    | false => rfl
    | true =>
      exact install_slot (b := b) h label (TokenObject.setSOPIN e.soBlob e.soFlags
        (SecureDataManager.setSOPIN P e.pbe e.draws soPIN (blank e.draws)).2.soEncryptedKey)
        (storePolicy e p soPIN none) s
  · unfold initNew Token.initNew
    have hkey : freshKey P { e with newToken := (newToken b n c.label s).1.isSome } c.newSOPIN
        c.newUserPIN = freshKey P e c.newSOPIN c.newUserPIN := rfl
    rw [hkey]
    cases freshKey P e c.newSOPIN c.newUserPIN with
    | none => rfl
    | some gen =>
      exact install_slot (b := b) h c.label (storePINs e gen) (storeParameters e c none) s

end exact

end SoftHSM.Creation
