import SoftHSM.SlotMgr.PolicySteps

/-!
Who is logged in on a token. Only the two logins log somebody in; every other operation leaves
the roles as they are or logs everybody out, and `pinResult` is where the latter happens
without being asked for.
-/

namespace SoftHSM

namespace SecureDataManager

/-- Whether the SO and whether the user is logged in. -/
def roles (m : SecureDataManager) : Bool × Bool := (m.soLoggedIn, m.userLoggedIn)

variable {P : Primitives}

@[simp] lemma roles_logout (m : SecureDataManager) : roles (logout m) = (false, false) := rfl

@[simp] lemma roles_remask (stream : ℕ → UInt8) (key : ByteString) (m : SecureDataManager) :
    roles (remask stream key m) = roles m := rfl

lemma roles_pbeEncryptKey (f : PbeFaults) (r : Draws) (passphrase blob : ByteString)
    (m : SecureDataManager) : roles (pbeEncryptKey P f r passphrase blob m).2.2 = roles m := by
  unfold pbeEncryptKey
  split
  · rfl
  dsimp only
  split
  · rfl
  split
  · rfl
  split
  · rfl
  split
  · rfl
  split <;> rfl

lemma roles_setSOPIN (f : PbeFaults) (r : Draws) (pin : ByteString) (m : SecureDataManager) :
    roles (setSOPIN P f r pin m).2 = roles m := by
  unfold setSOPIN
  split
  · rfl
  split
  · rfl
  have h := roles_pbeEncryptKey (P := P) f r pin
  dsimp only
  split <;> exact h _ _

lemma roles_setUserPIN (f : PbeFaults) (r : Draws) (pin : ByteString) (m : SecureDataManager) :
    roles (setUserPIN P f r pin m).2 = roles m := by
  unfold setUserPIN
  split
  · rfl
  split
  · rfl
  exact roles_pbeEncryptKey _ _ _ _ _

lemma roles_loginSO (r : Draws) (pin : ByteString) (m : SecureDataManager) :
    roles (loginSO P r pin m).2 = ((loginSO P r pin m).1, false) := by
  unfold loginSO login
  dsimp only
  split <;> rfl

lemma roles_loginUser (r : Draws) (pin : ByteString) (m : SecureDataManager) :
    roles (loginUser P r pin m).2 = (false, (loginUser P r pin m).1) := by
  unfold loginUser login
  dsimp only
  split <;> rfl

lemma roles_loginSO_cases (r : Draws) (pin : ByteString) (m : SecureDataManager) :
    roles (loginSO P r pin m).2 = (true, false) ∨ roles (loginSO P r pin m).2 = (false, false) := by
  rw [roles_loginSO]
  cases (loginSO P r pin m).1
  · exact .inr rfl
  · exact .inl rfl

lemma roles_loginUser_cases (r : Draws) (pin : ByteString) (m : SecureDataManager) :
    roles (loginUser P r pin m).2 = (false, true) ∨
      roles (loginUser P r pin m).2 = (false, false) := by
  rw [roles_loginUser]
  cases (loginUser P r pin m).1
  · exact .inr rfl
  · exact .inl rfl

end SecureDataManager

namespace Token

open RecordFile TokenObject SecureDataManager PinPolicy LocalPin CK_RV
open RecordFile.File (settled)

/-- Nobody is logged in who was not: the roles stay, or all are logged out. -/
def NoLogin (sdm sdm' : SecureDataManager) : Prop :=
  roles sdm' = roles sdm ∨ roles sdm' = (false, false)

lemma NoLogin.of_eq {sdm sdm' : SecureDataManager} (h : roles sdm' = roles sdm) :
    NoLogin sdm sdm' := .inl h

lemma noLogin_refl (sdm : SecureDataManager) : NoLogin sdm sdm := .inl rfl

lemma noLogin_logout (sdm sdm' : SecureDataManager) : NoLogin sdm (logout sdm') := .inr rfl

section noLogin

variable {P : Primitives} {sdm : SecureDataManager} {o : File TokenObject}

/-- What `pinResult` makes of a manager that has logged nobody in. -/
lemma noLogin_pinResult {sdm' : SecureDataManager} (h : NoLogin sdm sdm') (e : ResultWrites)
    (so success : Bool) :
    Prog.After (pinResult e so success sdm') o fun r _ => NoLogin sdm r.2 := by
  unfold pinResult
  refine Prog.After.any fun bytes o₁ => ?_
  split
  swap
  · exact noLogin_logout _ _
  refine Prog.After.any fun flags o₂ => ?_
  split
  swap
  · exact noLogin_logout _ _
  refine Prog.After.any fun ok o₃ => ?_
  refine Prog.after_ite (fun _ => noLogin_logout _ _) fun _ => ?_
  exact Prog.after_ite (fun _ => noLogin_logout _ _) fun _ => h

lemma noLogin_reAuthenticate (e : ResultWrites) (pin : ByteString) :
    Prog.After (reAuthenticate P e pin sdm) o fun r _ => NoLogin sdm r.2 := by
  have h : ∀ so ok, Prog.After (do
      if ← pinLocked so then return (CKR_PIN_LOCKED, sdm)
      pinResult e so ok sdm) o fun r _ => NoLogin sdm r.2 := fun so ok =>
    Prog.After.any fun _ _ => Prog.after_ite (fun _ => noLogin_refl _) fun _ =>
      noLogin_pinResult (noLogin_refl _) _ _ _
  unfold reAuthenticate
  exact Prog.after_ite (fun _ => h _ _) fun _ =>
    Prog.after_ite (fun _ => h _ _) fun _ => noLogin_refl _

lemma noLogin_setSOPIN (e : PinEnv) (oldPIN newPIN : ByteString) :
    Prog.After (setSOPIN P e oldPIN newPIN sdm) o fun r _ => NoLogin sdm r.2 := by
  have h := NoLogin.of_eq (roles_setSOPIN (P := P) e.pbe e.draws newPIN sdm)
  unfold setSOPIN
  refine Prog.After.any fun _ _ => Prog.after_ite (fun _ => noLogin_refl _) fun _ => ?_
  refine Prog.after_ite (fun _ => noLogin_pinResult (noLogin_refl _) _ _ _) fun _ => ?_
  refine Prog.after_ite (fun _ => h) fun _ => ?_
  refine Prog.After.any fun _ _ => Prog.after_ite (fun _ => h) fun _ => ?_
  refine Prog.After.any fun _ _ => Prog.after_ite (fun _ => h) fun _ => ?_
  exact Prog.After.any fun _ _ => noLogin_pinResult h _ _ _

/-- The manager that `setUserPIN` puts in place of the old one. -/
lemma noLogin_newSdm (hx : roles sdm ≠ (true, true)) {e : PinEnv} {oldPIN newPIN : ByteString}
    {m : SecureDataManager}
    (hok : (SecureDataManager.loginUser P e.verifier oldPIN m).1 = true) :
    let newSdm := (SecureDataManager.setUserPIN P e.pbe e.draws newPIN
      (SecureDataManager.loginUser P e.verifier oldPIN m).2).2
    NoLogin sdm (if sdm.userLoggedIn = true then newSdm else logout newSdm) := by
  dsimp only
  split
  · rename_i hu
    left
    rw [roles_setUserPIN, roles_loginUser, hok]
    simp only [roles, hu, ne_eq, Prod.mk.injEq, and_true, Bool.not_eq_true] at hx ⊢
    exact hx.symm
  · exact noLogin_logout _ _

lemma noLogin_setUserPIN (hx : roles sdm ≠ (true, true)) (e : PinEnv)
    (oldPIN newPIN : ByteString) :
    Prog.After (setUserPIN P e oldPIN newPIN sdm) o fun r _ => NoLogin sdm r.2 := by
  unfold setUserPIN
  refine Prog.After.any fun _ _ => Prog.after_ite (fun _ => noLogin_refl _) fun _ => ?_
  refine Prog.after_ite (fun _ => noLogin_pinResult (noLogin_refl _) _ _ _) fun hok => ?_
  rw [Bool.not_eq_true', Bool.not_eq_false] at hok
  have h := @noLogin_newSdm P sdm hx e oldPIN newPIN _ hok
  refine Prog.after_ite (fun _ => noLogin_refl _) fun _ => ?_
  refine Prog.After.any fun _ _ => Prog.after_ite (fun _ => noLogin_refl _) fun _ => ?_
  refine Prog.After.any fun _ _ => Prog.after_ite (fun _ => noLogin_refl _) fun _ => ?_
  refine Prog.After.any fun _ _ => ?_
  refine Prog.After.bind (noLogin_pinResult h _ _ _) fun r _ hr => ?_
  refine Prog.after_ite (fun _ => hr) fun _ => ?_
  exact Prog.After.any fun _ _ => Prog.after_ite (fun _ => hr) fun _ => hr

lemma noLogin_refillUser {sdm' : SecureDataManager} (h : NoLogin sdm sdm') (w w' : Write) :
    Prog.After (refillUser w w' sdm') o fun r _ => NoLogin sdm r.2 := by
  unfold refillUser
  refine Prog.After.any fun p _ => ?_
  split
  swap
  · exact h
  refine Prog.After.any fun f _ => ?_
  split
  swap
  · exact h
  refine Prog.After.any fun _ _ => Prog.after_ite (fun _ => h) fun _ => ?_
  exact Prog.After.any fun _ _ => Prog.after_ite (fun _ => h) fun _ => h

lemma noLogin_initUserPIN (e : PinEnv) (pin : ByteString) :
    Prog.After (initUserPIN P e pin sdm) o fun r _ => NoLogin sdm r.2 := by
  have h := NoLogin.of_eq (roles_setUserPIN (P := P) e.pbe e.draws pin sdm)
  unfold initUserPIN
  refine Prog.after_ite (fun _ => h) fun _ => ?_
  refine Prog.After.any fun _ _ => Prog.after_ite (fun _ => h) fun _ => ?_
  refine Prog.After.any fun _ _ => Prog.after_ite (fun _ => h) fun _ => ?_
  exact Prog.After.any fun _ _ => noLogin_refillUser h _ _

lemma noLogin_replaceLocalPIN {sdm' : SecureDataManager} (h : NoLogin sdm sdm') (e : LocalEnv)
    (id : ℕ) (newPIN record : ByteString) :
    Prog.After (replaceLocalPIN P e id newPIN record sdm') o fun r _ => NoLogin sdm r.2 := by
  unfold replaceLocalPIN
  refine Prog.after_ite (fun _ => h) fun _ => Prog.After.any fun r _ => ?_
  split <;> exact h

lemma noLogin_setLocalPINRound {sdm' : SecureDataManager} (h : NoLogin sdm sdm') (e : LocalEnv)
    (id : ℕ) (currentPIN newPIN : ByteString) :
    Prog.After (setLocalPINRound P e id currentPIN newPIN sdm') o fun r _ =>
      NoLogin sdm r.2 := by
  unfold setLocalPINRound
  refine Prog.After.any fun stored _ => ?_
  split
  swap
  · exact h
  split
  · refine Prog.after_ite (fun _ => h) fun _ => Prog.after_ite (fun _ => h) fun _ => ?_
    refine Prog.after_ite (fun _ => Prog.After.any fun r _ => ?_) fun _ =>
      noLogin_replaceLocalPIN h _ _ _ _
    split <;> exact h
  · refine Prog.After.any fun _ _ => Prog.after_ite (fun _ => h) fun _ => ?_
    refine Prog.After.any fun soBlob _ => ?_
    split
    swap
    · exact h
    refine Prog.After.any fun userBlob _ => ?_
    split
    swap
    · exact h
    refine Prog.After.bind (noLogin_pinResult h _ _ _) fun r _ hr => ?_
    exact Prog.after_ite (fun _ => hr) fun _ => noLogin_replaceLocalPIN hr _ _ _ _

lemma noLogin_setLocalPIN (e : ℕ → LocalEnv) (id : ℕ) (currentPIN newPIN : ByteString) :
    Prog.After (setLocalPIN P e id currentPIN newPIN sdm) o fun r _ => NoLogin sdm r.2 := by
  have hrounds : ∀ (es : List LocalEnv) (sdm' : SecureDataManager) (o : File TokenObject),
      NoLogin sdm sdm' → Prog.After (setLocalPINRounds P id currentPIN newPIN es sdm') o
        fun r _ => NoLogin sdm r.2 := by
    intro es
    induction es with
    | nil => exact fun sdm' o h => h
    | cons e es ih =>
      intro sdm' o h
      refine Prog.After.bind (noLogin_setLocalPINRound h _ _ _ _) fun r o' hr => ?_
      split
      · exact hr
      · exact ih _ _ hr
  unfold setLocalPIN
  refine Prog.After.any fun p _ => ?_
  split
  · exact Prog.after_ite (fun _ => noLogin_refl _) fun _ => hrounds _ _ _ (noLogin_refl _)
  · exact noLogin_refl _

/-- The login of a role that `pinResult` has seen to. -/
lemma login_pinResult {sdm' : SecureDataManager} {x : Bool × Bool}
    (h : roles sdm' = x ∨ roles sdm' = (false, false)) (e : ResultWrites) (so success : Bool) :
    Prog.After (pinResult e so success sdm') o fun r _ =>
      roles r.2 = x ∨ roles r.2 = (false, false) := by
  refine Prog.After.mono (noLogin_pinResult (noLogin_refl sdm') e so success) fun r o' hr => ?_
  rcases hr with hr | hr
  · rw [hr]
    exact h
  · exact .inr hr

/-- What `loginSO` does to the roles: nothing where somebody is logged in. -/
lemma roles_after_loginSO (r : Draws) (e : ResultWrites) (pin : ByteString) :
    Prog.After (loginSO P r e pin sdm) o fun r _ => roles r.2 = roles sdm ∨
      roles sdm = (false, false) ∧ (roles r.2 = (true, false) ∨ roles r.2 = (false, false)) := by
  unfold loginSO
  refine Prog.after_ite (fun _ => .inl rfl) fun hu => Prog.after_ite (fun _ => .inl rfl) fun hs => ?_
  have h0 : roles sdm = (false, false) := by simp [roles, hu, hs]
  refine Prog.After.any fun _ _ => Prog.after_ite (fun _ => .inl rfl) fun _ => ?_
  exact Prog.After.mono (login_pinResult (roles_loginSO_cases r pin sdm) _ _ _)
    fun r o' hr => .inr ⟨h0, hr⟩

lemma roles_after_loginUser (r : Draws) (e : ResultWrites) (pin : ByteString) :
    Prog.After (loginUser P r e pin sdm) o fun r _ => roles r.2 = roles sdm ∨
      roles sdm = (false, false) ∧ (roles r.2 = (false, true) ∨ roles r.2 = (false, false)) := by
  unfold loginUser
  refine Prog.after_ite (fun _ => .inl rfl) fun hs => Prog.after_ite (fun _ => .inl rfl) fun hu => ?_
  have h0 : roles sdm = (false, false) := by simp [roles, hu, hs]
  refine Prog.after_ite (fun _ => .inl rfl) fun _ => ?_
  refine Prog.After.any fun _ _ => Prog.after_ite (fun _ => .inl rfl) fun _ => ?_
  exact Prog.After.mono (login_pinResult (roles_loginUser_cases r pin sdm) _ _ _)
    fun r o' hr => .inr ⟨h0, hr⟩

/-- The requests that may log somebody in. -/
def Request.logsIn : Request → Bool
  | .loginSO _ _ _ => true
  | .loginUser _ _ _ => true
  | _ => false

/-- **Only the logins log in.** -/
lemma noLogin_request (hx : roles sdm ≠ (true, true)) {q : Request} (hq : q.logsIn = false) :
    Prog.After (q.prog P sdm) o fun r _ => NoLogin sdm r.2 := by
  cases q with
  | loginSO r e pin => cases hq
  | loginUser r e pin => cases hq
  | reAuthenticate e pin => exact noLogin_reAuthenticate e pin
  | logout => exact noLogin_logout _ _
  | setSOPIN e oldPIN newPIN => exact noLogin_setSOPIN e oldPIN newPIN
  | setUserPIN e oldPIN newPIN => exact noLogin_setUserPIN hx e oldPIN newPIN
  | initUserPIN e pin => exact noLogin_initUserPIN e pin
  | unblockUserPIN w w' =>
    exact Prog.after_ite (fun _ => noLogin_refl _) fun _ => noLogin_refillUser (noLogin_refl _) _ _
  | setLocalPIN e id currentPIN newPIN => exact noLogin_setLocalPIN e id currentPIN newPIN

end noLogin

/-! ### Slots -/

/-- Whether the SO and whether the user is logged in on the token of a slot. -/
def slotRoles (s : Option Token) : Bool × Bool := (isSOLoggedIn s, isUserLoggedIn s)

/-- The roles of a manager that may be missing. -/
def rolesOf (m : Option SecureDataManager) : Bool × Bool :=
  (m.any (·.soLoggedIn), m.any (·.userLoggedIn))

/-- Nobody is logged in on the slot who was not. -/
def Calm (s s' : Option Token) : Prop :=
  slotRoles s' = slotRoles s ∨ slotRoles s' = (false, false)

lemma calm_refl (s : Option Token) : Calm s s := .inl rfl

section slots

variable {P : Primitives} {s s' : Option Token} {rv : CK_RV}

lemma calm_call (hx : slotRoles s ≠ (true, true)) {q : Request} (hq : q.logsIn = false)
    (h : call q.null (q.prog P) s = (rv, s')) : Calm s s' := by
  rcases call_cases h with ⟨rfl, -⟩ | ⟨token, sdm, rfl, -, rfl⟩
  · exact calm_refl _
  · exact noLogin_request (o := token) hx hq

/-- What a login does to the roles of a slot. -/
lemma slotRoles_loginSO {r : Draws} {e : ResultWrites} {pin : ByteString}
    (h : call (Request.loginSO r e pin).null ((Request.loginSO r e pin).prog P) s = (rv, s')) :
    slotRoles s' = slotRoles s ∨ slotRoles s' = (true, false) ∨ slotRoles s' = (false, false) := by
  rcases call_cases h with ⟨rfl, -⟩ | ⟨token, sdm, rfl, -, rfl⟩
  · exact .inl rfl
  · rcases @roles_after_loginSO P sdm token r e pin with hr | ⟨-, hr⟩
    · exact .inl hr
    · exact .inr hr

lemma slotRoles_loginUser {r : Draws} {e : ResultWrites} {pin : ByteString}
    (h : call (Request.loginUser r e pin).null ((Request.loginUser r e pin).prog P) s =
      (rv, s')) :
    slotRoles s' = slotRoles s ∨ slotRoles s' = (false, true) ∨ slotRoles s' = (false, false) := by
  rcases call_cases h with ⟨rfl, -⟩ | ⟨token, sdm, rfl, -, rfl⟩
  · exact .inl rfl
  · rcases @roles_after_loginUser P sdm token r e pin with hr | ⟨-, hr⟩
    · exact .inl hr
    · exact .inr hr

end slots

/-! ### Attempts that nothing disturbs -/

/-- A role is locked where its attempts are spent, and where the record is not read. -/
lemma run_pinLocked_settled (so : Bool) (a : TokenObject) :
    (pinLocked so).run (settled a) =
      ((policyOf a).all fun p => decide (p.left so = 0), settled a) := by
  have hget : TokenObject.getPinPolicy.run (settled a) = (policyOf a, settled a) := rfl
  unfold pinLocked
  rw [Prog.run_bind, hget]
  cases policyOf a <;> rfl

lemma run_getTokenFlags_settled (a : TokenObject) :
    getTokenFlags.run (settled a) = (flagsOf a, settled a) := rfl

lemma run_advancePinPolicy {a : TokenObject} {p : PinPolicy} (hp : policyOf a = some p)
    (so success : Bool) : ∃ bytes,
    (TokenObject.advancePinPolicy .done so success).run (settled a) =
      (some bytes, settled { a with PINPOLICY := some bytes }) ∧
    PinPolicy.getPinPolicy (some bytes) = some (p.advance so success) ∧
    byte bytes (leftIndex so) = (p.advance so success).left so := by
  obtain ⟨bytes, hadv, hget, hleft, -⟩ := advancePinPolicy_spec hp so success
  refine ⟨bytes, ?_, hget, hleft⟩
  unfold TokenObject.advancePinPolicy TokenObject.transaction
  rw [Prog.run_bind]
  simp only [Prog.run, File.transact, Transaction.done, File.reload, settled, hadv,
    Option.map_some, File.store, Bool.not_true, Bool.false_eq_true, if_false, if_true]
  rfl

/-- **The end of an attempt** that nothing disturbs: everybody is logged out where it spent the
last one. -/
lemma run_pinResult {a : TokenObject} {p : PinPolicy} (hp : policyOf a = some p)
    (hf : a.TOKENFLAGS.isSome = true) (so success : Bool) (sdm : SecureDataManager) :
    ∃ a', (pinResult .done so success sdm).run (settled a) =
        (if (p.advance so success).left so = 0 then (CKR_PIN_LOCKED, logout sdm)
          else (if success then CKR_OK else CKR_PIN_INCORRECT, sdm), settled a') ∧
      policyOf a' = some (p.advance so success) ∧ a'.TOKENFLAGS.isSome = true ∧
      a'.SOPIN = a.SOPIN ∧ a'.USERPIN = a.USERPIN := by
  obtain ⟨bytes, hadv, hget, hleft⟩ := run_advancePinPolicy hp so success
  obtain ⟨f, hf⟩ := Option.isSome_iff_exists.1 hf
  have hflags : getTokenFlags.run (settled { a with PINPOLICY := some bytes }) =
      (some (if a.USERPIN.isSome then f ||| CKF_USER_PIN_INITIALIZED else f),
        settled { a with PINPOLICY := some bytes }) := by
    have h : flagsOf { a with PINPOLICY := some bytes } =
        some (if a.USERPIN.isSome then f ||| CKF_USER_PIN_INITIALIZED else f) := by
      simp only [flagsOf, hf, Option.map_some]
    exact congrArg (·, _) h
  have hset : ∀ flags, (setTokenFlags .done flags).run (settled { a with PINPOLICY := some bytes }) =
      (true, settled { a with PINPOLICY := some bytes, TOKENFLAGS := some flags }) := fun _ => rfl
  have hrun : ∃ flags, (pinResult .done so success sdm).run (settled a) =
      (if (p.advance so success).left so = 0 then (CKR_PIN_LOCKED, logout sdm)
        else (if success then CKR_OK else CKR_PIN_INCORRECT, sdm),
        settled { a with PINPOLICY := some bytes, TOKENFLAGS := some flags }) := by
    unfold pinResult
    simp only [ResultWrites.done, Prog.run_bind, hadv, hflags, hset, hleft, Bool.not_true,
      Bool.false_eq_true, if_false]
    rw [Prog.run_ite]
    exact ⟨_, (apply_ite (·, _) _ _ _).symm⟩
  obtain ⟨flags, hrun⟩ := hrun
  exact ⟨_, hrun, hget, rfl, rfl, rfl⟩

section logins

variable {P : Primitives} {a : TokenObject} {p : PinPolicy} {m : SecureDataManager}

lemma left_advance_success {p : PinPolicy} (hp : p.Valid) (so : Bool) (h : p.left so ≠ 0) :
    (p.advance so true).left so ≠ 0 := by
  have hmax : p.max so ≠ 0 := by
    intro h0
    have hle := left_le_max hp so
    rw [h0, UInt8.le_iff_toNat_le] at hle
    exact h (UInt8.toNat_inj.1 (Nat.le_zero.1 hle))
  have hadv : (p.advance so true).left so = p.max so := by
    cases so <;> simp only [advance, h, if_false, if_true] <;> rfl
  rw [hadv]
  exact hmax

/-- A login under the right PIN that nothing disturbs. -/
lemma run_loginSO (hP : Lawful P) (hp : policyOf a = some p) (hf : a.TOKENFLAGS.isSome = true)
    (hleft : p.leftSO ≠ 0) {key pin : ByteString} (hs : Seals P key pin m.soEncryptedKey)
    (hnobody : roles m = (false, false)) (r : Draws) :
    ∃ a' m', (loginSO P r .done pin m).run (settled a) = ((CKR_OK, m'), settled a') ∧
      roles m' = (true, false) := by
  obtain ⟨hso, hu⟩ := Prod.mk.inj hnobody
  obtain ⟨a', hres, -⟩ := run_pinResult hp hf true true
    { remask r.remask key (SecureDataManager.logout m) with soLoggedIn := true }
  rw [if_neg (left_advance_success (getPinPolicy_valid hp) true hleft), if_pos rfl] at hres
  refine ⟨a', { remask r.remask key (SecureDataManager.logout m) with soLoggedIn := true }, ?_,
    rfl⟩
  unfold loginSO
  have hleft' : p.left true ≠ 0 := hleft
  simp only [hso, hu, Bool.false_eq_true, if_false, Prog.run_bind, run_pinLocked_settled, hp,
    Option.all_some, hleft', decide_false, loginSO_of_seals hP hs]
  exact hres

lemma run_loginUser (hP : Lawful P) (hp : policyOf a = some p) (hf : a.TOKENFLAGS.isSome = true)
    (hleft : p.leftUser ≠ 0) {key pin : ByteString} (hs : Seals P key pin m.userEncryptedKey)
    (hnobody : roles m = (false, false)) (r : Draws) :
    ∃ a' m', (loginUser P r .done pin m).run (settled a) = ((CKR_OK, m'), settled a') ∧
      roles m' = (false, true) := by
  obtain ⟨hso, hu⟩ := Prod.mk.inj hnobody
  obtain ⟨a', hres, -⟩ := run_pinResult hp hf false true
    { remask r.remask key (SecureDataManager.logout m) with userLoggedIn := true }
  rw [if_neg (left_advance_success (getPinPolicy_valid hp) false hleft), if_pos rfl] at hres
  refine ⟨a', { remask r.remask key (SecureDataManager.logout m) with userLoggedIn := true }, ?_,
    rfl⟩
  unfold loginUser
  have hleft' : p.left false ≠ 0 := hleft
  have hblob : m.userEncryptedKey.length ≠ 0 := Nat.ne_of_gt hs.ne_nil
  simp only [hso, hu, hblob, Bool.false_eq_true, if_false, Prog.run_bind, run_pinLocked_settled, hp,
    Option.all_some, hleft', decide_false, loginUser_of_seals hP hs]
  exact hres

end logins

/-! ### Formats -/

section formats

variable {P : Primitives} {o : File TokenObject} {m : Option SecureDataManager}

lemma roles_after_storePolicy (e : FormatEnv) (p : PinPolicy) (soPIN : ByteString) :
    Prog.After (storePolicy e p soPIN m) o fun r _ =>
      rolesOf r.2 = rolesOf m ∨ rolesOf r.2 = (false, false) := by
  unfold storePolicy
  refine Prog.After.any fun _ _ => Prog.after_ite (fun _ => .inl rfl) fun _ => ?_
  refine Prog.After.any fun _ _ => Prog.after_ite (fun _ => .inl rfl) fun _ => ?_
  exact Prog.After.any fun _ _ => .inr rfl

lemma slotRoles_createNew (e : FormatEnv) (p : PinPolicy) (soPIN label : ByteString) :
    slotRoles (createNew P e p soPIN label).2 = (false, false) := by
  unfold createNew
  split
  split
  · rfl
  split
  · rfl
  split
  split
  · rfl
  rename_i token _ _
  rcases roles_after_storePolicy (o := token) (m := none) e p soPIN with h | h
  · exact h
  · exact h

/-- `createToken` gets so far that it logs the SO in on the manager in use. -/
structure LogsSOIn (P : Primitives) (e : FormatEnv) (requested : Option ByteString)
    (soPIN : ByteString) (label : Option ByteString) (t : Token) (p : PinPolicy)
    (labelByteStr : ByteString) (a : TokenObject) (sdm : SecureDataManager) (flags : CK_FLAGS) :
    Prop where
  policy : newPolicy requested = some p
  length : ¬ (soPIN.length < p.minSOLength.toNat || soPIN.length > p.maxLength.toNat) = true
  label : label = some labelByteStr
  manager : t.sdm = some sdm
  copy : t.token.copy = some a
  unlocked : ∃ q, policyOf a = some q ∧ q.leftSO ≠ 0
  flags : flagsOf a = some flags
  blob : sdm.soEncryptedKey.length > 0
  right : (SecureDataManager.loginSO P e.verifier soPIN sdm).1 = true

/-- What `createToken` still writes once the SO is logged in, up to the new manager. -/
def formatWrites (e : FormatEnv) (p : PinPolicy) (soPIN labelByteStr : ByteString)
    (flags : CK_FLAGS) : Prog Bool := do
  let _ ← setTokenFlags e.flags (flags &&& ~~~CKF_SO_PIN_COUNT_LOW)
  if !(← resetToken e.reset labelByteStr) then return false
  if !(← setPinPolicy e.policy p) then return false
  setPinDefault e.soDefault CKU_SO (isFactoryPIN soPIN true)

/-- Where `createToken` logs the SO in, all of its writes after that go through. -/
def Completes (P : Primitives) (e : FormatEnv) (requested : Option ByteString)
    (soPIN : ByteString) (label : Option ByteString) (t : Token) : Prop :=
  ∀ p labelByteStr a sdm flags,
    LogsSOIn P e requested soPIN label t p labelByteStr a sdm flags →
    e.reset.objects = true ∧ (formatWrites e p soPIN labelByteStr flags).Undisturbed a

/-- Once its writes go through, a format ends with a new manager, on which nobody is logged
in. -/
lemma run_format {e : FormatEnv} {p : PinPolicy} {soPIN label : ByteString} {flags : CK_FLAGS}
    {a : TokenObject} (he : e.reset.objects = true)
    (hu : (formatWrites e p soPIN label flags).Undisturbed a) (m : Option SecureDataManager) :
    ∃ a₁ a₂ sdm, (setTokenFlags e.flags (flags &&& ~~~CKF_SO_PIN_COUNT_LOW)).run
        (settled a) = (true, settled a₁) ∧
      (resetToken e.reset label).run (settled a₁) = (true, settled a₂) ∧
      ((storePolicy e p soPIN m).run (settled a₂)).1 = (CKR_OK, some sdm) ∧
      roles sdm = (false, false) := by
  unfold formatWrites at hu
  rw [Prog.undisturbed_bind] at hu
  obtain ⟨h1, hu⟩ := hu
  set a₁ := ((setTokenFlags e.flags (flags &&& ~~~CKF_SO_PIN_COUNT_LOW)).eval a).2 with ha₁
  have hf : flagsOf a₁ = some (if a₁.USERPIN.isSome then
      (flags &&& ~~~CKF_SO_PIN_COUNT_LOW) ||| CKF_USER_PIN_INITIALIZED
      else flags &&& ~~~CKF_SO_PIN_COUNT_LOW) := rfl
  have hreset := eval_resetToken he hf label
  rw [Prog.undisturbed_bind, hreset] at hu
  obtain ⟨h2, hu⟩ := hu
  set a₂ := ((resetToken e.reset label).eval a₁).2 with ha₂
  simp only [Bool.not_true, Bool.false_eq_true, if_false] at hu
  have hpolicy : ∀ a, ((setPinPolicy e.policy p).eval a).1 = true := fun _ => rfl
  have hdefault : ∀ b a, ((setPinDefault e.soDefault CKU_SO b).eval a).1 = true := fun _ _ => rfl
  rw [Prog.undisturbed_bind, hpolicy] at hu
  obtain ⟨h3, h4⟩ := hu
  simp only [Bool.not_true, Bool.false_eq_true, if_false] at h4
  have hstore : ∃ a₄, (storePolicy e p soPIN m).run (settled a₂) =
      ((CKR_OK, some (create e.rebuilt (readBlobs.run (settled a₄)).1.1
        (readBlobs.run (settled a₄)).1.2)), (readBlobs.run (settled a₄)).2) := by
    refine ⟨((setPinDefault e.soDefault CKU_SO (isFactoryPIN soPIN true)).eval
      ((setPinPolicy e.policy p).eval a₂).2).2, ?_⟩
    unfold storePolicy
    rw [Prog.run_bind, Prog.run_settled h3, hpolicy]
    simp only [Bool.not_true, Bool.false_eq_true, if_false]
    rw [Prog.run_bind, Prog.run_settled h4, hdefault]
    simp only [Bool.not_true, Bool.false_eq_true, if_false]
    rw [Prog.run_bind]
    rfl
  obtain ⟨a₄, hstore⟩ := hstore
  refine ⟨a₁, a₂, _, ?_, ?_, congrArg Prod.fst hstore, rfl⟩
  · rw [Prog.run_settled h1]
    rfl
  · rw [Prog.run_settled h2, hreset]

/-- The rest of `createToken`, whoever is logged in by then. -/
lemma roles_after_finish {sdm : SecureDataManager} (e : FormatEnv) (p : PinPolicy)
    (soPIN label : ByteString) (flags : CK_FLAGS) :
    Prog.After (do
      let _ ← setTokenFlags e.flags flags
      if !(← resetToken e.reset label) then return some (CKR_DEVICE_ERROR, some sdm)
      return some (← storePolicy e p soPIN (some sdm))) o fun r _ =>
        ∀ rv m, r = some (rv, m) → rolesOf m = roles sdm ∨ rolesOf m = (false, false) := by
  refine Prog.After.any fun _ _ => Prog.After.any fun _ _ => Prog.after_ite (fun _ => ?_) fun _ => ?_
  · rintro rv m hr
    cases hr
    exact .inl rfl
  · refine Prog.After.bind (roles_after_storePolicy e p soPIN) fun r o' hr => ?_
    rintro rv m hm
    cases hm
    exact hr

/-- **A second format.** Where the writes after the login of the SO go through, `createToken`
on a token that exists logs nobody in. -/
lemma roles_after_recreate {a : TokenObject} {e : FormatEnv} {requested : Option ByteString}
    {soPIN labelByteStr : ByteString} {p : PinPolicy} (hp : newPolicy requested = some p)
    (hlen : ¬ (soPIN.length < p.minSOLength.toNat || soPIN.length > p.maxLength.toNat) = true)
    (hcomp : Completes P e requested soPIN (some labelByteStr) ⟨settled a, m⟩) :
    Prog.After (recreate P e p soPIN labelByteStr m) (settled a) fun r _ =>
      ∀ rv m', r = some (rv, m') → rolesOf m' = rolesOf m ∨ rolesOf m' = (false, false) := by
  have hsame : ∀ rv : CK_RV, ∀ rv' m', some (rv, m) = some (rv', m') →
      rolesOf m' = rolesOf m ∨ rolesOf m' = (false, false) := by
    rintro rv rv' m' h
    cases h
    exact .inl rfl
  unfold recreate
  refine Prog.After.of_run (run_pinLocked_settled true a) ?_
  refine Prog.after_ite (fun _ => hsame _) fun hlocked => ?_
  refine Prog.After.of_run (run_getTokenFlags_settled a) ?_
  rcases hf : flagsOf a with _ | flags
  · exact hsame _
  rcases m with _ | sdm
  · rintro rv m' h
    cases h
  dsimp only
  by_cases hblob : sdm.soEncryptedKey.length > 0
  · rw [if_pos hblob]
    have hroles := roles_loginSO (P := P) e.verifier soPIN sdm
    rcases hr : SecureDataManager.loginSO P e.verifier soPIN sdm with ⟨ok, sdm₁⟩
    rw [hr] at hroles
    cases ok
    · -- a wrong PIN has logged everybody out
      refine Prog.After.bind (noLogin_pinResult (noLogin_refl sdm₁) _ _ _) fun r o' hno => ?_
      rintro rv m' h
      cases h
      right
      rcases hno with hno | hno
      · exact hno.trans hroles
      · exact hno
    · have hunlocked : ∃ q, policyOf a = some q ∧ q.leftSO ≠ 0 := by
        rcases hq : policyOf a with _ | q
        · simp [hq] at hlocked
        · exact ⟨q, rfl, by simpa [hq, PinPolicy.left] using hlocked⟩
      obtain ⟨ho, hu⟩ := hcomp p labelByteStr a sdm flags
        ⟨hp, hlen, rfl, rfl, rfl, hunlocked, hf, hblob, by rw [hr]⟩
      obtain ⟨a₁, a₂, sdm₂, h1, h2, h3, h4⟩ := run_format ho hu (some sdm₁)
      simp only [Bool.not_true, Bool.false_eq_true, if_false]
      refine Prog.After.of_run h1 (Prog.After.of_run h2 ?_)
      simp only [Bool.not_true, Bool.false_eq_true, if_false]
      refine Prog.after_bind.2 ?_
      unfold Prog.After
      rw [h3]
      rintro rv m' h
      cases h
      exact .inr h4
  · rw [if_neg hblob]
    exact roles_after_finish _ _ _ _ _

/-- A token object that cannot be read counts as locked, and is not formatted. -/
lemma run_recreate_unread (hcopy : o.copy = none) (e : FormatEnv) (p : PinPolicy)
    (soPIN label : ByteString) :
    (recreate P e p soPIN label m).run o = (some (CKR_PIN_LOCKED, m), o) := by
  have hlocked : (pinLocked true).run o = (true, o) := by
    simp only [pinLocked, Prog.run_bind, TokenObject.getPinPolicy, Prog.run, hcopy,
      Option.bind_none]
    rfl
  unfold recreate
  rw [Prog.run_bind, hlocked]
  rfl

lemma calm_createToken {s s' : Option Token} {rv : CK_RV}
    (hcoh : ∀ t, s = some t → t.token.Coherent) {e : FormatEnv} {requested : Option ByteString}
    {soPIN : ByteString} {label : Option ByteString}
    (hcomp : ∀ t, s = some t → Completes P e requested soPIN label t)
    (h : createToken P e requested soPIN label s = some (rv, s')) : Calm s s' := by
  unfold createToken at h
  rcases hp : newPolicy requested with _ | p
  · rw [hp] at h
    cases h
    exact calm_refl _
  rw [hp] at h
  dsimp only at h
  split at h
  · cases h
    exact calm_refl _
  rename_i hlen
  rcases label with _ | label
  · cases h
    exact calm_refl _
  rcases s with _ | t
  · have hs : (createNew P e p soPIN label).2 = s' := congrArg Prod.snd (Option.some.inj h)
    rw [← hs]
    exact .inr (slotRoles_createNew e p soPIN label)
  obtain ⟨⟨rv', m'⟩, hr, hrm⟩ := Option.map_eq_some_iff.1 h
  cases hrm
  rcases hcopy : t.token.copy with _ | a
  · rw [run_recreate_unread hcopy] at hr
    cases hr
    exact calm_refl _
  · have hset := File.eq_settled (hcoh t rfl) hcopy
    obtain ⟨token, m⟩ := t
    obtain rfl : token = settled a := hset
    exact roles_after_recreate hp hlen (hcomp _ rfl) _ _ hr

lemma roles_after_storeParameters (e : FormatEnv) (c : CK_RUTOKEN_INIT_PARAM.Checked) :
    Prog.After (storeParameters e c m) o fun r _ =>
      rolesOf r.2 = rolesOf m ∨ rolesOf r.2 = (false, false) := by
  unfold storeParameters
  refine Prog.After.any fun _ _ => Prog.after_ite (fun _ => .inl rfl) fun _ => ?_
  refine Prog.After.any fun _ _ => Prog.after_ite (fun _ => .inl rfl) fun _ => ?_
  refine Prog.After.any fun _ _ => Prog.after_ite (fun _ => .inl rfl) fun _ => ?_
  exact Prog.After.any fun _ _ => .inr rfl

/-- The SO PIN is verified on a manager of its own: `authorise` logs nobody in. -/
lemma roles_after_authorise (e : FormatEnv) (repairMode : Bool) (soPIN : ByteString) :
    Prog.After (authorise P e repairMode soPIN m) o fun r _ =>
      rolesOf r.2 = rolesOf m ∨ rolesOf r.2 = (false, false) := by
  unfold authorise
  refine Prog.after_ite (fun _ => ?_) fun _ => ?_
  · exact Prog.After.any fun _ _ => Prog.after_ite (fun _ => .inl rfl) fun _ => .inl rfl
  rcases m with _ | sdm
  · exact .inl rfl
  refine Prog.after_ite (fun _ => .inl rfl) fun _ => ?_
  refine Prog.After.any fun _ _ => Prog.after_ite (fun _ => .inl rfl) fun _ => ?_
  refine Prog.after_ite (fun _ => ?_) fun _ => .inl rfl
  exact Prog.After.bind (noLogin_pinResult (noLogin_refl sdm) _ _ _) fun r o' hr => hr

lemma roles_after_reformat (e : FormatEnv) (soPIN : ByteString)
    (c : CK_RUTOKEN_INIT_PARAM.Checked) :
    Prog.After (reformat P e soPIN c m) o fun r _ =>
      rolesOf r.2 = rolesOf m ∨ rolesOf r.2 = (false, false) := by
  unfold reformat
  refine Prog.After.bind (roles_after_authorise e c.repairMode soPIN) fun r o₁ hr => ?_
  rcases r with ⟨_ | rv, m'⟩
  swap
  · exact hr
  dsimp only at hr ⊢
  split
  · exact hr
  refine Prog.After.any fun _ _ => Prog.after_ite (fun _ => hr) fun _ => ?_
  refine Prog.After.any fun _ _ => Prog.after_ite (fun _ => hr) fun _ => ?_
  refine Prog.After.mono (roles_after_storeParameters e c) fun r o' h => ?_
  rcases h with h | h
  · rw [h]
    exact hr
  · exact .inr h

/-- **The other format.** `initTokenExtended` logs nobody in, whatever fails on its way. -/
lemma calm_initTokenExtended (e : FormatEnv) (soPIN : ByteString)
    (c : CK_RUTOKEN_INIT_PARAM.Checked) (s : Option Token) :
    Calm s (initTokenExtended P e soPIN c s).2 := by
  rcases s with _ | t
  · right
    change slotRoles (initNew P e c).2 = (false, false)
    unfold initNew
    split
    · rfl
    split
    · rfl
    dsimp only
    split
    · rfl
    rename_i gen _ _ _
    rcases roles_after_storeParameters (m := none)
      (o := ((storePINs e gen).run ⟨some (created c.label), created c.label, true⟩).2) e c with
      h | h
    · exact h
    · exact h
  · exact roles_after_reformat e soPIN c

end formats

end Token

end SoftHSM
