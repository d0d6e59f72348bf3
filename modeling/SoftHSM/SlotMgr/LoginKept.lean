import SoftHSM.SlotMgr.LoginState

/-!
How the user's login on a token ends. Besides a logout only `pinResult` ends it, and then the
answer says so: the last attempt is spent, or a write has failed.
-/

namespace SoftHSM.Token

open RecordFile TokenObject SecureDataManager CK_RV

/-- The answers of an operation that may have logged everybody out. -/
def Revokes (rv : CK_RV) : Prop := rv = CKR_PIN_LOCKED ∨ rv = CKR_DEVICE_ERROR

instance (rv : CK_RV) : Decidable (Revokes rv) := inferInstanceAs (Decidable (_ ∨ _))

/-- The user is still logged in, if he was, or the answer is one that may have ended it. -/
def KeepsUser (sdm : SecureDataManager) (r : CK_RV × SecureDataManager) : Prop :=
  sdm.userLoggedIn = true → Revokes r.1 ∨ r.2.userLoggedIn = true

lemma keepsUser_refl (sdm : SecureDataManager) (rv : CK_RV) : KeepsUser sdm (rv, sdm) := .inr

lemma keepsUser_of_revokes {rv : CK_RV} (h : Revokes rv) (sdm sdm' : SecureDataManager) :
    KeepsUser sdm (rv, sdm') := fun _ => .inl h

/-- The managers that have the user logged in where another has. -/
def UserAlso (sdm sdm' : SecureDataManager) : Prop :=
  sdm.userLoggedIn = true → sdm'.userLoggedIn = true

lemma userAlso_of_roles {sdm sdm' : SecureDataManager} (h : roles sdm' = roles sdm) :
    UserAlso sdm sdm' := fun hu => (congrArg Prod.snd h).trans hu

section keepsUser

variable {P : Primitives} {sdm sdm' : SecureDataManager} {o : File TokenObject}

lemma keepsUser_of_also (h : UserAlso sdm sdm') (rv : CK_RV) : KeepsUser sdm (rv, sdm') :=
  fun hu => .inr (h hu)

/-- **Where the login ends**: each of the ways out that log everybody out has its answer. -/
lemma keepsUser_pinResult (h : UserAlso sdm sdm') (e : ResultWrites) (so success : Bool) :
    Prog.After (pinResult e so success sdm') o fun r _ => KeepsUser sdm r := by
  have hdevice : Revokes CKR_DEVICE_ERROR := .inr rfl
  unfold pinResult
  refine Prog.After.any fun bytes o₁ => ?_
  split
  swap
  · exact keepsUser_of_revokes hdevice _ _
  refine Prog.After.any fun flags o₂ => ?_
  split
  swap
  · exact keepsUser_of_revokes hdevice _ _
  refine Prog.After.any fun ok o₃ => ?_
  refine Prog.after_ite (fun _ => keepsUser_of_revokes hdevice _ _) fun _ => ?_
  exact Prog.after_ite (fun _ => keepsUser_of_revokes (.inl rfl) _ _) fun _ =>
    keepsUser_of_also h _

lemma keepsUser_reAuthenticate (e : ResultWrites) (pin : ByteString) :
    Prog.After (reAuthenticate P e pin sdm) o fun r _ => KeepsUser sdm r := by
  have h : ∀ so ok, Prog.After (do
      if ← pinLocked so then return (CKR_PIN_LOCKED, sdm)
      pinResult e so ok sdm) o fun r _ => KeepsUser sdm r := fun so ok =>
    Prog.After.any fun _ _ => Prog.after_ite (fun _ => keepsUser_refl _ _) fun _ =>
      keepsUser_pinResult id _ _ _
  unfold reAuthenticate
  exact Prog.after_ite (fun _ => h _ _) fun _ =>
    Prog.after_ite (fun _ => h _ _) fun _ => keepsUser_refl _ _

lemma keepsUser_setSOPIN (e : PinEnv) (oldPIN newPIN : ByteString) :
    Prog.After (setSOPIN P e oldPIN newPIN sdm) o fun r _ => KeepsUser sdm r := by
  have h := userAlso_of_roles (roles_setSOPIN (P := P) e.pbe e.draws newPIN sdm)
  unfold setSOPIN
  refine Prog.After.any fun _ _ => Prog.after_ite (fun _ => keepsUser_refl _ _) fun _ => ?_
  refine Prog.after_ite (fun _ => keepsUser_pinResult id _ _ _) fun _ => ?_
  refine Prog.after_ite (fun _ => keepsUser_of_also h _) fun _ => ?_
  refine Prog.After.any fun _ _ => Prog.after_ite (fun _ => keepsUser_of_also h _) fun _ => ?_
  refine Prog.After.any fun _ _ => Prog.after_ite (fun _ => keepsUser_of_also h _) fun _ => ?_
  exact Prog.After.any fun _ _ => keepsUser_pinResult h _ _ _

/-- The manager that `setUserPIN` puts in place of the old one. -/
lemma userAlso_newSdm {e : PinEnv} {oldPIN newPIN : ByteString} {m : SecureDataManager}
    (hok : (SecureDataManager.loginUser P e.verifier oldPIN m).1 = true) :
    let newSdm := (SecureDataManager.setUserPIN P e.pbe e.draws newPIN
      (SecureDataManager.loginUser P e.verifier oldPIN m).2).2
    UserAlso sdm (if sdm.userLoggedIn = true then newSdm else logout newSdm) := by
  intro newSdm hu
  rw [if_pos hu]
  have hroles : roles newSdm = (false, true) := by
    rw [roles_setUserPIN, roles_loginUser, hok]
  exact congrArg Prod.snd hroles

lemma keepsUser_setUserPIN (e : PinEnv) (oldPIN newPIN : ByteString) :
    Prog.After (setUserPIN P e oldPIN newPIN sdm) o fun r _ => KeepsUser sdm r := by
  unfold setUserPIN
  refine Prog.After.any fun _ _ => Prog.after_ite (fun _ => keepsUser_refl _ _) fun _ => ?_
  refine Prog.after_ite (fun _ => keepsUser_pinResult id _ _ _) fun hok => ?_
  rw [Bool.not_eq_true', Bool.not_eq_false] at hok
  have h := @userAlso_newSdm P sdm e oldPIN newPIN _ hok
  refine Prog.after_ite (fun _ => keepsUser_refl _ _) fun _ => ?_
  refine Prog.After.any fun _ _ => Prog.after_ite (fun _ => keepsUser_refl _ _) fun _ => ?_
  refine Prog.After.any fun _ _ => Prog.after_ite (fun _ => keepsUser_refl _ _) fun _ => ?_
  refine Prog.After.any fun _ _ => ?_
  refine Prog.After.bind (keepsUser_pinResult h _ _ _) fun r _ hr => ?_
  refine Prog.after_ite (fun _ => hr) fun hrv => ?_
  -- the answer of `pinResult` is `CKR_OK` from here on
  have hstill : UserAlso sdm r.2 := by
    intro hu
    rcases hr hu with hlost | hkept
    · rw [not_not.1 hrv] at hlost
      exact absurd hlost (by decide)
    · exact hkept
  exact Prog.After.any fun _ _ => Prog.after_ite (fun _ => keepsUser_of_also hstill _) fun _ =>
    keepsUser_of_also hstill _

lemma keepsUser_refillUser (h : UserAlso sdm sdm') (w w' : Write) :
    Prog.After (refillUser w w' sdm') o fun r _ => KeepsUser sdm r := by
  unfold refillUser
  refine Prog.After.any fun p _ => ?_
  split
  swap
  · exact keepsUser_of_also h _
  refine Prog.After.any fun f _ => ?_
  split
  swap
  · exact keepsUser_of_also h _
  refine Prog.After.any fun _ _ => Prog.after_ite (fun _ => keepsUser_of_also h _) fun _ => ?_
  exact Prog.After.any fun _ _ => Prog.after_ite (fun _ => keepsUser_of_also h _) fun _ =>
    keepsUser_of_also h _

lemma keepsUser_initUserPIN (e : PinEnv) (pin : ByteString) :
    Prog.After (initUserPIN P e pin sdm) o fun r _ => KeepsUser sdm r := by
  have h := userAlso_of_roles (roles_setUserPIN (P := P) e.pbe e.draws pin sdm)
  unfold initUserPIN
  refine Prog.after_ite (fun _ => keepsUser_of_also h _) fun _ => ?_
  refine Prog.After.any fun _ _ => Prog.after_ite (fun _ => keepsUser_of_also h _) fun _ => ?_
  refine Prog.After.any fun _ _ => Prog.after_ite (fun _ => keepsUser_of_also h _) fun _ => ?_
  exact Prog.After.any fun _ _ => keepsUser_refillUser h _ _

/-! ### Local PINs -/

/-- The same of a round, which may end without an answer: then nobody has been logged out. -/
def RoundKeepsUser (sdm : SecureDataManager) (r : Option CK_RV × SecureDataManager) : Prop :=
  sdm.userLoggedIn = true → (∃ rv, r.1 = some rv ∧ Revokes rv) ∨ r.2.userLoggedIn = true

lemma keepsUser_replaceLocalPIN (h : UserAlso sdm sdm') (e : LocalEnv) (id : ℕ)
    (newPIN record : ByteString) :
    Prog.After (replaceLocalPIN P e id newPIN record sdm') o fun r _ => RoundKeepsUser sdm r := by
  have hstill : ∀ rv : Option CK_RV, RoundKeepsUser sdm (rv, sdm') := fun rv hu => .inr (h hu)
  unfold replaceLocalPIN
  refine Prog.after_ite (fun _ => hstill _) fun _ => Prog.After.any fun r _ => ?_
  split <;> exact hstill _

lemma keepsUser_setLocalPINRound (h : UserAlso sdm sdm') (e : LocalEnv) (id : ℕ)
    (currentPIN newPIN : ByteString) :
    Prog.After (setLocalPINRound P e id currentPIN newPIN sdm') o
      fun r _ => RoundKeepsUser sdm r := by
  have hstill : ∀ rv : Option CK_RV, RoundKeepsUser sdm (rv, sdm') := fun rv hu => .inr (h hu)
  unfold setLocalPINRound
  refine Prog.After.any fun stored _ => ?_
  split
  swap
  · exact hstill _
  split
  · refine Prog.after_ite (fun _ => hstill _) fun _ => Prog.after_ite (fun _ => hstill _) fun _ => ?_
    refine Prog.after_ite (fun _ => Prog.After.any fun r _ => ?_) fun _ =>
      keepsUser_replaceLocalPIN h _ _ _ _
    split <;> exact hstill _
  · refine Prog.After.any fun _ _ => Prog.after_ite (fun _ => hstill _) fun _ => ?_
    refine Prog.After.any fun soBlob _ => ?_
    split
    swap
    · exact hstill _
    refine Prog.After.any fun userBlob _ => ?_
    split
    swap
    · exact hstill _
    refine Prog.After.bind (keepsUser_pinResult h _ _ _) fun r _ hr => ?_
    refine Prog.after_ite (fun _ hu => ?_) fun hrv => ?_
    · rcases hr hu with hlost | hkept
      · exact .inl ⟨r.1, rfl, hlost⟩
      · exact .inr hkept
    · refine keepsUser_replaceLocalPIN (fun hu => ?_) _ _ _ _
      rcases hr hu with hlost | hkept
      · rw [not_not.1 hrv] at hlost
        exact absurd hlost (by decide)
      · exact hkept

lemma keepsUser_setLocalPIN (e : ℕ → LocalEnv) (id : ℕ) (currentPIN newPIN : ByteString) :
    Prog.After (setLocalPIN P e id currentPIN newPIN sdm) o fun r _ => KeepsUser sdm r := by
  have hrounds : ∀ (es : List LocalEnv) (sdm' : SecureDataManager) (o : File TokenObject),
      UserAlso sdm sdm' → Prog.After (setLocalPINRounds P id currentPIN newPIN es sdm') o
        fun r _ => KeepsUser sdm r := by
    intro es
    induction es with
    | nil => exact fun sdm' o h => keepsUser_of_also h _
    | cons e es ih =>
      intro sdm' o h
      refine Prog.After.bind (keepsUser_setLocalPINRound h _ _ _ _) fun r o' hr => ?_
      rcases r with ⟨_ | rv, sdm₂⟩
      · refine ih _ _ fun hu => ?_
        rcases hr hu with ⟨rv, hrv, -⟩ | hkept
        · cases hrv
        · exact hkept
      · intro hu
        rcases hr hu with ⟨rv', hrv, hlost⟩ | hkept
        · exact .inl (Option.some.inj hrv ▸ hlost)
        · exact .inr hkept
  unfold setLocalPIN
  refine Prog.After.any fun p _ => ?_
  split
  · exact Prog.after_ite (fun _ => keepsUser_refl _ _) fun _ => hrounds _ _ _ fun hu => hu
  · exact keepsUser_refl _ _

/-- A login of whomever leaves alone the user who is logged in. -/
lemma keepsUser_loginSO (r : Draws) (e : ResultWrites) (pin : ByteString) :
    Prog.After (loginSO P r e pin sdm) o fun r _ => KeepsUser sdm r := by
  refine Prog.After.mono (roles_after_loginSO r e pin) fun r o' hr hu => .inr ?_
  rcases hr with hsame | ⟨hnone, -⟩
  · exact userAlso_of_roles hsame hu
  · exact absurd hu (by rw [show sdm.userLoggedIn = false from congrArg Prod.snd hnone]; decide)

lemma keepsUser_loginUser (r : Draws) (e : ResultWrites) (pin : ByteString) :
    Prog.After (loginUser P r e pin sdm) o fun r _ => KeepsUser sdm r := by
  refine Prog.After.mono (roles_after_loginUser r e pin) fun r o' hr hu => .inr ?_
  rcases hr with hsame | ⟨hnone, -⟩
  · exact userAlso_of_roles hsame hu
  · exact absurd hu (by rw [show sdm.userLoggedIn = false from congrArg Prod.snd hnone]; decide)

/-- **Only a logout and the answer of `pinResult`** end the user's login. -/
lemma keepsUser_request {q : Request} (hq : q ≠ .logout) :
    Prog.After (q.prog P sdm) o fun r _ => KeepsUser sdm r := by
  cases q with
  | loginSO r e pin => exact keepsUser_loginSO r e pin
  | loginUser r e pin => exact keepsUser_loginUser r e pin
  | reAuthenticate e pin => exact keepsUser_reAuthenticate e pin
  | logout => exact absurd rfl hq
  | setSOPIN e oldPIN newPIN => exact keepsUser_setSOPIN e oldPIN newPIN
  | setUserPIN e oldPIN newPIN => exact keepsUser_setUserPIN e oldPIN newPIN
  | initUserPIN e pin => exact keepsUser_initUserPIN e pin
  | unblockUserPIN w w' =>
    exact Prog.after_ite (fun _ => keepsUser_refl _ _) fun _ => keepsUser_refillUser id _ _
  | setLocalPIN e id currentPIN newPIN => exact keepsUser_setLocalPIN e id currentPIN newPIN

end keepsUser

/-- The same on a slot. -/
lemma user_kept_call {P : Primitives} {s s' : Option Token} {rv : CK_RV} {q : Request}
    (hq : q ≠ .logout) (h : call q.null (q.prog P) s = (rv, s')) (hrv : ¬ Revokes rv)
    (hu : isUserLoggedIn s = true) : isUserLoggedIn s' = true := by
  rcases call_cases h with ⟨rfl, -⟩ | ⟨token, sdm, rfl, hr, rfl⟩
  · exact hu
  · rcases @keepsUser_request P sdm token q hq hu with hlost | hkept
    · exact absurd (hr ▸ hlost) hrv
    · exact hkept

end SoftHSM.Token
