import SoftHSM.SlotMgr.Token

/-!
What the operations of a token do to the stored PIN policy. An operation leaves it, or makes
attempts of it, or gives the user's attempts back, or stores a policy that was checked; so
whatever lasts under attempts is kept, and the record stays one that `getPinPolicy` accepts.
-/

namespace SoftHSM.Token

open RecordFile TokenObject SecureDataManager PinPolicy CK_RV

/-! ### What a program does to the policy -/

/-- What the stored record reads as. -/
def policyOf (a : TokenObject) : Option PinPolicy := PinPolicy.getPinPolicy a.PINPOLICY

abbrev Reads (p : PinPolicy) : File TokenObject → Prop := File.Shows policyOf (some p)

/-- The stored record reads as a policy of which `Φ` holds. -/
def Holds (Φ : PinPolicy → Prop) (o : File TokenObject) : Prop := ∃ p, Φ p ∧ Reads p o

/-- An attempt does not change that `Φ` holds. -/
def Lasting (Φ : PinPolicy → Prop) : Prop := ∀ p so success, Φ p → Φ (p.advance so success)

section keeps

variable {Φ : PinPolicy → Prop} {α : Type}

lemma keeps_of_leaves {prog : Prog α} (h : prog.Leaves policyOf) :
    Prog.Keeps (Holds Φ) prog := fun _ ⟨p, hp, hr⟩ => ⟨p, hp, h.run hr⟩

lemma holds_getPinPolicy {o : File TokenObject} (h : Holds Φ o) {q : PinPolicy}
    (hq : (getPinPolicy.run o).1 = some q) : Φ q ∧ q.Valid := by
  obtain ⟨p, hp, hr⟩ := h
  obtain ⟨a, ha, hpol⟩ := Option.bind_eq_some_iff.1 hq
  have hpa := hr.copy ha
  rw [show policyOf a = some q from hpol, Option.some.injEq] at hpa
  exact ⟨hpa ▸ hp, getPinPolicy_valid hpol⟩

lemma keeps_setPinPolicy {q : PinPolicy} (hq : q.Valid) (hΦ : Φ q) (w : Write) :
    Prog.Keeps (Holds Φ) (setPinPolicy w q) := by
  rintro o ⟨p, hp, hr⟩
  obtain ⟨hc, ⟨-, hd⟩ | ⟨-, hd⟩ | ⟨-, a, -, hd⟩⟩ := File.setAttribute_cases hr.coherent w
    fun a : TokenObject => { a with PINPOLICY := some (PinPolicy.setPinPolicy q) }
  · exact ⟨p, hp, hc, fun b hb => hr.shows b (hd.symm.trans hb)⟩
  · exact ⟨p, hp, hc, fun b hb => nomatch hd.symm.trans hb⟩
  · refine ⟨q, hΦ, hc, fun b hb => ?_⟩
    rw [← Option.some.inj (hd.symm.trans hb)]
    exact getPinPolicy_setPinPolicy hq

lemma keeps_advancePinPolicy (hl : Lasting Φ) (w : Transaction) (so success : Bool) :
    Prog.Keeps (Holds Φ) (advancePinPolicy w so success) := by
  rintro o ⟨p, hp, hr⟩
  unfold TokenObject.advancePinPolicy transaction
  rw [Prog.run_bind]
  suffices h : Holds Φ (o.transact w fun a =>
      (PinPolicy.advancePinPolicy so success a.PINPOLICY).map fun policy =>
        { a with PINPOLICY := some policy }).2 by
    simp only [Prog.run]
    split <;> exact h
  obtain ⟨hc, ⟨-, hd⟩ | ⟨-, hd⟩ | ⟨-, hd, -⟩ | ⟨a, a', ha, hf, -, hd⟩⟩ :=
    File.transact_cases hr.coherent w fun a =>
      (PinPolicy.advancePinPolicy so success a.PINPOLICY).map fun policy =>
        { a with PINPOLICY := some policy }
  · exact ⟨p, hp, hc, fun b hb => hr.shows b (hd ▸ hb)⟩
  · exact ⟨p, hp, hc, fun b hb => by rw [hd] at hb; cases hb⟩
  · exact ⟨p, hp, hc, fun b hb => hr.shows b (hd ▸ hb)⟩
  · obtain ⟨bytes, hbytes, rfl⟩ := Option.map_eq_some_iff.1 hf
    obtain ⟨bytes', hadv, hget, -⟩ := advancePinPolicy_spec (hr.shows a ha) so success
    rw [hbytes, Option.some.injEq] at hadv
    subst hadv
    refine ⟨_, hl p so success hp, hc, fun b hb => ?_⟩
    rw [hd, Option.some.injEq] at hb
    rw [← hb]
    exact hget

lemma keeps_pinLocked (so : Bool) : Prog.Keeps (Holds Φ) (pinLocked so) := by
  unfold pinLocked
  refine (keeps_of_leaves leaves_getPinPolicy).bind fun r => ?_
  split <;> exact Prog.keeps_pure _

lemma keeps_readBlobs : Prog.Keeps (Holds Φ) readBlobs := by
  unfold readBlobs
  refine (keeps_of_leaves leaves_getSOPIN).bind fun r => ?_
  split
  · exact (keeps_of_leaves leaves_getUserPIN).bind fun _ => Prog.keeps_pure _
  · exact Prog.keeps_pure _

/-- **An attempt.** Whatever comes of it, the record holds a policy with or without that
attempt. -/
lemma keeps_pinResult (hl : Lasting Φ) (e : ResultWrites) (so success : Bool)
    (sdm : SecureDataManager) : Prog.Keeps (Holds Φ) (pinResult e so success sdm) := by
  unfold pinResult
  refine (keeps_advancePinPolicy hl _ _ _).bind fun bytes => ?_
  split
  swap
  · exact Prog.keeps_pure _
  refine (keeps_of_leaves leaves_getTokenFlags).bind fun flags => ?_
  split
  swap
  · exact Prog.keeps_pure _
  refine (keeps_of_leaves (leaves_setTokenFlags (fun _ _ => rfl) _ _)).bind fun ok => ?_
  exact .ite (Prog.keeps_pure _) (.ite (Prog.keeps_pure _) (Prog.keeps_pure _))

lemma keeps_setPinDefault (w : Transaction) (id : ℕ) (isDefault : Bool) :
    Prog.Keeps (Holds Φ) (setPinDefault w id isDefault) :=
  keeps_of_leaves (leaves_setPinDefault (fun _ _ => rfl) w id isDefault)

lemma keeps_storeSOPIN (w w' : Write) (blob : ByteString) :
    Prog.Keeps (Holds Φ) (TokenObject.setSOPIN w w' blob) :=
  keeps_of_leaves (leaves_setSOPIN (fun _ _ => rfl) (fun _ _ => rfl) w w' blob)

lemma keeps_storeUserPIN (w w' : Write) (blob : ByteString) :
    Prog.Keeps (Holds Φ) (TokenObject.setUserPIN w w' blob) :=
  keeps_of_leaves (leaves_setUserPIN (fun _ _ => rfl) (fun _ _ => rfl) w w' blob)

lemma keeps_resetToken (e : ResetWrites) (label : ByteString) :
    Prog.Keeps (Holds Φ) (resetToken e label) :=
  keeps_of_leaves (leaves_resetToken (fun _ _ _ _ _ _ _ _ => rfl) e label)

lemma keeps_updateLocalPIN (w : Transaction) (id : ℕ) (expected replacement : ByteString)
    (isDefault : Option Bool) :
    Prog.Keeps (Holds Φ) (updateLocalPIN w id expected replacement isDefault) :=
  keeps_of_leaves (leaves_updateLocalPIN (fun _ _ _ => rfl) _ _ _ _ _)

end keeps

/-! ### The operations -/

/-- The requests that give the user's attempts back. -/
def Request.refills : Request → Bool
  | .initUserPIN _ _ => true
  | .unblockUserPIN _ _ => true
  | _ => false

section operations

variable {Φ : PinPolicy → Prop} {P : Primitives}

lemma keeps_loginSO (hl : Lasting Φ) (r : Draws) (e : ResultWrites) (pin : ByteString)
    (sdm : SecureDataManager) : Prog.Keeps (Holds Φ) (loginSO P r e pin sdm) := by
  unfold loginSO
  refine .ite (Prog.keeps_pure _) (.ite (Prog.keeps_pure _) ?_)
  exact (keeps_pinLocked _).bind fun b => .ite (Prog.keeps_pure _) (keeps_pinResult hl _ _ _ _)

lemma keeps_loginUser (hl : Lasting Φ) (r : Draws) (e : ResultWrites) (pin : ByteString)
    (sdm : SecureDataManager) : Prog.Keeps (Holds Φ) (loginUser P r e pin sdm) := by
  unfold loginUser
  refine .ite (Prog.keeps_pure _) (.ite (Prog.keeps_pure _) (.ite (Prog.keeps_pure _) ?_))
  exact (keeps_pinLocked _).bind fun b => .ite (Prog.keeps_pure _) (keeps_pinResult hl _ _ _ _)

lemma keeps_reAuthenticate (hl : Lasting Φ) (e : ResultWrites) (pin : ByteString)
    (sdm : SecureDataManager) : Prog.Keeps (Holds Φ) (reAuthenticate P e pin sdm) := by
  unfold reAuthenticate
  have h : ∀ so ok, Prog.Keeps (Holds Φ) (do
      if ← pinLocked so then return (CKR_PIN_LOCKED, sdm)
      pinResult e so ok sdm) := fun so ok =>
    (keeps_pinLocked _).bind fun b => .ite (Prog.keeps_pure _) (keeps_pinResult hl _ _ _ _)
  exact .ite (h _ _) (.ite (h _ _) (Prog.keeps_pure _))

lemma keeps_setSOPIN (hl : Lasting Φ) (e : PinEnv) (oldPIN newPIN : ByteString)
    (sdm : SecureDataManager) : Prog.Keeps (Holds Φ) (setSOPIN P e oldPIN newPIN sdm) := by
  unfold setSOPIN
  refine (keeps_pinLocked _).bind fun b => .ite (Prog.keeps_pure _) ?_
  refine .ite (keeps_pinResult hl _ _ _ _) (.ite (Prog.keeps_pure _) ?_)
  refine (keeps_storeSOPIN _ _ _).bind fun ok => .ite (Prog.keeps_pure _) ?_
  refine (keeps_setPinDefault _ _ _).bind fun ok => .ite (Prog.keeps_pure _) ?_
  exact keeps_readBlobs.bind fun _ => keeps_pinResult hl _ _ _ _

lemma keeps_setUserPIN (hl : Lasting Φ) (e : PinEnv) (oldPIN newPIN : ByteString)
    (sdm : SecureDataManager) : Prog.Keeps (Holds Φ) (setUserPIN P e oldPIN newPIN sdm) := by
  unfold setUserPIN
  refine (keeps_pinLocked _).bind fun b => .ite (Prog.keeps_pure _) ?_
  refine .ite (keeps_pinResult hl _ _ _ _) (.ite (Prog.keeps_pure _) ?_)
  refine (keeps_storeUserPIN _ _ _).bind fun ok => .ite (Prog.keeps_pure _) ?_
  refine (keeps_setPinDefault _ _ _).bind fun ok => .ite (Prog.keeps_pure _) ?_
  refine keeps_readBlobs.bind fun _ => (keeps_pinResult hl _ _ _ _).bind fun r => ?_
  refine .ite (Prog.keeps_pure _) ?_
  refine (keeps_of_leaves (leaves_setUserPinExpired (fun _ _ => rfl) _ _)).bind fun ok => ?_
  exact .ite (Prog.keeps_pure _) (Prog.keeps_pure _)

/-- Giving the user's attempts back keeps what does not depend on them. -/
lemma keeps_refillUser (hu : ∀ p, Φ p → Φ { p with leftUser := p.maxUser }) (w w' : Write)
    (sdm : SecureDataManager) : Prog.Keeps (Holds Φ) (refillUser w w' sdm) := by
  unfold refillUser
  refine (keeps_of_leaves leaves_getPinPolicy).bind_of (Q := fun r => ∀ q, r = some q → Φ q ∧ q.Valid)
    (fun o ho q hq => holds_getPinPolicy ho hq) fun r hr => ?_
  split
  swap
  · exact Prog.keeps_pure _
  rename_i q
  obtain ⟨hq, hv⟩ := hr q rfl
  have hv' : PinPolicy.Valid { q with leftUser := q.maxUser } :=
    @valid_setLeft _ hv false _ (UInt8.le_refl _)
  refine (keeps_of_leaves leaves_getTokenFlags).bind fun flags => ?_
  split
  swap
  · exact Prog.keeps_pure _
  refine (keeps_setPinPolicy hv' (hu q hq) _).bind fun ok => .ite (Prog.keeps_pure _) ?_
  refine (keeps_of_leaves (leaves_setTokenFlags (fun _ _ => rfl) _ _)).bind fun ok => ?_
  exact .ite (Prog.keeps_pure _) (Prog.keeps_pure _)

lemma keeps_initUserPIN (hu : ∀ p, Φ p → Φ { p with leftUser := p.maxUser }) (e : PinEnv)
    (pin : ByteString) (sdm : SecureDataManager) :
    Prog.Keeps (Holds Φ) (initUserPIN P e pin sdm) := by
  unfold initUserPIN
  refine .ite (Prog.keeps_pure _) ?_
  refine (keeps_storeUserPIN _ _ _).bind fun ok => .ite (Prog.keeps_pure _) ?_
  refine (keeps_setPinDefault _ _ _).bind fun ok => .ite (Prog.keeps_pure _) ?_
  exact keeps_readBlobs.bind fun _ => keeps_refillUser hu _ _ _

lemma keeps_unblockUserPIN (hu : ∀ p, Φ p → Φ { p with leftUser := p.maxUser }) (w w' : Write)
    (sdm : SecureDataManager) : Prog.Keeps (Holds Φ) (unblockUserPIN w w' sdm) :=
  .ite (Prog.keeps_pure _) (keeps_refillUser hu _ _ _)

lemma keeps_replaceLocalPIN (e : LocalEnv) (id : ℕ) (newPIN record : ByteString)
    (sdm : SecureDataManager) :
    Prog.Keeps (Holds Φ) (replaceLocalPIN P e id newPIN record sdm) := by
  unfold replaceLocalPIN
  refine .ite (Prog.keeps_pure _) ((keeps_updateLocalPIN _ _ _ _ _).bind fun r => ?_)
  split <;> exact Prog.keeps_pure _

lemma keeps_setLocalPINRound (hl : Lasting Φ) (e : LocalEnv) (id : ℕ)
    (currentPIN newPIN : ByteString) (sdm : SecureDataManager) :
    Prog.Keeps (Holds Φ) (setLocalPINRound P e id currentPIN newPIN sdm) := by
  unfold setLocalPINRound
  refine (keeps_of_leaves (leaves_getLocalPIN id)).bind fun stored => ?_
  split
  swap
  · exact Prog.keeps_pure _
  split
  · refine .ite (Prog.keeps_pure _) (.ite (Prog.keeps_pure _) (.ite ?_ ?_))
    · refine (keeps_updateLocalPIN _ _ _ _ _).bind fun r => ?_
      split <;> exact Prog.keeps_pure _
    · exact keeps_replaceLocalPIN _ _ _ _ _
  · refine (keeps_pinLocked _).bind fun b => .ite (Prog.keeps_pure _) ?_
    refine (keeps_of_leaves leaves_getSOPIN).bind fun soBlob => ?_
    split
    swap
    · exact Prog.keeps_pure _
    refine (keeps_of_leaves leaves_getUserPIN).bind fun userBlob => ?_
    split
    swap
    · exact Prog.keeps_pure _
    refine (keeps_pinResult hl _ _ _ _).bind fun r => .ite (Prog.keeps_pure _) ?_
    exact keeps_replaceLocalPIN _ _ _ _ _

lemma keeps_setLocalPIN (hl : Lasting Φ) (e : ℕ → LocalEnv) (id : ℕ)
    (currentPIN newPIN : ByteString) (sdm : SecureDataManager) :
    Prog.Keeps (Holds Φ) (setLocalPIN P e id currentPIN newPIN sdm) := by
  have hrounds : ∀ (es : List LocalEnv) (sdm : SecureDataManager),
      Prog.Keeps (Holds Φ) (setLocalPINRounds P id currentPIN newPIN es sdm) := by
    intro es
    induction es with
    | nil => exact fun _ => Prog.keeps_pure _
    | cons e es ih =>
      intro sdm
      refine (keeps_setLocalPINRound hl _ _ _ _ _).bind fun r => ?_
      split
      · exact Prog.keeps_pure _
      · exact ih _
  unfold setLocalPIN
  refine (keeps_of_leaves leaves_getPinPolicy).bind fun r => ?_
  split
  · exact .ite (Prog.keeps_pure _) (hrounds _ _)
  · exact Prog.keeps_pure _

lemma keeps_request (hl : Lasting Φ) {q : Request}
    (hu : q.refills = true → ∀ p, Φ p → Φ { p with leftUser := p.maxUser })
    (sdm : SecureDataManager) : Prog.Keeps (Holds Φ) (q.prog P sdm) := by
  cases q with
  | loginSO r e pin => exact keeps_loginSO hl r e pin sdm
  | loginUser r e pin => exact keeps_loginUser hl r e pin sdm
  | reAuthenticate e pin => exact keeps_reAuthenticate hl e pin sdm
  | logout => exact Prog.keeps_pure _
  | setSOPIN e oldPIN newPIN => exact keeps_setSOPIN hl e oldPIN newPIN sdm
  | setUserPIN e oldPIN newPIN => exact keeps_setUserPIN hl e oldPIN newPIN sdm
  | initUserPIN e pin => exact keeps_initUserPIN (hu rfl) e pin sdm
  | unblockUserPIN w w' => exact keeps_unblockUserPIN (hu rfl) w w' sdm
  | setLocalPIN e id currentPIN newPIN => exact keeps_setLocalPIN hl e id currentPIN newPIN sdm

end operations

/-! ### Formats -/

section formats

variable {P : Primitives}

/-- The stored record is one that `getPinPolicy` accepts. -/
abbrev Sound : File TokenObject → Prop := Holds fun _ => True

lemma sound_created (label : ByteString) :
    Sound ⟨some (created label), created label, true⟩ := by
  refine ⟨{}, trivial, fun _ => rfl, fun a ha => ?_⟩
  rw [← Option.some.inj ha]
  rfl

lemma keeps_storePolicy {p : PinPolicy} (hp : p.Valid) (e : FormatEnv) (soPIN : ByteString)
    (sdm : Option SecureDataManager) : Prog.Keeps Sound (storePolicy e p soPIN sdm) := by
  unfold storePolicy
  refine (keeps_setPinPolicy hp trivial _).bind fun ok => .ite (Prog.keeps_pure _) ?_
  refine (keeps_setPinDefault _ _ _).bind fun ok => .ite (Prog.keeps_pure _) ?_
  exact keeps_readBlobs.bind fun _ => Prog.keeps_pure _

lemma keeps_recreate {p : PinPolicy} (hp : p.Valid) (e : FormatEnv) (soPIN label : ByteString)
    (sdm : Option SecureDataManager) : Prog.Keeps Sound (recreate P e p soPIN label sdm) := by
  unfold recreate
  refine (keeps_pinLocked _).bind fun b => .ite (Prog.keeps_pure _) ?_
  refine (keeps_of_leaves leaves_getTokenFlags).bind fun flags => ?_
  split
  swap
  · exact Prog.keeps_pure _
  split
  · exact Prog.keeps_pure _
  split
  refine .ite ?_ ?_
  · exact (keeps_pinResult (fun _ _ _ _ => trivial) _ _ _ _).bind fun _ => Prog.keeps_pure _
  refine (keeps_of_leaves (leaves_setTokenFlags (fun _ _ => rfl) _ _)).bind fun _ => ?_
  refine (keeps_resetToken _ _).bind fun ok => .ite (Prog.keeps_pure _) ?_
  exact (keeps_storePolicy hp e soPIN _).bind fun _ => Prog.keeps_pure _

lemma keeps_authorise (e : FormatEnv) (repairMode : Bool) (soPIN : ByteString)
    (sdm : Option SecureDataManager) :
    Prog.Keeps Sound (authorise P e repairMode soPIN sdm) := by
  unfold authorise
  refine .ite ?_ ?_
  · exact (keeps_pinLocked _).bind fun b => .ite (Prog.keeps_pure _) (Prog.keeps_pure _)
  split
  · exact Prog.keeps_pure _
  refine .ite (Prog.keeps_pure _) ?_
  refine (keeps_pinLocked _).bind fun b => .ite (Prog.keeps_pure _) (.ite ?_ (Prog.keeps_pure _))
  exact (keeps_pinResult (fun _ _ _ _ => trivial) _ _ _ _).bind fun _ => Prog.keeps_pure _

lemma keeps_storePINs (e : FormatEnv) (gen : SecureDataManager) :
    Prog.Keeps Sound (storePINs e gen) := by
  unfold storePINs
  exact (keeps_storeSOPIN _ _ _).bind fun ok => .ite (Prog.keeps_pure _) (keeps_storeUserPIN _ _ _)

lemma keeps_storeParameters (e : FormatEnv) {c : CK_RUTOKEN_INIT_PARAM.Checked}
    (hc : c.policy.Valid) (sdm : Option SecureDataManager) :
    Prog.Keeps Sound (storeParameters e c sdm) := by
  unfold storeParameters
  refine (keeps_setPinPolicy hc trivial _).bind fun ok => .ite (Prog.keeps_pure _) ?_
  refine (keeps_setPinDefault _ _ _).bind fun ok => .ite (Prog.keeps_pure _) ?_
  refine (keeps_setPinDefault _ _ _).bind fun ok => .ite (Prog.keeps_pure _) ?_
  exact keeps_readBlobs.bind fun _ => Prog.keeps_pure _

lemma keeps_reformat (e : FormatEnv) (soPIN : ByteString) {c : CK_RUTOKEN_INIT_PARAM.Checked}
    (hc : c.policy.Valid) (sdm : Option SecureDataManager) :
    Prog.Keeps Sound (reformat P e soPIN c sdm) := by
  unfold reformat
  refine (keeps_authorise _ _ _ _).bind fun r => ?_
  split
  · exact Prog.keeps_pure _
  split
  · exact Prog.keeps_pure _
  refine (keeps_resetToken _ _).bind fun ok => .ite (Prog.keeps_pure _) ?_
  refine (keeps_storePINs _ _).bind fun ok => .ite (Prog.keeps_pure _) ?_
  exact keeps_storeParameters _ hc _

end formats

/-! ### Requests on a slot -/

section call

variable {null rv : CK_RV} {op : SecureDataManager → Prog (CK_RV × SecureDataManager)}
  {s s' : Option Token}

/-- What a request does to the slot. -/
lemma call_of_run {token token' : File TokenObject} {sdm sdm' : SecureDataManager}
    (h : (op sdm).run token = ((rv, sdm'), token')) :
    call null op (some ⟨token, some sdm⟩) = (rv, some ⟨token', some sdm'⟩) :=
  congrArg (fun r => (r.1.1, some (⟨r.2, some r.1.2⟩ : Token))) h

lemma call_cases (h : call null op s = (rv, s')) :
    (s' = s ∧ rv = null ∧ ∀ t, s = some t → t.sdm = none) ∨
    ∃ token sdm, s = some ⟨token, some sdm⟩ ∧ rv = ((op sdm).run token).1.1 ∧
      s' = some ⟨((op sdm).run token).2, some ((op sdm).run token).1.2⟩ := by
  rcases s with _ | ⟨token, _ | sdm⟩
  · cases h
    exact .inl ⟨rfl, rfl, fun t ht => nomatch ht⟩
  · cases h
    exact .inl ⟨rfl, rfl, fun t ht => by rw [← Option.some.inj ht]⟩
  · cases h
    exact .inr ⟨token, sdm, rfl, rfl, rfl⟩

end call

end SoftHSM.Token
