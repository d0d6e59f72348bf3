import SoftHSM.Lib.Transition
import SoftHSM.SlotMgr.PolicySteps

/-!
The PIN policy over whole runs of a token that one process uses. The stored record is at all
times one that `getPinPolicy` accepts, and a role without attempts left stays so, with every
PIN refused, until its attempts are given back.
-/

namespace SoftHSM.Token

open RecordFile TokenObject SecureDataManager PinPolicy CK_RV Transition
open RecordFile.File (settled)

inductive Op
  | request (q : Request)
  | createToken (e : FormatEnv) (requested : Option ByteString) (soPIN : ByteString)
      (label : Option ByteString)
  /-- `initTokenExtended`, with the parameters that `C_EX_InitToken` checks first -/
  | initTokenExtended (e : FormatEnv) (soPIN : ByteString) (pInitInfo : CK_RUTOKEN_INIT_PARAM)

variable (P : Primitives)

/-- One operation on the slot: nothing where the process does not survive it. -/
def exec (s : Option Token) : Op → Option (CK_RV × Option Token)
  | .request q => some (call q.null (q.prog P) s)
  | .createToken e requested soPIN label => createToken P e requested soPIN label s
  | .initTokenExtended e soPIN pInitInfo =>
    match pInitInfo.check with
    | none => some (CKR_ARGUMENTS_BAD, s)
    | some c => some (initTokenExtended P e soPIN c s)

/-- An operation and its answer. -/
def Step (s : Option Token) (l : Op × CK_RV) (s' : Option Token) : Prop :=
  exec P s l.1 = some (l.2, s')

/-- The manager has a blob of the SO. -/
def hasSOPIN : Option Token → Bool
  | some ⟨_, some sdm⟩ => sdm.soEncryptedKey.length > 0
  | _ => false

/-- The operations that may give a role its attempts back: for the user `initUserPIN`,
`unblockUserPIN` and the formats, for the SO `initTokenExtended` in repair mode or on a token
without SO PIN. -/
def refills (so : Bool) (s : Option Token) : Op → Bool
  | .request q => !so && q.refills
  | .createToken _ _ _ _ => !so
  | .initTokenExtended _ _ pInitInfo => !so || pInitInfo.UseRepairMode != 0 || !hasSOPIN s

/-- The role whose PIN a request presents. The first local PIN is set with the user PIN. -/
def Request.presents (token : File TokenObject) (sdm : SecureDataManager) : Request → Option Bool
  | .loginSO _ _ _ => some true
  | .loginUser _ _ _ => some false
  | .reAuthenticate _ _ =>
    if sdm.soLoggedIn then some true else if sdm.userLoggedIn then some false else none
  | .setSOPIN _ _ _ => some true
  | .setUserPIN _ _ _ => some false
  | .setLocalPIN _ id _ _ =>
    match token.copy with
    | none => none
    | some a => if (a.LOCALPIN id).isSome then none else some false
  | _ => none

def presents (s : Option Token) : Op → Option Bool
  | .request q =>
    match s with
    | some ⟨token, some sdm⟩ => q.presents token sdm
    | _ => none
  | .createToken _ _ _ _ => if hasSOPIN s then some true else none
  | .initTokenExtended _ _ pInitInfo =>
    if pInitInfo.UseRepairMode = 0 && hasSOPIN s then some true else none

/-- The role has no attempts left. -/
def Spent (so : Bool) : File TokenObject → Prop := Holds fun p => p.left so = 0

/-- A step that does not give the role its attempts back. -/
def Unfilled (so : Bool) (s : Option Token) (l : Op × CK_RV) (s' : Option Token) : Prop :=
  Step P s l s' ∧ refills so s l.1 = false

variable {P}

lemma lasting_spent (so : Bool) : Lasting fun p => p.left so = 0 := by
  intro p so' success h
  unfold advance
  split
  · exact h
  rename_i h0
  have hne : so' ≠ so := fun he => h0 (he ▸ h)
  cases so <;> cases so'
  · exact absurd rfl hne
  · split <;> exact h
  · split <;> exact h
  · exact absurd rfl hne

/-- A role without attempts left is locked. -/
lemma run_pinLocked {so : Bool} {o : File TokenObject} (h : Spent so o) :
    (pinLocked so).run o = (true, o) := by
  obtain ⟨p, hp, hr⟩ := h
  unfold pinLocked
  rw [Prog.run_bind]
  rcases hc : o.copy with _ | a
  · simp only [TokenObject.getPinPolicy, Prog.run, hc, Option.bind_none]
    rfl
  · have hpol : PinPolicy.getPinPolicy a.PINPOLICY = some p := hr.copy hc
    simp only [TokenObject.getPinPolicy, Prog.run, hc, Option.bind_some, hpol]
    simp [Prog.run_pure, hp]

/-- The answer is a refusal, and nothing was changed. -/
def Refused (r : (CK_RV × SecureDataManager) × File TokenObject) (sdm : SecureDataManager)
    (token : File TokenObject) : Prop := r.1.1 ≠ CKR_OK ∧ r.1.2 = sdm ∧ r.2 = token

lemma refused_pure {rv : CK_RV} (h : rv ≠ CKR_OK) (sdm : SecureDataManager)
    (token : File TokenObject) :
    Refused ((pure (rv, sdm) : Prog (CK_RV × SecureDataManager)).run token) sdm token :=
  ⟨h, rfl, rfl⟩

/-- The check that every presentation of a PIN comes after. -/
lemma refused_locked {so : Bool} {token : File TokenObject} (h : Spent so token)
    (sdm : SecureDataManager) (k : Prog (CK_RV × SecureDataManager)) :
    Refused (Prog.run (do
      if ← pinLocked so then return (CKR_PIN_LOCKED, sdm)
      k) token) sdm token := by
  rw [Prog.run_bind, run_pinLocked h]
  exact refused_pure (by decide) sdm token

lemma refused_setLocalPIN {token : File TokenObject} (h : Spent false token) {id : ℕ}
    {a : TokenObject} (ha : token.copy = some a) (hid : a.LOCALPIN id = none) (e : ℕ → LocalEnv)
    (currentPIN newPIN : ByteString) (sdm : SecureDataManager) :
    Refused ((setLocalPIN P e id currentPIN newPIN sdm).run token) sdm token := by
  have hget : (getLocalPIN id).run token = (some none, token) := by
    simp only [getLocalPIN, Prog.run, ha, Option.map_some, hid]
  -- the first round meets the lock
  have hround : ∀ e, (setLocalPINRound P e id currentPIN newPIN sdm).run token =
      ((some CKR_PIN_LOCKED, sdm), token) := by
    intro e
    unfold setLocalPINRound
    rw [Prog.run_bind, hget]
    dsimp only
    rw [Prog.run_bind, run_pinLocked h]
    rfl
  have hsame : (TokenObject.getPinPolicy.run token).2 = token := rfl
  unfold setLocalPIN
  rw [Prog.run_bind, hsame]
  split
  swap
  · exact refused_pure (by decide) sdm token
  split
  · exact refused_pure (by decide) sdm token
  have h16 : (List.range 16).map e = e 0 :: ((List.range 15).map fun i => e (i + 1)) := rfl
  rw [h16, setLocalPINRounds, Prog.run_bind, hround]
  exact refused_pure (by decide) sdm token

/-- **A spent role is refused.** Whatever PIN of the role is presented, it is not accepted, and
the call changes nothing. -/
lemma refused_request {so : Bool} {token : File TokenObject} {sdm : SecureDataManager}
    (h : Spent so token) {q : Request} (hq : q.presents token sdm = some so) :
    Refused ((q.prog P sdm).run token) sdm token := by
  cases q with
  | loginSO r e pin =>
    obtain rfl := Option.some.inj hq
    simp only [Request.prog, loginSO]
    split
    · exact refused_pure (by decide) sdm token
    split
    · exact refused_pure (by decide) sdm token
    exact refused_locked h sdm _
  | loginUser r e pin =>
    obtain rfl := Option.some.inj hq
    simp only [Request.prog, loginUser]
    split
    · exact refused_pure (by decide) sdm token
    split
    · exact refused_pure (by decide) sdm token
    split
    · exact refused_pure (by decide) sdm token
    exact refused_locked h sdm _
  | reAuthenticate e pin =>
    simp only [Request.presents] at hq
    simp only [Request.prog, reAuthenticate]
    split
    · rw [if_pos ‹_›] at hq
      obtain rfl := Option.some.inj hq
      exact refused_locked h sdm _
    rw [if_neg ‹_›] at hq
    split
    · rw [if_pos ‹_›] at hq
      obtain rfl := Option.some.inj hq
      exact refused_locked h sdm _
    · rw [if_neg ‹_›] at hq
      cases hq
  | logout => cases hq
  | setSOPIN e oldPIN newPIN =>
    obtain rfl := Option.some.inj hq
    exact refused_locked h sdm _
  | setUserPIN e oldPIN newPIN =>
    obtain rfl := Option.some.inj hq
    exact refused_locked h sdm _
  | initUserPIN e pin => cases hq
  | unblockUserPIN w w' => cases hq
  | setLocalPIN e id currentPIN newPIN =>
    simp only [Request.presents] at hq
    split at hq
    · cases hq
    rename_i a ha
    split at hq
    · cases hq
    rename_i habsent
    obtain rfl := Option.some.inj hq
    exact refused_setLocalPIN h ha (by simpa using habsent) e currentPIN newPIN sdm

/-! ### Steps -/

lemma refused_createToken {t : Token} (h : Spent true t.token) {e : FormatEnv}
    {requested label : Option ByteString} {soPIN : ByteString} {rv : CK_RV} {s' : Option Token}
    (hr : createToken P e requested soPIN label (some t) = some (rv, s')) :
    rv ≠ CKR_OK ∧ s' = some t := by
  have hrec : ∀ p label, (recreate P e p soPIN label t.sdm).run t.token =
      (some (CKR_PIN_LOCKED, t.sdm), t.token) := by
    intro p label
    unfold recreate
    rw [Prog.run_bind, run_pinLocked h]
    rfl
  unfold createToken at hr
  split at hr
  · cases hr
    exact ⟨by decide, rfl⟩
  split at hr
  · cases hr
    exact ⟨by decide, rfl⟩
  rcases label with _ | label
  · cases hr
    exact ⟨by decide, rfl⟩
  · dsimp only at hr
    rw [hrec] at hr
    cases hr
    exact ⟨CK_RV.noConfusion, rfl⟩

lemma check_repairMode {pInitInfo : CK_RUTOKEN_INIT_PARAM} {c : CK_RUTOKEN_INIT_PARAM.Checked}
    (h : pInitInfo.check = some c) : c.repairMode = (pInitInfo.UseRepairMode != 0) := by
  unfold CK_RUTOKEN_INIT_PARAM.check at h
  split at h
  · cases h
  split at h
  case h_2 => cases h
  dsimp only at h
  iterate 6
    split at h
    · cases h
  cases h
  rfl

lemma refused_initTokenExtended {t : Token} (h : Spent true t.token)
    (hpin : hasSOPIN (some t) = true) {e : FormatEnv} {soPIN : ByteString}
    {c : CK_RUTOKEN_INIT_PARAM.Checked} (hc : c.repairMode = false) :
    initTokenExtended P e soPIN c (some t) = (CKR_PIN_LOCKED, some t) := by
  obtain ⟨token, _ | sdm⟩ := t
  · cases hpin
  have hlen : sdm.soEncryptedKey.length ≠ 0 := by
    have : 0 < sdm.soEncryptedKey.length := by simpa [hasSOPIN] using hpin
    omega
  have hauth : (authorise P e c.repairMode soPIN (some sdm)).run token =
      ((some CKR_PIN_LOCKED, some sdm), token) := by
    unfold authorise
    rw [hc, if_neg (by decide)]
    dsimp only
    rw [if_neg hlen, Prog.run_bind, run_pinLocked h]
    rfl
  simp only [initTokenExtended, reformat]
  rw [Prog.run_bind, hauth]
  rfl

/-- A step of a role that is spent, short of a refill. -/
lemma spent_step {so : Bool} {t : Token} {l : Op × CK_RV} {s' : Option Token}
    (h : Spent so t.token) (hs : Unfilled P so (some t) l s') :
    ∃ t', s' = some t' ∧ Spent so t'.token := by
  obtain ⟨hs, hf⟩ := hs
  obtain ⟨op, rv⟩ := l
  cases op with
  | request q =>
    rcases call_cases (Option.some.inj hs) with ⟨rfl, -, -⟩ | ⟨token, sdm, ht, -, rfl⟩
    · exact ⟨t, rfl, h⟩
    refine ⟨_, rfl, keeps_request (lasting_spent so) (fun hq p hp => ?_) sdm token ?_⟩
    · cases so with
      | true => exact hp
      | false => simp [refills, hq] at hf
    · rw [Option.some.inj ht] at h
      exact h
  | createToken e requested soPIN label =>
    cases so with
    | true => exact ⟨t, (refused_createToken h hs).2, h⟩
    | false => cases hf
  | initTokenExtended e soPIN pInitInfo =>
    cases so with
    | false => cases hf
    | true =>
      simp only [refills, Bool.or_eq_false_iff] at hf
      obtain ⟨⟨-, hmode⟩, hpin⟩ := hf
      simp only [Step, exec] at hs
      split at hs
      · cases hs
        exact ⟨t, rfl, h⟩
      rename_i c hc
      rw [refused_initTokenExtended h (by simpa using hpin)
        ((check_repairMode hc).trans hmode)] at hs
      cases hs
      exact ⟨t, rfl, h⟩

/-- A PIN that is presented for a role that is spent. -/
lemma refused_step {so : Bool} {t : Token} {l : Op × CK_RV} {s' : Option Token}
    (h : Spent so t.token) (hs : Step P (some t) l s') (hp : presents (some t) l.1 = some so) :
    l.2 ≠ CKR_OK ∧ s' = some t := by
  obtain ⟨op, rv⟩ := l
  cases op with
  | request q =>
    obtain ⟨token, _ | sdm⟩ := t
    · cases hp
    cases hs
    obtain ⟨hrv, hsdm, htok⟩ := refused_request (P := P) h hp
    exact ⟨hrv, by rw [hsdm, htok]⟩
  | createToken e requested soPIN label =>
    simp only [presents] at hp
    split at hp
    · obtain rfl := Option.some.inj hp
      exact refused_createToken h hs
    · cases hp
  | initTokenExtended e soPIN pInitInfo =>
    simp only [presents, Bool.and_eq_true, decide_eq_true_eq] at hp
    split at hp
    swap
    · cases hp
    rename_i hcond
    obtain rfl := Option.some.inj hp
    simp only [Step, exec] at hs
    split at hs
    · cases hs
      exact ⟨CK_RV.noConfusion, rfl⟩
    rename_i c hc
    have hmode : c.repairMode = false := by rw [check_repairMode hc, hcond.1]; rfl
    rw [refused_initTokenExtended h hcond.2 hmode] at hs
    cases hs
    exact ⟨CK_RV.noConfusion, rfl⟩

/-- The token of the slot, if there is one, has a record that can be read. -/
def SoundSlot (s : Option Token) : Prop := ∀ t, s = some t → Sound t.token

lemma sound_createNew {p : PinPolicy} (hp : p.Valid) (e : FormatEnv) (soPIN label : ByteString) :
    SoundSlot (createNew P e p soPIN label).2 := by
  have hnone : SoundSlot none := fun t ht => nomatch ht
  unfold createNew
  split
  split
  · exact hnone
  split
  · exact hnone
  dsimp only
  split
  · exact hnone
  rintro _ ⟨⟩
  exact keeps_storePolicy hp e soPIN none _ (keeps_storeSOPIN _ _ _ _ (sound_created _))

lemma sound_createToken {s s' : Option Token} (h : SoundSlot s) {e : FormatEnv}
    {requested label : Option ByteString} {soPIN : ByteString} {rv : CK_RV}
    (hr : createToken P e requested soPIN label s = some (rv, s')) : SoundSlot s' := by
  unfold createToken at hr
  split at hr
  · cases hr
    exact h
  rename_i p hp
  have hv := (valid_newPolicy hp).1
  split at hr
  · cases hr
    exact h
  rcases label with _ | label
  · cases hr
    exact h
  rcases s with _ | t
  · have hnew := sound_createNew (P := P) hv e soPIN label
    rw [Option.some.inj hr] at hnew
    exact hnew
  · obtain ⟨⟨rv', sdm⟩, -, heq⟩ := Option.map_eq_some_iff.1 hr
    cases heq
    rintro _ ⟨⟩
    exact keeps_recreate hv e soPIN label t.sdm _ (h t rfl)

lemma sound_initTokenExtended {s : Option Token} (h : SoundSlot s) (e : FormatEnv)
    (soPIN : ByteString) {c : CK_RUTOKEN_INIT_PARAM.Checked} (hc : c.policy.Valid) :
    SoundSlot (initTokenExtended P e soPIN c s).2 := by
  rcases s with _ | t
  · unfold initTokenExtended initNew
    dsimp only
    split
    · exact h
    rename_i gen _
    split
    · exact h
    split
    · exact h
    rintro _ ⟨⟩
    exact keeps_storeParameters e hc none _ (keeps_storePINs e gen _ (sound_created _))
  · rintro _ ⟨⟩
    exact keeps_reformat e soPIN hc t.sdm _ (h t rfl)

lemma sound_step {s s' : Option Token} {l : Op × CK_RV} (h : SoundSlot s)
    (hs : Step P s l s') : SoundSlot s' := by
  obtain ⟨op, rv⟩ := l
  cases op with
  | request q =>
    rcases call_cases (Option.some.inj hs) with ⟨rfl, -, -⟩ | ⟨token, sdm, rfl, -, rfl⟩
    · exact h
    rintro _ ⟨⟩
    exact keeps_request (fun _ _ _ _ => trivial) (fun _ _ _ => trivial) sdm token (h _ rfl)
  | createToken e requested soPIN label => exact sound_createToken h hs
  | initTokenExtended e soPIN pInitInfo =>
    simp only [Step, exec] at hs
    split at hs
    · cases hs
      exact h
    rename_i c hc
    have hsound := sound_initTokenExtended (P := P) h e soPIN (valid_check hc).1
    rw [Option.some.inj hs] at hsound
    exact hsound

/-! ### Runs -/

/-- The records that a token may have at first: none, an old one, or a new one. -/
def GoodRecord (stored : Option ByteString) : Prop :=
  stored = none ∨ ∃ p : PinPolicy, p.Valid ∧
    (p.Old ∧ stored = some p.oldRecord ∨ stored = some (PinPolicy.setPinPolicy p))

/-- A token that was opened: its copy is that of the file, and the record is a good one. -/
structure Opened (t : Token) : Prop where
  coherent : t.token.Coherent
  record : ∀ a, t.token.disk = some a → GoodRecord a.PINPOLICY

lemma sound_of_opened {t : Token} (h : Opened t) : Sound t.token := by
  have hread : ∀ stored, GoodRecord stored → ∃ p, PinPolicy.getPinPolicy stored = some p := by
    rintro _ (rfl | ⟨p, hv, ⟨ho, rfl⟩ | rfl⟩)
    · exact ⟨{}, rfl⟩
    · exact ⟨p, getPinPolicy_oldRecord ho hv⟩
    · exact ⟨p, getPinPolicy_setPinPolicy hv⟩
  rcases hd : t.token.disk with _ | a
  · exact ⟨{}, trivial, h.coherent, fun a ha => by rw [hd] at ha; cases ha⟩
  · obtain ⟨p, hp⟩ := hread _ (h.record a hd)
    refine ⟨p, trivial, h.coherent, fun b hb => ?_⟩
    rw [hd, Option.some.injEq] at hb
    exact hb ▸ hp

/-- The policies that an operation hands to `setPinPolicy`. -/
def Settable (s : Option Token) (p : PinPolicy) : Prop :=
  (∃ requested, newPolicy requested = some p) ∨
  (∃ pInitInfo c, CK_RUTOKEN_INIT_PARAM.check pInitInfo = some c ∧ c.policy = p) ∨
  ∃ t a q, s = some t ∧ t.token.disk = some a ∧ policyOf a = some q ∧
    p = { q with leftUser := q.maxUser }

lemma valid_settable {s : Option Token} {p : PinPolicy} (h : Settable s p) : p.Valid := by
  rcases h with ⟨requested, h⟩ | ⟨pInitInfo, c, h, rfl⟩ | ⟨t, a, q, -, -, hq, rfl⟩
  · exact (valid_newPolicy h).1
  · exact (valid_check h).1
  · exact @valid_setLeft _ (getPinPolicy_valid hq) false _ (UInt8.le_refl _)

/-- What was set is read. -/
lemma get_set {p : PinPolicy} (hp : p.Valid) {w : Write} {o : File TokenObject}
    (h : ((setPinPolicy w p).run o).1 = true) :
    (TokenObject.getPinPolicy.run ((setPinPolicy w p).run o).2).1 = some p := by
  have hv := getPinPolicy_setPinPolicy hp
  unfold TokenObject.setPinPolicy setAttribute at h ⊢
  simp only [Prog.run, File.setAttribute] at h ⊢
  split at h
  · cases h
  · rename_i hvalid
    rw [if_neg hvalid]
    cases w with
    | done => exact hv
    | refused => cases h
    | torn => cases h

/-- The role has no attempts left, by the stored record. -/
def LeftIsZero (so : Bool) (s : Option Token) : Prop :=
  ∃ t a p, s = some t ∧ t.token.disk = some a ∧ policyOf a = some p ∧ p.left so = 0

lemma spent_of_leftIsZero {so : Bool} {s : Option Token} (hs : SoundSlot s)
    (h : LeftIsZero so s) : ∃ t, s = some t ∧ Spent so t.token := by
  obtain ⟨t, a, p, rfl, ha, hp, h0⟩ := h
  obtain ⟨q, -, hq⟩ := hs t rfl
  have hpq : p = q := Option.some.inj (hp.symm.trans (hq.shows a ha))
  exact ⟨t, rfl, p, h0, hpq ▸ hq⟩

/-- A token without SO PIN, whose record has `left` attempts of the SO. -/
def unset (left : UInt8) : Token :=
  ⟨settled (bare [] 0 (PinPolicy.setPinPolicy { leftSO := left })), some (create zeroDraws [] [])⟩

lemma valid_leftSO {left : UInt8} (h : left ≤ 10) : ({ leftSO := left } : PinPolicy).Valid :=
  @valid_setLeft _ valid_default true _ h

lemma opened_unset {left : UInt8} (h : left ≤ 10) : Opened (unset left) := by
  refine ⟨fun _ => rfl, fun a ha => .inr ⟨_, valid_leftSO h, .inr ?_⟩⟩
  rw [← Option.some.inj ha]
  rfl

/-- With every primitive succeeding there is a fresh key under both PINs. -/
lemma freshKey_some {P : Primitives} (hP : Lawful P) {e : FormatEnv} (he : e.pbe = .none)
    (he' : e.userPbe = .none) {newSOPIN newUserPIN : ByteString} (hso : 0 < newSOPIN.length)
    (hu : 0 < newUserPIN.length) : ∃ gen, freshKey P e newSOPIN newUserPIN = some gen := by
  obtain ⟨m, key, hset, hkey, hseals, -⟩ := setSOPIN_blank (P := P) (r := e.draws) hso
  obtain ⟨gen, hgen, -⟩ := setUserPIN_spec (P := P) (r := e.userDraws) hu
    (m := { remask e.login.remask key (logout m) with soLoggedIn := true }) (.inl rfl)
    (masks_remask (m := logout m) hkey)
  refine ⟨logout gen, ?_⟩
  simp only [freshKey, he, he', hset, loginSO_of_seals hP hseals, hgen, Bool.not_true,
    Bool.false_eq_true, if_false]

/-- The rest of a format in which every store is done. -/
lemma run_stores_done {e : FormatEnv} (h1 : e.soBlob = .done) (h2 : e.soFlags = .done)
    (h3 : e.userBlob = .done) (h4 : e.userFlags = .done) (h5 : e.policy = .done)
    (h6 : e.soDefault = .done) (h7 : e.userDefault = .done) (gen : SecureDataManager)
    (c : CK_RUTOKEN_INIT_PARAM.Checked) (sdm : Option SecureDataManager)
    (label policy : ByteString) (flags : CK_FLAGS) :
    ∃ a, (storePINs e gen).run (settled (bare label flags policy)) = (true, settled a) ∧
      ∃ sdm' a', (storeParameters e c sdm).run (settled a) = ((CKR_OK, sdm'), settled a') ∧
        a'.PINPOLICY = some (PinPolicy.setPinPolicy c.policy) := by
  unfold storePINs storeParameters
  rw [h1, h2, h3, h4, h5, h6, h7]
  exact ⟨_, rfl, _, _, rfl, rfl⟩

/-- A format in which everything succeeds. -/
def doneFormat : FormatEnv where
  verifier := zeroDraws
  draws := zeroDraws
  login := zeroDraws
  userDraws := zeroDraws
  rebuilt := zeroDraws
  pbe := .none
  userPbe := .none
  result := .done
  newToken := true
  flags := .done
  reset := ⟨true, .done, .done, .done, .done, fun _ => .done, fun _ => .done, .done⟩
  soBlob := .done
  soFlags := .done
  userBlob := .done
  userFlags := .done
  policy := .done
  soDefault := .done
  userDefault := .done

/-- The factory PINs, lengths from 6 and ten attempts. -/
def factoryFormat : CK_RUTOKEN_INIT_PARAM :=
  ⟨CK_RUTOKEN_INIT_PARAM.size, 0, some factorySOPIN, some factoryUserPIN, 3, 6, 6, 10, 10, none, 0, 0⟩

/-- The factory PINs, lengths from 6 and ten attempts, as they pass the checks. -/
def checkedFormat : CK_RUTOKEN_INIT_PARAM.Checked :=
  ⟨false, factorySOPIN, factoryUserPIN, {}, List.replicate 32 32⟩

/-- A format in which everything succeeds, of a token without SO PIN. -/
lemma reformat_unset {P : Primitives} (hP : Lawful P) (left : UInt8) :
    ∃ sdm a, (reformat P doneFormat [] checkedFormat (unset left).sdm).run (unset left).token =
      ((CKR_OK, sdm), settled a) ∧
        a.PINPOLICY = some (PinPolicy.setPinPolicy checkedFormat.policy) := by
  obtain ⟨gen, hgen⟩ := freshKey_some hP (e := doneFormat) rfl rfl
    (show 0 < checkedFormat.newSOPIN.length by decide)
    (show 0 < checkedFormat.newUserPIN.length by decide)
  obtain ⟨flags, hreset⟩ := run_resetToken_bare (e := doneFormat.reset) rfl rfl rfl []
    checkedFormat.label (PinPolicy.setPinPolicy { leftSO := left }) 0
  obtain ⟨a, hpins, sdm, a', hparams, hp⟩ := run_stores_done (e := doneFormat) rfl rfl rfl rfl
    rfl rfl rfl gen checkedFormat (unset left).sdm checkedFormat.label
    (PinPolicy.setPinPolicy { leftSO := left }) flags
  have hauth : (authorise P doneFormat checkedFormat.repairMode [] (unset left).sdm).run
      (unset left).token = ((none, (unset left).sdm), (unset left).token) := rfl
  have htoken : (unset left).token = settled _ := rfl
  refine ⟨sdm, a', ?_, hp⟩
  unfold reformat
  rw [Prog.run_bind, hauth]
  simp only [hgen]
  rw [Prog.run_bind, htoken, hreset]
  simp only [Bool.not_true, Bool.false_eq_true, if_false, Prog.run_bind, hpins]
  exact hparams

/-- The factory format in which everything succeeds gives the SO its attempts back. -/
lemma step_unset {P : Primitives} (hP : Lawful P) (left : UInt8) :
    ∃ t a, Step P (some (unset left)) (.initTokenExtended doneFormat [] factoryFormat, CKR_OK)
      (some t) ∧ t.token.disk = some a ∧ policyOf a = some {} := by
  obtain ⟨sdm, a, hrun, ha⟩ := reformat_unset hP left
  have hc : factoryFormat.check = some checkedFormat := rfl
  refine ⟨⟨settled a, sdm⟩, a, ?_, rfl, ?_⟩
  · simp only [Step, exec, hc, initTokenExtended, hrun]
  · rw [policyOf, ha]
    rfl

end SoftHSM.Token
