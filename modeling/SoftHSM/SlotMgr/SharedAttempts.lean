import SoftHSM.Lib.Allowance
import SoftHSM.SlotMgr.SharedSteps

/-!
How often a wrong PIN can be tried on a token that several processes use, whatever each of them still has
of it: every wrong PIN of a role takes one of the attempts that all of them share, and only the PIN that
is taken for the right one, a format or a new user PIN gives attempts back.
-/

namespace SoftHSM.SharedToken

open RecordFile TokenObject SecureDataManager PinPolicy CK_RV
open Token (policyOf pinLocked pinResult readBlobs)

variable {P : Primitives} {d d' : TokenObject} {p : PinPolicy} {so : Bool} {anew : Prop}

/-! ### What an operation costs -/

/-- The answer to a wrong PIN of a role. -/
def Wrong (p : PinPolicy) (so : Bool) (rv : CK_RV) : Prop :=
  rv = CKR_PIN_INCORRECT ∨ rv = CKR_PIN_LOCKED ∧ p.left so ≠ 0

/-- What an operation under a PIN of a role does to the policy. Only one that makes the policy `anew` may
change what is left of the other role, and only if it succeeds. -/
def Paid (p : PinPolicy) (so : Bool) (anew : Prop) (rv : CK_RV) (d' : TokenObject) : Prop :=
  ∃ p', Stands d' p' ∧ (p'.left (!so) = p.left (!so) ∨ anew ∧ rv = CKR_OK) ∧
    (Wrong p so rv → (p'.left so).toNat + 1 = (p.left so).toNat) ∧
    (rv ≠ CKR_OK → ¬ Wrong p so rv → p'.left so = p.left so)

/-- The same of a program, from any record with the policy. -/
def Pays {α : Type} (p : PinPolicy) (so : Bool) (anew : Prop) (prog : Prog (CK_RV × α)) : Prop :=
  ∀ d, Stands d p → Paid p so anew (prog.eval d).1.1 (prog.eval d).2

/-- The program leaves the policy. -/
def KeepsPolicy {α : Type} (p : PinPolicy) (prog : Prog α) : Prop :=
  ∀ d, Stands d p → Stands (prog.eval d).2 p

section rules

variable {α β : Type} {rv : CK_RV} {a : α}

/-- An answer that says nothing of a PIN. -/
lemma paid_other (h : Stands d p) (hincorrect : rv ≠ CKR_PIN_INCORRECT)
    (hlocked : rv = CKR_PIN_LOCKED → p.left so = 0) : Paid p so anew rv d := by
  have hwrong : ¬ Wrong p so rv := by
    rintro (h | ⟨h, hleft⟩)
    · exact hincorrect h
    · exact hleft (hlocked h)
  exact ⟨p, h, .inl rfl, fun hw => absurd hw hwrong, fun _ _ => rfl⟩

lemma pays_pure (hincorrect : rv ≠ CKR_PIN_INCORRECT) (hlocked : rv ≠ CKR_PIN_LOCKED) : Pays p so anew (pure (rv, a)) :=
  fun _ h => paid_other h hincorrect fun he => absurd he hlocked

lemma Pays.bind {prog : Prog β} {k : β → Prog (CK_RV × α)} (h : KeepsPolicy p prog)
    (hk : ∀ b, Pays p so anew (k b)) : Pays p so anew (prog >>= k) := by
  intro d hd
  rw [Prog.eval_bind]
  exact hk _ _ (h d hd)

lemma Pays.ite {c : Prop} [Decidable c] {q r : Prog (CK_RV × α)} (hq : Pays p so anew q)
    (hr : Pays p so anew r) : Pays p so anew (if c then q else r) := by
  split
  · exact hq
  · exact hr

/-- The check that every attempt comes after. -/
lemma pays_unlocked {body : Prog (CK_RV × α)} (hbody : p.left so ≠ 0 → Pays p so anew body) :
    Pays p so anew (do
      if ← pinLocked so then return (CKR_PIN_LOCKED, a)
      body) := by
  intro d hd
  rw [Prog.eval_bind, eval_pinLocked hd]
  by_cases hleft : p.left so = 0
  · rw [decide_eq_true hleft]
    exact paid_other hd CK_RV.noConfusion fun _ => hleft
  · rw [decide_eq_false hleft]
    exact hbody hleft d hd

lemma left_advance_other (so success : Bool) :
    (p.advance so success).left (!so) = p.left (!so) := by
  unfold advance
  split
  · rfl
  split <;> cases so <;> rfl

lemma left_advance_failure (h : p.left so ≠ 0) :
    ((p.advance so false).left so).toNat + 1 = (p.left so).toNat := by
  have hpos : 0 < (p.left so).toNat := Nat.pos_of_ne_zero fun he => h (UInt8.toNat_inj.1 he)
  have hset : (p.advance so false).left so = p.left so - 1 := by
    rw [advance, if_neg h]
    cases so <;> rfl
  have hone : (1 : UInt8).toNat ≤ (p.left so).toNat := hpos
  rw [hset, UInt8.toNat_sub_of_le _ _ (UInt8.le_iff_toNat_le.2 hone)]
  exact Nat.sub_add_cancel hpos

/-- **The end of an attempt.** -/
lemma pays_pinResult (hleft : p.left so ≠ 0) (e : Token.ResultWrites) (success : Bool)
    (sdm : SecureDataManager) : Pays p so anew (pinResult e so success sdm) := by
  intro d hd
  cases success with
  | false =>
    obtain ⟨d', heval, hstands, -⟩ := eval_pinResult hd e so false sdm
    rw [heval]
    refine ⟨_, hstands, .inl (left_advance_other so false), fun _ => left_advance_failure hleft,
      fun _ hnot => absurd ?_ hnot⟩
    dsimp only
    split
    · exact .inr ⟨rfl, hleft⟩
    · exact .inl rfl
  | true =>
    obtain ⟨d', heval, hstands, -⟩ := eval_pinResult hd e so true sdm
    rw [if_neg (Token.left_advance_success hd.valid so hleft), if_pos rfl] at heval
    rw [heval]
    refine ⟨_, hstands, .inl (left_advance_other so true), ?_, fun h => absurd rfl h⟩
    rintro (h | ⟨h, -⟩)
    · cases h
    · cases h

lemma keepsPolicy_storeSOPIN (w w' : Write) (blob : ByteString) :
    KeepsPolicy p (TokenObject.setSOPIN w w' blob) := by
  intro d hd
  obtain ⟨flags, heval⟩ := eval_storeSOPIN hd w w' blob
  rw [heval]
  exact ⟨hd.policy, rfl⟩

lemma keepsPolicy_storeUserPIN (w w' : Write) (blob : ByteString) :
    KeepsPolicy p (TokenObject.setUserPIN w w' blob) := by
  intro d hd
  obtain ⟨flags, heval⟩ := eval_storeUserPIN hd w w' blob
  rw [heval]
  exact ⟨hd.policy, rfl⟩

lemma keepsPolicy_setPinDefault (w : Transaction) (id : ℕ) (isDefault : Bool) :
    KeepsPolicy p (setPinDefault w id isDefault) := by
  intro d hd
  rw [eval_setPinDefault]
  exact ⟨hd.policy, hd.flags⟩

lemma keepsPolicy_readBlobs : KeepsPolicy p readBlobs := by
  intro d hd
  rw [eval_readBlobs]
  exact hd

end rules

/-! ### The operations -/

section operations

variable {m : SecureDataManager}

lemma pays_loginSO (r : Draws) (e : Token.ResultWrites) (pin : ByteString) :
    Pays p true anew (Token.loginSO P r e pin m) := by
  unfold Token.loginSO
  refine .ite (pays_pure CK_RV.noConfusion CK_RV.noConfusion)
    (.ite (pays_pure CK_RV.noConfusion CK_RV.noConfusion) (pays_unlocked fun hleft => ?_))
  exact pays_pinResult hleft _ _ _

lemma pays_loginUser (r : Draws) (e : Token.ResultWrites) (pin : ByteString) :
    Pays p false anew (Token.loginUser P r e pin m) := by
  unfold Token.loginUser
  refine .ite (pays_pure CK_RV.noConfusion CK_RV.noConfusion)
    (.ite (pays_pure CK_RV.noConfusion CK_RV.noConfusion)
      (.ite (pays_pure CK_RV.noConfusion CK_RV.noConfusion) (pays_unlocked fun hleft => ?_)))
  exact pays_pinResult hleft _ _ _

lemma pays_reAuthenticate (e : Token.ResultWrites) (pin : ByteString) (hl : LoggedIn m) :
    Pays p m.soLoggedIn anew (Token.reAuthenticate P e pin m) := by
  unfold Token.reAuthenticate
  cases hso : m.soLoggedIn with
  | true =>
    rw [if_pos rfl]
    exact pays_unlocked fun hleft => pays_pinResult hleft _ _ _
  | false =>
    have hu : m.userLoggedIn = true := hl.resolve_left (by simp [hso])
    rw [if_neg Bool.false_ne_true, if_pos hu]
    exact pays_unlocked fun hleft => pays_pinResult hleft _ _ _

lemma pays_setSOPIN (e : Token.PinEnv) (oldPIN newPIN : ByteString) :
    Pays p true anew (Token.setSOPIN P e oldPIN newPIN m) := by
  unfold Token.setSOPIN
  refine pays_unlocked fun hleft => .ite (pays_pinResult hleft _ _ _) ?_
  refine .ite (pays_pure CK_RV.noConfusion CK_RV.noConfusion) ?_
  refine .bind (keepsPolicy_storeSOPIN _ _ _) fun _ =>
    .ite (pays_pure CK_RV.noConfusion CK_RV.noConfusion) ?_
  refine .bind (keepsPolicy_setPinDefault _ _ _) fun _ =>
    .ite (pays_pure CK_RV.noConfusion CK_RV.noConfusion) ?_
  exact .bind keepsPolicy_readBlobs fun _ => pays_pinResult hleft _ _ _

/-- The end of `setUserPIN`. -/
lemma pays_expired (hleft : p.left false ≠ 0) (e : Token.PinEnv) (sdm : SecureDataManager) :
    Pays p false anew (do
      let (result, newSdm) ← pinResult e.result false true sdm
      if result ≠ CKR_OK then return (result, newSdm)
      if !(← setUserPinExpired e.expired false) then return (CKR_DEVICE_ERROR, newSdm)
      return (CKR_OK, newSdm)) := by
  intro d hd
  obtain ⟨d', heval, hstands, -⟩ := eval_pinResult hd e.result false true sdm
  rw [if_neg (Token.left_advance_success hd.valid false hleft), if_pos rfl] at heval
  have hexpired : (setUserPinExpired e.expired false).eval d' =
      (true, { d' with USERPINEXPIRED := false }) := rfl
  simp only [Prog.eval_bind, heval, ne_eq, not_true_eq_false, if_false, hexpired, Bool.not_true,
    Bool.false_eq_true]
  refine ⟨_, ⟨hstands.policy, hstands.flags⟩, .inl (left_advance_other false true), ?_,
    fun h => absurd rfl h⟩
  rintro (h | ⟨h, -⟩)
  · cases h
  · cases h

lemma pays_setUserPIN (e : Token.PinEnv) (oldPIN newPIN : ByteString) :
    Pays p false anew (Token.setUserPIN P e oldPIN newPIN m) := by
  unfold Token.setUserPIN
  refine pays_unlocked fun hleft => .ite (pays_pinResult hleft _ _ _) ?_
  refine .ite (pays_pure CK_RV.noConfusion CK_RV.noConfusion) ?_
  refine .bind (keepsPolicy_storeUserPIN _ _ _) fun _ =>
    .ite (pays_pure CK_RV.noConfusion CK_RV.noConfusion) ?_
  refine .bind (keepsPolicy_setPinDefault _ _ _) fun _ =>
    .ite (pays_pure CK_RV.noConfusion CK_RV.noConfusion) ?_
  exact .bind keepsPolicy_readBlobs fun _ => pays_expired hleft e _

/-- A policy that is made anew. -/
lemma paid_anew {q : PinPolicy} (h : Stands d q) (hanew : anew) : Paid p so anew CKR_OK d := by
  refine ⟨q, h, .inr ⟨hanew, rfl⟩, ?_, fun h => absurd rfl h⟩
  rintro (h | ⟨h, -⟩)
  · cases h
  · cases h

lemma paid_recreate (h : Stands d p) {e : Token.FormatEnv} (he : e.reset.objects = true)
    {q : PinPolicy} (hq : q.Valid) (soPIN label : ByteString) (hanew : anew) :
    ∃ rv m' d', (Token.recreate P e q soPIN label (some m)).eval d = (some (rv, some m'), d') ∧
      Paid p true anew rv d' := by
  obtain ⟨flags, hflags⟩ := eval_getTokenFlags h
  unfold Token.recreate
  rw [Prog.eval_bind, eval_pinLocked h]
  by_cases hleft : p.left true = 0
  · rw [decide_eq_true hleft]
    exact ⟨_, m, d, rfl, paid_other h CK_RV.noConfusion fun _ => hleft⟩
  rw [decide_eq_false hleft]
  dsimp only
  rw [if_neg (by simp), Prog.eval_bind, hflags]
  dsimp only
  generalize (if m.soEncryptedKey.length > 0 then SecureDataManager.loginSO P e.verifier soPIN m
    else (true, m)) = result
  obtain ⟨ok, m₁⟩ := result
  cases ok with
  | false =>
    have hpaid : Paid p true anew _ _ := pays_pinResult hleft e.result false m₁ d h
    simp only [Bool.not_false, if_true, Prog.eval_bind]
    exact ⟨_, _, _, rfl, hpaid⟩
  | true =>
    obtain ⟨m', d', heval, hstands, -⟩ := eval_recreated h he hq soPIN label
      (flags &&& ~~~CKF_SO_PIN_COUNT_LOW) m₁
    dsimp only at heval ⊢
    exact ⟨_, m', d', heval, paid_anew hstands hanew⟩

lemma paid_authorise (h : Stands d p) (repairMode : Bool) (e : Token.FormatEnv) (soPIN : ByteString) :
    (Token.authorise P e repairMode soPIN (some m)).eval d = ((none, some m), d) ∨
      ∃ rv m' d', (Token.authorise P e repairMode soPIN (some m)).eval d = ((some rv, some m'), d') ∧
        Paid p true anew rv d' := by
  unfold Token.authorise
  cases repairMode with
  | true =>
    simp only [if_true, Prog.eval_bind, eval_pinLocked h]
    by_cases hleft : p.left true = 0
    · rw [decide_eq_true hleft]
      exact .inl rfl
    · rw [decide_eq_false hleft]
      exact .inr ⟨_, m, d, rfl, paid_other h CK_RV.noConfusion CK_RV.noConfusion⟩
  | false =>
    dsimp only
    rw [if_neg (by simp)]
    split
    · exact .inl rfl
    rw [Prog.eval_bind, eval_pinLocked h]
    by_cases hleft : p.left true = 0
    · rw [decide_eq_true hleft]
      exact .inr ⟨_, m, d, rfl, paid_other h CK_RV.noConfusion fun _ => hleft⟩
    rw [decide_eq_false hleft]
    dsimp only
    cases (SecureDataManager.loginSO P e.verifier soPIN
      (create e.verifier m.soEncryptedKey m.userEncryptedKey)).1 with
    | true => exact .inl rfl
    | false =>
      have hbind := Prog.eval_bind (pinResult e.result true false m)
        (fun r => pure (some r.1, some r.2)) d
      exact .inr ⟨_, _, _, hbind, pays_pinResult hleft e.result false m d h⟩

lemma paid_reformat (h : Stands d p) {e : Token.FormatEnv} (hobjects : e.reset.objects = true)
    {c : CK_RUTOKEN_INIT_PARAM.Checked} (hc : c.policy.Valid) (soPIN : ByteString) (hanew : anew) :
    ∃ rv m' d', (Token.reformat P e soPIN c (some m)).eval d = ((rv, some m'), d') ∧
      Paid p true anew rv d' := by
  rcases @paid_authorise P d p anew m h c.repairMode e soPIN with
    hauth | ⟨rv, m', d', hauth, hpaid⟩
  swap
  · unfold Token.reformat
    rw [Prog.eval_bind, hauth]
    exact ⟨rv, m', d', rfl, hpaid⟩
  cases hgen : Token.freshKey P e c.newSOPIN c.newUserPIN with
  | none =>
    unfold Token.reformat
    rw [Prog.eval_bind, hauth]
    dsimp only
    rw [hgen]
    exact ⟨_, m, d, rfl, paid_other h CK_RV.noConfusion CK_RV.noConfusion⟩
  | some gen =>
    obtain ⟨m', d', heval, hstands, -⟩ := eval_reformatted h hobjects hc hauth hgen
    exact ⟨_, m', d', heval, paid_anew hstands hanew⟩

end operations

/-! ### The account -/

/-- The role whose attempts an operation may cost. -/
def Op.role (m : SecureDataManager) : Op → Option Bool
  | .loginSO _ _ => some true
  | .loginUser _ _ => some false
  | .reAuthenticate _ =>
    if m.soLoggedIn then some true else if m.userLoggedIn then some false else none
  | .setSOPIN _ _ _ _ => some true
  | .setUserPIN _ _ _ _ => some false
  | .createToken _ _ _ _ => some true
  | .initTokenExtended _ _ _ => some true
  | _ => none

/-- The operations that write the policy anew: two formats, and the new user PIN that is written over a
copy of the whole record. -/
def Op.rewrites : Op → Bool
  | .initUserPIN _ _ => true
  | .createToken _ _ _ _ => true
  | .initTokenExtended _ _ _ => true
  | _ => false

variable {ι : Type}

namespace System

/-- The attempts that a role has left. -/
def left (so : Bool) (s : System ι) : ℕ :=
  ((s.disk.bind policyOf).map fun p => (p.left so).toNat).getD 0

def role (s : System ι) (l : ι × Op) : Option Bool :=
  (s.process l.1).bind fun process => process.sdm.bind fun m => l.2.role m

variable [DecidableEq ι] (P : Primitives)

def next (s : System ι) (l : ι × Op) : System ι := (s.exec P l.1 l.2).2

/-- A PIN of the role was looked at and found wrong. -/
def missed (so : Bool) (s : System ι) (l : ι × Op) : Bool :=
  decide (s.role l = some so) && (decide ((s.exec P l.1 l.2).1 = .rv CKR_PIN_INCORRECT) ||
    decide ((s.exec P l.1 l.2).1 = .rv CKR_PIN_LOCKED) && decide (s.left so ≠ 0))

/-- The attempts of the role may have been given back. -/
def refilled (so : Bool) (s : System ι) (l : ι × Op) : Bool :=
  decide ((s.exec P l.1 l.2).1 = .rv CKR_OK) && (decide (s.role l = some so) || l.2.rewrites)

end System

/-- The record on the disk has the policy, each copy has some policy, and each process a manager. -/
structure Standing (s : System ι) (d : TokenObject) (p : PinPolicy) : Prop where
  disk : s.disk = some d
  stands : Stands d p
  copies : ∀ i c sdm, s.process i = some ⟨c, sdm⟩ → (∃ q, Stands c q) ∧ sdm.isSome = true

/-- There is no token yet, or one with a policy. -/
def AnyStanding (s : System ι) : Prop :=
  (s.disk = none ∧ ∀ i, s.process i = none) ∨ ∃ d p, Standing s d p

/-- The answer to a process, and what the operation leaves on the disk and in the process. -/
structure Ends [DecidableEq ι] (s : System ι) (i : ι) (r : Reply × System ι) (a : Reply)
    (d' : TokenObject) : Prop where
  answer : r.1 = a
  disk : r.2.disk = some d'
  process : ∃ c' m', (∃ q, Stands c' q) ∧
    r.2.process = Function.update s.process i (some ⟨c', some m'⟩)

section account

variable {s : System ι} {i : ι} {c c' : TokenObject} {m m' : SecureDataManager} {rv : CK_RV}
  {op : Op} {a : Reply}

lemma left_of_stands (hdisk : s.disk = some d) (h : Stands d p) (so : Bool) :
    s.left so = (p.left so).toNat := by
  rw [System.left, hdisk, Option.bind_some, h.policy]
  rfl

lemma left_le (h : Stands d p) (so : Bool) : (p.left so).toNat ≤ 15 := by
  have hmax : p.max so ≤ 15 := by
    cases so
    · exact h.valid.maxUser.2
    · exact h.valid.maxSO.2
  exact UInt8.le_iff_toNat_le.1 (UInt8.le_trans (left_le_max h.valid so) hmax)

lemma AnyStanding.left_le (h : AnyStanding s) (so : Bool) : s.left so ≤ 15 := by
  rcases h with ⟨hdisk, -⟩ | ⟨d, p, h⟩
  · rw [System.left, hdisk]
    exact Nat.zero_le _
  · rw [left_of_stands h.disk h.stands]
    exact SharedToken.left_le h.stands so

lemma role_of_process (hprocess : s.process i = some ⟨c, some m⟩) : s.role (i, op) = op.role m := by
  rw [System.role, hprocess]
  rfl

variable [DecidableEq ι]

lemma Ends.note {r : Reply × System ι} (h : Ends s i r a d') {f : System ι → System ι}
    (hf : ∀ s, (f s).disk = s.disk ∧ (f s).process = s.process) :
    Ends s i (System.note f r) a d' := by
  unfold System.note
  split
  · exact ⟨h.answer, (hf _).1.trans h.disk, by rw [(hf _).2]; exact h.process⟩
  · exact h

lemma ends_set (hc : ∃ q, Stands c' q) : Ends s i (a, s.set i c' d' (some m')) a d' :=
  ⟨rfl, rfl, c', m', hc, rfl⟩

/-- A process that looks at the file first. -/
lemma ends_call (h : Standing s d p) (hprocess : s.process i = some ⟨c, some m⟩)
    {op : SecureDataManager → Prog (CK_RV × SecureDataManager)} (hfresh : (op m).Fresh)
    {anew : Prop} (hpays : Pays p so anew (op m)) :
    ∃ rv d', Ends s i (s.call i op) (.rv rv) d' ∧ Paid p so anew rv d' := by
  have hpaid := hpays d h.stands
  obtain ⟨p', hstands, -⟩ := hpaid
  obtain ⟨c', hc, hvisit⟩ := visit_stands (h.copies i c _ hprocess).1 hfresh ⟨p', hstands⟩
  rw [call_eq hprocess h.disk, hvisit]
  exact ⟨_, _, ends_set hc, hpays d h.stands⟩

lemma Ends.standing {r : Reply × System ι} {p' : PinPolicy} (h : Standing s d p)
    (he : Ends s i r a d') (hd : Stands d' p') : Standing r.2 d' p' where
  disk := he.disk
  stands := hd
  copies := by
    intro j c sdm hj
    obtain ⟨c', m', hc, hprocess⟩ := he.process
    rw [hprocess] at hj
    by_cases hij : j = i
    · rw [hij, Function.update_self] at hj
      cases hj
      exact ⟨hc, rfl⟩
    · rw [Function.update_of_ne hij] at hj
      exact h.copies j c sdm hj

/-- What a step does to the account of a role, and that the token still stands. -/
def Accounted (P : Primitives) (s : System ι) (l : ι × Op) : Prop :=
  AnyStanding (s.next P l) ∧ ∀ so,
    Allowance.Step (System.next P) (System.left so) (System.missed P so) (System.refilled P so) 15 s l

/-- An operation under a PIN. -/
lemma accounted_of_paid (h : Standing s d p) (hprocess : s.process i = some ⟨c, some m⟩)
    {so : Bool} (hrole : op.role m = some so) (he : Ends s i (s.exec P i op) (.rv rv) d')
    (hpaid : Paid p so (op.rewrites = true) rv d') : Accounted P s (i, op) := by
  obtain ⟨p', hstands, hother, hwrong, hsame⟩ := hpaid
  have hnext : (s.next P (i, op)).disk = some d' := he.disk
  refine ⟨.inr ⟨d', p', he.standing h hstands⟩, fun so' => ?_⟩
  have hleft : s.left so' = (p.left so').toNat := left_of_stands h.disk h.stands so'
  have hleft' : (s.next P (i, op)).left so' = (p'.left so').toNat := left_of_stands hnext hstands so'
  have hmissed : s.missed P so' (i, op) = true ↔ so = so' ∧ Wrong p so' rv := by
    have hzero : (p.left so').toNat ≠ 0 ↔ p.left so' ≠ 0 := not_congr
      ⟨fun hz => UInt8.toNat_inj.1 hz, fun hz => by rw [hz]; rfl⟩
    simp only [System.missed, role_of_process hprocess, hrole, he.answer, hleft, Bool.and_eq_true,
      Bool.or_eq_true, decide_eq_true_eq, Option.some.injEq, Reply.rv.injEq, Wrong, hzero]
  have hrefilled : s.refilled P so' (i, op) = true ↔ rv = CKR_OK ∧ (so = so' ∨ op.rewrites = true) := by
    simp only [System.refilled, role_of_process hprocess, hrole, he.answer, Bool.and_eq_true,
      Bool.or_eq_true, decide_eq_true_eq, Option.some.injEq, Reply.rv.injEq]
  constructor
  · intro hm
    obtain ⟨rfl, hw⟩ := hmissed.1 hm
    refine ⟨by rw [hleft, hleft']; exact hwrong hw, ?_⟩
    rw [← Bool.not_eq_true, hrefilled]
    rintro ⟨rfl, -⟩
    rcases hw with hw | ⟨hw, -⟩
    · cases hw
    · cases hw
  · intro _
    rw [hleft']
    exact left_le hstands so'
  · intro hm hf
    rw [← Bool.not_eq_true, hmissed] at hm
    rw [← Bool.not_eq_true, hrefilled] at hf
    rw [hleft, hleft']
    by_cases hso : so = so'
    · rw [← hso]
      exact congrArg UInt8.toNat (hsame (fun hok => hf ⟨hok, .inl hso⟩)
        (hso ▸ fun hw => hm ⟨hso, hw⟩))
    · have hnot : so' = !so := by
        cases so <;> cases so' <;> simp_all
      rcases hother with hother | ⟨hanew, hok⟩
      · rw [hnot]
        exact congrArg UInt8.toNat hother
      · exact absurd ⟨hok, .inr hanew⟩ hf

/-- An operation without PIN leaves the policy, or writes it anew. -/
lemma accounted_of_none (hrole : s.role (i, op) = none) (hstands : AnyStanding (s.next P (i, op)))
    (hsame : (∀ so, (s.next P (i, op)).left so = s.left so) ∨
      (s.exec P i op).1 = .rv CKR_OK ∧ op.rewrites = true) : Accounted P s (i, op) := by
  refine ⟨hstands, fun so => ⟨fun hm => ?_, fun _ => hstands.left_le so, fun _ hf => ?_⟩⟩
  · rw [System.missed, hrole] at hm
    cases hm
  · rcases hsame with hsame | ⟨hok, hrewrites⟩
    · exact hsame so
    · rw [System.refilled, hok, hrewrites, Bool.or_true] at hf
      cases hf

/-- The same with what is on the disk then. -/
lemma accounted_of_ends (h : Standing s d p) (hprocess : s.process i = some ⟨c, some m⟩)
    (hrole : op.role m = none) {p' : PinPolicy} (hd : Stands d' p')
    (he : Ends s i (s.exec P i op) a d') (hsame : p' = p ∨ a = .rv CKR_OK ∧ op.rewrites = true) :
    Accounted P s (i, op) := by
  refine accounted_of_none ((role_of_process hprocess).trans hrole)
    (.inr ⟨d', p', he.standing h hd⟩) ?_
  rcases hsame with rfl | ⟨hok, hrewrites⟩
  · exact .inl fun so => (left_of_stands he.disk hd so).trans (left_of_stands h.disk h.stands so).symm
  · exact .inr ⟨he.answer.trans hok, hrewrites⟩

/-- A step that does nothing. -/
lemma accounted_same (h : AnyStanding s) (hprocess : s.process i = none)
    (hsame : (s.exec P i op).2 = s) : Accounted P s (i, op) := by
  have hnext : s.next P (i, op) = s := hsame
  have hrole : s.role (i, op) = none := by
    rw [System.role, hprocess]
    rfl
  exact accounted_of_none hrole (by rw [hnext]; exact h) (.inl fun so => by rw [hnext])

lemma accounted_reAuthenticate (h : Standing s d p) (hprocess : s.process i = some ⟨c, some m⟩)
    (pin : ByteString) : Accounted P s (i, .reAuthenticate pin) := by
  by_cases hl : LoggedIn m
  · obtain ⟨rv, d', he, hpaid⟩ := ends_call h hprocess (fresh_reAuthenticate .done pin)
      (pays_reAuthenticate .done pin hl)
    refine accounted_of_paid h hprocess ?_ he hpaid
    cases hso : m.soLoggedIn with
    | true => rw [Op.role, if_pos hso]
    | false =>
      have hu : m.userLoggedIn = true := hl.resolve_left (by simp [hso])
      rw [Op.role, if_neg (by simp [hso]), if_pos hu]
  · have heval := @eval_reAuthenticate_nobody P pin d m hl .done
    obtain ⟨c', hc, hvisit⟩ := visit_stands (h.copies i c _ hprocess).1
      (@fresh_reAuthenticate P m .done pin) ⟨p, by rw [heval]; exact h.stands⟩
    have he : Ends s i (s.exec P i (.reAuthenticate pin)) (.rv CKR_OPERATION_NOT_INITIALIZED) d := by
      unfold System.exec
      dsimp only
      rw [call_eq hprocess h.disk, hvisit, heval]
      exact ends_set hc
    refine accounted_of_ends h hprocess ?_ h.stands he (.inl rfl)
    simp only [LoggedIn, not_or] at hl
    rw [Op.role, if_neg hl.1, if_neg hl.2]

lemma accounted_initUserPIN (h : Standing s d p) (hprocess : s.process i = some ⟨c, some m⟩)
    (draws : Draws) (pin : ByteString) : Accounted P s (i, .initUserPIN draws pin) := by
  obtain ⟨q, hq⟩ := (h.copies i c _ hprocess).1
  have hends : ∀ {rv : CK_RV} {m' : SecureDataManager} {c' d' : TokenObject},
      (Token.initUserPIN P (pinEnv draws draws) pin m).visit c d = ((rv, m'), c', d') →
      (∃ q, Stands c' q) → Ends s i (s.exec P i (.initUserPIN draws pin)) (.rv rv) d' := by
    intro rv m' c' d' hvisit hc
    unfold System.exec
    dsimp only
    rw [call_eq hprocess h.disk, hvisit]
    exact (ends_set hc).note (f := fun s => { s with userPIN := some pin }) fun _ => ⟨rfl, rfl⟩
  rcases hset : SecureDataManager.setUserPIN P .none draws pin m with ⟨ok, m'⟩
  cases ok with
  | false =>
    obtain ⟨m₁, hvisit⟩ := visit_initUserPIN_refused c d (e := pinEnv draws draws)
      (congrArg Prod.fst hset)
    exact accounted_of_ends h hprocess rfl h.stands (hends hvisit ⟨q, hq⟩) (.inl rfl)
  | true =>
    obtain ⟨c', q', hvisit, hc', -⟩ := visit_initUserPIN_stored c d hq (e := pinEnv draws draws) hset
    exact accounted_of_ends h hprocess rfl hc' (hends hvisit ⟨q', hc'⟩) (.inr ⟨rfl, rfl⟩)

/-- A call that does nothing. -/
lemma ends_same (h : Standing s d p) (hprocess : s.process i = some ⟨c, some m⟩) :
    Ends s i (a, s) a d where
  answer := rfl
  disk := h.disk
  process := ⟨c, m, (h.copies i c _ hprocess).1, by rw [← hprocess, Function.update_eq_self]⟩

lemma accounted_createToken (h : Standing s d p) (hprocess : s.process i = some ⟨c, some m⟩)
    (r : FormatDraws) (requested : Option ByteString) (soPIN : ByteString)
    (label : Option ByteString) : Accounted P s (i, .createToken r requested soPIN label) := by
  suffices hends : ∃ rv d', Ends s i (s.exec P i (.createToken r requested soPIN label)) (.rv rv) d' ∧
      Paid p true True rv d' by
    obtain ⟨rv, d', he, p', hstands, hother, hpaid⟩ := hends
    exact accounted_of_paid h hprocess rfl he ⟨p', hstands, hother.imp_right fun ho => ⟨rfl, ho.2⟩, hpaid⟩
  have hrefused : ∀ {rv : CK_RV}, rv ≠ CKR_PIN_INCORRECT → rv ≠ CKR_PIN_LOCKED →
      ∃ rv' d', Ends s i (.rv rv, s) (.rv rv') d' ∧ Paid p true True rv' d' := fun hincorrect hlocked =>
    ⟨_, d, ends_same h hprocess, paid_other h.stands hincorrect fun he => absurd he hlocked⟩
  unfold System.exec System.createToken
  dsimp only
  rw [hprocess, h.disk]
  dsimp only
  cases hpolicy : newPolicy requested with
  | none => exact hrefused CK_RV.noConfusion CK_RV.noConfusion
  | some policy =>
    dsimp only
    split
    · exact hrefused CK_RV.noConfusion CK_RV.noConfusion
    cases label with
    | none => exact hrefused CK_RV.noConfusion CK_RV.noConfusion
    | some label =>
      obtain ⟨rv, m', d', heval, hpaid⟩ := @paid_recreate P d p True m h.stands (formatEnv r) rfl policy
        (valid_newPolicy hpolicy).1 soPIN label trivial
      have hstands : ∃ q, Stands d' q := hpaid.imp fun _ hq => hq.1
      obtain ⟨c', hc, hvisit⟩ := visit_stands (h.copies i c _ hprocess).1
        (show (Token.recreate P (formatEnv r) policy soPIN label (some m)).Fresh from trivial)
        (by rw [heval]; exact hstands)
      dsimp only
      rw [hvisit, heval]
      exact ⟨rv, d', (ends_set hc).note (f := fun s => { s with soPIN := soPIN, userPIN := none })
        fun _ => ⟨rfl, rfl⟩, hpaid⟩

lemma accounted_initTokenExtended (h : Standing s d p)
    (hprocess : s.process i = some ⟨c, some m⟩) (r : FormatDraws) (soPIN : ByteString)
    (pInitInfo : CK_RUTOKEN_INIT_PARAM) :
    Accounted P s (i, .initTokenExtended r soPIN pInitInfo) := by
  suffices hends : ∃ rv d', Ends s i (s.exec P i (.initTokenExtended r soPIN pInitInfo)) (.rv rv) d' ∧
      Paid p true True rv d' by
    obtain ⟨rv, d', he, p', hstands, hother, hpaid⟩ := hends
    exact accounted_of_paid h hprocess rfl he ⟨p', hstands, hother.imp_right fun ho => ⟨rfl, ho.2⟩, hpaid⟩
  unfold System.exec System.initTokenExtended
  dsimp only
  cases hcheck : pInitInfo.check with
  | none =>
    exact ⟨_, d, ends_same h hprocess,
      paid_other h.stands CK_RV.noConfusion CK_RV.noConfusion⟩
  | some k =>
    obtain ⟨rv, m', d', heval, hpaid⟩ := @paid_reformat P d p True m h.stands (formatEnv r) rfl k
      (valid_check hcheck).1 soPIN trivial
    have hstands : ∃ q, Stands d' q := hpaid.imp fun _ hq => hq.1
    obtain ⟨c', hc, hvisit⟩ := visit_stands (h.copies i c _ hprocess).1
      (fresh_reformat (formatEnv r) soPIN k) (by rw [heval]; exact hstands)
    dsimp only
    rw [hprocess, h.disk]
    dsimp only
    rw [hvisit, heval]
    exact ⟨rv, d', (ends_set hc).note
      (f := System.renewed r k.newSOPIN (some k.newUserPIN)) fun _ => ⟨rfl, rfl⟩, hpaid⟩

lemma accounted_encrypt (h : Standing s d p) (hprocess : s.process i = some ⟨c, some m⟩) (r : Draws)
    (x : ByteString) : Accounted P s (i, .encrypt r x) := by
  have he : Ends s i (s.exec P i (.encrypt r x)) (.bytes (SecureDataManager.encrypt P r x m).1) d := by
    unfold System.exec
    dsimp only
    rw [compute_eq hprocess h.disk]
    have hends : Ends s i (.bytes (SecureDataManager.encrypt P r x m).1,
        s.set i c d (some (SecureDataManager.encrypt P r x m).2))
        (.bytes (SecureDataManager.encrypt P r x m).1) d := ends_set (h.copies i c _ hprocess).1
    cases hvalue : (SecureDataManager.encrypt P r x m).1 with
    | none =>
      rw [hvalue] at hends
      exact hends
    | some y => exact ⟨rfl, rfl, hends.process⟩
  exact accounted_of_ends h hprocess rfl h.stands he (.inl rfl)

/-- A process that has the token. -/
lemma accounted_process (h : Standing s d p) (hprocess : s.process i = some ⟨c, some m⟩) (op : Op) :
    Accounted P s (i, op) := by
  have hc := (h.copies i c _ hprocess).1
  cases op with
  | start r =>
    have he : Ends s i (s.exec P i (.start r)) (.rv CKR_OK) d := by
      unfold System.exec
      dsimp only
      rw [h.disk]
      exact ends_set ⟨p, h.stands⟩
    exact accounted_of_ends h hprocess rfl h.stands he (.inl rfl)
  | loginSO r pin =>
    obtain ⟨rv, d', he, hpaid⟩ := ends_call h hprocess (fresh_loginSO r .done pin)
      (pays_loginSO r .done pin)
    exact accounted_of_paid h hprocess rfl he hpaid
  | loginUser r pin =>
    obtain ⟨rv, d', he, hpaid⟩ := ends_call h hprocess (fresh_loginUser r .done pin)
      (pays_loginUser r .done pin)
    exact accounted_of_paid h hprocess rfl he hpaid
  | reAuthenticate pin => exact accounted_reAuthenticate h hprocess pin
  | logout =>
    have he : Ends s i (s.exec P i .logout) (.rv CKR_OK) d := by
      unfold System.exec
      dsimp only
      rw [call_eq hprocess h.disk]
      exact ends_set hc
    exact accounted_of_ends h hprocess rfl h.stands he (.inl rfl)
  | setSOPIN verifier draws oldPIN newPIN =>
    obtain ⟨rv, d', he, hpaid⟩ := ends_call h hprocess
      (fresh_setSOPIN (pinEnv verifier draws) oldPIN newPIN) (pays_setSOPIN _ oldPIN newPIN)
    exact accounted_of_paid h hprocess rfl
      (he.note (f := fun s => { s with soPIN := newPIN }) fun _ => ⟨rfl, rfl⟩) hpaid
  | setUserPIN verifier draws oldPIN newPIN =>
    obtain ⟨rv, d', he, hpaid⟩ := ends_call h hprocess
      (fresh_setUserPIN (pinEnv verifier draws) oldPIN newPIN) (pays_setUserPIN _ oldPIN newPIN)
    exact accounted_of_paid h hprocess rfl
      (he.note (f := fun s => { s with userPIN := some newPIN }) fun _ => ⟨rfl, rfl⟩) hpaid
  | initUserPIN draws pin => exact accounted_initUserPIN h hprocess draws pin
  | createToken r requested soPIN label => exact accounted_createToken h hprocess r requested soPIN label
  | initTokenExtended r soPIN pInitInfo => exact accounted_initTokenExtended h hprocess r soPIN pInitInfo
  | encrypt r x => exact accounted_encrypt h hprocess r x
  | decrypt r y =>
    have he : Ends s i (s.exec P i (.decrypt r y))
        (.bytes (SecureDataManager.decrypt P r y m).1) d := by
      unfold System.exec
      dsimp only
      rw [compute_eq hprocess h.disk]
      exact ends_set hc
    exact accounted_of_ends h hprocess rfl h.stands he (.inl rfl)

/-! ### Processes without token -/

omit [DecidableEq ι] in
lemma role_absent (hprocess : s.process i = none) : s.role (i, op) = none := by
  rw [System.role, hprocess]
  rfl

lemma AnyStanding.first (hnone : ∀ i, s.process i = none) {a : TokenObject} {q : PinPolicy}
    (ha : Stands a q) {s' : System ι} (hdisk : s'.disk = some a)
    (hprocess : s'.process = Function.update s.process i (some ⟨a, some m⟩)) : AnyStanding s' := by
  refine .inr ⟨a, q, hdisk, ha, fun j c sdm hj => ?_⟩
  rw [hprocess] at hj
  by_cases hij : j = i
  · rw [hij, Function.update_self] at hj
    cases hj
    exact ⟨⟨q, ha⟩, rfl⟩
  · rw [Function.update_of_ne hij, hnone] at hj
    cases hj

lemma accounted_createToken_new (hnone : ∀ i, s.process i = none) (hdisk : s.disk = none)
    (r : FormatDraws) (requested : Option ByteString) (soPIN : ByteString)
    (label : Option ByteString) : Accounted P s (i, .createToken r requested soPIN label) := by
  have hsame : (s.exec P i (.createToken r requested soPIN label)).2 = s →
      Accounted P s (i, .createToken r requested soPIN label) :=
    accounted_same (.inl ⟨hdisk, hnone⟩) (hnone i)
  have hexec : s.exec P i (.createToken r requested soPIN label) = _ :=
    System.createToken_first P (hnone i) hdisk r requested soPIN label
  rw [hexec] at hsame
  unfold Token.createToken at hexec hsame
  cases hpolicy : newPolicy requested with
  | none =>
    rw [hpolicy] at hsame
    exact hsame rfl
  | some policy =>
    rw [hpolicy] at hexec hsame
    dsimp only at hexec hsame
    by_cases hlength : (decide (soPIN.length < policy.minSOLength.toNat) ||
        decide (soPIN.length > policy.maxLength.toNat)) = true
    · rw [if_pos hlength] at hsame
      exact hsame rfl
    rw [if_neg hlength] at hexec hsame
    cases label with
    | none => exact hsame rfl
    | some label =>
      simp only [Bool.or_eq_true, decide_eq_true_eq, not_or, Nat.not_lt] at hlength
      have hvalid := (valid_newPolicy hpolicy).1
      have hmin : 6 ≤ policy.minSOLength.toNat := hvalid.minSOLength
      have hpos : 0 < soPIN.length := by
        have hle := hlength.1
        omega
      obtain ⟨m, a, hnew, ha, -⟩ := createNew_done (P := P) (r := r) hvalid hpos label
      dsimp only at hexec
      rw [hnew] at hexec
      refine accounted_of_none (role_absent (hnone i)) ?_ (.inr ⟨congrArg Prod.fst hexec, rfl⟩)
      rw [System.next, hexec]
      exact .first hnone ha rfl rfl

lemma accounted_initTokenExtended_new (hnone : ∀ i, s.process i = none) (hdisk : s.disk = none)
    (r : FormatDraws) (soPIN : ByteString) (pInitInfo : CK_RUTOKEN_INIT_PARAM) :
    Accounted P s (i, .initTokenExtended r soPIN pInitInfo) := by
  have hsame : (s.exec P i (.initTokenExtended r soPIN pInitInfo)).2 = s →
      Accounted P s (i, .initTokenExtended r soPIN pInitInfo) :=
    accounted_same (.inl ⟨hdisk, hnone⟩) (hnone i)
  cases hcheck : pInitInfo.check with
  | none =>
    refine hsame ?_
    simp only [System.exec, System.initTokenExtended, hcheck]
  | some k =>
    have hexec : s.exec P i (.initTokenExtended r soPIN pInitInfo) = System.note
        (System.renewed r k.newSOPIN (some k.newUserPIN))
        (s.install i (Token.initNew P (formatEnv r) k)) := by
      simp only [System.exec, System.initTokenExtended, hcheck, hnone, hdisk]
    rw [hexec] at hsame
    cases hgen : Token.freshKey P (formatEnv r) k.newSOPIN k.newUserPIN with
    | none =>
      refine hsame ?_
      rw [Token.initNew, hgen]
      rfl
    | some gen =>
      obtain ⟨m, a, hnew, ha, -⟩ := initNew_of_fresh (valid_check hcheck).1 hgen
      rw [hnew] at hexec
      refine accounted_of_none (role_absent (hnone i)) ?_ (.inr ⟨congrArg Prod.fst hexec, rfl⟩)
      rw [System.next, hexec]
      exact .first hnone ha rfl rfl

lemma accounted_absent (h : AnyStanding s) (hprocess : s.process i = none) (op : Op) :
    Accounted P s (i, op) := by
  cases op with
  | start r =>
    rcases h with ⟨hdisk, hnone⟩ | ⟨d, p, h⟩
    · refine accounted_same (.inl ⟨hdisk, hnone⟩) hprocess ?_
      simp only [System.exec, hdisk]
    · have hexec : s.exec P i (.start r) = (.rv CKR_OK, s.set i d d
          (some (create r (readBlobs.eval d).1.1 (readBlobs.eval d).1.2))) := by
        simp only [System.exec, h.disk]
      have he : Ends s i (s.exec P i (.start r)) (.rv CKR_OK) d := by
        rw [hexec]
        exact ends_set ⟨p, h.stands⟩
      refine accounted_of_none (role_absent hprocess) (.inr ⟨d, p, he.standing h h.stands⟩)
        (.inl fun so => ?_)
      exact (left_of_stands he.disk h.stands so).trans (left_of_stands h.disk h.stands so).symm
  | createToken r requested soPIN label =>
    rcases h with ⟨hdisk, hnone⟩ | ⟨d, p, h⟩
    · exact accounted_createToken_new hnone hdisk r requested soPIN label
    · refine accounted_same (.inr ⟨d, p, h⟩) hprocess ?_
      simp only [System.exec, System.createToken, hprocess, h.disk]
  | initTokenExtended r soPIN pInitInfo =>
    rcases h with ⟨hdisk, hnone⟩ | ⟨d, p, h⟩
    · exact accounted_initTokenExtended_new hnone hdisk r soPIN pInitInfo
    · refine accounted_same (.inr ⟨d, p, h⟩) hprocess ?_
      cases hcheck : pInitInfo.check with
      | none => simp only [System.exec, System.initTokenExtended, hcheck]
      | some k =>
        simp only [System.exec, System.initTokenExtended, hcheck, hprocess, h.disk, note_absent]
  | setSOPIN _ _ _ _ | setUserPIN _ _ _ _ | initUserPIN _ _ =>
    refine accounted_same h hprocess ?_
    simp only [System.exec, call_absent hprocess, note_absent]
  | loginSO _ _ | loginUser _ _ | reAuthenticate _ | logout =>
    refine accounted_same h hprocess ?_
    simp only [System.exec, call_absent hprocess]
  | encrypt _ _ | decrypt _ _ =>
    refine accounted_same h hprocess ?_
    simp only [System.exec, compute_absent hprocess]

/-! ### Runs -/

/-- **One step.** -/
lemma accounted (h : AnyStanding s) (l : ι × Op) : Accounted P s l := by
  obtain ⟨i, op⟩ := l
  cases hprocess : s.process i with
  | none => exact accounted_absent h hprocess op
  | some process =>
    rcases h with ⟨-, hnone⟩ | ⟨d, p, h⟩
    · exact nomatch hprocess.symm.trans (hnone i)
    obtain ⟨c, sdm⟩ := process
    obtain ⟨m, rfl⟩ := Option.isSome_iff_exists.1 (h.copies i c sdm hprocess).2
    exact accounted_process h hprocess op

end account

end SoftHSM.SharedToken
