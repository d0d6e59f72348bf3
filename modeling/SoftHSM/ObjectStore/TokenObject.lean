import SoftHSM.Cryptoki
import SoftHSM.Lib.RecordFile
import SoftHSM.SlotMgr.PinPolicy
import Mathlib.Logic.Function.Basic

/-!
The token object: the attributes of `token.object`, and the operations of `OSToken` on them.
The blobs, the flags and the policy are written by plain stores, the marks and the counters
of the policy in transactions.
-/

namespace SoftHSM

open RecordFile
open RecordFile.File (settled)

def CKF_RNG : CK_FLAGS := (1 : UInt64) <<< 0
def CKF_LOGIN_REQUIRED : CK_FLAGS := (1 : UInt64) <<< 2
def CKF_USER_PIN_INITIALIZED : CK_FLAGS := (1 : UInt64) <<< 3
def CKF_RESTORE_KEY_NOT_NEEDED : CK_FLAGS := (1 : UInt64) <<< 5
def CKF_TOKEN_INITIALIZED : CK_FLAGS := (1 : UInt64) <<< 10
def CKF_USER_PIN_COUNT_LOW : CK_FLAGS := (1 : UInt64) <<< 16
def CKF_USER_PIN_FINAL_TRY : CK_FLAGS := (1 : UInt64) <<< 17
def CKF_USER_PIN_LOCKED : CK_FLAGS := (1 : UInt64) <<< 18
def CKF_USER_PIN_TO_BE_CHANGED : CK_FLAGS := (1 : UInt64) <<< 19
def CKF_SO_PIN_COUNT_LOW : CK_FLAGS := (1 : UInt64) <<< 20
def CKF_SO_PIN_FINAL_TRY : CK_FLAGS := (1 : UInt64) <<< 21
def CKF_SO_PIN_LOCKED : CK_FLAGS := (1 : UInt64) <<< 22
def CKF_SO_PIN_TO_BE_CHANGED : CK_FLAGS := (1 : UInt64) <<< 23

def CKU_SO : ℕ := 0
def CKU_USER : ℕ := 1

/-- The attributes of the token object that the operations here read or write. A mark that is
stored as an attribute of value true, and deleted otherwise, is a Boolean. -/
structure TokenObject where
  TOKENLABEL : ByteString := []
  TOKENNAME : Option ByteString := none
  TOKENFLAGS : Option CK_FLAGS := none
  SOPIN : Option ByteString := none
  USERPIN : Option ByteString := none
  PINPOLICY : Option ByteString := none
  LOCALPIN : ℕ → Option ByteString := fun _ => none
  PINDEFAULT : ℕ → Bool := fun _ => false
  USERPINEXPIRED : Bool := false

namespace TokenObject

abbrev Prog (α : Type) := RecordFile.Prog TokenObject α

def setAttribute (w : Write) (f : TokenObject → TokenObject) : Prog Bool := .set w f .ret

def transaction (w : Transaction) (f : TokenObject → Option TokenObject) :
    Prog (Outcome TokenObject) := .transact w f .ret

/-- `deleteAttribute`, where the attribute exists. -/
def deleteExisting (w : Write) (present : TokenObject → Bool) (f : TokenObject → TokenObject) :
    Prog Bool :=
  .peek fun a =>
    match a with
    | none => .ret true
    | some a => if present a then setAttribute w f else .ret true

/-- What `OSToken::createToken` leaves in a new token object. -/
def created (label : ByteString) : TokenObject where
  TOKENLABEL := label
  TOKENFLAGS := some (CKF_RNG ||| CKF_LOGIN_REQUIRED ||| CKF_RESTORE_KEY_NOT_NEEDED |||
    CKF_TOKEN_INITIALIZED ||| CKF_SO_PIN_LOCKED ||| CKF_SO_PIN_TO_BE_CHANGED)

def getSOPIN : Prog (Option ByteString) := .get fun a => .ret (a.bind (·.SOPIN))

def getUserPIN : Prog (Option ByteString) := .get fun a => .ret (a.bind (·.USERPIN))

def flagsOf (a : TokenObject) : Option CK_FLAGS :=
  a.TOKENFLAGS.map fun flags =>
    if a.USERPIN.isSome then flags ||| CKF_USER_PIN_INITIALIZED else flags

def getTokenFlags : Prog (Option CK_FLAGS) := .get fun a => .ret (a.bind flagsOf)

def setTokenFlags (w : Write) (flags : CK_FLAGS) : Prog Bool :=
  setAttribute w fun a => { a with TOKENFLAGS := some flags }

def setSOPIN (w w' : Write) (soPINBlob : ByteString) : Prog Bool := do
  if !(← setAttribute w fun a => { a with SOPIN := some soPINBlob }) then return false
  let some flags ← getTokenFlags | return false
  setTokenFlags w' (flags &&& ~~~CKF_SO_PIN_COUNT_LOW &&& ~~~CKF_SO_PIN_FINAL_TRY &&&
    ~~~CKF_SO_PIN_LOCKED &&& ~~~CKF_SO_PIN_TO_BE_CHANGED)

def setUserPIN (w w' : Write) (userPINBlob : ByteString) : Prog Bool := do
  if !(← setAttribute w fun a => { a with USERPIN := some userPINBlob }) then return false
  let some flags ← getTokenFlags | return false
  setTokenFlags w' ((flags ||| CKF_USER_PIN_INITIALIZED) &&& ~~~CKF_USER_PIN_COUNT_LOW &&&
    ~~~CKF_USER_PIN_FINAL_TRY &&& ~~~CKF_USER_PIN_LOCKED &&& ~~~CKF_USER_PIN_TO_BE_CHANGED)

/-- `getPinPolicy` of the token object, with the check of `Token::getPinPolicy`. -/
def getPinPolicy : Prog (Option PinPolicy) :=
  .get fun a => .ret (a.bind fun a => PinPolicy.getPinPolicy a.PINPOLICY)

def setPinPolicy (w : Write) (policy : PinPolicy) : Prog Bool :=
  setAttribute w fun a => { a with PINPOLICY := some (PinPolicy.setPinPolicy policy) }

/-- `advancePinPolicy`: the record that it stored. -/
def advancePinPolicy (w : Transaction) (so success : Bool) : Prog (Option ByteString) := do
  match ← transaction w fun a =>
      (PinPolicy.advancePinPolicy so success a.PINPOLICY).map fun policy =>
        { a with PINPOLICY := some policy } with
  | .committed a => return a.PINPOLICY
  | _ => return none

def setPinDefault (w : Transaction) (id : ℕ) (isDefault : Bool) : Prog Bool := do
  match ← transaction w fun a =>
      some { a with PINDEFAULT := Function.update a.PINDEFAULT id isDefault } with
  | .committed _ => return true
  | _ => return false

def setUserPinExpired (w : Transaction) (expired : Bool) : Prog Bool := do
  match ← transaction w fun a => some { a with USERPINEXPIRED := expired } with
  | .committed _ => return true
  | _ => return false

/-- `getLocalPIN`: the outer `none` where the object cannot be read. -/
def getLocalPIN (id : ℕ) : Prog (Option (Option ByteString)) :=
  .get fun a => .ret (a.map (·.LOCALPIN id))

/-- `updateLocalPIN`: `none` where it fails, otherwise whether the record was changed. -/
def updateLocalPIN (w : Transaction) (id : ℕ) (expected replacement : ByteString)
    (isDefault : Option Bool) : Prog (Option Bool) := do
  match ← transaction w fun a =>
      if (a.LOCALPIN id).getD [] ≠ expected then none
      else some { a with
        LOCALPIN := Function.update a.LOCALPIN id (some replacement)
        PINDEFAULT :=
          Function.update a.PINDEFAULT id (isDefault.getD (a.PINDEFAULT id)) } with
  | .failed => return none
  | .aborted => return some false
  | .committed _ => return some true

/-- How the steps of a reset turn out: the removal of the objects, and the stores of the
token object. -/
structure ResetWrites where
  objects : Bool
  label : Write
  flags : Write
  userPIN : Write
  name : Write
  localPIN : ℕ → Write
  pinDefault : ℕ → Write
  expired : Write

def deleteUserPIN (w : Write) : Prog Bool :=
  deleteExisting w (·.USERPIN.isSome) fun a => { a with USERPIN := none }

def deleteTokenName (w : Write) : Prog Bool :=
  deleteExisting w (·.TOKENNAME.isSome) fun a => { a with TOKENNAME := none }

def deleteLocalPIN (w : Write) (id : ℕ) : Prog Bool :=
  deleteExisting w (fun a => (a.LOCALPIN id).isSome) fun a =>
    { a with LOCALPIN := Function.update a.LOCALPIN id none }

def deletePinDefault (w : Write) (id : ℕ) : Prog Bool :=
  deleteExisting w (·.PINDEFAULT id) fun a =>
    { a with PINDEFAULT := Function.update a.PINDEFAULT id false }

def deleteUserPinExpired (w : Write) : Prog Bool :=
  deleteExisting w (·.USERPINEXPIRED) fun a => { a with USERPINEXPIRED := false }

/-- The loop of `resetToken` over the ids of local PINs. -/
def deleteLocalPINs (e : ResetWrites) : List ℕ → Prog Bool
  | [] => return true
  | id :: ids => do
    if !(← deleteLocalPIN (e.localPIN id) id) then return false
    if !(← deletePinDefault (e.pinDefault id) id) then return false
    deleteLocalPINs e ids

def resetToken (e : ResetWrites) (label : ByteString) : Prog Bool := do
  let some flags ← getTokenFlags | return false
  if !e.objects then return false
  let flags := flags &&& ~~~CKF_USER_PIN_INITIALIZED &&& ~~~CKF_USER_PIN_COUNT_LOW &&&
    ~~~CKF_USER_PIN_FINAL_TRY &&& ~~~CKF_USER_PIN_LOCKED &&& ~~~CKF_USER_PIN_TO_BE_CHANGED
  if !(← setAttribute e.label fun a => { a with TOKENLABEL := label }) then return false
  if !(← setTokenFlags e.flags flags) then return false
  if !(← deleteUserPIN e.userPIN) then return false
  if !(← deleteTokenName e.name) then return false
  if !(← deleteLocalPINs e ((List.range 29).map (· + 3))) then return false
  if !(← deletePinDefault (e.pinDefault CKU_SO) CKU_SO) then return false
  if !(← deletePinDefault (e.pinDefault CKU_USER) CKU_USER) then return false
  deleteUserPinExpired e.expired

/-! ### What the operations leave -/

section leaves

variable {γ : Type} {π : TokenObject → γ}

lemma leaves_getTokenFlags : getTokenFlags.Leaves π := fun _ => trivial

lemma leaves_getPinPolicy : getPinPolicy.Leaves π := fun _ => trivial

lemma leaves_getSOPIN : getSOPIN.Leaves π := fun _ => trivial

lemma leaves_getUserPIN : getUserPIN.Leaves π := fun _ => trivial

lemma leaves_getLocalPIN (id : ℕ) : (getLocalPIN id).Leaves π := fun _ => trivial

lemma leaves_setAttribute (w : Write) {f : TokenObject → TokenObject} (hf : ∀ a, π (f a) = π a) :
    (setAttribute w f).Leaves π := ⟨hf, fun _ => trivial⟩

lemma leaves_setTokenFlags (hflags : ∀ a x, π { a with TOKENFLAGS := x } = π a) (w : Write)
    (flags : CK_FLAGS) : (setTokenFlags w flags).Leaves π :=
  leaves_setAttribute w fun a => hflags a _

lemma leaves_setSOPIN (hpin : ∀ a x, π { a with SOPIN := x } = π a)
    (hflags : ∀ a x, π { a with TOKENFLAGS := x } = π a) (w w' : Write) (blob : ByteString) :
    (setSOPIN w w' blob).Leaves π := by
  unfold setSOPIN
  refine (leaves_setAttribute w fun a => hpin a _).bind fun ok => .ite trivial ?_
  refine leaves_getTokenFlags.bind fun flags => ?_
  split
  · exact leaves_setTokenFlags hflags _ _
  · trivial

lemma leaves_setUserPIN (hpin : ∀ a x, π { a with USERPIN := x } = π a)
    (hflags : ∀ a x, π { a with TOKENFLAGS := x } = π a) (w w' : Write) (blob : ByteString) :
    (setUserPIN w w' blob).Leaves π := by
  unfold setUserPIN
  refine (leaves_setAttribute w fun a => hpin a _).bind fun ok => .ite trivial ?_
  refine leaves_getTokenFlags.bind fun flags => ?_
  split
  · exact leaves_setTokenFlags hflags _ _
  · trivial

lemma leaves_setPinDefault (hdefault : ∀ a x, π { a with PINDEFAULT := x } = π a)
    (w : Transaction) (id : ℕ) (isDefault : Bool) : (setPinDefault w id isDefault).Leaves π := by
  refine ⟨fun a a' ha => ?_, fun r => ?_⟩
  · rw [← Option.some.inj ha]
    exact hdefault a _
  · rcases r with _ | _ | a <;> trivial

lemma leaves_setUserPinExpired (hexpired : ∀ a x, π { a with USERPINEXPIRED := x } = π a)
    (w : Transaction) (expired : Bool) : (setUserPinExpired w expired).Leaves π := by
  refine ⟨fun a a' ha => ?_, fun r => ?_⟩
  · rw [← Option.some.inj ha]
    exact hexpired a _
  · rcases r with _ | _ | a <;> trivial

lemma leaves_updateLocalPIN
    (hlocal : ∀ a x y, π { a with LOCALPIN := x, PINDEFAULT := y } = π a) (w : Transaction)
    (id : ℕ) (expected replacement : ByteString) (isDefault : Option Bool) :
    (updateLocalPIN w id expected replacement isDefault).Leaves π := by
  refine ⟨fun a a' ha => ?_, fun r => ?_⟩
  · dsimp only at ha
    split at ha
    · cases ha
    · rw [← Option.some.inj ha]
      exact hlocal a _ _
  · rcases r with _ | _ | a <;> trivial

lemma leaves_deleteExisting (w : Write) {present : TokenObject → Bool}
    {f : TokenObject → TokenObject} (hf : ∀ a, π (f a) = π a) :
    (deleteExisting w present f).Leaves π := by
  intro a
  rcases a with _ | a
  · trivial
  · exact .ite (leaves_setAttribute w hf) trivial

section reset

variable (hlocal : ∀ a x, π { a with LOCALPIN := x } = π a)
  (hdefault : ∀ a x, π { a with PINDEFAULT := x } = π a)

include hlocal hdefault in
lemma leaves_deleteLocalPINs (e : ResetWrites) (ids : List ℕ) :
    (deleteLocalPINs e ids).Leaves π := by
  induction ids with
  | nil => trivial
  | cons id ids ih =>
    refine (leaves_deleteExisting _ fun a => hlocal a _).bind fun ok => .ite trivial ?_
    exact (leaves_deleteExisting _ fun a => hdefault a _).bind fun ok => .ite trivial ih

/-- A reset leaves the SO blob and the policy. -/
lemma leaves_resetToken (hπ : ∀ a l n f u lp pd ex, π { a with
      TOKENLABEL := l, TOKENNAME := n, TOKENFLAGS := f, USERPIN := u, LOCALPIN := lp
      PINDEFAULT := pd, USERPINEXPIRED := ex } = π a)
    (e : ResetWrites) (label : ByteString) : (resetToken e label).Leaves π := by
  have hlocal : ∀ a x, π { a with LOCALPIN := x } = π a := fun a x =>
    hπ a a.TOKENLABEL a.TOKENNAME a.TOKENFLAGS a.USERPIN x a.PINDEFAULT a.USERPINEXPIRED
  have hdefault : ∀ a x, π { a with PINDEFAULT := x } = π a := fun a x =>
    hπ a a.TOKENLABEL a.TOKENNAME a.TOKENFLAGS a.USERPIN a.LOCALPIN x a.USERPINEXPIRED
  unfold resetToken
  refine leaves_getTokenFlags.bind fun flags => ?_
  split
  swap
  · trivial
  refine .ite trivial ?_
  refine (leaves_setAttribute _ fun a => hπ a _ a.TOKENNAME a.TOKENFLAGS a.USERPIN a.LOCALPIN
    a.PINDEFAULT a.USERPINEXPIRED).bind fun ok => .ite trivial ?_
  refine (leaves_setTokenFlags (fun a x => hπ a a.TOKENLABEL a.TOKENNAME x a.USERPIN a.LOCALPIN
    a.PINDEFAULT a.USERPINEXPIRED) _ _).bind fun ok => .ite trivial ?_
  refine (leaves_deleteExisting _ fun a => hπ a a.TOKENLABEL a.TOKENNAME a.TOKENFLAGS _ a.LOCALPIN
    a.PINDEFAULT a.USERPINEXPIRED).bind fun ok => .ite trivial ?_
  refine (leaves_deleteExisting _ fun a => hπ a a.TOKENLABEL _ a.TOKENFLAGS a.USERPIN a.LOCALPIN
    a.PINDEFAULT a.USERPINEXPIRED).bind fun ok => .ite trivial ?_
  refine (leaves_deleteLocalPINs hlocal hdefault e _).bind fun ok => .ite trivial ?_
  refine (leaves_deleteExisting _ fun a => hdefault a _).bind fun ok => .ite trivial ?_
  refine (leaves_deleteExisting _ fun a => hdefault a _).bind fun ok => .ite trivial ?_
  exact leaves_deleteExisting _ fun a => hπ a a.TOKENLABEL a.TOKENNAME a.TOKENFLAGS a.USERPIN
    a.LOCALPIN a.PINDEFAULT _

end reset

end leaves

/-! ### The operations on a token object that nothing disturbs -/

lemma eval_deleteExisting (w : Write) (present : TokenObject → Bool)
    (f : TokenObject → TokenObject) (a : TokenObject) :
    ((deleteExisting w present f).eval a).1 = true := by
  simp only [deleteExisting, Prog.eval]
  split <;> rfl

lemma eval_deleteLocalPINs (e : ResetWrites) (ids : List ℕ) (a : TokenObject) :
    ((deleteLocalPINs e ids).eval a).1 = true := by
  induction ids generalizing a with
  | nil => rfl
  | cons id ids ih =>
    have hlocal : ∀ a, ((deleteLocalPIN (e.localPIN id) id).eval a).1 = true :=
      fun a => eval_deleteExisting _ _ _ a
    have hdefault : ∀ a, ((deletePinDefault (e.pinDefault id) id).eval a).1 = true :=
      fun a => eval_deleteExisting _ _ _ a
    simp only [deleteLocalPINs, Prog.eval_bind, hlocal, hdefault, Bool.not_true,
      Bool.false_eq_true, if_false, ih]

/-- A reset that nothing disturbs succeeds on a token that has its flags. -/
lemma eval_resetToken {e : ResetWrites} (he : e.objects = true) {a : TokenObject}
    {flags : CK_FLAGS} (hf : flagsOf a = some flags) (label : ByteString) :
    ((resetToken e label).eval a).1 = true := by
  have hget : getTokenFlags.eval a = (some flags, a) := by
    simp only [getTokenFlags, Prog.eval, Option.bind_some, hf]
  have hset : ∀ w f a, ((setAttribute w f).eval a).1 = true := fun _ _ _ => rfl
  have hflags : ∀ w f a, ((setTokenFlags w f).eval a).1 = true := fun _ _ _ => rfl
  have huser : ∀ w a, ((deleteUserPIN w).eval a).1 = true := fun _ a => eval_deleteExisting _ _ _ a
  have hname : ∀ w a, ((deleteTokenName w).eval a).1 = true :=
    fun _ a => eval_deleteExisting _ _ _ a
  have hdefault : ∀ w id a, ((deletePinDefault w id).eval a).1 = true :=
    fun _ _ a => eval_deleteExisting _ _ _ a
  have hexpired : ∀ w a, ((deleteUserPinExpired w).eval a).1 = true :=
    fun _ a => eval_deleteExisting _ _ _ a
  simp only [resetToken, Prog.eval_bind, hget, he, hset, hflags, huser, hname, hdefault,
    eval_deleteLocalPINs, hexpired, Bool.not_true, Bool.false_eq_true, if_false]

/-! ### A token object with nothing to delete -/

lemma run_deleteExisting_absent (w : Write) {present : TokenObject → Bool}
    {f : TokenObject → TokenObject} {a : TokenObject} (h : present a = false) :
    (deleteExisting w present f).run (settled a) = (true, settled a) := by
  simp only [deleteExisting, Prog.run, File.copy, settled, if_true, h]
  rfl

lemma run_deleteLocalPINs_absent {a : TokenObject} (hl : ∀ id, a.LOCALPIN id = none)
    (hd : ∀ id, a.PINDEFAULT id = false) (e : ResetWrites) (ids : List ℕ) :
    (deleteLocalPINs e ids).run (settled a) = (true, settled a) := by
  induction ids with
  | nil => rfl
  | cons id ids ih =>
    have hlocal : (deleteLocalPIN (e.localPIN id) id).run (settled a) = (true, settled a) :=
      run_deleteExisting_absent _ (by simp [hl])
    have hdefault : (deletePinDefault (e.pinDefault id) id).run (settled a) = (true, settled a) :=
      run_deleteExisting_absent _ (hd id)
    simp only [deleteLocalPINs, Prog.run_bind, hlocal, hdefault, Bool.not_true, Bool.false_eq_true,
      if_false, ih]

/-- A token object with its flags and its policy only. -/
def bare (label : ByteString) (flags : CK_FLAGS) (policy : ByteString) : TokenObject :=
  { TOKENLABEL := label, TOKENFLAGS := some flags, PINPOLICY := some policy }

/-- A reset of a token that has nothing to delete. -/
lemma run_resetToken_bare {e : ResetWrites} (ho : e.objects = true) (hl : e.label = .done)
    (hf : e.flags = .done) (label label' policy : ByteString) (flags : CK_FLAGS) :
    ∃ flags', (resetToken e label').run (settled (bare label flags policy)) =
      (true, settled (bare label' flags' policy)) := by
  have hids := fun flags ids => run_deleteLocalPINs_absent (a := bare label' flags policy)
    (fun _ => rfl) (fun _ => rfl) e ids
  have hget : getTokenFlags.run (settled (bare label flags policy)) =
    (some flags, settled (bare label flags policy)) := rfl
  have hlabel : (setAttribute .done fun a => { a with TOKENLABEL := label' }).run
      (settled (bare label flags policy)) = (true, settled (bare label' flags policy)) := rfl
  have hflags : ∀ flags', (setTokenFlags .done flags').run (settled (bare label' flags policy)) =
      (true, settled (bare label' flags' policy)) := fun _ => rfl
  have huser : ∀ w flags, (deleteUserPIN w).run (settled (bare label' flags policy)) =
      (true, settled (bare label' flags policy)) := fun _ _ => rfl
  have hname : ∀ w flags, (deleteTokenName w).run (settled (bare label' flags policy)) =
      (true, settled (bare label' flags policy)) := fun _ _ => rfl
  have hdefault : ∀ w id flags, (deletePinDefault w id).run (settled (bare label' flags policy)) =
      (true, settled (bare label' flags policy)) := fun _ _ _ => rfl
  have hexpired : ∀ w flags, (deleteUserPinExpired w).run (settled (bare label' flags policy)) =
      (true, settled (bare label' flags policy)) := fun _ _ => rfl
  simp only [resetToken, Prog.run_bind, hget, ho, hl, hf, hlabel, hflags, huser, hname, hids,
    hdefault, hexpired, Bool.not_true, Bool.false_eq_true, if_false]
  exact ⟨_, rfl⟩

end TokenObject

end SoftHSM
