import Mathlib.Algebra.Group.Nat.Defs
import SoftHSM.SlotMgr.PinPolicy

/-!
The policies that a token is initialised with: the text of `SOFTHSM2_INIT_PIN_POLICY`, read
with the format `%u:%u:%u:%u%c`, and the parameters of `C_EX_InitToken`. Each has a check of
its own; both let through policies that a record may hold, and no others.
-/

namespace SoftHSM

/-! ### The text -/

def isspace (c : UInt8) : Bool := c == 32 || (9 ≤ c && c ≤ 13)

def isdigit (c : UInt8) : Bool := 48 ≤ c && c ≤ 57

/-- `%u`: white space, a sign, digits. The digits are read as an `unsigned long`, which stays
at its last value when they do not fit and wraps under a minus sign, and the result is cut to
an `unsigned int`. -/
def scanUnsigned (s : ByteString) : Option (ℕ × ByteString) :=
  let s := s.dropWhile isspace
  let negative := s.head? == some 45
  let s := if s.head? == some 45 || s.head? == some 43 then s.tail else s
  let digits := s.takeWhile isdigit
  if digits.isEmpty then none
  else
    let value : ℕ := digits.foldl (fun n d => 10 * n + (d.toNat - 48)) 0
    let long : ℕ :=
      if 2 ^ 64 ≤ value then 2 ^ 64 - 1
      else if negative then (2 ^ 64 - value) % 2 ^ 64
      else value
    some (long % 2 ^ 32, s.dropWhile isdigit)

/-- The colon of the format. -/
def scanColon : ByteString → Option ByteString
  | 58 :: s => some s
  | _ => none

/-- `sscanf(requested, "%u:%u:%u:%u%c", ..) == 4`. -/
def scanPolicy (requested : ByteString) : Option (ℕ × ℕ × ℕ × ℕ) := do
  let (so, s) ← scanUnsigned requested
  let s ← scanColon s
  let (user, s) ← scanUnsigned s
  let s ← scanColon s
  let (minLen, s) ← scanUnsigned s
  let s ← scanColon s
  let (maxLen, s) ← scanUnsigned s
  -- a character that is left over is a fifth conversion
  if s.isEmpty then some (so, user, minLen, maxLen) else none

/-- The first lines of `Token::createToken`: the policy of the new token, the default one
where nothing is requested. -/
def newPolicy (requested : Option ByteString) : Option PinPolicy :=
  match requested with
  | none => some {}
  | some [] => some {}
  | some requested =>
    match scanPolicy requested with
    | none => none
    | some (so, user, minLen, maxLen) =>
      if so < 3 || so > 15 || user < 3 || user > 15 || minLen < 6 || maxLen > 32 ||
          minLen > maxLen then none
      else some
        { maxSO := UInt8.ofNat so
          leftSO := UInt8.ofNat so
          maxUser := UInt8.ofNat user
          leftUser := UInt8.ofNat user
          minLength := UInt8.ofNat minLen
          minSOLength := UInt8.ofNat minLen
          maxLength := UInt8.ofNat maxLen }

/-! ### The parameters of `C_EX_InitToken` -/

def TOKEN_FLAGS_ADMIN_CHANGE_USER_PIN : UInt64 := 1
def TOKEN_FLAGS_USER_CHANGE_USER_PIN : UInt64 := 2

/-- A PIN is the bytes behind its pointer, as many as its length says. -/
structure CK_RUTOKEN_INIT_PARAM where
  ulSizeofThisStructure : ℕ
  UseRepairMode : ℕ
  newAdminPin : Option ByteString
  newUserPin : Option ByteString
  ChangeUserPINPolicy : UInt64
  ulMinAdminPinLen : ℕ
  ulMinUserPinLen : ℕ
  ulMaxAdminRetryCount : ℕ
  ulMaxUserRetryCount : ℕ
  pTokenLabel : Option ByteString
  ulLabelLen : ℕ
  ulSmMode : ℕ

namespace CK_RUTOKEN_INIT_PARAM

/-- `sizeof(CK_RUTOKEN_INIT_PARAM)`: fourteen fields of 64 bits. -/
def size : ℕ := 112

def modelMinPin : ℕ := 6
def modelMaxPin : ℕ := 32

/-- What `C_EX_InitToken` makes of its parameters once they pass its checks. -/
structure Checked where
  repairMode : Bool
  newSOPIN : ByteString
  newUserPIN : ByteString
  policy : PinPolicy
  label : ByteString

/-- The checks of `C_EX_InitToken` on its parameters, all with the answer
`CKR_ARGUMENTS_BAD`. -/
def check (pInitInfo : CK_RUTOKEN_INIT_PARAM) : Option Checked :=
  if pInitInfo.ulSizeofThisStructure ≠ size then none
  else
    match pInitInfo.newAdminPin, pInitInfo.newUserPin with
    | some newSOPIN, some newUserPIN =>
      let changeUserPinBits := TOKEN_FLAGS_ADMIN_CHANGE_USER_PIN ||| TOKEN_FLAGS_USER_CHANGE_USER_PIN
      if pInitInfo.ulMinAdminPinLen < modelMinPin || pInitInfo.ulMinAdminPinLen > modelMaxPin ||
          pInitInfo.ulMinUserPinLen < modelMinPin || pInitInfo.ulMinUserPinLen > modelMaxPin then
        none
      else if newSOPIN.length < pInitInfo.ulMinAdminPinLen || newSOPIN.length > modelMaxPin ||
          newUserPIN.length < pInitInfo.ulMinUserPinLen || newUserPIN.length > modelMaxPin then
        none
      else if pInitInfo.ulMaxAdminRetryCount < 3 || pInitInfo.ulMaxAdminRetryCount > 10 ||
          pInitInfo.ulMaxUserRetryCount < 3 || pInitInfo.ulMaxUserRetryCount > 10 then none
      else if pInitInfo.ChangeUserPINPolicy &&& changeUserPinBits = 0 ||
          pInitInfo.ChangeUserPINPolicy &&& ~~~changeUserPinBits ≠ 0 then none
      else if pInitInfo.ulLabelLen > 32 ||
          (pInitInfo.pTokenLabel.isNone && pInitInfo.ulLabelLen ≠ 0) then none
      else if pInitInfo.ulSmMode ≠ 0 then none
      else some
        { repairMode := pInitInfo.UseRepairMode != 0
          newSOPIN := newSOPIN
          newUserPIN := newUserPIN
          policy :=
            { minLength := UInt8.ofNat pInitInfo.ulMinUserPinLen
              minSOLength := UInt8.ofNat pInitInfo.ulMinAdminPinLen
              maxLength := UInt8.ofNat modelMaxPin
              changeUserPINPolicy := pInitInfo.ChangeUserPINPolicy.toUInt8
              maxSO := UInt8.ofNat pInitInfo.ulMaxAdminRetryCount
              leftSO := UInt8.ofNat pInitInfo.ulMaxAdminRetryCount
              maxUser := UInt8.ofNat pInitInfo.ulMaxUserRetryCount
              leftUser := UInt8.ofNat pInitInfo.ulMaxUserRetryCount }
          label := (pInitInfo.pTokenLabel.getD []).take pInitInfo.ulLabelLen ++
            List.replicate (32 - pInitInfo.ulLabelLen) 32 }
    | _, _ => none

end CK_RUTOKEN_INIT_PARAM

/-! ### Both let through valid policies -/

lemma ofNat_le {m n : ℕ} (hmn : m ≤ n) (hn : n < 256) : UInt8.ofNat m ≤ UInt8.ofNat n := by
  rw [UInt8.le_iff_toNat_le]
  simp only [UInt8.toNat_ofNat']
  omega

/-- **The text and the policy.** Whatever `createToken` takes from its environment is a policy
that the record may hold, with both counters full. -/
theorem valid_newPolicy {requested : Option ByteString} {p : PinPolicy}
    (h : newPolicy requested = some p) :
    p.Valid ∧ p.leftSO = p.maxSO ∧ p.leftUser = p.maxUser := by
  have hdefault : ({} : PinPolicy).Valid := PinPolicy.valid_default
  unfold newPolicy at h
  split at h
  · cases h
    exact ⟨hdefault, rfl, rfl⟩
  · cases h
    exact ⟨hdefault, rfl, rfl⟩
  split at h
  · cases h
  rename_i so user minLen maxLen hscan
  split at h
  · cases h
  rename_i hrange
  simp only [Bool.or_eq_true, decide_eq_true_eq, not_or, Nat.not_lt, gt_iff_lt] at hrange
  obtain ⟨⟨⟨⟨⟨⟨hso, hso'⟩, huser⟩, huser'⟩, hmin⟩, hmax⟩, hlen⟩ := hrange
  cases h
  refine ⟨?_, rfl, rfl⟩
  constructor
  case minLength => exact ofNat_le hmin (by omega)
  case maxLength => exact ofNat_le hmax (by decide)
  case length => exact ofNat_le hlen (by omega)
  case minSOLength => exact ofNat_le hmin (by omega)
  case soLength => exact ofNat_le hlen (by omega)
  case changeUserPINPolicy => exact hdefault.changeUserPINPolicy
  case maxSO => exact ⟨ofNat_le hso (by omega), ofNat_le hso' (by decide)⟩
  case maxUser => exact ⟨ofNat_le huser (by omega), ofNat_le huser' (by decide)⟩
  case leftSO => exact UInt8.le_refl _
  case leftUser => exact UInt8.le_refl _

/-- Flags within the two bits, and not without both, fit the byte of the record. -/
lemma changeUserPIN_bits {x : UInt64} (h0 : x &&& 3 ≠ 0) (h : x &&& ~~~3 = 0) :
    1 ≤ x.toUInt8 ∧ x.toUInt8 ≤ 3 := by
  have hx : x = x &&& 3 := by
    have hsplit : x = (x &&& 3) ||| (x &&& ~~~3) := by
      rw [← UInt64.toBitVec_inj]
      simp only [UInt64.toBitVec_or, UInt64.toBitVec_and, UInt64.toBitVec_not]
      ext i hi
      simp only [BitVec.getElem_or, BitVec.getElem_and, BitVec.getElem_not]
      cases x.toBitVec[i] <;> simp
    rw [h, UInt64.or_zero] at hsplit
    exact hsplit
  have h3 : x.toNat ≤ 3 := by
    have hn := congrArg UInt64.toNat hx
    rw [UInt64.toNat_and] at hn
    exact hn ▸ Nat.and_le_right
  have h1 : 1 ≤ x.toNat := by
    by_contra hn
    have hz : x = 0 := UInt64.toNat_inj.1 (by simp; omega)
    exact h0 (by rw [hz]; rfl)
  have h8 : x.toUInt8.toNat = x.toNat := by
    rw [UInt64.toNat_toUInt8]
    omega
  rw [UInt8.le_iff_toNat_le, UInt8.le_iff_toNat_le, h8]
  exact ⟨h1, h3⟩

/-- **The parameters and the policy.** Whatever `C_EX_InitToken` lets through is a policy that
the record may hold, with both counters full. -/
theorem valid_check {pInitInfo : CK_RUTOKEN_INIT_PARAM} {c : CK_RUTOKEN_INIT_PARAM.Checked}
    (h : pInitInfo.check = some c) :
    c.policy.Valid ∧ c.policy.leftSO = c.policy.maxSO ∧ c.policy.leftUser = c.policy.maxUser := by
  unfold CK_RUTOKEN_INIT_PARAM.check at h
  split at h
  · cases h
  split at h
  case h_2 => cases h
  dsimp only at h
  split at h
  · cases h
  rename_i hlen
  split at h
  · cases h
  split at h
  · cases h
  rename_i hretry
  split at h
  · cases h
  rename_i hchange
  split at h
  · cases h
  split at h
  · cases h
  cases h
  simp only [Bool.or_eq_true, decide_eq_true_eq, not_or, Nat.not_lt, gt_iff_lt]
    at hlen hretry hchange
  unfold CK_RUTOKEN_INIT_PARAM.modelMinPin CK_RUTOKEN_INIT_PARAM.modelMaxPin at hlen
  obtain ⟨⟨⟨hso, hso'⟩, huser⟩, huser'⟩ := hlen
  obtain ⟨⟨⟨hrso, hrso'⟩, hruser⟩, hruser'⟩ := hretry
  have hbits := changeUserPIN_bits hchange.1 (not_not.1 hchange.2)
  have h15 : UInt8.ofNat 10 ≤ 15 := by decide
  refine ⟨?_, rfl, rfl⟩
  constructor
  case minLength => exact ofNat_le huser (by omega)
  case maxLength => exact UInt8.le_refl _
  case length => exact ofNat_le huser' (by decide)
  case minSOLength => exact ofNat_le hso (by omega)
  case soLength => exact ofNat_le hso' (by decide)
  case changeUserPINPolicy => exact hbits
  case maxSO => exact ⟨ofNat_le hrso (by omega), UInt8.le_trans (ofNat_le hrso' (by decide)) h15⟩
  case maxUser =>
    exact ⟨ofNat_le hruser (by omega), UInt8.le_trans (ofNat_le hruser' (by decide)) h15⟩
  case leftSO => exact UInt8.le_refl _
  case leftUser => exact UInt8.le_refl _

end SoftHSM
