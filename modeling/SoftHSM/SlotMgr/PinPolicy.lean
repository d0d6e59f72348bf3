import SoftHSM.DataMgr.SecureDataManager
import Mathlib.Data.Nat.Notation

/-!
The PIN policy of a token and its stored record: seven bytes in the first version, nine in
the second. The record is read by `getPinPolicy`, written by `setPinPolicy` and advanced in
place by `advancePinPolicy`, each with its own check.
-/

namespace SoftHSM

structure PinPolicy where
  minLength : UInt8 := 6
  minSOLength : UInt8 := 6
  maxLength : UInt8 := 32
  changeUserPINPolicy : UInt8 := 3
  maxSO : UInt8 := 10
  maxUser : UInt8 := 10
  leftSO : UInt8 := 10
  leftUser : UInt8 := 10
  deriving DecidableEq

namespace PinPolicy

/-- The byte of a record at an index. -/
def byte (bytes : ByteString) (i : ℕ) : UInt8 := bytes.getD i 0

lemma byte_set {bytes : ByteString} {i : ℕ} (h : i < bytes.length) (x : UInt8) :
    byte (bytes.set i x) i = x := by
  unfold byte
  rw [List.getD_eq_getElem?_getD, List.getElem?_set_self h, Option.getD_some]

/-- The check of `Token::getPinPolicy` on a stored record. -/
def accepts (bytes : ByteString) : Bool :=
  !((bytes.length != 7 && bytes.length != 9) ||
    byte bytes 0 != (if bytes.length == 7 then 1 else 2) || byte bytes 1 < 6 ||
    byte bytes 2 > 32 || byte bytes 1 > byte bytes 2 ||
    byte bytes 3 < 3 || byte bytes 3 > 15 || byte bytes 4 < 3 || byte bytes 4 > 15 ||
    byte bytes 5 > byte bytes 3 || byte bytes 6 > byte bytes 4) &&
  !(bytes.length == 9 && (byte bytes 7 < 6 || byte bytes 7 > byte bytes 2 ||
    byte bytes 8 < 1 || byte bytes 8 > 3))

/-- `Token::getPinPolicy` on the record, absent on tokens that predate it. -/
def getPinPolicy : Option ByteString → Option PinPolicy
  | none => some {}
  | some bytes =>
    if !accepts bytes then none
    else some
      { minLength := byte bytes 1
        maxLength := byte bytes 2
        minSOLength := if bytes.length == 9 then byte bytes 7 else byte bytes 1
        changeUserPINPolicy := if bytes.length == 9 then byte bytes 8 else 3
        maxSO := byte bytes 3
        maxUser := byte bytes 4
        leftSO := byte bytes 5
        leftUser := byte bytes 6 }

/-- The record that `Token::setPinPolicy` stores. -/
def setPinPolicy (policy : PinPolicy) : ByteString :=
  [2, policy.minLength, policy.maxLength, policy.maxSO, policy.maxUser, policy.leftSO,
    policy.leftUser, policy.minSOLength, policy.changeUserPINPolicy]

/-- The record that `OSToken::advancePinPolicy` starts from where none is stored. -/
def firstRecord : ByteString := [1, 6, 32, 10, 10, 10, 10]

def leftIndex (so : Bool) : ℕ := if so then 5 else 6
def maxIndex (so : Bool) : ℕ := if so then 3 else 4

/-- The check of `OSToken::advancePinPolicy` on the record it found. -/
def advanceable (so : Bool) (policy : ByteString) : Bool :=
  !(((policy.length != 7 || byte policy 0 != 1) && (policy.length != 9 || byte policy 0 != 2)) ||
    byte policy (leftIndex so) > byte policy (maxIndex so))

/-- The record after an attempt: a counter at 0 stays there. -/
def advanced (so success : Bool) (policy : ByteString) : ByteString :=
  if byte policy (leftIndex so) != 0 then
    if success then policy.set (leftIndex so) (byte policy (maxIndex so))
    else policy.set (leftIndex so) (byte policy (leftIndex so) - 1)
  else policy

/-- `OSToken::advancePinPolicy`, up to the storing of its result. -/
def advancePinPolicy (so success : Bool) (stored : Option ByteString) : Option ByteString :=
  let policy := stored.getD firstRecord
  if !advanceable so policy then none else some (advanced so success policy)

/-- The counter and the budget of a role. -/
def left (p : PinPolicy) (so : Bool) : UInt8 := if so then p.leftSO else p.leftUser
def max (p : PinPolicy) (so : Bool) : UInt8 := if so then p.maxSO else p.maxUser

def setLeft (p : PinPolicy) (so : Bool) (n : UInt8) : PinPolicy :=
  if so then { p with leftSO := n } else { p with leftUser := n }

/-- What an attempt does to a policy. -/
def advance (so success : Bool) (p : PinPolicy) : PinPolicy :=
  if p.left so = 0 then p
  else if success then p.setLeft so (p.max so)
  else p.setLeft so (p.left so - 1)

/-- The policies that a record may hold. -/
structure Valid (p : PinPolicy) : Prop where
  minLength : 6 ≤ p.minLength
  maxLength : p.maxLength ≤ 32
  length : p.minLength ≤ p.maxLength
  minSOLength : 6 ≤ p.minSOLength
  soLength : p.minSOLength ≤ p.maxLength
  changeUserPINPolicy : 1 ≤ p.changeUserPINPolicy ∧ p.changeUserPINPolicy ≤ 3
  maxSO : 3 ≤ p.maxSO ∧ p.maxSO ≤ 15
  maxUser : 3 ≤ p.maxUser ∧ p.maxUser ≤ 15
  leftSO : p.leftSO ≤ p.maxSO
  leftUser : p.leftUser ≤ p.maxUser

/-! ### The record and the policy -/

lemma valid_default : Valid {} := by
  constructor <;> decide

/-- The two shapes of a record that `getPinPolicy` accepts. -/
lemma accepts_cases {bytes : ByteString} (h : accepts bytes = true) :
    (∃ mn mx ms mu ls lu, bytes = [1, mn, mx, ms, mu, ls, lu]) ∨
    ∃ mn mx ms mu ls lu mo ch, bytes = [2, mn, mx, ms, mu, ls, lu, mo, ch] := by
  have hlen : bytes.length = 7 ∨ bytes.length = 9 := by
    by_contra hn
    rw [not_or] at hn
    simp [accepts, hn.1, hn.2] at h
  rcases hlen with hlen | hlen
  · left
    match bytes, hlen with
    | [v, mn, mx, ms, mu, ls, lu], _ =>
      obtain rfl : v = 1 := by
        by_contra hv
        simp [accepts, byte, hv] at h
      exact ⟨mn, mx, ms, mu, ls, lu, rfl⟩
  · right
    match bytes, hlen with
    | [v, mn, mx, ms, mu, ls, lu, mo, ch], _ =>
      obtain rfl : v = 2 := by
        by_contra hv
        simp [accepts, byte, hv] at h
      exact ⟨mn, mx, ms, mu, ls, lu, mo, ch, rfl⟩

lemma one_le_iff (x : UInt8) : 1 ≤ x ↔ x ≠ 0 := by
  rw [UInt8.le_iff_toNat_le, Ne, ← UInt8.toNat_inj]
  exact Nat.one_le_iff_ne_zero

/-- The record of a policy in the first version, which has no room for two of its fields. -/
def oldRecord (p : PinPolicy) : ByteString :=
  [1, p.minLength, p.maxLength, p.maxSO, p.maxUser, p.leftSO, p.leftUser]

/-- The policies that an old record can hold. -/
def Old (p : PinPolicy) : Prop := p.minSOLength = p.minLength ∧ p.changeUserPINPolicy = 3

lemma accepts_oldRecord {p : PinPolicy} (ho : p.Old) : accepts p.oldRecord = true ↔ p.Valid := by
  have hb : accepts p.oldRecord = true ↔
      6 ≤ p.minLength ∧ p.maxLength ≤ 32 ∧ p.minLength ≤ p.maxLength ∧ 3 ≤ p.maxSO ∧
        p.maxSO ≤ 15 ∧ 3 ≤ p.maxUser ∧ p.maxUser ≤ 15 ∧ p.leftSO ≤ p.maxSO ∧
        p.leftUser ≤ p.maxUser := by
    simp [accepts, byte, oldRecord, and_assoc]
  rw [hb]
  refine ⟨fun ⟨h1, h2, h3, h4, h5, h6, h7, h8, h9⟩ => ?_, fun h => ?_⟩
  · refine ⟨h1, h2, h3, ?_, ?_, ?_, ⟨h4, h5⟩, ⟨h6, h7⟩, h8, h9⟩
    · exact ho.1 ▸ h1
    · exact ho.1 ▸ h3
    · rw [ho.2]
      decide
  · exact ⟨h.minLength, h.maxLength, h.length, h.maxSO.1, h.maxSO.2, h.maxUser.1, h.maxUser.2,
      h.leftSO, h.leftUser⟩

lemma accepts_setPinPolicy (p : PinPolicy) : accepts (setPinPolicy p) = true ↔ p.Valid := by
  have hb : accepts (setPinPolicy p) = true ↔
      (6 ≤ p.minLength ∧ p.maxLength ≤ 32 ∧ p.minLength ≤ p.maxLength ∧ 3 ≤ p.maxSO ∧
        p.maxSO ≤ 15 ∧ 3 ≤ p.maxUser ∧ p.maxUser ≤ 15 ∧ p.leftSO ≤ p.maxSO ∧
        p.leftUser ≤ p.maxUser) ∧
      6 ≤ p.minSOLength ∧ p.minSOLength ≤ p.maxLength ∧ 1 ≤ p.changeUserPINPolicy ∧
        p.changeUserPINPolicy ≤ 3 := by
    simp [accepts, byte, setPinPolicy, and_assoc, one_le_iff]
  rw [hb]
  refine ⟨fun ⟨⟨h1, h2, h3, h4, h5, h6, h7, h8, h9⟩, h10, h11, h12, h13⟩ => ?_, fun h => ?_⟩
  · exact ⟨h1, h2, h3, h10, h11, ⟨h12, h13⟩, ⟨h4, h5⟩, ⟨h6, h7⟩, h8, h9⟩
  · exact ⟨⟨h.minLength, h.maxLength, h.length, h.maxSO.1, h.maxSO.2, h.maxUser.1, h.maxUser.2,
      h.leftSO, h.leftUser⟩, h.minSOLength, h.soLength, h.changeUserPINPolicy⟩

lemma getPinPolicy_oldRecord {p : PinPolicy} (ho : p.Old) (h : p.Valid) :
    getPinPolicy (some p.oldRecord) = some p := by
  have ha := (accepts_oldRecord ho).2 h
  obtain ⟨mn, mo, mx, ch, ms, mu, ls, lu⟩ := p
  obtain ⟨rfl, rfl⟩ : mo = mn ∧ ch = 3 := ho
  simp only [getPinPolicy, ha, Bool.not_true, Bool.false_eq_true,
    if_false]
  rfl

/-- **The record of a policy reads back as that policy.** -/
theorem getPinPolicy_setPinPolicy {p : PinPolicy} (h : p.Valid) :
    getPinPolicy (some (setPinPolicy p)) = some p := by
  simp only [getPinPolicy, (accepts_setPinPolicy p).2 h, Bool.not_true, Bool.false_eq_true,
    if_false]
  rfl

/-- A record that `getPinPolicy` accepts is the old record of its policy, or the new one; no
record counts as the first one. -/
lemma getPinPolicy_cases {stored : Option ByteString} {p : PinPolicy}
    (h : getPinPolicy stored = some p) :
    p.Valid ∧ (p.Old ∧ stored.getD firstRecord = p.oldRecord ∨
      stored.getD firstRecord = setPinPolicy p) := by
  cases stored with
  | none =>
    obtain rfl := Option.some.inj h
    exact ⟨valid_default, .inl ⟨⟨rfl, rfl⟩, rfl⟩⟩
  | some bytes =>
    have ha : accepts bytes = true := by
      by_contra hn
      simp [getPinPolicy, hn] at h
    rcases accepts_cases ha with ⟨mn, mx, ms, mu, ls, lu, rfl⟩ |
      ⟨mn, mx, ms, mu, ls, lu, mo, ch, rfl⟩
    · have ho : Old ⟨mn, mn, mx, 3, ms, mu, ls, lu⟩ := ⟨rfl, rfl⟩
      rw [show [1, mn, mx, ms, mu, ls, lu] = oldRecord ⟨mn, mn, mx, 3, ms, mu, ls, lu⟩ from rfl]
        at h ha ⊢
      have hv := (accepts_oldRecord ho).1 ha
      rw [getPinPolicy_oldRecord ho hv] at h
      obtain rfl := Option.some.inj h
      exact ⟨hv, .inl ⟨ho, rfl⟩⟩
    · rw [show [2, mn, mx, ms, mu, ls, lu, mo, ch] = setPinPolicy ⟨mn, mo, mx, ch, ms, mu, ls, lu⟩
        from rfl] at h ha ⊢
      have hv := (accepts_setPinPolicy _).1 ha
      rw [getPinPolicy_setPinPolicy hv] at h
      obtain rfl := Option.some.inj h
      exact ⟨hv, .inr rfl⟩

lemma getPinPolicy_valid {stored : Option ByteString} {p : PinPolicy}
    (h : getPinPolicy stored = some p) : p.Valid :=
  (getPinPolicy_cases h).1

/-! ### An attempt -/

lemma toNat_pred {x : UInt8} (h0 : x ≠ 0) : (x - 1).toNat + 1 = x.toNat := by
  have hx : 1 ≤ x := (one_le_iff x).2 h0
  have h1 : (1 : UInt8).toNat = 1 := rfl
  rw [UInt8.toNat_sub_of_le _ _ hx]
  rw [UInt8.le_iff_toNat_le] at hx
  omega

lemma pred_le {x y : UInt8} (h0 : x ≠ 0) (h : x ≤ y) : x - 1 ≤ y := by
  have hx := toNat_pred h0
  rw [UInt8.le_iff_toNat_le] at h ⊢
  omega

lemma left_le_max {p : PinPolicy} (h : p.Valid) (so : Bool) : p.left so ≤ p.max so := by
  cases so with
  | true => exact h.leftSO
  | false => exact h.leftUser

lemma valid_setLeft {p : PinPolicy} (h : p.Valid) {so : Bool} {n : UInt8} (hn : n ≤ p.max so) :
    (p.setLeft so n).Valid := by
  obtain ⟨h1, h2, h3, h4, h5, h6, h7, h8, h9, h10⟩ := h
  cases so with
  | true => exact ⟨h1, h2, h3, h4, h5, h6, h7, h8, hn, h10⟩
  | false => exact ⟨h1, h2, h3, h4, h5, h6, h7, h8, h9, hn⟩

lemma valid_advance {p : PinPolicy} (h : p.Valid) (so success : Bool) :
    (p.advance so success).Valid := by
  unfold advance
  split
  · exact h
  rename_i h0
  split
  · exact valid_setLeft h (UInt8.le_refl _)
  · exact valid_setLeft h (pred_le h0 (left_le_max h so))

lemma old_advance {p : PinPolicy} (h : p.Old) (so success : Bool) : (p.advance so success).Old := by
  unfold advance setLeft
  split
  · exact h
  split <;> split <;> exact h

@[simp] lemma max_advance (p : PinPolicy) (so success so' : Bool) :
    (p.advance so success).max so' = p.max so' := by
  unfold advance setLeft
  split
  · rfl
  split <;> split <;> rfl

lemma advanced_oldRecord (p : PinPolicy) (so success : Bool) :
    advanced so success p.oldRecord = (p.advance so success).oldRecord := by
  cases so <;> cases success <;>
    simp only [advanced, advance, oldRecord, byte, leftIndex, maxIndex, left, max, setLeft] <;>
    simp <;> split <;> simp_all

lemma advanced_setPinPolicy (p : PinPolicy) (so success : Bool) :
    advanced so success (setPinPolicy p) = setPinPolicy (p.advance so success) := by
  cases so <;> cases success <;>
    simp only [advanced, advance, setPinPolicy, byte, leftIndex, maxIndex, left, max, setLeft] <;>
    simp <;> split <;> simp_all

lemma byte_left_oldRecord (p : PinPolicy) (so : Bool) :
    byte p.oldRecord (leftIndex so) = p.left so ∧ byte p.oldRecord (maxIndex so) = p.max so := by
  cases so <;> exact ⟨rfl, rfl⟩

lemma byte_left_setPinPolicy (p : PinPolicy) (so : Bool) :
    byte (setPinPolicy p) (leftIndex so) = p.left so ∧
      byte (setPinPolicy p) (maxIndex so) = p.max so := by
  cases so <;> exact ⟨rfl, rfl⟩

/-- **One attempt on the record.** Whatever record `getPinPolicy` accepts, `advancePinPolicy`
accepts, and what it stores is a record of the advanced policy. -/
theorem advancePinPolicy_spec {stored : Option ByteString} {p : PinPolicy}
    (h : getPinPolicy stored = some p) (so success : Bool) :
    ∃ bytes, advancePinPolicy so success stored = some bytes ∧
      getPinPolicy (some bytes) = some (p.advance so success) ∧
      byte bytes (leftIndex so) = (p.advance so success).left so ∧
      byte bytes (maxIndex so) = p.max so := by
  obtain ⟨hv, hs⟩ := getPinPolicy_cases h
  have hle := left_le_max hv so
  have hn : ¬ p.left so > p.max so := UInt8.not_lt.2 hle
  have hva := valid_advance hv so success
  rcases hs with ⟨ho, hs⟩ | hs
  · obtain ⟨hl, hm⟩ := byte_left_oldRecord p so
    have ha : advanceable so p.oldRecord = true := by
      simp only [advanceable, hl, hm, hn]
      rfl
    have hoa := old_advance ho so success
    refine ⟨(p.advance so success).oldRecord, ?_, getPinPolicy_oldRecord hoa hva,
      (byte_left_oldRecord _ so).1, ?_⟩
    · simp [advancePinPolicy, hs, ha, advanced_oldRecord]
    · rw [(byte_left_oldRecord _ so).2, max_advance]
  · obtain ⟨hl, hm⟩ := byte_left_setPinPolicy p so
    have ha : advanceable so (setPinPolicy p) = true := by
      simp only [advanceable, hl, hm, hn]
      rfl
    refine ⟨setPinPolicy (p.advance so success), ?_, getPinPolicy_setPinPolicy hva,
      (byte_left_setPinPolicy _ so).1, ?_⟩
    · simp [advancePinPolicy, hs, ha, advanced_setPinPolicy]
    · rw [(byte_left_setPinPolicy _ so).2, max_advance]

end PinPolicy

end SoftHSM
