import SoftHSM.Lib.Numeral
import SoftHSM.ObjectStore.File

/-!
Public points as they are and as octet strings. Both may begin with the same byte, so which of the
two a string is rests on what looks like a length in it.
-/

namespace SoftHSM

open ByteString Numeral

namespace DERUTIL

/-- The significant bytes of a length, from some on. -/
def significant (len : ℕ) : ℕ → ℕ
  | 0 => 0
  | bytes + 1 => if len >>> (bytes * 8) &&& 0xff ≠ 0 then bytes + 1 else significant len bytes

def raw2Octet (byteString : ByteString) : ByteString :=
  let len := byteString.length
  if len < 0x80 then [0x04, UInt8.ofNat (len &&& 0x7f)] ++ byteString
  else
    let bytes := significant len 8
    [0x04, UInt8.ofNat (0x80 ||| bytes)] ++ bigEndian bytes len ++ byteString

/-- The tag and length octets of a string of two bytes and more, where the length is that of the
rest. -/
def controlOctets (byteString : ByteString) : Option ℕ :=
  let len := byteString.length
  let second := byteString.getD 1 0
  if second < 0x80 then
    if second.toNat ≠ len - 2 then none else some 2
  else
    let lengthOctets := (second &&& 0x7f).toNat
    let controlOctets := 2 + lengthOctets
    if len ≤ controlOctets then none
    else if (long_val ((byteString.drop 2).take lengthOctets)).toNat ≠ len - controlOctets then none
    else some controlOctets

/-- The empty string is an error as well. -/
def octet2Raw (byteString : ByteString) : ByteString :=
  if byteString.length < 2 then []
  else if byteString.getD 0 0 ≠ 0x04 then []
  else match controlOctets byteString with
    | none => []
    | some control => byteString.drop control

end DERUTIL

open DERUTIL

/-- The lengths that are taken for those of points as they are. -/
def rawLengths : List ℕ := [32, 56, 65, 97, 133]

def getECDHPubData (pubData : ByteString) : ByteString :=
  let len := pubData.length
  if len ∈ rawLengths then raw2Octet pubData
  else if len < 2 ∨ pubData.getD 0 0 ≠ 0x04 then raw2Octet pubData
  else match controlOctets pubData with
    | none => raw2Octet pubData
    | some _ => pubData

namespace DERUTIL

variable {p : ByteString}

/-! ### Lengths -/

lemma toNat_long_val_of_le {b : ByteString} (h : b.length ≤ 8) : (long_val b).toNat = Tlv.value b := by
  rw [long_val, List.take_of_length_le h]
  induction b using List.reverseRecOn with
  | nil => rfl
  | append_singleton b x ih =>
    rw [List.length_append, List.length_singleton] at h
    have hb := ih (by omega)
    have hlt := value_lt b
    have hpow : 256 ^ b.length ≤ 256 ^ 7 := Nat.pow_le_pow_right (by decide) (by omega)
    have hx := x.toNat_lt
    have hone : Tlv.value [x] = x.toNat := by simp [Tlv.value]
    rw [List.foldl_append, List.foldl_cons, List.foldl_nil, UInt64.toNat_add, UInt64.toNat_shiftLeft, hb,
      UInt8.toNat_toUInt64, show (8 : UInt64).toNat % 64 = 8 from rfl, Nat.shiftLeft_eq, value_append,
      hone, List.length_singleton, pow_one]
    omega

/-- As many bytes as a length needs. -/
lemma significant_spec {len k : ℕ} (h : len < 256 ^ k) : significant len k ≤ k ∧
    len < 256 ^ significant len k ∧ (len ≠ 0 → 256 ^ (significant len k - 1) ≤ len) := by
  induction k with
  | zero => exact ⟨Nat.le_refl _, h, fun h0 => absurd (Nat.lt_one_iff.1 h) h0⟩
  | succ k ih =>
    have hmask : len >>> (k * 8) &&& 0xff = len / 256 ^ k := by
      have hlt : len / 256 ^ k < 256 := by
        rw [Nat.div_lt_iff_lt_mul (by positivity), Nat.mul_comm, ← pow_succ]
        exact h
      have hpow : 2 ^ (k * 8) = 256 ^ k := by
        rw [Nat.mul_comm, pow_mul]
        rfl
      rw [Nat.shiftRight_eq_div_pow, hpow, show 0xff = 2 ^ 8 - 1 from rfl,
        Nat.and_two_pow_sub_one_eq_mod]
      exact Nat.mod_eq_of_lt hlt
    rw [significant, hmask]
    split
    · rename_i hne
      refine ⟨Nat.le_refl _, h, fun _ => ?_⟩
      by_contra hlt
      exact hne (Nat.div_eq_of_lt (Nat.not_le.1 hlt))
    · rename_i hz
      have hlt : len < 256 ^ k := (Nat.div_eq_zero_iff_lt (by positivity)).1 (not_not.1 hz)
      obtain ⟨h1, h2, h3⟩ := ih hlt
      exact ⟨by omega, h2, h3⟩

lemma second_octet : ∀ b : ℕ, b ≤ 8 → ¬ UInt8.ofNat (0x80 ||| b) < 0x80 ∧
    (UInt8.ofNat (0x80 ||| b) &&& 0x7f).toNat = b := by
  decide

/-! ### Both forms -/

lemma length_raw2Octet (p : ByteString) : (raw2Octet p).length =
    p.length + 2 + if p.length < 0x80 then 0 else significant p.length 8 := by
  rw [raw2Octet]
  dsimp only
  split
  · simp
  · simp only [List.length_append, List.length_cons, List.length_nil, length_bigEndian]
    omega

/-- **The octet string of a point** has its length, and gives the point. -/
lemma controlOctets_raw2Octet (hp : p.length < 2 ^ 64) : ∃ control,
    controlOctets (raw2Octet p) = some control ∧ (raw2Octet p).drop control = p := by
  have hlen := length_raw2Octet p
  by_cases hshort : p.length < 0x80
  · have hmask : p.length &&& 0x7f = p.length := by
      rw [show 0x7f = 2 ^ 7 - 1 from rfl, Nat.and_two_pow_sub_one_eq_mod]
      omega
    have hsecond : (UInt8.ofNat p.length).toNat = p.length := by
      rw [UInt8.toNat_ofNat']
      omega
    have hraw : raw2Octet p = [0x04, UInt8.ofNat p.length] ++ p := by
      rw [raw2Octet]
      simp only [hshort, if_true, hmask]
    have hlt : UInt8.ofNat p.length < 0x80 := by
      rw [UInt8.lt_iff_toNat_lt, hsecond]
      exact hshort
    refine ⟨2, ?_, by rw [hraw]; rfl⟩
    have hget : (raw2Octet p).getD 1 0 = UInt8.ofNat p.length := by rw [hraw]; rfl
    rw [controlOctets]
    simp only [hget, hlt, if_true, hsecond, hlen, hshort]
    exact if_neg (by omega)
  · obtain ⟨h8, hfit, -⟩ := significant_spec (k := 8) (by omega)
    set bytes := significant p.length 8 with hbytes
    obtain ⟨hlong, hmask⟩ := second_octet bytes h8
    have hraw : raw2Octet p =
        [0x04, UInt8.ofNat (0x80 ||| bytes)] ++ (bigEndian bytes p.length ++ p) := by
      rw [raw2Octet]
      simp only [hshort, if_false, ← hbytes, List.append_assoc]
    have hget : (raw2Octet p).getD 1 0 = UInt8.ofNat (0x80 ||| bytes) := by rw [hraw]; rfl
    have hoctets : ((raw2Octet p).drop 2).take bytes = bigEndian bytes p.length := by
      rw [hraw]
      exact List.take_left' (length_bigEndian ..)
    have hvalue : (long_val (bigEndian bytes p.length)).toNat = p.length := by
      rw [toNat_long_val_of_le (by rw [length_bigEndian]; exact h8), value_bigEndian,
        Nat.mod_eq_of_lt hfit]
    refine ⟨2 + bytes, ?_, ?_⟩
    · rw [controlOctets]
      simp only [hget, hlong, if_false, hmask, hoctets, hvalue, hlen, hshort]
      rw [if_neg (by omega), if_neg (by omega)]
    · rw [hraw, ← List.append_assoc, List.drop_left']
      rw [List.length_append, length_bigEndian]
      rfl

lemma octet2Raw_raw2Octet (hp : p.length < 2 ^ 64) : octet2Raw (raw2Octet p) = p := by
  obtain ⟨control, hcontrol, hdrop⟩ := controlOctets_raw2Octet hp
  have hlen := length_raw2Octet p
  have hfirst : (raw2Octet p).getD 0 0 = 0x04 := by
    rw [raw2Octet]
    dsimp only
    split <;> rfl
  rw [octet2Raw, if_neg (by omega), if_neg (not_not.2 hfirst), hcontrol]
  exact hdrop

/-- The lengths of points whose octet strings have the length of a point. -/
def wrappedLengths : List ℕ := [30, 54, 63, 95, 130]

lemma length_raw2Octet_mem (hp : p.length < 2 ^ 64) :
    (raw2Octet p).length ∈ rawLengths ↔ p.length ∈ wrappedLengths := by
  have hlen := length_raw2Octet p
  obtain ⟨-, hfit, hleast⟩ := significant_spec (k := 8) (by omega)
  set bytes := significant p.length 8 with hbytes
  simp only [rawLengths, wrappedLengths, List.mem_cons, List.not_mem_nil, or_false, hlen]
  by_cases hshort : p.length < 0x80
  · rw [if_pos hshort]
    omega
  · rw [if_neg hshort]
    -- one byte for the length, while the octet string is no longer than a point
    have hone : p.length < 256 → bytes = 1 := by
      intro hlt
      have hpos : bytes ≠ 0 := fun h0 => by
        rw [h0, pow_zero] at hfit
        omega
      by_contra hne
      have hpow : 256 ^ 1 ≤ 256 ^ (bytes - 1) := Nat.pow_le_pow_right (by decide) (by omega)
      have := hleast (by omega)
      omega
    by_cases hlt : p.length < 256
    · rw [hone hlt]
      omega
    · omega

/-- A string that is no point by its length and begins as an octet string of its length does. -/
def TakenForOctets (p : ByteString) : Prop :=
  p.length ∉ rawLengths ∧ 2 ≤ p.length ∧ p.getD 0 0 = 0x04 ∧ (controlOctets p).isSome

lemma getECDHPubData_of_taken (h : TakenForOctets p) : getECDHPubData p = p := by
  obtain ⟨hraw, hlen, hfirst, hsome⟩ := h
  obtain ⟨control, hcontrol⟩ := Option.isSome_iff_exists.1 hsome
  have hshape : ¬ (p.length < 2 ∨ p.getD 0 0 ≠ 0x04) := by
    rw [not_or, not_not]
    exact ⟨by omega, hfirst⟩
  rw [getECDHPubData]
  simp only [hraw, hshape, if_false, hcontrol]

lemma getECDHPubData_of_not_taken (h : ¬ TakenForOctets p) : getECDHPubData p = raw2Octet p := by
  rw [getECDHPubData]
  by_cases hraw : p.length ∈ rawLengths
  · exact if_pos hraw
  rw [if_neg hraw]
  by_cases hshape : p.length < 2 ∨ p.getD 0 0 ≠ 0x04
  · exact if_pos hshape
  rw [if_neg hshape]
  rw [not_or, not_not] at hshape
  cases hcontrol : controlOctets p with
  | none => rfl
  | some control =>
    have hsome : (controlOctets p).isSome = true := by rw [hcontrol]; rfl
    exact absurd ⟨hraw, by omega, hshape.2, hsome⟩ h

/-- The octet string is one, but for its length. -/
lemma takenForOctets_raw2Octet (hp : p.length < 2 ^ 64) :
    TakenForOctets (raw2Octet p) ↔ p.length ∉ wrappedLengths := by
  obtain ⟨control, hcontrol, -⟩ := controlOctets_raw2Octet hp
  have hlen := length_raw2Octet p
  have hfirst : (raw2Octet p).getD 0 0 = 0x04 := by
    rw [raw2Octet]
    dsimp only
    split <;> rfl
  have hsome : (controlOctets (raw2Octet p)).isSome = true := by rw [hcontrol]; rfl
  rw [TakenForOctets, length_raw2Octet_mem hp]
  exact ⟨fun h => h.1, fun h => ⟨h, by omega, hfirst, hsome⟩⟩

lemma raw2Octet_ne (p : ByteString) : raw2Octet p ≠ p := by
  intro h
  have hlen := length_raw2Octet p
  rw [h] at hlen
  omega

/-- **Both forms of a point** lead to one, if the point does not look like an octet string and its
octet string has not the length of a point. -/
theorem getECDHPubData_iff (hp : p.length < 2 ^ 64) :
    (getECDHPubData p = raw2Octet p ∧ getECDHPubData (raw2Octet p) = raw2Octet p ∧
      octet2Raw (getECDHPubData p) = p) ↔ ¬ TakenForOctets p ∧ p.length ∉ wrappedLengths := by
  constructor
  · rintro ⟨hraw, hoctet, -⟩
    refine ⟨fun h => raw2Octet_ne p ?_, fun h => raw2Octet_ne (raw2Octet p) ?_⟩
    · rw [← hraw, getECDHPubData_of_taken h]
    · have hnot : ¬ TakenForOctets (raw2Octet p) := fun ht => (takenForOctets_raw2Octet hp).1 ht h
      rw [← getECDHPubData_of_not_taken hnot, hoctet]
  · rintro ⟨hnot, hlen⟩
    have hraw := getECDHPubData_of_not_taken hnot
    refine ⟨hraw, getECDHPubData_of_taken ((takenForOctets_raw2Octet hp).2 hlen), ?_⟩
    rw [hraw, octet2Raw_raw2Octet hp]

/-- An uncompressed point of a field of `k` bytes. -/
def uncompressed (k x y : ℕ) : ByteString := 0x04 :: (bigEndian k x ++ bigEndian k y)

theorem getECDHPubData_iff_p256 : getECDHPubData (uncompressed 32 1 2) = raw2Octet (uncompressed 32 1 2) :=
  ((getECDHPubData_iff (by decide)).2
    ⟨fun h => h.1 (by decide), by decide⟩).1

/-- A point of the curve over the field of 24 bytes whose first byte is the length of the rest. -/
theorem point_taken_for_octets :
    let q := 2 ^ 192 - 2 ^ 64 - 1
    let b := 0x64210519e59c80e70fa7e9ab72243049feb8deecc146b9b1
    let x := 0x2f0000000000000000000000000000000000000000000000
    let y := 0xd184c579e6f141369eb7d29f7504b5b35115762b19577464
    x < q ∧ y < q ∧ y ^ 2 % q = (x ^ 3 + (q - 3) * x + b) % q ∧
      getECDHPubData (uncompressed 24 x y) = uncompressed 24 x y ∧
      getECDHPubData (uncompressed 24 x y) ≠ raw2Octet (uncompressed 24 x y) ∧
      octet2Raw (getECDHPubData (uncompressed 24 x y)) ≠ uncompressed 24 x y := by
  intro q b x y
  have htaken : getECDHPubData (uncompressed 24 x y) = uncompressed 24 x y :=
    getECDHPubData_of_taken ⟨by decide, by decide, by decide, by decide⟩
  refine ⟨by decide, by decide, by decide, htaken, ?_, ?_⟩
  · rw [htaken]
    exact (raw2Octet_ne _).symm
  · rw [htaken]
    decide

end DERUTIL

end SoftHSM
