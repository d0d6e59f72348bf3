import SoftHSM.Crypto.DerUtil
import SoftHSM.Lib.Der

/-!
The encoders of the messages and of the requests, which write every item by hand, against the
shortest forms, and the reader of octet strings, which looks at eight octets of a length.
-/

namespace SoftHSM

open DERUTIL Numeral

/-! ### The encoders -/

/-- The bytes of a size, the lowest first, as long as there is something left. -/
def sizeBytes (size : ℕ) : ByteString :=
  if _h : size = 0 then [] else UInt8.ofNat size :: sizeBytes (size >>> 8)
  termination_by size
  decreasing_by
    rw [Nat.shiftRight_eq_div_pow]
    exact Nat.div_lt_self (by omega) (by decide)

/-- The text of `tagged`, which both sources have. -/
def taggedWith (tag : UInt8) (body : ByteString) : ByteString :=
  let header :=
    if body.length < 128 then [tag, UInt8.ofNat body.length]
    else
      let length := sizeBytes body.length
      [tag, UInt8.ofNat (0x80 ||| length.length)] ++ length.reverse
  header ++ body

namespace RutokenCMS

def tagged (tag : UInt8) (body : ByteString) : ByteString := taggedWith tag body

def joined (parts : List ByteString) : ByteString := parts.flatten

end RutokenCMS

namespace RutokenCSR

def tagged (tag : UInt8) (body : ByteString) : ByteString := taggedWith tag body

/-- The magnitude from its first byte that is not zero, or its last one. -/
def stripped : ByteString → ByteString
  | 0 :: b :: rest => stripped (b :: rest)
  | magnitude => magnitude

/-- A non-negative integer from the bytes of its magnitude, of which there is one. -/
def derInteger (magnitude : ByteString) : ByteString :=
  let rest := stripped magnitude
  let body := if rest.getD 0 0 &&& 0x80 ≠ 0 then 0 :: rest else rest
  tagged 0x02 body

end RutokenCSR

/-! ### The shortest lengths -/

lemma sizeBytes_eq (size : ℕ) : (sizeBytes size).reverse = minimalBigEndian size := by
  rw [minimalBigEndian, List.map_reverse]
  congr 1
  induction size using Nat.strong_induction_on with
  | _ size ih =>
    rw [sizeBytes]
    split
    · rename_i h
      rw [h]
      rfl
    · rename_i h
      have hlt : size >>> 8 < size := by
        rw [Nat.shiftRight_eq_div_pow]
        exact Nat.div_lt_self (by omega) (by decide)
      have hbyte : UInt8.ofNat (size % 256) = UInt8.ofNat size := by
        apply UInt8.toNat_inj.1
        simp
      rw [Nat.digits_def' (by decide) (by omega), List.map_cons, hbyte, ih _ hlt,
        Nat.shiftRight_eq_div_pow]

lemma length_sizeBytes {size : ℕ} (h : size < 2 ^ 64) : (sizeBytes size).length ≤ 8 := by
  rw [← List.length_reverse, sizeBytes_eq]
  exact Der.length_minimalBigEndian_le (by omega)

lemma second_octet_eq : ∀ k : ℕ, k ≤ 8 → UInt8.ofNat (0x80 ||| k) = UInt8.ofNat (0x80 + k) := by
  decide

/-- **What is tagged** is the shortest item. -/
lemma taggedWith_eq (tag : UInt8) {body : ByteString} (h : body.length < 2 ^ 64) :
    taggedWith tag body = Der.encode tag body := by
  have h8 := length_sizeBytes h
  rw [taggedWith, Der.encode, Der.lengthOctets]
  dsimp only
  split
  · rfl
  · rw [sizeBytes_eq, second_octet_eq _ h8, ← List.length_reverse, sizeBytes_eq]
    simp

/-- The other encoder counts its octets first. -/
lemma raw2Octet_eq {x : ByteString} (h : x.length < 2 ^ 64) : raw2Octet x = Der.encode 0x04 x := by
  obtain ⟨h8, hfit, hleast⟩ := significant_spec (k := 8) (by omega)
  rw [raw2Octet, Der.encode, Der.lengthOctets]
  dsimp only
  split
  · rename_i hs
    have hmask : x.length &&& 0x7f = x.length := by
      rw [show 0x7f = 2 ^ 7 - 1 from rfl, Nat.and_two_pow_sub_one_eq_mod]
      omega
    rw [hmask]
    rfl
  · rename_i hs
    have hmin := Der.minimalBigEndian_eq hleast hfit (fun h0 => by omega)
    rw [hmin, second_octet_eq _ h8, length_bigEndian]
    simp

/-! ### The reader -/

/-- Nine or more octets of a length, of which the first eight are the number of the bytes behind
all of them. -/
def Oversized (y : ByteString) : Prop :=
  y.getD 0 0 = 0x04 ∧ 0x89 ≤ y.getD 1 0 ∧
    let control := 2 + (y.getD 1 0 &&& 0x7f).toNat
    control < y.length ∧ Tlv.value ((y.drop 2).take 8) = y.length - control

section reader

variable {y : ByteString}

lemma octets_of_second {b : UInt8} (h : ¬ b < 0x80) :
    (b &&& 0x7f).toNat = b.toNat - 128 ∧ 128 ≤ b.toNat := by
  have hb := b.toNat_lt
  have hle : 128 ≤ b.toNat := Nat.le_of_not_lt fun hlt => h (UInt8.lt_iff_toNat_lt.2 hlt)
  have hmask : (b &&& 0x7f).toNat = b.toNat % 128 := by
    rw [UInt8.toNat_and]
    exact Nat.and_two_pow_sub_one_eq_mod b.toNat 7
  exact ⟨by omega, hle⟩

/-- The octets of a length that are taken for all of them. -/
lemma toNat_long_val (b : ByteString) : (ByteString.long_val b).toNat = Tlv.value (b.take 8) := by
  have htake : ByteString.long_val b = ByteString.long_val (b.take 8) := by
    rw [ByteString.long_val, ByteString.long_val, List.take_take, Nat.min_self]
  rw [htake, toNat_long_val_of_le (List.length_take_le 8 b)]

/-- What the reader asks of the first two octets and of the length. -/
lemma octet2Raw_ne_nil (h : octet2Raw y ≠ []) :
    2 ≤ y.length ∧ y.getD 0 0 = 0x04 ∧
      ∃ control, controlOctets y = some control ∧ octet2Raw y = y.drop control := by
  rw [octet2Raw] at h ⊢
  split at h
  · exact absurd rfl h
  rename_i hlen
  split at h
  · exact absurd rfl h
  rename_i hfirst
  rw [if_neg hlen, if_neg hfirst]
  cases hc : controlOctets y with
  | none => simp [hc] at h
  | some control => exact ⟨by omega, not_not.1 hfirst, control, rfl, rfl⟩

/-- A length in one octet, or behind the number of its octets. -/
lemma isItem_iff (h : 2 ≤ y.length) (v : ByteString) : Tlv.IsItem 0x04 v y ↔
    y.getD 0 0 = 0x04 ∧
      if y.getD 1 0 < 0x80 then y.drop 2 = v ∧ (y.getD 1 0).toNat = y.length - 2
      else
        let octets := (y.getD 1 0 &&& 0x7f).toNat
        2 + octets ≤ y.length ∧ y.drop (2 + octets) = v ∧
          Tlv.value ((y.drop 2).take octets) = y.length - (2 + octets) := by
  obtain ⟨a, b, rest, rfl⟩ : ∃ a b rest, y = a :: b :: rest := by
    rcases y with _ | ⟨a, _ | ⟨b, rest⟩⟩
    · exact absurd h (Nat.not_succ_le_zero 1)
    · exact absurd h (Nat.not_succ_le_self 1)
    · exact ⟨a, b, rest, rfl⟩
  have hdrop : ∀ k, (a :: b :: rest).drop (2 + k) = rest.drop k := fun k => by
    rw [← List.drop_drop]
    rfl
  have hall : ∀ n (l : ByteString), (if l.length < n then none else some (a, l.take n, l.drop n)) =
      some ((0x04 : UInt8), v, ([] : ByteString)) ↔ a = 0x04 ∧ l = v ∧ n = l.length := by
    intro n l
    by_cases hn : l.length < n
    · rw [if_pos hn]
      constructor
      · intro hno
        cases hno
      · rintro ⟨-, -, hl⟩
        omega
    · rw [if_neg hn]
      simp only [Option.some.injEq, Prod.mk.injEq, List.drop_eq_nil_iff]
      constructor
      · rintro ⟨ha, hv, hl⟩
        rw [List.take_of_length_le hl] at hv
        exact ⟨ha, hv, by omega⟩
      · rintro ⟨ha, hv, hl⟩
        exact ⟨ha, by rw [hl, List.take_length, hv], by omega⟩
  have hfirst : (a :: b :: rest).getD 0 0 = a := rfl
  have hsecond : (a :: b :: rest).getD 1 0 = b := rfl
  have hlen : (a :: b :: rest).length = rest.length + 2 := rfl
  simp only [hfirst, hsecond, hlen, hdrop, Tlv.IsItem, Tlv.read, Tlv.readLength]
  by_cases hb : b < 0x80
  · have hb' : b.toNat < 128 := UInt8.lt_iff_toNat_lt.1 hb
    rw [if_pos hb, if_pos hb']
    exact hall _ _
  · obtain ⟨hk, hle⟩ := octets_of_second hb
    rw [if_neg hb, if_neg (by omega), hk]
    by_cases hr : rest.length < b.toNat - 128
    · rw [if_pos hr]
      constructor
      · intro hno
        cases hno
      · rintro ⟨-, hno, -⟩
        omega
    · rw [if_neg hr]
      refine (hall _ _).trans ?_
      rw [List.length_drop]
      constructor
      · rintro ⟨ha, hv, hl⟩
        exact ⟨ha, by omega, hv, hl.trans (by omega)⟩
      · rintro ⟨ha, -, hv, hl⟩
        exact ⟨ha, hv, hl.trans (by omega)⟩

/-- Eight octets or fewer are all that are looked at. -/
lemma second_octet_le {b : UInt8} (hb : ¬ b < 0x80) :
    (b &&& 0x7f).toNat ≤ 8 ↔ ¬ 0x89 ≤ b := by
  obtain ⟨hk, -⟩ := octets_of_second hb
  rw [hk, UInt8.not_le, UInt8.lt_iff_toNat_lt]
  have h89 : (0x89 : UInt8).toNat = 137 := rfl
  omega

/-- Octets behind the first ones make a number larger. -/
lemma value_take_lt {l : ByteString} {k : ℕ} (hk : 8 < k) (hlen : k ≤ l.length)
    (hpos : 0 < Tlv.value (l.take 8)) : Tlv.value (l.take 8) < Tlv.value (l.take k) := by
  have hsplit : l.take k = l.take 8 ++ (l.drop 8).take (k - 8) := by
    rw [← List.take_add]
    congr 1
    omega
  have hlast : ((l.drop 8).take (k - 8)).length = k - 8 := by
    rw [List.length_take, List.length_drop]
    omega
  have hpow : 256 ^ 1 ≤ 256 ^ (k - 8) := Nat.pow_le_pow_right (by decide) (by omega)
  rw [hsplit, value_append, hlast]
  calc Tlv.value (l.take 8) < Tlv.value (l.take 8) * 256 ^ 1 := by omega
    _ ≤ Tlv.value (l.take 8) * 256 ^ (k - 8) := Nat.mul_le_mul_left _ hpow
    _ ≤ _ := Nat.le_add_right ..

/-- **What is read** is the content of an octet string exactly where no length is oversized. -/
lemma octet2Raw_isItem_iff (y : ByteString) :
    (octet2Raw y ≠ [] → Tlv.IsItem 0x04 (octet2Raw y) y) ↔ ¬ Oversized y := by
  constructor
  · rintro himp ⟨hfirst, h89, hshort, hvalue⟩
    have hb : ¬ y.getD 1 0 < 0x80 := fun hlt => by
      have h1 := UInt8.lt_iff_toNat_lt.1 hlt
      have h2 := UInt8.le_iff_toNat_le.1 h89
      have h80 : (0x80 : UInt8).toNat = 128 := rfl
      have h89 : (0x89 : UInt8).toNat = 137 := rfl
      omega
    have hk : 8 < (y.getD 1 0 &&& 0x7f).toNat := by
      by_contra hle
      exact (second_octet_le hb).1 (by omega) h89
    have hval8 : Tlv.value ((((y.drop 2).take (y.getD 1 0 &&& 0x7f).toNat)).take 8) =
        y.length - (2 + (y.getD 1 0 &&& 0x7f).toNat) := by
      rw [List.take_take, Nat.min_eq_left (by omega)]
      exact hvalue
    have hraw : octet2Raw y = y.drop (2 + (y.getD 1 0 &&& 0x7f).toNat) := by
      have hcontrol : controlOctets y = some (2 + (y.getD 1 0 &&& 0x7f).toNat) := by
        rw [controlOctets]
        simp only [hb, if_false]
        rw [if_neg (by omega), if_neg]
        rw [toNat_long_val, hval8]
        exact not_not.2 rfl
      rw [octet2Raw, if_neg (by omega), if_neg (not_not.2 hfirst), hcontrol]
    have hne : octet2Raw y ≠ [] := by
      rw [hraw, Ne, List.drop_eq_nil_iff]
      omega
    have hitem := (isItem_iff (by omega) _).1 (himp hne)
    rw [if_neg hb] at hitem
    obtain ⟨-, hle, -, hall⟩ := hitem
    have hlt := value_take_lt (l := y.drop 2) hk (by rw [List.length_drop]; omega)
      (by rw [hvalue]; omega)
    rw [hvalue, hall] at hlt
    omega
  · intro hno hne
    obtain ⟨hlen, hfirst, control, hcontrol, hraw⟩ := octet2Raw_ne_nil hne
    rw [isItem_iff hlen, hraw]
    refine ⟨hfirst, ?_⟩
    rw [controlOctets] at hcontrol
    dsimp only at hcontrol
    by_cases hb : y.getD 1 0 < 0x80
    · rw [if_pos hb] at hcontrol ⊢
      split at hcontrol
      · cases hcontrol
      · rename_i hl
        obtain rfl := Option.some.inj hcontrol
        exact ⟨rfl, not_not.1 hl⟩
    · rw [if_neg hb] at hcontrol ⊢
      split at hcontrol
      · cases hcontrol
      rename_i hshort
      split at hcontrol
      · cases hcontrol
      rename_i hvalue
      obtain rfl := Option.some.inj hcontrol
      rw [not_not, toNat_long_val, List.take_take] at hvalue
      by_cases h89 : 0x89 ≤ y.getD 1 0
      · have hk : 8 < (y.getD 1 0 &&& 0x7f).toNat := by
          by_contra hle
          exact (second_octet_le hb).1 (by omega) h89
        rw [Nat.min_eq_left (by omega)] at hvalue
        exact absurd ⟨hfirst, h89, by omega, hvalue⟩ hno
      · have hk := (second_octet_le hb).2 h89
        rw [Nat.min_eq_right hk] at hvalue
        exact ⟨by omega, rfl, hvalue⟩

end reader

/-! ### Integers -/

namespace RutokenCSR

lemma value_stripped (m : ByteString) : Tlv.value (stripped m) = Tlv.value m := by
  fun_induction stripped m with
  | case1 b rest ih =>
    rw [ih]
    simp [Tlv.value]
  | case2 m _ => rfl

lemma stripped_ne_nil {m : ByteString} (h : m ≠ []) : stripped m ≠ [] := by
  fun_induction stripped m with
  | case1 b rest ih => exact ih (by simp)
  | case2 m _ => exact h

lemma length_stripped_le (m : ByteString) : (stripped m).length ≤ m.length := by
  fun_induction stripped m with
  | case1 b rest ih => exact Nat.le_succ_of_le ih
  | case2 m _ => exact Nat.le_refl _

/-- The top bit of a byte. -/
lemma top_bit (b : UInt8) : b &&& 0x80 ≠ 0 ↔ 0x80 ≤ b := by
  have hmask : ∀ n < 256, (n &&& 128 = 0 ↔ n < 128) := by decide +kernel
  rw [Ne, ← UInt8.toNat_inj, UInt8.toNat_and, UInt8.le_iff_toNat_le]
  exact (not_congr (hmask b.toNat b.toNat_lt)).trans Nat.not_lt

/-- Only a last byte may be zero. -/
lemma stripped_first {m : ByteString} (h : 2 ≤ (stripped m).length) : (stripped m).getD 0 0 ≠ 0 := by
  fun_induction stripped m with
  | case1 b rest ih => exact ih h
  | case2 m hm =>
    match m, h, hm with
    | a :: b :: rest, _, hm =>
      intro h0
      exact hm b rest (by rw [show a = 0 from h0])

/-- **The integer** of a magnitude is the shortest item of the number, whatever zeros are in
front. -/
lemma derInteger_isInteger {m : ByteString} (hm : m ≠ []) (hlen : m.length < 2 ^ 63) :
    Der.IsInteger (Tlv.value m) (derInteger m) := by
  have hne := stripped_ne_nil hm
  have hle := length_stripped_le m
  have hval := value_stripped m
  have hfirst := fun h => stripped_first (m := m) h
  rw [derInteger]
  obtain ⟨a, rest, hs⟩ := List.exists_cons_of_ne_nil hne
  rw [hs] at hle hval hfirst ⊢
  have ha : (a :: rest).getD 0 0 = a := rfl
  have hlength : (a :: rest).length = rest.length + 1 := rfl
  rw [ha] at hfirst ⊢
  by_cases htopa : a &&& 0x80 ≠ 0
  · rw [if_pos htopa]
    refine ⟨0 :: a :: rest, ⟨by simp, fun _ => ⟨?_, ?_⟩⟩, ?_, ?_⟩
    · exact fun hno => absurd ((top_bit a).1 htopa) (UInt8.not_le.2 hno.2)
    · have h0 : (0 : UInt8) ≠ 0xff := by decide
      exact fun hno => h0 hno.1
    · rw [Der.signedValue, ← hval]
      simp [Tlv.value]
    · exact taggedWith_eq 0x02 (by simp only [List.length_cons] at hle ⊢; omega)
  · rw [if_neg htopa]
    refine ⟨a :: rest, ⟨by simp, fun h2 => ⟨?_, ?_⟩⟩, ?_, ?_⟩
    · exact fun hno => hfirst h2 hno.1
    · rintro ⟨hff, -⟩
      refine htopa ?_
      rw [show a = 0xff from hff]
      decide
    · have hno : ¬ 0x80 ≤ (a :: rest).headD 0 := fun h => htopa ((top_bit a).2 h)
      rw [Der.signedValue, if_neg hno, hval, sub_zero]
    · exact taggedWith_eq 0x02 (by simp only [List.length_cons] at hle ⊢; omega)

end RutokenCSR

/-! ### All three -/

/-- **Octet strings and lengths**: the encoders agree and write shortest items, the reader takes back
what is written, and what it gives is the content of an octet string just where no length is
oversized. -/
theorem octet_strings_agree_iff (x y m : ByteString) :
    (x.length < 2 ^ 63 →
      octet2Raw (raw2Octet x) = x ∧ raw2Octet x = RutokenCMS.tagged 0x04 x ∧
        raw2Octet x = RutokenCSR.tagged 0x04 x ∧ raw2Octet x = Der.encode 0x04 x) ∧
    ((octet2Raw y ≠ [] → Tlv.IsItem 0x04 (octet2Raw y) y) ↔ ¬ Oversized y) ∧
    (m ≠ [] → m.length < 2 ^ 63 → Der.IsInteger (Tlv.value m) (RutokenCSR.derInteger m)) := by
  refine ⟨fun hx => ?_, octet2Raw_isItem_iff y, fun hm hlen =>
    RutokenCSR.derInteger_isInteger hm hlen⟩
  have hlt : x.length < 2 ^ 64 := by omega
  have henc := raw2Octet_eq hlt
  have htag := taggedWith_eq 0x04 hlt
  exact ⟨octet2Raw_raw2Octet hlt, henc.trans htag.symm, henc.trans htag.symm, henc⟩

/-- Three bytes, one byte behind a length that is longer than it need be, and the integer 255 with a
zero in front. -/
theorem octet_strings_agree_short :
    octet2Raw (raw2Octet [1, 2, 3]) = [1, 2, 3] ∧
      Tlv.IsItem 0x04 (octet2Raw [0x04, 0x81, 0x01, 0xff]) [0x04, 0x81, 0x01, 0xff] ∧
      Der.IsInteger (Tlv.value [0, 0xff]) (RutokenCSR.derInteger [0, 0xff]) := by
  obtain ⟨hround, hitem, hinteger⟩ :=
    octet_strings_agree_iff [1, 2, 3] [0x04, 0x81, 0x01, 0xff] [0, 0xff]
  refine ⟨(hround (by decide)).1, hitem.2 (fun h => ?_) (by decide),
    hinteger (by decide) (by decide)⟩
  exact absurd h.2.1 (by decide)

/-- Nine octets of a length that are 770 together, in front of three bytes. -/
theorem oversized_length_read :
    let y : ByteString := [0x04, 0x89, 0, 0, 0, 0, 0, 0, 0, 3, 2, 7, 8, 9]
    octet2Raw y = [7, 8, 9] ∧ ¬ Tlv.IsItem 0x04 [7, 8, 9] y ∧
      Tlv.value ((y.drop 2).take 9) = 770 := by
  refine ⟨by decide, fun h => ?_, by decide⟩
  have hread : Tlv.read [0x04, 0x89, 0, 0, 0, 0, 0, 0, 0, 3, 2, 7, 8, 9] = none := by decide
  rw [Tlv.IsItem, hread] at h
  cases h

end SoftHSM
