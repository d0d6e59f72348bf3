import SoftHSM.DataMgr.SecureDataManager
import SoftHSM.Lib.Numeral
import SoftHSM.Lib.Certificate
import SoftHSM.Lib.PrimeOrder
import Mathlib.Tactic.NormNum.Prime

/-!
The curves of GOST R 34.10: the domain that an encoded OID stands for, what is asked of the group
that Botan makes of a domain, and how points are written.

A key has its point as `X || Y`, the lowest byte of each coordinate first.
-/

namespace SoftHSM

open Numeral

/-- The numbers that a curve is given by. -/
structure Domain where
  p : ℕ
  a : ℕ
  b : ℕ
  x : ℕ
  y : ℕ
  order : ℕ
  cofactor : ℕ
  deriving DecidableEq

/-- `BigInt::bytes`. -/
def bytes (n : ℕ) : ℕ := if n = 0 then 0 else n.log2 / 8 + 1

/-- What is asked of a group of Botan: the coordinates of a point but for the one at infinity, and
what may throw. -/
structure EC_Group (Point : Type) extends Domain where
  base : Point
  affine : Point → Option (ℕ × ℕ)
  OS2ECP : ByteString → Option Point
  verify_public_element : Point → Bool
  blinded_base_point_multiply : ℕ → Option Point
  blinded_var_point_multiply : Point → ℕ → Option Point

namespace EC_Group

variable {Point : Type} (g : EC_Group Point)

def mod_order (k : ℕ) : ℕ := k % g.order

def inverse_mod_order (k : ℕ) : ℕ := ((k : ZMod g.order)⁻¹).val

def multiply_mod_order (j k : ℕ) : ℕ := j * k % g.order

/-- The uncompressed form of a point; at infinity there is one byte only. -/
def encode (P : Point) : ByteString :=
  match g.affine P with
  | none => [0x00]
  | some (x, y) => 0x04 :: (bigEndian (bytes g.p) x ++ bigEndian (bytes g.p) y)

/-- A point in the form that keys have. -/
def publicValue (P : Point) : ByteString :=
  match g.affine P with
  | none => []
  | some (x, y) => (bigEndian (bytes g.p) x).reverse ++ (bigEndian (bytes g.p) y).reverse

/-- A group is that of a domain: as large as its cofactor and its order tell, with a base point of
prime order, with points that have coordinates in the field and can be read back, and with products
that are right for the points of that order. -/
structure Models [AddCommGroup Point] (d : Domain) : Prop where
  domain : g.toDomain = d
  prime : d.order.Prime
  card : Nat.card Point = d.cofactor * d.order
  base_order : addOrderOf g.base = d.order
  affine_eq_none : ∀ P, g.affine P = none ↔ P = 0
  affine_lt : ∀ P x y, g.affine P = some (x, y) → x < d.p ∧ y < d.p
  OS2ECP_iff : ∀ b P, b.length = 1 + 2 * bytes d.p → b.head? = some 0x04 →
    (g.OS2ECP b = some P ↔ P ≠ 0 ∧ g.encode P = b)
  verify : ∀ P, g.verify_public_element P = true ↔
    P ≠ 0 ∧ d.order • P = 0 ∧ d.cofactor • P ≠ 0
  base_multiply : ∀ k, g.blinded_base_point_multiply k = some (k • g.base)
  var_multiply : ∀ P k, d.order • P = 0 → g.blinded_var_point_multiply P k = some (k • P)

end EC_Group

namespace BotanGOSTCurves

/-- id-tc26-gost-3410-2012-256-paramSetA. -/
def tc26_256_A : Domain where
  p := 0xFFFFFFFFFFFFFFFFFFFFFFFFFFFFFFFFFFFFFFFFFFFFFFFFFFFFFFFFFFFFFD97
  a := 0xC2173F1513981673AF4892C23035A27CE25E2013BF95AA33B22C656F277E7335
  b := 0x295F9BAE7428ED9CCC20E7C359A9D41A22FCCD9108E17BF7BA9337A6F8AE9513
  x := 0x91E38443A5E82C0D880923425712B2BB658B9196932E02C78B2582FE742DAA28
  y := 0x32879423AB1A0375895786C4BB46E9565FDE0B5344766740AF268ADB32322E5C
  order := 0x400000000000000000000000000000000FD8CDDFC87B6635C115AF556C360C67
  cofactor := 4

/-- id-GostR3410-2001-CryptoPro-A-ParamSet. -/
def cryptoPro_A : Domain where
  p := 0xFFFFFFFFFFFFFFFFFFFFFFFFFFFFFFFFFFFFFFFFFFFFFFFFFFFFFFFFFFFFFD97
  a := 0xFFFFFFFFFFFFFFFFFFFFFFFFFFFFFFFFFFFFFFFFFFFFFFFFFFFFFFFFFFFFFD94
  b := 0xA6
  x := 1
  y := 0x8D91E471E0989CDA27DF505A453F2B7635294F2DDF23E3B122ACC99C9E9F1E14
  order := 0xFFFFFFFFFFFFFFFFFFFFFFFFFFFFFFFF6C611070995AD10045841B09B761B893
  cofactor := 1

/-- id-GostR3410-2001-CryptoPro-B-ParamSet. -/
def cryptoPro_B : Domain where
  p := 0x8000000000000000000000000000000000000000000000000000000000000C99
  a := 0x8000000000000000000000000000000000000000000000000000000000000C96
  b := 0x3E1AF419A269A5F866A7D3C25C3DF80AE979259373FF2B182F49D4CE7E1BBC8B
  x := 1
  y := 0x3FA8124359F96680B83D1C3EB2C070E5C545C9858D03ECFB744BF8D717717EFC
  order := 0x800000000000000000000000000000015F700CFFF1A624E5E497161BCC8A198F
  cofactor := 1

/-- id-GostR3410-2001-CryptoPro-C-ParamSet. -/
def cryptoPro_C : Domain where
  p := 0x9B9F605F5A858107AB1EC85E6B41C8AACF846E86789051D37998F7B9022D759B
  a := 0x9B9F605F5A858107AB1EC85E6B41C8AACF846E86789051D37998F7B9022D7598
  b := 0x805A
  x := 0
  y := 0x41ECE55743711A8C3CBF3783CD08C0EE4D4DC440D4641A8F366E550DFDB3BB67
  order := 0x9B9F605F5A858107AB1EC85E6B41C8AA582CA3511EDDFB74F02F3A6598980BB9
  cofactor := 1

/-- id-tc26-gost-3410-12-512-paramSetA. -/
def tc26_512_A : Domain where
  p := 0xFFFFFFFFFFFFFFFFFFFFFFFFFFFFFFFFFFFFFFFFFFFFFFFFFFFFFFFFFFFFFFFF * 2 ^ 256 +
    0xFFFFFFFFFFFFFFFFFFFFFFFFFFFFFFFFFFFFFFFFFFFFFFFFFFFFFFFFFFFFFDC7
  a := 0xFFFFFFFFFFFFFFFFFFFFFFFFFFFFFFFFFFFFFFFFFFFFFFFFFFFFFFFFFFFFFFFF * 2 ^ 256 +
    0xFFFFFFFFFFFFFFFFFFFFFFFFFFFFFFFFFFFFFFFFFFFFFFFFFFFFFFFFFFFFFDC4
  b := 0xE8C2505DEDFC86DDC1BD0B2B6667F1DA34B82574761CB0E879BD081CFD0B6265 * 2 ^ 256 +
    0xEE3CB090F30D27614CB4574010DA90DD862EF9D4EBEE4761503190785A71C760
  x := 3
  y := 0x7503CFE87A836AE3A61B8816E25450E6CE5E1C93ACF1ABC1778064FDCBEFA921 * 2 ^ 256 +
    0xDF1626BE4FD036E93D75E6A50E3A41E98028FE5FC235F5B889A589CB5215F2A4
  order := 0xFFFFFFFFFFFFFFFFFFFFFFFFFFFFFFFFFFFFFFFFFFFFFFFFFFFFFFFFFFFFFFFF * 2 ^ 256 +
    0x27E69532F48D89116FF22B8D4E0560609B4B38ABFAD2B85DCACDB1411F10B275
  cofactor := 1

/-- id-tc26-gost-3410-12-512-paramSetB. -/
def tc26_512_B : Domain where
  p := 0x8000000000000000000000000000000000000000000000000000000000000000 * 2 ^ 256 + 0x6F
  a := 0x8000000000000000000000000000000000000000000000000000000000000000 * 2 ^ 256 + 0x6C
  b := 0x687D1B459DC841457E3E06CF6F5E2517B97C7D614AF138BCBF85DC806C4B289F * 2 ^ 256 +
    0x3E965D2DB1416D217F8B276FAD1AB69C50F78BEE1FA3106EFB8CCBC7C5140116
  x := 2
  y := 0x1A8F7EDA389B094C2C071E3647A8940F3C123B697578C213BE6DD9E6C8EC7335 * 2 ^ 256 +
    0xDCB228FD1EDF4A39152CBCAAF8C0398828041055F94CEEEC7E21340780FE41BD
  order := 0x8000000000000000000000000000000000000000000000000000000000000001 * 2 ^ 256 +
    0x49A1EC142565A545ACFDB77BD9D40CFA8B996712101BEA0EC6346C54374F25BD
  cofactor := 1

/-- id-tc26-gost-3410-2012-512-paramSetC. -/
def tc26_512_C : Domain where
  p := 0xFFFFFFFFFFFFFFFFFFFFFFFFFFFFFFFFFFFFFFFFFFFFFFFFFFFFFFFFFFFFFFFF * 2 ^ 256 +
    0xFFFFFFFFFFFFFFFFFFFFFFFFFFFFFFFFFFFFFFFFFFFFFFFFFFFFFFFFFFFFFDC7
  a := 0xDC9203E514A721875485A529D2C722FB187BC8980EB866644DE41C68E1430645 * 2 ^ 256 +
    0x46E861C0E2C9EDD92ADE71F46FCF50FF2AD97F951FDA9F2A2EB6546F39689BD3
  b := 0xB4C4EE28CEBC6C2C8AC12952CF37F16AC7EFB6A9F69F4B57FFDA2E4F0DE5ADE0 * 2 ^ 256 +
    0x38CBC2FFF719D2C18DE0284B8BFEF3B52B8CC7A5F5BF0A3C8D2319A5312557E1
  x := 0xE2E31EDFC23DE7BDEBE241CE593EF5DE2295B7A9CBAEF021D385F7074CEA043A * 2 ^ 256 +
    0xA27272A7AE602BF2A7B9033DB9ED3610C6FB85487EAE97AAC5BC7928C1950148
  y := 0xF5CE40D95B5EB899ABBCCFF5911CB8577939804D6527378B8C108C3D2090FF9B * 2 ^ 256 +
    0xE18E2D33E3021ED2EF32D85822423B6304F726AA854BAE07D0396E9A9ADDC40F
  order := 0x3FFFFFFFFFFFFFFFFFFFFFFFFFFFFFFFFFFFFFFFFFFFFFFFFFFFFFFFFFFFFFFF * 2 ^ 256 +
    0xC98CDBA46506AB004C33A9FF5147502CC8EDA9E7A769A12694623CEF47F023ED
  cofactor := 4

def oidTC26_256_A : ByteString := [0x06, 0x09, 0x2a, 0x85, 0x03, 0x07, 0x01, 0x02, 0x01, 0x01, 0x01]
def oidTC26_256_B : ByteString := [0x06, 0x09, 0x2a, 0x85, 0x03, 0x07, 0x01, 0x02, 0x01, 0x01, 0x02]
def oidCryptoProA : ByteString := [0x06, 0x07, 0x2a, 0x85, 0x03, 0x02, 0x02, 0x23, 0x01]
def oidCryptoProB : ByteString := [0x06, 0x07, 0x2a, 0x85, 0x03, 0x02, 0x02, 0x23, 0x02]
def oidCryptoProC : ByteString := [0x06, 0x07, 0x2a, 0x85, 0x03, 0x02, 0x02, 0x23, 0x03]
def oidCryptoProXchA : ByteString := [0x06, 0x07, 0x2a, 0x85, 0x03, 0x02, 0x02, 0x24, 0x00]
def oidTC26_512_A : ByteString := [0x06, 0x09, 0x2a, 0x85, 0x03, 0x07, 0x01, 0x02, 0x01, 0x02, 0x01]
def oidTC26_512_B : ByteString := [0x06, 0x09, 0x2a, 0x85, 0x03, 0x07, 0x01, 0x02, 0x01, 0x02, 0x02]
def oidTC26_512_C : ByteString := [0x06, 0x09, 0x2a, 0x85, 0x03, 0x07, 0x01, 0x02, 0x01, 0x02, 0x03]

/-- The curves by their OIDs, three of which are for one curve. -/
def table : List (ByteString × Domain) :=
  [(oidTC26_256_A, tc26_256_A), (oidTC26_256_B, cryptoPro_A), (oidCryptoProA, cryptoPro_A),
    (oidCryptoProB, cryptoPro_B), (oidCryptoProC, cryptoPro_C), (oidCryptoProXchA, cryptoPro_A),
    (oidTC26_512_A, tc26_512_A), (oidTC26_512_B, tc26_512_B), (oidTC26_512_C, tc26_512_C)]

def lookup (encodedCurveOID : ByteString) : Option Domain :=
  (table.find? fun entry => encodedCurveOID = entry.1).map Prod.snd

def supported (encodedCurveOID : ByteString) : Bool := (lookup encodedCurveOID).isSome

/-- The group of a curve; where there is none, this throws. -/
def group {Point : Type} (botan : Domain → EC_Group Point) (encodedCurveOID : ByteString) :
    Option (EC_Group Point) :=
  (lookup encodedCurveOID).map botan

/-- The bits of the field, which are those of the order but for two curves. -/
def orderBits (encodedCurveOID : ByteString) : ℕ :=
  match lookup encodedCurveOID with
  | none => 0
  | some domain => bytes domain.p * 8

/-- The uncompressed form of a point with its lowest bytes first. -/
def uncompressed (fieldBytes : ℕ) (publicValue : ByteString) : ByteString :=
  0x04 :: ((publicValue.take fieldBytes).reverse ++
    ((publicValue.drop fieldBytes).take fieldBytes).reverse)

/-! ### The table -/

section domains

variable {ec : ByteString} {d : Domain}

lemma mem_table (h : lookup ec = some d) : (ec, d) ∈ table := by
  obtain ⟨entry, hfind, rfl⟩ := Option.map_eq_some_iff.1 h
  have hec : ec = entry.1 := by simpa using List.find?_some hfind
  rw [hec]
  exact List.mem_of_find?_eq_some hfind

/-- **The curves**: a field of 32 or 64 bytes, an order as long and a cofactor of one or four. -/
lemma table_spec : ∀ entry ∈ table, (bytes entry.2.p = 32 ∨ bytes entry.2.p = 64) ∧
    bytes entry.2.order = bytes entry.2.p ∧ entry.2.p < 256 ^ bytes entry.2.p ∧
    entry.2.order < 256 ^ bytes entry.2.p ∧ 2 ^ 128 < entry.2.order ∧
    (entry.2.cofactor = 1 ∨ entry.2.cofactor = 4) := by
  decide +kernel

lemma spec_of_lookup (h : lookup ec = some d) : (bytes d.p = 32 ∨ bytes d.p = 64) ∧
    bytes d.order = bytes d.p ∧ d.p < 256 ^ bytes d.p ∧ d.order < 256 ^ bytes d.p ∧
    2 ^ 128 < d.order ∧ (d.cofactor = 1 ∨ d.cofactor = 4) :=
  table_spec _ (mem_table h)

lemma supported_of_lookup (h : lookup ec = some d) : supported ec = true := by
  rw [supported, h]
  rfl

lemma orderBits_of_lookup (h : lookup ec = some d) : orderBits ec = bytes d.p * 8 := by
  rw [orderBits, h]

lemma group_of_lookup {Point : Type} {botan : Domain → EC_Group Point} (h : lookup ec = some d) :
    group botan ec = some (botan d) := by
  rw [group, h]
  rfl

end domains

/-! ### Points -/

section points

variable {Point : Type} [AddCommGroup Point] {g : EC_Group Point} {d : Domain} {P : Point}

lemma length_publicValue (hg : g.Models d) (hP : P ≠ 0) :
    (g.publicValue P).length = 2 * bytes d.p := by
  cases hxy : g.affine P with
  | none => exact absurd ((hg.affine_eq_none P).1 hxy) hP
  | some xy =>
    rw [EC_Group.publicValue, hxy, hg.domain]
    dsimp only
    rw [List.length_append, List.length_reverse, List.length_reverse, length_bigEndian,
      length_bigEndian, Nat.two_mul]

/-- Both forms of a point hold its coordinates. -/
lemma uncompressed_publicValue (hg : g.Models d) (hP : P ≠ 0) :
    uncompressed (bytes d.p) (g.publicValue P) = g.encode P := by
  cases hxy : g.affine P with
  | none => exact absurd ((hg.affine_eq_none P).1 hxy) hP
  | some xy =>
    obtain ⟨x, y⟩ := xy
    have htake : ((bigEndian (bytes d.p) x).reverse ++ (bigEndian (bytes d.p) y).reverse).take
        (bytes d.p) = (bigEndian (bytes d.p) x).reverse :=
      List.take_left' (by rw [List.length_reverse, length_bigEndian])
    have hdrop : ((bigEndian (bytes d.p) x).reverse ++ (bigEndian (bytes d.p) y).reverse).drop
        (bytes d.p) = (bigEndian (bytes d.p) y).reverse :=
      List.drop_left' (by rw [List.length_reverse, length_bigEndian])
    rw [EC_Group.publicValue, EC_Group.encode, hxy, hg.domain]
    dsimp only
    rw [uncompressed, htake, hdrop, List.take_of_length_le
      (by rw [List.length_reverse, length_bigEndian]), List.reverse_reverse, List.reverse_reverse]

lemma uncompressed_injective {n : ℕ} {v w : ByteString} (hv : v.length = 2 * n)
    (hw : w.length = 2 * n) (h : uncompressed n v = uncompressed n w) : v = w := by
  have hlen : ∀ u : ByteString, u.length = 2 * n → (u.drop n).take n = u.drop n := fun u hu =>
    List.take_of_length_le (by rw [List.length_drop]; omega)
  rw [uncompressed, uncompressed, hlen v hv, hlen w hw] at h
  obtain ⟨htake, hdrop⟩ := List.append_inj (List.cons.inj h).2 (by simp [hv, hw])
  rw [← List.take_append_drop n v, ← List.take_append_drop n w, List.reverse_injective htake,
    List.reverse_injective hdrop]

/-- **What a key has as its point** is read as that point, and nothing else is. -/
lemma OS2ECP_uncompressed (hg : g.Models d) {v : ByteString} (hv : v.length = 2 * bytes d.p) :
    g.OS2ECP (uncompressed (bytes d.p) v) = some P ↔ P ≠ 0 ∧ v = g.publicValue P := by
  have hlen : (uncompressed (bytes d.p) v).length = 1 + 2 * bytes d.p := by
    simp only [uncompressed, List.length_cons, List.length_append, List.length_reverse,
      List.length_take, List.length_drop, hv]
    omega
  rw [hg.OS2ECP_iff _ _ hlen rfl]
  refine and_congr_right fun hP => ?_
  rw [← uncompressed_publicValue hg hP]
  constructor
  · exact fun h => (uncompressed_injective (length_publicValue hg hP) hv h).symm
  · rintro rfl
    rfl

/-- **A point is a good one** exactly if it is a multiple of the base point, and not zero. -/
lemma verify_public_element_iff (hg : g.Models d) (hd : d.cofactor = 1 ∨ d.cofactor = 4)
    (horder : 4 < d.order) :
    g.verify_public_element P = true ↔ P ≠ 0 ∧ P ∈ AddSubgroup.zmultiples g.base := by
  have hndvd : ¬ d.order ∣ d.cofactor := fun h => by
    have hle := Nat.le_of_dvd (by omega) h
    omega
  have hbase : d.order • g.base = 0 := by rw [← hg.base_order, addOrderOf_nsmul_eq_zero]
  have htorsion : P ∈ AddSubgroup.zmultiples g.base ↔ d.order • P = 0 := by
    constructor
    · rintro ⟨k, rfl⟩
      rw [smul_comm, hbase, smul_zero]
    · exact PrimeOrder.mem_zmultiples hg.prime hg.card hndvd hg.base_order
  rw [hg.verify, htorsion]
  refine and_congr_right fun hP => ⟨fun h => h.1, fun h => ⟨h, fun hc => ?_⟩⟩
  rcases (Nat.dvd_prime hg.prime).1 (addOrderOf_dvd_of_nsmul_eq_zero h) with hone | horderP
  · exact hP (AddMonoid.addOrderOf_eq_one_iff.1 hone)
  · exact hndvd (horderP ▸ addOrderOf_dvd_of_nsmul_eq_zero hc)

end points

/-! ### Residues for points

A group of the right size, with the two digits of a residue for its coordinates. -/

section residues

variable (d : Domain)

def residueXY (P : ZMod (d.cofactor * d.order)) : Option (ℕ × ℕ) :=
  if P = 0 then none else some (P.val % d.p, P.val / d.p)

def residueBytes (P : ZMod (d.cofactor * d.order)) : ByteString :=
  match residueXY d P with
  | none => [0x00]
  | some (x, y) => 0x04 :: (bigEndian (bytes d.p) x ++ bigEndian (bytes d.p) y)

/-- The residue that is written so, if there is one. -/
def residueOf (b : ByteString) : Option (ZMod (d.cofactor * d.order)) :=
  let P : ZMod (d.cofactor * d.order) :=
    ((Tlv.value (b.tail.drop (bytes d.p)) * d.p + Tlv.value (b.tail.take (bytes d.p)) : ℕ) :
      ZMod (d.cofactor * d.order))
  if P ≠ 0 ∧ residueBytes d P = b then some P else none

def residues : EC_Group (ZMod (d.cofactor * d.order)) where
  toDomain := d
  base := (d.cofactor : ZMod (d.cofactor * d.order))
  affine := residueXY d
  OS2ECP := residueOf d
  verify_public_element P := P ≠ 0 ∧ d.order • P = 0 ∧ d.cofactor • P ≠ 0
  blinded_base_point_multiply k := some (k • (d.cofactor : ZMod (d.cofactor * d.order)))
  blinded_var_point_multiply P k := some (k • P)

variable {d}

/-- The base point is the cofactor. -/
lemma affine_base (hc : 0 < d.cofactor) (horder : 1 < d.order) :
    (residues d).affine (residues d).base = some (d.cofactor % d.p, d.cofactor / d.p) := by
  have hval : (d.cofactor : ZMod (d.cofactor * d.order)).val = d.cofactor :=
    ZMod.val_natCast_of_lt (by nlinarith)
  have hne : (d.cofactor : ZMod (d.cofactor * d.order)) ≠ 0 := by
    intro h
    rw [h, ZMod.val_zero] at hval
    omega
  change residueXY d (d.cofactor : ZMod (d.cofactor * d.order)) = _
  rw [residueXY, if_neg hne, hval]

lemma residueOf_iff (hp : 0 < d.p) (hfield : d.p < 256 ^ bytes d.p)
    (hsize : 0 < d.cofactor * d.order) (hfit : d.cofactor * d.order ≤ d.p * 256 ^ bytes d.p)
    {b : ByteString} {P : ZMod (d.cofactor * d.order)} :
    residueOf d b = some P ↔ P ≠ 0 ∧ residueBytes d P = b := by
  have : NeZero (d.cofactor * d.order) := ⟨hsize.ne'⟩
  rw [residueOf]
  constructor
  · intro h
    split_ifs at h with hP
    obtain rfl := Option.some.inj h
    exact hP
  · rintro ⟨hP, rfl⟩
    have hlow : P.val % d.p < 256 ^ bytes d.p := (Nat.mod_lt _ hp).trans hfield
    have hhigh : P.val / d.p < 256 ^ bytes d.p :=
      Nat.div_lt_of_lt_mul ((ZMod.val_lt P).trans_le hfit)
    have hbytes : residueBytes d P = 0x04 :: (bigEndian (bytes d.p) (P.val % d.p) ++
        bigEndian (bytes d.p) (P.val / d.p)) := by
      rw [residueBytes, residueXY, if_neg hP]
    have hback : ((Tlv.value ((residueBytes d P).tail.drop (bytes d.p)) * d.p +
        Tlv.value ((residueBytes d P).tail.take (bytes d.p)) : ℕ) :
          ZMod (d.cofactor * d.order)) = P := by
      rw [hbytes, List.tail_cons, List.take_left' (length_bigEndian _ _),
        List.drop_left' (length_bigEndian _ _), value_bigEndian, value_bigEndian,
        Nat.mod_eq_of_lt hlow, Nat.mod_eq_of_lt hhigh, Nat.div_add_mod', ZMod.natCast_zmod_val]
    rw [hback, if_pos ⟨hP, rfl⟩]

lemma size_table : ∀ entry ∈ table, entry.2.cofactor * entry.2.order ≤ entry.2.p * entry.2.p := by
  decide +kernel

/-- The prime factors of the order of the first curve, and of what they are the successors of. -/
def orderCertificate : List (ℕ × ℕ × List ℕ) :=
  [(0x400000000000000000000000000000000FD8CDDFC87B6635C115AF556C360C67, 5, [2, 1597,
      9063250566477473029396601832239191284702116561707029881813448155537110319]),
    (9063250566477473029396601832239191284702116561707029881813448155537110319, 13,
      [2, 189901, 6069352144407099389074663, 3931736492670839143743017191070058480879893]),
    (3931736492670839143743017191070058480879893, 2,
      [2, 2, 11, 109, 17473382489, 46916785131077745398948568643]),
    (46916785131077745398948568643, 3, [2, 3, 3, 13, 200499081756742501704908413]),
    (200499081756742501704908413, 2, [2, 2, 3, 7, 53, 10029421, 4490362170434611]),
    (4490362170434611, 2, [2, 3, 3, 5, 6016063, 8293283]),
    (6069352144407099389074663, 3, [2, 3, 11, 13, 59, 331, 292027, 893723, 1387871]),
    (17473382489, 3, [2, 2, 2, 2184172811]),
    (2184172811, 6, [2, 5, 107, 2041283]),
    (10029421, 2, [2, 2, 3, 3, 3, 3, 5, 41, 151]),
    (8293283, 2, [2, 373, 11117]),
    (6016063, 3, [2, 3, 13, 13, 17, 349]),
    (2041283, 2, [2, 59, 17299]),
    (1387871, 7, [2, 5, 11, 11, 31, 37]),
    (893723, 2, [2, 19, 29, 811]),
    (292027, 5, [2, 3, 7, 17, 409]),
    (189901, 2, [2, 2, 3, 3, 5, 5, 211]),
    (17299, 2, [2, 3, 3, 31, 31]),
    (11117, 3, [2, 2, 7, 397])]

lemma prime_order : tc26_256_A.order.Prime := by
  have hsmall : ∀ f ∈ [2, 3, 5, 7, 11, 13, 17, 19, 29, 31, 37, 41, 53, 59, 107, 109, 151, 211, 331,
      349, 373, 397, 409, 811, 1597], Nat.Prime f := by
    norm_num
  have hcert : Certificate.Certified [2, 3, 5, 7, 11, 13, 17, 19, 29, 31, 37, 41, 53, 59, 107, 109,
      151, 211, 331, 349, 373, 397, 409, 811, 1597] orderCertificate := by
    decide +kernel
  exact hcert.prime hsmall _ (List.mem_cons_self ..)

/-- **The residues** are a group of a domain, if its order is prime. -/
theorem residues_models {ec : ByteString} (hec : lookup ec = some d) (hprime : d.order.Prime) :
    (residues d).Models d := by
  obtain ⟨hwidth, hbytes, hfield, -, hlarge, hcof⟩ := spec_of_lookup hec
  have hc : 0 < d.cofactor := by omega
  have hsize : 0 < d.cofactor * d.order := Nat.mul_pos hc hprime.pos
  have hp : 0 < d.p := by
    by_contra h
    obtain hz : d.p = 0 := by omega
    rw [hz] at hwidth
    simp [bytes] at hwidth
  have hfit : d.cofactor * d.order ≤ d.p * d.p := size_table _ (mem_table hec)
  have : NeZero (d.cofactor * d.order) := ⟨hsize.ne'⟩
  exact
    { domain := rfl
      prime := hprime
      card := Nat.card_zmod _
      base_order := by
        rw [residues, ZMod.addOrderOf_coe _ hsize.ne', Nat.gcd_comm,
          Nat.gcd_eq_left (Dvd.intro _ rfl), Nat.mul_div_cancel_left _ hc]
      affine_eq_none := fun P => by simp [residues, residueXY]
      affine_lt := fun P x y h => by
        have hxy : residueXY d P = some (x, y) := h
        rw [residueXY] at hxy
        split_ifs at hxy
        cases hxy
        exact ⟨Nat.mod_lt _ hp, Nat.div_lt_of_lt_mul ((ZMod.val_lt P).trans_le hfit)⟩
      OS2ECP_iff := fun b P _ _ =>
        residueOf_iff hp hfield hsize (hfit.trans (Nat.mul_le_mul_left _ hfield.le))
      verify := fun P => by simp [residues]
      base_multiply := fun _ => rfl
      var_multiply := fun _ _ _ => rfl }

end residues

end BotanGOSTCurves

end SoftHSM
