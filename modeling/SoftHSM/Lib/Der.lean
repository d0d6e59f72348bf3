import SoftHSM.Lib.Numeral

/-!
The shortest forms of lengths and of integers: no length in more octets than it needs, and no
octet of an integer that only repeats its sign.
-/

namespace SoftHSM.Der

open Numeral

/-! ### Numbers in as few bytes as they need -/

/-- The bytes of a number are known from how many there are and from the number. -/
lemma eq_of_value {l l' : List UInt8} (hlen : l.length = l'.length)
    (h : Tlv.value l = Tlv.value l') : l = l' := by
  induction l using List.reverseRecOn generalizing l' with
  | nil => exact (List.length_eq_zero_iff.1 hlen.symm).symm
  | append_singleton l b ih =>
    rcases List.eq_nil_or_concat' l' with rfl | ⟨l', b', rfl⟩
    · simp at hlen
    · have hone : ∀ x : UInt8, Tlv.value [x] = x.toNat := by simp [Tlv.value]
      rw [value_append, value_append, hone, hone] at h
      simp only [List.length_append, List.length_singleton, pow_one] at h hlen
      have hb := b.toNat_lt
      have hb' := b'.toNat_lt
      have hbyte : b = b' := UInt8.toNat_inj.1 (by omega)
      have hrest : l = l' := ih (by omega) (by omega)
      rw [hrest, hbyte]

lemma value_minimalBigEndian (n : ℕ) : Tlv.value (minimalBigEndian n) = n := by
  have hdigits : ∀ l : List ℕ, (∀ d ∈ l, d < 256) →
      Tlv.value (l.reverse.map UInt8.ofNat) = Nat.ofDigits 256 l := by
    intro l
    induction l with
    | nil => intro _; rfl
    | cons d l ih =>
      intro h
      have hd := h d (by simp)
      have hone : Tlv.value [UInt8.ofNat d] = d := by
        simp only [Tlv.value, List.foldl_cons, List.foldl_nil, zero_mul, zero_add]
        exact Tlv.toNat_ofNat hd
      rw [List.reverse_cons, List.map_append, value_append, ih fun x hx => h x (by simp [hx]),
        List.map_singleton, hone, Nat.ofDigits_cons, List.length_singleton, pow_one]
      ring
  rw [minimalBigEndian, hdigits _ fun d hd => Nat.digits_lt_base (by decide) hd, Nat.ofDigits_digits]

lemma length_minimalBigEndian_le {n k : ℕ} (h : n < 256 ^ k) : (minimalBigEndian n).length ≤ k := by
  rw [minimalBigEndian, List.length_map, List.length_reverse]
  exact (Nat.digits_length_le_iff (by decide) n).2 h

/-- A number between two powers has so many bytes. -/
lemma minimalBigEndian_eq {n r : ℕ} (hlow : n ≠ 0 → 256 ^ (r - 1) ≤ n) (h : n < 256 ^ r)
    (h0 : n = 0 → r = 0) : minimalBigEndian n = bigEndian r n := by
  have hlen : (minimalBigEndian n).length = r := by
    by_cases hn : n = 0
    · rw [h0 hn, hn]
      rfl
    · have hle := length_minimalBigEndian_le h
      have hge : r ≤ (minimalBigEndian n).length := by
        by_contra hlt
        have hval := value_lt (minimalBigEndian n)
        rw [value_minimalBigEndian] at hval
        have hpow : 256 ^ (minimalBigEndian n).length ≤ 256 ^ (r - 1) :=
          Nat.pow_le_pow_right (by decide) (by omega)
        have := hlow hn
        omega
      omega
  refine eq_of_value (by rw [hlen, length_bigEndian]) ?_
  rw [value_minimalBigEndian, value_bigEndian, Nat.mod_eq_of_lt h]

/-! ### Items -/

/-- The fewest octets for a length. -/
def lengthOctets (n : ℕ) : List UInt8 :=
  if n < 128 then [UInt8.ofNat n]
  else UInt8.ofNat (0x80 + (minimalBigEndian n).length) :: minimalBigEndian n

def encode (tag : UInt8) (content : List UInt8) : List UInt8 :=
  tag :: (lengthOctets content.length ++ content)

lemma readLength_lengthOctets {n : ℕ} (h : n < 256 ^ 127) (rest : List UInt8) :
    Tlv.readLength (lengthOctets n ++ rest) = some (n, rest) := by
  rw [lengthOctets]
  split
  · rename_i hs
    simp [Tlv.readLength, Tlv.toNat_ofNat (show n < 256 by omega), hs]
  · have hle := length_minimalBigEndian_le h
    have hnum : (UInt8.ofNat (0x80 + (minimalBigEndian n).length)).toNat =
        128 + (minimalBigEndian n).length := Tlv.toNat_ofNat (by omega)
    have hsub : 128 + (minimalBigEndian n).length - 128 = (minimalBigEndian n).length := by omega
    rw [List.cons_append, Tlv.readLength, hnum, if_neg (by omega), hsub, if_neg (by simp),
      List.take_left' rfl, List.drop_left' rfl, value_minimalBigEndian]

/-- **An item** is read as it was written. -/
lemma read_encode {tag : UInt8} {content : List UInt8} (h : content.length < 256 ^ 127)
    (rest : List UInt8) : Tlv.read (encode tag content ++ rest) = some (tag, content, rest) := by
  rw [encode, List.cons_append, List.append_assoc, Tlv.read, readLength_lengthOctets h]
  simp

lemma length_le_encode (tag : UInt8) (content : List UInt8) :
    content.length ≤ (encode tag content).length := by
  rw [encode, List.length_cons, List.length_append]
  omega

/-- The content of an item of a tag, if that is all there is. -/
def contentOf (tag : UInt8) (bytes : List UInt8) : Option (List UInt8) :=
  match Tlv.read bytes with
  | some (tag', content, []) => if tag' = tag then some content else none
  | _ => none

lemma contentOf_encode {tag : UInt8} {content : List UInt8} (h : content.length < 256 ^ 127) :
    contentOf tag (encode tag content) = some content := by
  have hread := @read_encode tag _ h []
  rw [List.append_nil] at hread
  rw [contentOf, hread]
  exact if_pos rfl

/-- The items of which there are so many at most, each as it stands. -/
def itemsUpTo : ℕ → List UInt8 → Option (List (List UInt8))
  | _, [] => some []
  | 0, _ => none
  | n + 1, bytes =>
    match Tlv.read bytes with
    | none => none
    | some (_, _, rest) =>
      (itemsUpTo n rest).map (bytes.take (bytes.length - rest.length) :: ·)

/-- The items that the bytes are, one after another. -/
def items (bytes : List UInt8) : Option (List (List UInt8)) := itemsUpTo bytes.length bytes

/-- The bytes are a shortest item. -/
def IsEncoded (tag : UInt8) (bytes : List UInt8) : Prop := ∃ content, bytes = encode tag content

/-- **Items in a row** are told apart. -/
lemma items_flatten {l : List (List UInt8)} (h : ∀ b ∈ l, ∃ tag, IsEncoded tag b)
    (hlen : l.flatten.length < 256 ^ 127) : items l.flatten = some l := by
  have hupTo : ∀ n, l.flatten.length ≤ n → itemsUpTo n l.flatten = some l := by
    induction l with
    | nil =>
      intro n _
      cases n <;> rfl
    | cons b l ih =>
      intro n hn
      obtain ⟨tag, content, rfl⟩ := h b (List.mem_cons_self ..)
      have hpos : 0 < (encode tag content).length := by rw [encode, List.length_cons]; omega
      have hcontent := length_le_encode tag content
      rw [List.flatten_cons, List.length_append] at hlen hn
      obtain ⟨n, rfl⟩ : ∃ k, n = k + 1 := ⟨n - 1, by omega⟩
      have hread := @read_encode tag content (by omega) l.flatten
      have hrest := ih (fun b' hb' => h b' (List.mem_cons_of_mem _ hb')) (by omega) n (by omega)
      rw [List.flatten_cons]
      obtain ⟨x, xs, hx⟩ := List.exists_cons_of_ne_nil (List.ne_nil_of_length_pos hpos)
      rw [hx] at hread ⊢
      rw [List.cons_append] at hread ⊢
      rw [itemsUpTo, hread]
      · dsimp only
        rw [hrest, Option.map_some, ← List.cons_append, List.length_append, Nat.add_sub_cancel,
          List.take_left' rfl]
      · simp
  exact hupTo _ le_rfl

/-! ### Integers -/

/-- The number that the octets are when the top bit is the sign. -/
def signedValue (octets : List UInt8) : ℤ :=
  Tlv.value octets - if 0x80 ≤ octets.headD 0 then 256 ^ octets.length else 0

/-- There is an octet, and the first nine bits are not all the same. -/
def MinimalInteger (octets : List UInt8) : Prop :=
  octets ≠ [] ∧ (2 ≤ octets.length →
    ¬ (octets.getD 0 0 = 0 ∧ octets.getD 1 0 < 0x80) ∧
    ¬ (octets.getD 0 0 = 0xff ∧ 0x80 ≤ octets.getD 1 0))

/-- The shortest item that is this integer. -/
def IsInteger (z : ℤ) (bytes : List UInt8) : Prop :=
  ∃ octets, MinimalInteger octets ∧ signedValue octets = z ∧ bytes = encode 0x02 octets

end SoftHSM.Der
