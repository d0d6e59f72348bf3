import SoftHSM.Crypto.GOSTSymmetricAlgorithm

/-!
What the modes with a changing key make of a text, they take back: the step of a block undoes the
step of the other direction, whatever the key has become by then, so both sides have the same key
and feedback in front of every block.
-/

set_option linter.unusedSectionVars false

namespace SoftHSM

open Crypt (SymMode)
open Mgm (Cipher)

/-! ### Bytes and blocks -/

lemma ofFn_getD {n : ℕ} {p : ByteString} (h : p.length = n) :
    List.ofFn (fun i : Fin n => p.getD i 0) = p := by
  refine List.ext_getElem (by simp [h]) fun i hi hi' => ?_
  rw [List.getElem_ofFn, List.getD_eq_getElem]

lemma getD_ofFn_block {n : ℕ} (b : Block n) : (fun i : Fin n => (List.ofFn b).getD i 0) = b := by
  funext i
  rw [List.getD_eq_getElem _ _ (by rw [List.length_ofFn]; exact i.isLt), List.getElem_ofFn]

/-- A stream put over a text twice. -/
lemma zipWith_xor_twice {p g : ByteString} (h : p.length ≤ g.length) :
    List.zipWith (· ^^^ ·) (List.zipWith (· ^^^ ·) p g) g = p := by
  refine List.ext_getElem (by simp; omega) fun i hi hi' => ?_
  simp

lemma length_zipWith_block {n : ℕ} {p : ByteString} (b : Block n) (h : p.length ≤ n) :
    (List.zipWith (· ^^^ ·) p (List.ofFn b)).length = p.length := by
  simp [h]

/-- A check that was passed. -/
lemma passed_of_fst {α : Type*} {c : Prop} [Decidable c] {a : α} {x : Bool × α}
    (h : (if c then (false, a) else x).1 = true) :
    ¬ c ∧ (if c then (false, a) else x) = x ∧ x.1 = true := by
  by_cases hc : c
  · rw [if_pos hc] at h
    cases h
  · rw [if_neg hc] at h
    exact ⟨hc, if_neg hc, h⟩

namespace GOST28147

variable (g : GOST28147)

lemma keyed_meshKey (iv : Option (Block 8)) : (g.meshKey iv).1.keyed = true := by
  refine g.keyed_setKey ?_
  have hlen : ((List.range 4).flatMap fun i => List.ofFn (g.decryptBlock (meshBlock i) 0)).length =
      32 := by
    simp [List.length_flatMap]
  rw [setKey, if_pos hlen]

end GOST28147

namespace GOST28147Algorithm

/-- The cipher has a key. -/
def Keyed (s : Registers) : Prop := s.1.keyed = true

lemma keyed_meshAt {s : Registers} (hs : Keyed s) (offset : ℕ) : Keyed (meshAt offset s) := by
  rw [meshAt]
  split
  · exact s.1.keyed_meshKey s.2
  · exact hs

@[simp] lemma blockOf_ofFn (b : Block 8) : blockOf (List.ofFn b) = b := getD_ofFn_block b

lemma ofFn_blockOf {p : ByteString} (h : p.length = 8) : List.ofFn (blockOf p) = p := ofFn_getD h

/-! ### One step undoes the other -/

lemma ecb_undoes : Chained.Undoes (· = 8) Keyed (ecbStep true) (ecbStep false) where
  length _ _ p hp := by simp [ecbStep, hp]
  keep offset s _ hs _ := keyed_meshAt hs offset
  undo offset s p hs hp := by
    have hk : (meshAt offset s).1.keyed = true := keyed_meshAt hs offset
    simp only [ecbStep, if_true, Bool.false_eq_true, if_false, blockOf_ofFn,
      GOST28147.decryptBlock_encryptBlock _ hk, ofFn_blockOf hp]

lemma cfb_undoes : Chained.Undoes (· ≤ 8) Keyed (cfbStep true) (cfbStep false) where
  length _ _ p hp := length_zipWith_block _ hp
  keep offset s _ hs _ := keyed_meshAt hs offset
  undo offset s p _ hp := by
    simp only [cfbStep, if_true, Bool.false_eq_true, if_false, length_zipWith_block _ hp]
    rw [zipWith_xor_twice (by simpa using hp)]

lemma cbc_undoes : Chained.Undoes (· = 8) Keyed (cbcStep true) (cbcStep false) where
  length _ _ p hp := by simp [cbcStep, hp]
  keep offset s _ hs _ := keyed_meshAt hs offset
  undo offset s p hs hp := by
    have hk : (meshAt offset s).1.keyed = true := keyed_meshAt hs offset
    simp only [cbcStep, if_true, Bool.false_eq_true, if_false, blockOf_ofFn,
      GOST28147.decryptBlock_encryptBlock _ hk, xor_cancel_right, ofFn_blockOf hp]

/-- And the other way round: what a block was decrypted to is encrypted to the block. -/
lemma cbc_undone : Chained.Undoes (· = 8) Keyed (cbcStep false) (cbcStep true) where
  length _ _ p hp := by simp [cbcStep, hp]
  keep offset s _ hs _ := keyed_meshAt hs offset
  undo offset s p hs hp := by
    have hk : (meshAt offset s).1.keyed = true := keyed_meshAt hs offset
    simp only [cbcStep, if_true, Bool.false_eq_true, if_false, blockOf_ofFn, xor_cancel_right,
      GOST28147.encryptBlock_decryptBlock _ hk, ofFn_blockOf hp]

/-! ### The last block -/

lemma foldl_or_eq_zero (count : ℕ) (f : ℕ → UInt8) (l : List ℕ) (d : UInt8) :
    l.foldl (fun d i => if i < count then d ||| f i else d) d = 0 ↔
      d = 0 ∧ ∀ i ∈ l, i < count → f i = 0 := by
  induction l generalizing d with
  | nil => simp
  | cons i l ih =>
    rw [List.foldl_cons, ih]
    by_cases h : i < count
    · simp [h, and_assoc]
    · simp [h]

lemma difference_eq_zero {out : ByteString} {count : UInt8} (h : count.toNat ≤ 8) :
    difference out count = 0 ↔
      ∀ i < count.toNat, out.getD (out.length - 1 - i) 0 = count := by
  rw [difference, foldl_or_eq_zero]
  constructor
  · rintro ⟨-, hall⟩ i hi
    exact UInt8.xor_eq_zero_iff.1 (hall i (List.mem_range.2 (by omega)) hi)
  · exact fun hall => ⟨rfl, fun i _ hi => UInt8.xor_eq_zero_iff.2 (hall i hi)⟩

/-- The bytes that a text is filled up with. -/
lemma length_padded (m : ByteString) : (padded m).length = 8 * (m.length / 8 + 1) := by
  simp only [padded, List.length_append, List.length_replicate]
  omega

/-- What the check of the last block lets through. -/
def Ends (out : ByteString) : Prop :=
  let count := out.getD (out.length - 1) 0
  ¬ (count = 0 ∨ 8 < count) ∧ difference out count = 0

instance (out : ByteString) : Decidable (Ends out) := inferInstanceAs (Decidable (_ ∧ _))

lemma count_padded (m : ByteString) :
    (padded m).getD ((padded m).length - 1) 0 = UInt8.ofNat (8 - m.length % 8) := by
  have hlen : (padded m).length = m.length + (8 - m.length % 8) := by simp [padded]
  rw [hlen, padded, List.getD_append_right _ _ _ _ (by omega), List.getD_eq_getElem _ _ (by simp; omega),
    List.getElem_replicate]

lemma toNat_count (m : ByteString) : (UInt8.ofNat (8 - m.length % 8)).toNat = 8 - m.length % 8 :=
  UInt8.toNat_ofNat_of_lt' (by rw [UInt8.size]; omega)

lemma ends_padded (m : ByteString) : Ends (padded m) := by
  have hn := toNat_count m
  rw [Ends, count_padded]
  refine ⟨?_, (difference_eq_zero (by omega)).2 fun i hi => ?_⟩
  · rintro (h0 | h8)
    · rw [h0, UInt8.toNat_zero] at hn
      omega
    · have := UInt8.lt_iff_toNat_lt.1 h8
      rw [hn, show (8 : UInt8).toNat = 8 from rfl] at this
      omega
  · have hlen : (padded m).length = m.length + (8 - m.length % 8) := by simp [padded]
    rw [hn] at hi
    rw [hlen, padded, List.getD_append_right _ _ _ _ (by omega),
      List.getD_eq_getElem _ _ (by simp; omega), List.getElem_replicate]

/-- **A last block** that passes ends a text that was filled up. -/
lemma padded_of_ends {out : ByteString} (h8 : 8 ∣ out.length) (hpos : out.length ≠ 0)
    (h : Ends out) :
    padded (out.take (out.length - (out.getD (out.length - 1) 0).toNat)) = out := by
  obtain ⟨hcount, hdiff⟩ := h
  set count := out.getD (out.length - 1) 0 with hc
  have hle : count.toNat ≤ 8 := by
    have : ¬ 8 < count := fun h => hcount (.inr h)
    exact UInt8.le_iff_toNat_le.1 (UInt8.not_lt.1 this)
  have hne : count.toNat ≠ 0 := fun h0 => hcount (.inl (UInt8.toNat_inj.1 h0))
  have hall := (difference_eq_zero hle).1 hdiff
  have hlen : (out.take (out.length - count.toNat)).length = out.length - count.toNat := by simp
  have hmod : 8 - (out.length - count.toNat) % 8 = count.toNat := by omega
  have htail : out.drop (out.length - count.toNat) = List.replicate count.toNat count := by
    refine List.ext_getElem (by simp; omega) fun i hi hi' => ?_
    rw [List.length_replicate] at hi'
    have hidx : out.length - 1 - (count.toNat - 1 - i) = out.length - count.toNat + i := by omega
    have hat := hall (count.toNat - 1 - i) (by omega)
    rw [hidx, List.getD_eq_getElem _ _ (by omega)] at hat
    rw [List.getElem_drop, List.getElem_replicate, hat]
  rw [padded, hlen, hmod, UInt8.ofNat_toNat, ← htail, List.take_append_drop]

lemma take_padded (m : ByteString) :
    (padded m).take ((padded m).length - (UInt8.ofNat (8 - m.length % 8)).toNat) = m := by
  have hlen : (padded m).length = m.length + (8 - m.length % 8) := by simp [padded]
  rw [toNat_count, hlen, Nat.add_sub_cancel, padded, List.take_left']
  rfl

/-! ### From the interface to the loops -/

/-- What an accepted start of an operation leaves. -/
structure Started (a : GOST28147Algorithm) (encrypt : Bool) (mode : SymMode) (iv : ByteString)
    (c : GOST28147) : Prop where
  modes : mode = .ECB ∨ mode = .CFB ∨ mode = .CBC
  currentKey : a.currentKey.bind cipher = some c
  keyed : c.keyed = true
  currentCipherMode : a.currentCipherMode = mode
  currentOperation : a.currentOperation = .of encrypt
  input : a.input = []
  parameters : a.parameters = iv

section init

variable {a : GOST28147Algorithm} {encrypt : Bool} {mode : SymMode} {iv : ByteString}

/-- A key that is taken at the start is taken at the end. -/
lemma started_of_init {key : Option SymmetricKey} {padding : Bool} {aad : ByteString} {tagBytes : ℕ}
    (h : (cryptInit encrypt a key mode iv padding aad tagBytes).1 = true) :
    ∃ k c, key = some k ∧ cipher k = some c ∧
      Started (cryptInit encrypt a key mode iv padding aad tagBytes).2 encrypt mode iv c := by
  by_cases haad : aad.length = 0 ∧ tagBytes = 0
  case neg =>
    rw [cryptInit, if_neg haad] at h
    cases h
  rw [cryptInit, if_pos haad] at h ⊢
  rcases key with _ | k
  · cases h
  rw [init.eq_def] at h ⊢
  dsimp only at h ⊢
  obtain ⟨hmode, heq, h⟩ := passed_of_fst h
  rw [heq]
  obtain ⟨hiv, heq, h⟩ := passed_of_fst h
  rw [heq]
  obtain ⟨hset, heq, h⟩ := passed_of_fst h
  rw [heq]
  obtain ⟨hop, heq, h⟩ := passed_of_fst h
  rw [startOperation, heq]
  obtain ⟨g, hg⟩ := Option.isSome_iff_exists.1 (Option.isNone_eq_false_iff.1 (Bool.eq_false_of_not_eq_true hset))
  push Not at hmode
  have hkey : cipher k = some (g.keyedWith fun i => k.keyBits.getD i 0) := by
    simp [cipher, hg, GOST28147.setKey, hmode.1]
  have hmodes : mode = .ECB ∨ mode = .CFB ∨ mode = .CBC := by
    by_contra hno
    push Not at hno
    exact absurd (hmode.2 hno.1 hno.2.1) hno.2.2
  exact ⟨k, _, rfl, hkey, ⟨hmodes, hkey, rfl, rfl, rfl, rfl, rfl⟩⟩

lemma updates_eq (h : a.currentOperation = .of encrypt) (chunks : List ByteString) :
    updates encrypt a chunks = some { a with input := a.input ++ chunks.flatten } := by
  induction chunks generalizing a with
  | nil => simp [updates]
  | cons data chunks ih =>
    have hstep : cryptUpdate encrypt a data = (true, { a with input := a.input ++ data }) :=
      if_neg (not_not.2 h)
    have hrest := ih (a := { a with input := a.input ++ data }) h
    rw [updates, hstep, List.flatten_cons, ← List.append_assoc]
    exact hrest

/-- An operation gives what its mode makes of all that came in. -/
lemma result_eq {c : GOST28147} (h : Started a encrypt mode iv c) (chunks : List ByteString) :
    result encrypt a chunks =
      let r := { a with input := chunks.flatten }.process c [] encrypt
      if r.1 then some r.2 else none := by
  have hup := updates_eq h.currentOperation chunks
  rw [h.input, List.nil_append] at hup
  rw [result, hup]
  simp only [Option.bind_eq_bind, Option.bind_some, finish, h.currentKey]
  cases ({ a with input := chunks.flatten }.process c [] encrypt).1 with
  | false => rfl
  | true => simp [endOperation, h.currentOperation]

/-- The text that the loop of a mode works off. -/
def text (mode : SymMode) (encrypt : Bool) (input : ByteString) : ByteString :=
  if mode = .CBC ∧ encrypt then padded input else input

/-- What the loop of a mode starts with. -/
def start (mode : SymMode) (c : GOST28147) (iv : ByteString) : Registers :=
  (c, if mode = .ECB then none else some (blockOf iv))

/-- The step of a mode undoes the other one on the pieces that its texts have; only those of the
stream may be shorter than a block. -/
lemma undoes_fits (hm : mode = .ECB ∨ mode = .CFB ∨ mode = .CBC) {input : ByteString}
    (h : mode = .ECB → 8 ∣ input.length) :
    ∃ A, Chained.Undoes A Keyed (step mode true) (step mode false) ∧
      Chained.Fits 8 A (text mode true input).length := by
  rcases hm with rfl | rfl | rfl
  · exact ⟨_, ecb_undoes, Chained.fits_of_dvd (by decide) (h rfl)⟩
  · exact ⟨_, cfb_undoes, Chained.fits_of_le (by decide) _⟩
  · refine ⟨_, cbc_undoes, Chained.fits_of_dvd (by decide) ?_⟩
    rw [text, if_pos ⟨rfl, rfl⟩, length_padded]
    exact Nat.dvd_mul_right ..

/-- What goes over from one side to the other. -/
def sent (mode : SymMode) (c : GOST28147) (iv input : ByteString) : ByteString :=
  (Chained.loop 8 (step mode true) (text mode true input) (start mode c iv)).2

/-- **Both sides** keep the same at every block, and what was encrypted is what is decrypted. -/
lemma after_sent {c : GOST28147} (hm : mode = .ECB ∨ mode = .CFB ∨ mode = .CBC)
    (hk : c.keyed = true) {input : ByteString} (h : mode = .ECB → 8 ∣ input.length) :
    (sent mode c iv input).length = (text mode true input).length ∧
    (∀ k ≤ Chained.pieces 8 (sent mode c iv input).length,
      registers mode true (start mode c iv) (text mode true input) k =
        registers mode false (start mode c iv) (sent mode c iv input) k) ∧
    (Chained.loop 8 (step mode false) (sent mode c iv input) (start mode c iv)).2 =
      text mode true input := by
  obtain ⟨A, hu, hf⟩ := undoes_fits hm h
  have hs : Keyed (start mode c iv) := hk
  have hlen : (sent mode c iv input).length = _ := Chained.length_loop hu.length hf (start mode c iv)
  refine ⟨hlen, fun k hkk => ?_, Chained.loop_undoes hu hf hs⟩
  rw [hlen] at hkk
  exact (congrArg Prod.fst (Chained.after_undoes hu hf hs hkk)).symm

/-- What is given out on the sender's side. -/
lemma result_sent {c : GOST28147} (h : Started a true mode iv c) {chunks : List ByteString}
    (hw : mode = .ECB → 8 ∣ chunks.flatten.length) :
    result true a chunks = some (sent mode c iv chunks.flatten) := by
  rw [result_eq h, process, h.currentCipherMode]
  rcases h.modes with rfl | rfl | rfl
  · have h0 : ¬ chunks.flatten.length % 8 ≠ 0 := not_not.2 (Nat.mod_eq_zero_of_dvd (hw rfl))
    simp only [processECB, if_neg h0]
    rfl
  · rw [processCFB, h.parameters]
    rfl
  · rw [processCBC, h.parameters]
    rfl

/-- And what is given out on the receiver's, where nothing is filled up. -/
lemma result_received {c : GOST28147} (h : Started a false mode iv c) (hm : mode ≠ .CBC)
    {chunks : List ByteString} (hw : mode = .ECB → 8 ∣ chunks.flatten.length) :
    result false a chunks = some
      (Chained.loop 8 (step mode false) chunks.flatten (start mode c iv)).2 := by
  rw [result_eq h, process, h.currentCipherMode]
  rcases h.modes with rfl | rfl | rfl
  · have h0 : ¬ chunks.flatten.length % 8 ≠ 0 := not_not.2 (Nat.mod_eq_zero_of_dvd (hw rfl))
    simp only [processECB, if_neg h0]
    rfl
  · rw [processCFB, h.parameters]
    rfl
  · exact absurd rfl hm

/-- What comes out of the blocks of a text that was filled up. -/
def received (c : GOST28147) (iv input : ByteString) : ByteString :=
  (Chained.loop 8 (step .CBC false) input (start .CBC c iv)).2

lemma processCBC_of_ends (c : GOST28147) {input : ByteString} (h0 : input.length ≠ 0)
    (h8 : 8 ∣ input.length) (he : Ends (received c iv input)) :
    processCBC c iv input [] false =
      (true, (received c iv input).take ((received c iv input).length -
        ((received c iv input).getD ((received c iv input).length - 1) 0).toNat)) := by
  have hgood : ¬ (!false ∧ (input.length = 0 ∨ input.length % 8 ≠ 0)) := by
    rintro ⟨-, hno | hno⟩
    · exact h0 hno
    · exact hno (Nat.mod_eq_zero_of_dvd h8)
  rw [processCBC, if_neg hgood]
  exact (if_neg he.1).trans (if_neg (not_not.2 he.2))

lemma processCBC_of_not_ends (c : GOST28147) {input : ByteString}
    (h : ¬ (input.length ≠ 0 ∧ 8 ∣ input.length ∧ Ends (received c iv input))) :
    (processCBC c iv input [] false).1 = false := by
  rw [processCBC]
  split
  · rfl
  rename_i hgood
  have hno : ¬ Ends (received c iv input) := by
    intro he
    refine h ⟨fun h0 => hgood ⟨rfl, .inl h0⟩, Nat.dvd_of_mod_eq_zero ?_, he⟩
    by_contra h8
    exact hgood ⟨rfl, .inr h8⟩
  simp only [Bool.false_eq_true, if_false]
  split
  · rfl
  rename_i hcount
  split
  · rfl
  rename_i hdiff
  exact absurd ⟨hcount, not_not.1 hdiff⟩ hno

/-- And where the last block has to end as it should. -/
lemma result_received_cbc {c : GOST28147} (h : Started a false .CBC iv c)
    (chunks : List ByteString) {m : ByteString} :
    result false a chunks = some m ↔
      chunks.flatten.length ≠ 0 ∧ 8 ∣ chunks.flatten.length ∧
        received c iv chunks.flatten = padded m := by
  have hproc : { a with input := chunks.flatten }.process c [] false =
      processCBC c iv chunks.flatten [] false := by
    rw [process, h.currentCipherMode, h.parameters]
  rw [result_eq h, hproc]
  have hlen : 8 ∣ chunks.flatten.length →
      (received c iv chunks.flatten).length = chunks.flatten.length := fun h8 =>
    Chained.length_loop cbc_undone.length (Chained.fits_of_dvd (by decide) h8) _
  by_cases hends : chunks.flatten.length ≠ 0 ∧ 8 ∣ chunks.flatten.length ∧
      Ends (received c iv chunks.flatten)
  · obtain ⟨h0, h8, he⟩ := hends
    have hpad := padded_of_ends (by rwa [hlen h8]) (by rwa [hlen h8]) he
    rw [processCBC_of_ends c h0 h8 he]
    simp only [if_true, Option.some.injEq]
    constructor
    · rintro rfl
      exact ⟨h0, h8, hpad.symm⟩
    · rintro ⟨-, -, hm⟩
      rw [hm, count_padded, take_padded]
  · dsimp only
    rw [processCBC_of_not_ends c hends]
    simp only [Bool.false_eq_true, if_false]
    refine ⟨fun hno => (by cases hno), fun ⟨h0, h8, hm⟩ => absurd ⟨h0, h8, ?_⟩ hends⟩
    rw [hm]
    exact ends_padded m

end init

/-- The key and the feedback that an operation has in front of block `k` of what came in. -/
def registersAt (a : GOST28147Algorithm) (encrypt : Bool) (input : ByteString) (k : ℕ) :
    Option Registers :=
  (a.currentKey.bind cipher).map fun c =>
    registers a.currentCipherMode encrypt (start a.currentCipherMode c a.parameters)
      (text a.currentCipherMode encrypt input) k

section sides

variable {a b : GOST28147Algorithm} {mode : SymMode} {iv : ByteString} {c : GOST28147}

lemma registersAt_eq {encrypt : Bool} (h : Started a encrypt mode iv c) (input : ByteString) (k : ℕ) :
    a.registersAt encrypt input k =
      some (registers mode encrypt (start mode c iv) (text mode encrypt input) k) := by
  rw [registersAt, h.currentKey, h.currentCipherMode, h.parameters]
  rfl

/-- **A message** comes back from what it was encrypted to, and both sides went through the same
keys. -/
lemma decrypts_own_output (ha : Started a true mode iv c) (hb : Started b false mode iv c)
    {chunks : List ByteString} (hw : mode = .ECB → 8 ∣ chunks.flatten.length) :
    ∃ out, result true a chunks = some out ∧
      (∀ chunks', chunks'.flatten = out → result false b chunks' = some chunks.flatten) ∧
      ∀ k ≤ Chained.pieces 8 out.length, ∃ r,
        a.registersAt true chunks.flatten k = some r ∧ b.registersAt false out k = some r := by
  obtain ⟨hlen, hregs, hback⟩ := @after_sent _ iv _ ha.modes ha.keyed _ hw
  refine ⟨_, result_sent ha hw, fun chunks' hc => ?_, fun k hk => ⟨_, registersAt_eq ha _ k, ?_⟩⟩
  · by_cases hm : mode = .CBC
    · subst hm
      refine (result_received_cbc hb chunks').2 ?_
      have hpad : text .CBC true chunks.flatten = padded chunks.flatten := if_pos ⟨rfl, rfl⟩
      rw [hpad] at hlen hback
      rw [hc, hlen, length_padded]
      exact ⟨by omega, Nat.dvd_mul_right .., hback⟩
    · have htext : text mode true chunks.flatten = chunks.flatten := if_neg fun h => hm h.1
      rw [htext] at hlen hback
      rw [result_received hb hm (by rwa [hc, hlen]), hc, hback]
  · have htext : text mode false (sent mode c iv chunks.flatten) = sent mode c iv chunks.flatten :=
      if_neg (by simp)
    rw [registersAt_eq hb, htext, hregs k hk]

/-- **Decryption** of a text in full blocks gives a message exactly where it is what that message is
encrypted to. -/
lemma decrypts_cbc_iff (ha : Started a true .CBC iv c) (hb : Started b false .CBC iv c)
    {chunks : List ByteString} {m : ByteString} :
    result false b chunks = some m ↔
      chunks.flatten.length ≠ 0 ∧ 8 ∣ chunks.flatten.length ∧
        result true a [m] = some chunks.flatten := by
  have hm : [m].flatten = m := by simp
  rw [result_received_cbc hb, result_sent ha (fun h => by cases h), hm, Option.some.injEq]
  have hpad : text .CBC true m = padded m := if_pos ⟨rfl, rfl⟩
  refine and_congr_right fun _ => and_congr_right fun h8 => ?_
  have hf := Chained.fits_of_dvd (n := 8) (by decide) h8
  have hs : Keyed (start .CBC c iv) := ha.keyed
  constructor
  · intro h
    rw [sent, hpad, ← h]
    exact Chained.loop_undoes cbc_undone hf hs
  · intro h
    obtain ⟨-, -, hback⟩ := @after_sent _ iv _ ha.modes ha.keyed m (fun h => by cases h)
    rw [h, hpad] at hback
    exact hback

end sides

end GOST28147Algorithm

/-! ### The stream of counters -/

namespace GOSTSymmetricAlgorithm

variable {o : ByteOrder} {cf : Cipher}

lemma blockSize_pos (cf : Cipher) : 0 < cf.blockSize := by
  cases cf <;> decide

/-- The stream does not depend on what it is put over. -/
lemma acpkm_undoes (o : ByteOrder) (sectionLen : ℕ) :
    Chained.Undoes (· ≤ cf.blockSize) (fun _ => True) (acpkmStep o sectionLen)
      (acpkmStep o sectionLen : Chained.Step (Registers cf) UInt8) where
  length _ _ p hp := length_zipWith_block _ hp
  keep _ _ _ _ _ := trivial
  undo _ _ p _ hp := by
    simp only [acpkmStep]
    rw [zipWith_xor_twice (by simpa using hp)]

/-- What an accepted start of an operation leaves. -/
structure Started (o : ByteOrder) (a : GOSTSymmetricAlgorithm cf) (encrypt : Bool) (iv : ByteString)
    (key : SymmetricKey) (g : GOSTSymmetric cf) : Prop where
  currentKey : a.currentKey = some key
  cipher : cipher o key = some g
  keyed : g.keyed = true
  currentCipherMode : a.currentCipherMode = .CTR_ACPKM
  currentOperation : a.currentOperation = .of encrypt
  input : a.input = []
  parameters : a.parameters = iv
  accepts : acpkmAccepts cf iv = true

lemma cipher_of_length (o : ByteOrder) {key : SymmetricKey} (h : key.keyBits.length = 32) :
    ∃ g : GOSTSymmetric cf, cipher o key = some g ∧ g.keyed = true := by
  have hset : (GOSTSymmetric.new.setKey o (some key.keyBits) : Bool × GOSTSymmetric cf).1 = true := by
    rw [GOSTSymmetric.setKey, if_pos h]
  refine ⟨_, ?_, GOSTSymmetric.keyed_setKey hset⟩
  simp [cipher, hset]

section init

variable {a b : GOSTSymmetricAlgorithm cf} {encrypt : Bool} {iv : ByteString}

lemma started_of_init (o : ByteOrder) {key : Option SymmetricKey} {padding : Bool} {aad : ByteString}
    {tagBytes : ℕ} (h : (cryptInit encrypt a key .CTR_ACPKM iv padding aad tagBytes).1 = true) :
    ∃ k g, key = some k ∧ cipher o k = some g ∧
      Started o (cryptInit encrypt a key .CTR_ACPKM iv padding aad tagBytes).2 encrypt iv k g := by
  rw [cryptInit] at h ⊢
  obtain ⟨hpadding, heq, h⟩ := passed_of_fst h
  rw [heq]
  rcases key with _ | k
  · cases h
  rw [init.eq_def] at h ⊢
  dsimp only at h ⊢
  obtain ⟨hmode, heq, h⟩ := passed_of_fst h
  rw [heq]
  obtain ⟨hecb, heq, h⟩ := passed_of_fst h
  rw [heq]
  obtain ⟨hparams, heq, h⟩ := passed_of_fst h
  rw [heq]
  obtain ⟨hmgm, heq, h⟩ := passed_of_fst h
  rw [heq]
  obtain ⟨haad, heq, h⟩ := passed_of_fst h
  rw [heq]
  obtain ⟨hop, heq, h⟩ := passed_of_fst h
  rw [startOperation, heq]
  have hlen : k.keyBits.length = 32 := not_not.1 fun hno => hmode (.inl hno)
  have haccepts : acpkmAccepts cf iv = true := by
    cases hacc : acpkmAccepts cf iv with
    | true => rfl
    | false => exact absurd ⟨rfl, by simp [hacc]⟩ hparams
  obtain ⟨g, hg, hk⟩ := @cipher_of_length cf o _ hlen
  exact ⟨k, g, rfl, hg, ⟨rfl, hg, hk, rfl, rfl, rfl, rfl, haccepts⟩⟩

lemma updates_eq (hm : a.currentCipherMode = .CTR_ACPKM) (h : a.currentOperation = .of encrypt)
    (chunks : List ByteString) :
    updates encrypt a chunks = some { a with input := a.input ++ chunks.flatten } := by
  induction chunks generalizing a with
  | nil => simp [updates]
  | cons data chunks ih =>
    have hmax : a.checkMaximumBytes data.length = true := by
      rw [checkMaximumBytes, hm]
      rfl
    have hstep : cryptUpdate encrypt a data = (true, { a with input := a.input ++ data }) := by
      rw [cryptUpdate, hmax]
      exact if_neg (not_not.2 h)
    have hrest := ih (a := { a with input := a.input ++ data }) hm h
    rw [updates, hstep, List.flatten_cons, ← List.append_assoc]
    exact hrest

/-- The loop of a stream. -/
def stream (o : ByteOrder) (g : GOSTSymmetric cf) (iv input : ByteString) : ByteString :=
  (Chained.loop cf.blockSize (acpkmStep o (sectionBytes (loadBE32 iv))) input
    ⟨g, firstCounter iv⟩).2

lemma result_eq {key : SymmetricKey} {g : GOSTSymmetric cf} (h : Started o a encrypt iv key g)
    (chunks : List ByteString) :
    result o encrypt a chunks = some (stream o g iv chunks.flatten) := by
  have hup := updates_eq h.currentCipherMode h.currentOperation chunks
  rw [h.input, List.nil_append] at hup
  obtain ⟨b, hb⟩ : ∃ b : GOSTSymmetricAlgorithm cf, b = { a with input := chunks.flatten } :=
    ⟨_, rfl⟩
  have hkey : b.currentKey = some key := by rw [hb]; exact h.currentKey
  have hop : b.currentOperation = .of encrypt := by rw [hb]; exact h.currentOperation
  have hproc : b.process o key [] encrypt = (true, stream o g iv chunks.flatten) := by
    rw [hb, process, h.currentCipherMode, h.parameters]
    simp only [processCTRACPKM, h.cipher]
    rfl
  rw [result, hup, ← hb]
  simp only [Option.bind_eq_bind, Option.bind_some, finish, hkey, hproc]
  simp [endOperation, hop]

end init

/-- The key and the counter that an operation has in front of block `k` of what came in. -/
def registersAt (o : ByteOrder) (a : GOSTSymmetricAlgorithm cf) (input : ByteString) (k : ℕ) :
    Option (Registers cf) :=
  (a.currentKey.bind (cipher o)).map fun g =>
    (Chained.after cf.blockSize (acpkmStep o (sectionBytes (loadBE32 a.parameters))) input
      ⟨g, firstCounter a.parameters⟩ k).1

lemma registersAt_eq {a : GOSTSymmetricAlgorithm cf} {encrypt : Bool} {iv : ByteString}
    {key : SymmetricKey} {g : GOSTSymmetric cf} (h : Started o a encrypt iv key g)
    (input : ByteString) (k : ℕ) :
    a.registersAt o input k = some (Chained.after cf.blockSize
      (acpkmStep o (sectionBytes (loadBE32 iv))) input ⟨g, firstCounter iv⟩ k).1 := by
  rw [registersAt, h.currentKey, h.parameters, Option.bind_some, h.cipher]
  rfl

/-- **A message** comes back from its stream, and both sides went through the same keys. -/
lemma decrypts_own_output {a b : GOSTSymmetricAlgorithm cf} {iv : ByteString} {key : SymmetricKey}
    {g : GOSTSymmetric cf} (ha : Started o a true iv key g) (hb : Started o b false iv key g)
    (chunks : List ByteString) :
    ∃ out, result o true a chunks = some out ∧
      (∀ chunks', chunks'.flatten = out → result o false b chunks' = some chunks.flatten) ∧
      ∀ k ≤ Chained.pieces cf.blockSize out.length, ∃ r,
        a.registersAt o chunks.flatten k = some r ∧ b.registersAt o out k = some r := by
  have hu := @acpkm_undoes cf o (sectionBytes (loadBE32 iv))
  have hf := Chained.fits_of_le (blockSize_pos cf) chunks.flatten.length
  have hlen : (stream o g iv chunks.flatten).length = chunks.flatten.length :=
    Chained.length_loop hu.length hf _
  refine ⟨_, result_eq ha chunks, fun chunks' hc => ?_, fun k hk => ⟨_, registersAt_eq ha _ k, ?_⟩⟩
  · rw [result_eq hb, hc]
    exact congrArg some (Chained.loop_undoes hu hf trivial)
  · rw [hlen] at hk
    rw [registersAt_eq hb]
    exact congrArg (fun r => some r.1) (Chained.after_undoes hu hf trivial hk)

end GOSTSymmetricAlgorithm

/-! ### All modes -/

/-- **The modes that change their key** decrypt what they encrypt, in any pieces, through the same
keys and feedbacks or counters; and of a text in filled up blocks just those are accepted that are
the encryption of something. -/
theorem meshing_modes_decrypt_own_output (o : ByteOrder) :
    (∀ (a b : GOST28147Algorithm) (key : Option SymmetricKey) (mode : SymMode) (iv : ByteString)
      (padding : Bool) (aad : ByteString) (tagBytes : ℕ),
      let sender := GOST28147Algorithm.cryptInit true a key mode iv padding aad tagBytes
      let receiver := GOST28147Algorithm.cryptInit false b key mode iv padding aad tagBytes
      sender.1 = true → receiver.1 = true →
      (∀ chunks : List ByteString, (mode = .ECB → 8 ∣ chunks.flatten.length) →
        ∃ out, sender.2.result true chunks = some out ∧
          (∀ chunks', chunks'.flatten = out → receiver.2.result false chunks' = some chunks.flatten) ∧
          ∀ k ≤ Chained.pieces 8 out.length, ∃ r,
            sender.2.registersAt true chunks.flatten k = some r ∧
              receiver.2.registersAt false out k = some r) ∧
      (mode = .CBC → ∀ chunks : List ByteString, (receiver.2.result false chunks).isSome ↔
        chunks.flatten.length ≠ 0 ∧ 8 ∣ chunks.flatten.length ∧
          ∃ m, sender.2.result true m = some chunks.flatten)) ∧
    ∀ (cf : Cipher) (a b : GOSTSymmetricAlgorithm cf) (key : Option SymmetricKey) (iv : ByteString)
      (padding : Bool) (aad : ByteString) (tagBytes : ℕ),
      let sender := GOSTSymmetricAlgorithm.cryptInit true a key .CTR_ACPKM iv padding aad tagBytes
      let receiver := GOSTSymmetricAlgorithm.cryptInit false b key .CTR_ACPKM iv padding aad tagBytes
      sender.1 = true → receiver.1 = true → ∀ chunks : List ByteString,
        ∃ out, sender.2.result o true chunks = some out ∧
          (∀ chunks', chunks'.flatten = out →
            receiver.2.result o false chunks' = some chunks.flatten) ∧
          ∀ k ≤ Chained.pieces cf.blockSize out.length, ∃ r,
            sender.2.registersAt o chunks.flatten k = some r ∧
              receiver.2.registersAt o out k = some r := by
  constructor
  · intro a b key mode iv padding aad tagBytes sender receiver hs hr
    obtain ⟨k, c, hkey, hc, ha⟩ := GOST28147Algorithm.started_of_init hs
    obtain ⟨k', c', hkey', hc', hb⟩ := GOST28147Algorithm.started_of_init hr
    obtain rfl : k = k' := Option.some.inj (hkey.symm.trans hkey')
    obtain rfl : c = c' := Option.some.inj (hc.symm.trans hc')
    refine ⟨fun chunks hw => GOST28147Algorithm.decrypts_own_output ha hb hw, ?_⟩
    rintro rfl chunks
    rw [Option.isSome_iff_exists]
    constructor
    · rintro ⟨m, hm⟩
      obtain ⟨h0, h8, hsent⟩ := (GOST28147Algorithm.decrypts_cbc_iff ha hb).1 hm
      exact ⟨h0, h8, [m], hsent⟩
    · rintro ⟨h0, h8, m, hm⟩
      obtain ⟨out, hout, hback, -⟩ :=
        @GOST28147Algorithm.decrypts_own_output _ _ _ _ _ ha hb m (fun h => by cases h)
      rw [hm] at hout
      exact ⟨_, hback chunks (Option.some.inj hout)⟩
  · intro cf a b key iv padding aad tagBytes sender receiver hs hr chunks
    obtain ⟨k, g, hkey, hg, ha⟩ := GOSTSymmetricAlgorithm.started_of_init o hs
    obtain ⟨k', g', hkey', hg', hb⟩ := GOSTSymmetricAlgorithm.started_of_init o hr
    obtain rfl : k = k' := Option.some.inj (hkey.symm.trans hkey')
    obtain rfl : g = g' := Option.some.inj (hg.symm.trans hg')
    exact GOSTSymmetricAlgorithm.decrypts_own_output ha hb chunks

/-- With a key of zeros and no parameters, in filled up blocks and as a stream. -/
theorem meshing_modes_zero_key :
    let key : Option SymmetricKey := some ⟨List.replicate 32 0, []⟩
    let iv : ByteString := List.replicate 8 0
    (∃ out,
      (GOST28147Algorithm.cryptInit true .new key .CBC iv true [] 0).2.result true [[1, 2], [3]] =
        some out ∧
      (GOST28147Algorithm.cryptInit false .new key .CBC iv true [] 0).2.result false [out] =
        some [1, 2, 3]) ∧
    ∃ out,
      (GOSTSymmetricAlgorithm.cryptInit true (.new : GOSTSymmetricAlgorithm .MAGMA) key .CTR_ACPKM iv
        false [] 0).2.result .little true [[1, 2], [3]] = some out ∧
      (GOSTSymmetricAlgorithm.cryptInit false (.new : GOSTSymmetricAlgorithm .MAGMA) key .CTR_ACPKM iv
        false [] 0).2.result .little false [out] = some [1, 2, 3] := by
  intro key iv
  constructor
  · obtain ⟨out, hout, hback, -⟩ := ((meshing_modes_decrypt_own_output .little).1 .new .new key .CBC iv
      true [] 0 rfl rfl).1 [[1, 2], [3]] (fun h => by cases h)
    exact ⟨out, hout, hback [out] (by simp)⟩
  · obtain ⟨out, hout, hback, -⟩ := (meshing_modes_decrypt_own_output .little).2 .MAGMA .new .new key iv
      false [] 0 (by decide +kernel) (by decide +kernel) [[1, 2], [3]]
    exact ⟨out, hout, hback [out] (by simp)⟩

end SoftHSM
