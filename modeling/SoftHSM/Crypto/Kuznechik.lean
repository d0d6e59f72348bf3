import SoftHSM.Lib.Memory

/-!
Kuznechik as the library computes it: the linear transformation as sixteen rounds of a dot product
over a field of 256 elements, the tables of its values that the cipher looks up instead, and both
ciphers over memory.
-/

namespace SoftHSM.Kuznechik

local instance neZero_sixteen : NeZero 16 := ⟨Nat.succ_ne_zero 15⟩

/-! ### Substitution and field -/

def kuzPiTable : List ℕ := [
  252, 238, 221, 17, 207, 110, 49, 22, 251, 196, 250, 218, 35, 197, 4, 77,
  233, 119, 240, 219, 147, 46, 153, 186, 23, 54, 241, 187, 20, 205, 95, 193,
  249, 24, 101, 90, 226, 92, 239, 33, 129, 28, 60, 66, 139, 1, 142, 79,
  5, 132, 2, 174, 227, 106, 143, 160, 6, 11, 237, 152, 127, 212, 211, 31,
  235, 52, 44, 81, 234, 200, 72, 171, 242, 42, 104, 162, 253, 58, 206, 204,
  181, 112, 14, 86, 8, 12, 118, 18, 191, 114, 19, 71, 156, 183, 93, 135,
  21, 161, 150, 41, 16, 123, 154, 199, 243, 145, 120, 111, 157, 158, 178, 177,
  50, 117, 25, 61, 255, 53, 138, 126, 109, 84, 198, 128, 195, 189, 13, 87,
  223, 245, 36, 169, 62, 168, 67, 201, 215, 121, 214, 246, 124, 34, 185, 3,
  224, 15, 236, 222, 122, 148, 176, 188, 220, 232, 40, 80, 78, 51, 10, 74,
  167, 151, 96, 115, 30, 0, 98, 68, 26, 184, 56, 130, 100, 159, 38, 65,
  173, 69, 70, 146, 39, 94, 85, 47, 140, 163, 165, 125, 105, 213, 149, 59,
  7, 88, 179, 64, 134, 172, 29, 247, 48, 55, 107, 228, 136, 217, 231, 137,
  225, 27, 131, 73, 76, 63, 248, 254, 141, 83, 170, 144, 202, 216, 133, 97,
  32, 113, 103, 164, 45, 43, 9, 91, 203, 155, 37, 208, 190, 229, 108, 82,
  89, 166, 116, 210, 230, 244, 180, 192, 209, 102, 175, 194, 57, 75, 99, 182]

def kuzPi (b : UInt8) : UInt8 := UInt8.ofNat (kuzPiTable.getD b.toNat 0)

def kuzL : Block 16 := ![148, 32, 133, 16, 194, 192, 1, 251, 1, 192, 194, 16, 133, 32, 148, 1]

/-- `a` one place up, reduced. -/
def gfDouble (a : UInt8) : UInt8 := a <<< 1 ^^^ if a &&& 0x80 ≠ 0 then 0xc3 else 0

/-- The loop of `gfMul`, over the bits of `b` from the lowest. -/
def gfMulLoop (a b r : UInt8) : UInt8 :=
  if _h : b = 0 then r
  else gfMulLoop (gfDouble a) (b >>> 1) (if b &&& 1 ≠ 0 then r ^^^ a else r)
  termination_by b.toNat
  decreasing_by
    have hpos : b.toNat ≠ 0 := fun h0 => _h (UInt8.toNat_inj.1 h0)
    simp [Nat.shiftRight_eq_div_pow]
    omega

def gfMul (a b : UInt8) : UInt8 := gfMulLoop a b 0

/-! ### The linear transformation -/

/-- One round: the dot product comes in at the front. -/
def kuzR (x : Block 16) : Block 16 :=
  Fin.cons (xorSum (List.finRange 16) fun i => gfMul (x i) (kuzL i)) (Fin.init (α := fun _ => UInt8) x)

/-- And back: the byte that went out at the end is what the others leave of the first. -/
def kuzRInv (x : Block 16) : Block 16 :=
  let y : Block 15 := Fin.tail x
  Fin.snoc (α := fun _ => UInt8) y
    ((List.finRange 15).foldl (fun z i => z ^^^ gfMul (y i) (kuzL i.castSucc)) (x 0))

def kuzLTransform (x : Block 16) : Block 16 := kuzR^[16] x

def kuzLInv (x : Block 16) : Block 16 := kuzRInv^[16] x

/-! ### The tables -/

/-- A block as two words. -/
def pack (o : ByteOrder) (b : Block 16) : UInt64 × UInt64 :=
  (load64 o fun i => b (Fin.castAdd 8 i), load64 o fun i => b (Fin.natAdd 8 i))

def unpack (o : ByteOrder) (h : UInt64 × UInt64) : Block 16 :=
  Fin.append (store64 o h.1) (store64 o h.2)

structure KuznechikTables where
  ls : Fin 16 → UInt8 → UInt64 × UInt64
  linv : Fin 16 → UInt8 → UInt64 × UInt64
  constants : Fin 32 → Block 16
  sinv : UInt8 → UInt8

def allBytes : List UInt8 := (List.range 256).map UInt8.ofNat

/-- The substitution the other way, filled in from its values. -/
def sinvTable : UInt8 → UInt8 :=
  allBytes.foldl (fun s i => Function.update s (kuzPi i) i) fun _ => 0

/-- The tables for a machine that keeps its words in this order. -/
def kuznechikTables (o : ByteOrder) : KuznechikTables where
  ls position value := pack o (kuzLTransform (unit position (kuzPi value)))
  linv position value := pack o (kuzLInv (unit position value))
  constants i := kuzLTransform (unit 15 (UInt8.ofNat (i + 1)))
  sinv := sinvTable

def kuzLS (o : ByteOrder) (t : KuznechikTables) (x : Block 16) : Block 16 :=
  unpack o ((List.finRange 16).foldl (fun h i => (h.1 ^^^ (t.ls i (x i)).1, h.2 ^^^ (t.ls i (x i)).2))
    (0, 0))

def kuzLInvTabled (o : ByteOrder) (t : KuznechikTables) (x : Block 16) : Block 16 :=
  unpack o ((List.finRange 16).foldl
    (fun h i => (h.1 ^^^ (t.linv i (x i)).1, h.2 ^^^ (t.linv i (x i)).2)) (0, 0))

/-! ### The cipher

The round functions are parameters here, so that the cipher with the tables and the cipher of the
definition are this one text at two places. -/

/-- What the rounds look up or compute. -/
structure Rounds where
  /-- `L(S(x))` -/
  ls : Block 16 → Block 16
  /-- the inverse of `L` -/
  linv : Block 16 → Block 16
  constants : Fin 32 → Block 16
  sinv : UInt8 → UInt8

/-- The rounds with the tables. -/
def tabled (o : ByteOrder) : Rounds where
  ls := kuzLS o (kuznechikTables o)
  linv := kuzLInvTabled o (kuznechikTables o)
  constants := (kuznechikTables o).constants
  sinv := (kuznechikTables o).sinv

/-- The byte that the substitution takes to this one. -/
def kuzPiInv (b : UInt8) : UInt8 := (allBytes.find? fun a => kuzPi a = b).getD 0

/-- The rounds byte by byte. -/
def plain : Rounds where
  ls x := kuzLTransform fun i => kuzPi (x i)
  linv := kuzLInv
  constants i := kuzLTransform (unit 15 (UInt8.ofNat (i + 1)))
  sinv := kuzPiInv

/-- One round of the key schedule, on the two halves. -/
def keyRound (r : Rounds) (i : Fin 32) (ab : Block 16 × Block 16) : Block 16 × Block 16 :=
  (r.ls (ab.1 ^^^ r.constants i) ^^^ ab.2, ab.1)

/-- `expandKuznechikKey`: two round keys after every eight rounds. -/
def expandKuznechikKey (r : Rounds) (key : Block 32) : Fin 10 → Block 16 :=
  let a : Block 16 := fun i => key (Fin.castAdd 16 i)
  let b : Block 16 := fun i => key (Fin.natAdd 16 i)
  let after (n : ℕ) := ((List.finRange 32).take n).foldl (fun ab i => keyRound r i ab) (a, b)
  fun k => if k.val % 2 = 0 then (after (8 * (k / 2))).1 else (after (8 * (k / 2))).2

def encryptBlock (r : Rounds) (kuzRoundKeys : Fin 10 → Block 16) (x : Block 16) : Block 16 :=
  (List.finRange 9).foldl (fun x i => r.ls (x ^^^ kuzRoundKeys i.castSucc)) x ^^^ kuzRoundKeys 9

def decryptBlock (r : Rounds) (kuzRoundKeys : Fin 10 → Block 16) (x : Block 16) : Block 16 :=
  (List.finRange 9).reverse.foldl
    (fun x i => (fun j => r.sinv (r.linv x j)) ^^^ kuzRoundKeys i.castSucc) (x ^^^ kuzRoundKeys 9)

/-- `encryptKuznechik`, from one address to another. -/
def encryptKuznechik (r : Rounds) (kuzRoundKeys : Fin 10 → Block 16) (source out : ℕ) (m : Memory) :
    Memory :=
  m.copy out (encryptBlock r kuzRoundKeys (m.block source 16))

def decryptKuznechik (r : Rounds) (kuzRoundKeys : Fin 10 → Block 16) (source out : ℕ) (m : Memory) :
    Memory :=
  m.copy out (decryptBlock r kuzRoundKeys (m.block source 16))

/-! ### The linear transformation is one -/

lemma xorAdditive_gfDouble : XorAdditive gfDouble := by
  have htop : ∀ a : UInt8, a &&& 0x80 = 0 ∨ a &&& 0x80 = 0x80 := by decide +kernel
  intro a b
  have hand : (a ^^^ b) &&& 0x80 = a &&& 0x80 ^^^ b &&& 0x80 := by
    apply UInt8.toBitVec_inj.1
    ext k hk
    simp only [UInt8.toBitVec_and, UInt8.toBitVec_xor, BitVec.getElem_and, BitVec.getElem_xor,
      Bool.and_xor_distrib_right]
  have hswap : ∀ u v w : UInt8, u ^^^ v ^^^ w = u ^^^ w ^^^ v := by
    intro u v w
    rw [UInt8.xor_assoc, UInt8.xor_comm v w, ← UInt8.xor_assoc]
  rw [gfDouble, gfDouble, gfDouble, hand, UInt8.shiftLeft_xor]
  rcases htop a with ha | ha <;> rcases htop b with hb | hb
  · simp [ha, hb]
  · simp [ha, hb, UInt8.xor_assoc]
  · simp [ha, hb, hswap]
  · have hself : ∀ u v w : UInt8, u ^^^ w ^^^ (v ^^^ w) = u ^^^ v := by
      intro u v w
      rw [← UInt8.xor_assoc, hswap u w v, UInt8.xor_assoc, UInt8.xor_self, UInt8.xor_zero]
    simp [ha, hb, hself]

lemma gfMulLoop_zero (a r : UInt8) : gfMulLoop a 0 r = r := by
  rw [gfMulLoop, dif_pos rfl]

lemma gfMulLoop_xor (a a' b r r' : UInt8) :
    gfMulLoop (a ^^^ a') b (r ^^^ r') = gfMulLoop a b r ^^^ gfMulLoop a' b r' := by
  fun_induction gfMulLoop a b r generalizing a' r' with
  | case1 a r =>
    rw [gfMulLoop_zero, gfMulLoop_zero]
  | case2 a b r hb ih =>
    rw [gfMulLoop.eq_def (a ^^^ a'), gfMulLoop.eq_def a', dif_neg hb, dif_neg hb,
      xorAdditive_gfDouble]
    simp only [dite_eq_ite] at ih
    rw [← ih]
    congr 1
    split
    · rw [UInt8.xor_assoc r, ← UInt8.xor_assoc r' a, UInt8.xor_comm r' a, UInt8.xor_assoc a,
        ← UInt8.xor_assoc r]
    · rfl

lemma xorAdditive_gfMul (b : UInt8) : XorAdditive fun a => gfMul a b := by
  intro a a'
  have h := gfMulLoop_xor a a' b 0 0
  rwa [UInt8.xor_self] at h

lemma gfMul_one (a : UInt8) : gfMul a 1 = a := by
  have hshift : (1 : UInt8) >>> 1 = 0 := by decide
  rw [gfMul, gfMulLoop, dif_neg (by decide), hshift, gfMulLoop_zero, if_pos (by decide),
    UInt8.zero_xor]

lemma xorAdditive_kuzR : XorAdditive kuzR := by
  have hdot : XorAdditive fun x : Block 16 =>
      xorSum (List.finRange 16) fun i => gfMul (x i) (kuzL i) :=
    xorAdditive_xorSum _ fun i x y => xorAdditive_gfMul (kuzL i) (x i) (y i)
  intro x y
  ext i
  refine Fin.cases ?_ (fun j => ?_) i
  · exact congrArg UInt8.toNat (hdot x y)
  · rfl

lemma kuzRInv_eq (x : Block 16) : kuzRInv x = Fin.snoc (α := fun _ => UInt8) (Fin.tail x)
    (x 0 ^^^ xorSum (List.finRange 15) fun i => gfMul (x i.succ) (kuzL i.castSucc)) := by
  rw [kuzRInv, foldl_xor]
  rfl

/-- The last factor is one: the byte that a round drops can be read off the dot product. -/
lemma dot_split (x : Block 16) : (xorSum (List.finRange 16) fun i => gfMul (x i) (kuzL i)) =
    (xorSum (List.finRange 15) fun i => gfMul (x i.castSucc) (kuzL i.castSucc)) ^^^
      x (Fin.last 15) := by
  have hlast : kuzL (Fin.last 15) = 1 := rfl
  rw [List.finRange_succ_last, xorSum_append, xorSum_cons, xorSum_nil, hlast, gfMul_one, xor_zero]
  rw [xorSum, xorSum, List.foldl_map]

lemma kuzRInv_kuzR (x : Block 16) : kuzRInv (kuzR x) = x := by
  rw [kuzRInv_eq]
  have htail : Fin.tail (kuzR x) = Fin.init (α := fun _ => UInt8) x := rfl
  have hzero : kuzR x 0 = xorSum (List.finRange 16) fun i => gfMul (x i) (kuzL i) := rfl
  have hsucc : ∀ i : Fin 15, kuzR x i.succ = x i.castSucc := fun _ => rfl
  have hlast : kuzR x 0 ^^^ (xorSum (List.finRange 15) fun i =>
      gfMul (kuzR x i.succ) (kuzL i.castSucc)) = x (Fin.last 15) := by
    simp only [hzero, hsucc, dot_split]
    rw [xor_xor_cancel_comm]
  rw [htail, hlast]
  exact Fin.snoc_init_self x

lemma kuzR_kuzRInv (x : Block 16) : kuzR (kuzRInv x) = x := by
  have hinit : Fin.init (α := fun _ => UInt8) (kuzRInv x) = Fin.tail x := by
    rw [kuzRInv_eq]
    exact Fin.init_snoc ..
  have hcast : ∀ i : Fin 15, kuzRInv x i.castSucc = x i.succ := fun i => congrFun hinit i
  have hlast : kuzRInv x (Fin.last 15) = x 0 ^^^ xorSum (List.finRange 15) fun i =>
      gfMul (x i.succ) (kuzL i.castSucc) := by
    rw [kuzRInv_eq]
    exact Fin.snoc_last ..
  rw [kuzR, hinit, dot_split, hlast]
  simp only [hcast]
  rw [xor_xor_cancel_comm_assoc]
  exact Fin.cons_self_tail x

lemma xorAdditive_iterate {f : Block 16 → Block 16} (hf : XorAdditive f) (n : ℕ) :
    XorAdditive f^[n] := by
  induction n with
  | zero => exact fun _ _ => rfl
  | succ n ih =>
    intro x y
    rw [Function.iterate_succ_apply, hf, ih]
    rfl

lemma xorAdditive_kuzLTransform : XorAdditive kuzLTransform := xorAdditive_iterate xorAdditive_kuzR _

lemma kuzLInv_kuzLTransform (x : Block 16) : kuzLInv (kuzLTransform x) = x :=
  Function.LeftInverse.iterate kuzRInv_kuzR 16 x

lemma kuzLTransform_kuzLInv (x : Block 16) : kuzLTransform (kuzLInv x) = x :=
  Function.LeftInverse.iterate kuzR_kuzRInv 16 x

/-- The inverse of what is additive is additive. -/
lemma xorAdditive_kuzLInv : XorAdditive kuzLInv := by
  intro x y
  have h := xorAdditive_kuzLTransform (kuzLInv x) (kuzLInv y)
  rw [kuzLTransform_kuzLInv, kuzLTransform_kuzLInv] at h
  rw [← h, kuzLInv_kuzLTransform]

/-! ### The tables say the same -/

lemma unpack_pack (o : ByteOrder) (b : Block 16) : unpack o (pack o b) = b := by
  rw [unpack, pack, store64_load64, store64_load64]
  exact Fin.append_castAdd_natAdd

/-- Words that are combined in pairs are combined as blocks. -/
lemma unpack_foldl (o : ByteOrder) (l : List (Fin 16)) (g : Fin 16 → Block 16) :
    unpack o (l.foldl (fun h i => (h.1 ^^^ (pack o (g i)).1, h.2 ^^^ (pack o (g i)).2)) (0, 0)) =
      xorSum l g := by
  have hpair : ∀ (l : List (Fin 16)) (b : Block 16),
      l.foldl (fun h i => (h.1 ^^^ (pack o (g i)).1, h.2 ^^^ (pack o (g i)).2)) (pack o b) =
        pack o (l.foldl (fun s i => s ^^^ g i) b) := by
    intro l
    induction l with
    | nil => exact fun b => rfl
    | cons i l ih =>
      intro b
      have hstep : ((pack o b).1 ^^^ (pack o (g i)).1, (pack o b).2 ^^^ (pack o (g i)).2) =
          pack o (b ^^^ g i) := by
        rw [pack, pack, ← xorAdditive_load64, ← xorAdditive_load64]
        rfl
      rw [List.foldl_cons, List.foldl_cons, hstep, ih]
  have hzero : pack o 0 = (0, 0) := by
    have h0 := (xorAdditive_load64 o).map_zero
    exact Prod.ext h0 h0
  rw [← hzero, hpair, unpack_pack]
  rfl

lemma kuzLS_eq (o : ByteOrder) (x : Block 16) :
    kuzLS o (kuznechikTables o) x = kuzLTransform fun i => kuzPi (x i) := by
  rw [xorAdditive_kuzLTransform.eq_table]
  exact unpack_foldl o _ fun i => kuzLTransform (unit i (kuzPi (x i)))

lemma kuzLInvTabled_eq (o : ByteOrder) (x : Block 16) :
    kuzLInvTabled o (kuznechikTables o) x = kuzLInv x := by
  rw [xorAdditive_kuzLInv.eq_table]
  exact unpack_foldl o _ fun i => kuzLInv (unit i (x i))

/-- A table that is filled in from the values of an injective function takes them back. -/
lemma foldl_update_inverse {α β : Type*} [DecidableEq β] {f : α → β} {l : List α}
    (hl : (l.map f).Nodup) (s : β → α) {a : α} (ha : a ∈ l) :
    l.foldl (fun s i => Function.update s (f i) i) s (f a) = a := by
  induction l using List.reverseRecOn with
  | nil => cases ha
  | append_singleton l b ih =>
    rw [List.foldl_append, List.foldl_cons, List.foldl_nil]
    rw [List.map_append, List.nodup_append] at hl
    rcases List.mem_append.1 ha with ha | ha
    · have hne : f a ≠ f b := hl.2.2 (f a) (List.mem_map_of_mem ha) (f b) (List.mem_singleton.2 rfl)
      rw [Function.update_of_ne hne]
      exact ih hl.1 ha
    · rw [List.mem_singleton.1 ha, Function.update_self]

lemma mem_allBytes (b : UInt8) : b ∈ allBytes :=
  List.mem_map.2 ⟨b.toNat, List.mem_range.2 b.toNat_lt, UInt8.ofNat_toNat⟩

lemma nodup_allBytes : allBytes.Nodup := by
  refine List.Nodup.map_on (fun a ha b hb hab => ?_) List.nodup_range
  have h := congrArg UInt8.toNat hab
  have ha' := List.mem_range.1 ha
  have hb' := List.mem_range.1 hb
  simp only [UInt8.toNat_ofNat'] at h
  omega

/-- Whether no number comes twice, as a check that runs fast. -/
def distinct : List ℕ → Bool
  | [] => true
  | a :: l => l.all (fun b => !a.beq b) && distinct l

lemma nodup_of_distinct {l : List ℕ} (h : distinct l = true) : l.Nodup := by
  induction l with
  | nil => exact List.nodup_nil
  | cons a l ih =>
    rw [distinct, Bool.and_eq_true, List.all_eq_true] at h
    refine List.nodup_cons.2 ⟨fun ha => ?_, ih h.2⟩
    have hne := h.1 a ha
    simp at hne

/-- The table has each byte once. -/
lemma kuzPiTable_spec : kuzPiTable.length = 256 ∧ kuzPiTable.Nodup ∧ ∀ c ∈ kuzPiTable, c < 256 :=
  ⟨by decide +kernel, nodup_of_distinct (by decide +kernel), by decide +kernel⟩

lemma kuzPi_injective : Function.Injective kuzPi := by
  obtain ⟨hlen, hnodup, hlt⟩ := kuzPiTable_spec
  intro a b hab
  have hget : ∀ c : UInt8, ∃ h : c.toNat < kuzPiTable.length, (kuzPi c).toNat = kuzPiTable[c.toNat] := by
    intro c
    have hc : c.toNat < kuzPiTable.length := by
      rw [hlen]
      exact c.toNat_lt
    refine ⟨hc, ?_⟩
    rw [kuzPi, UInt8.toNat_ofNat', List.getD_eq_getElem _ _ hc]
    exact Nat.mod_eq_of_lt (hlt _ (List.getElem_mem hc))
  obtain ⟨ha, hva⟩ := hget a
  obtain ⟨hb, hvb⟩ := hget b
  have heq : kuzPiTable[a.toNat] = kuzPiTable[b.toNat] := by rw [← hva, ← hvb, hab]
  exact UInt8.toNat_inj.1 ((hnodup.getElem_inj_iff).1 heq)

lemma sinvTable_kuzPi (b : UInt8) : sinvTable (kuzPi b) = b := by
  rw [sinvTable]
  exact foldl_update_inverse (nodup_allBytes.map kuzPi_injective) _ (mem_allBytes b)

lemma kuzPiInv_kuzPi (b : UInt8) : kuzPiInv (kuzPi b) = b := by
  rcases hf : allBytes.find? fun a => kuzPi a = kuzPi b with _ | a
  · have hnone := List.find?_eq_none.1 hf b (mem_allBytes b)
    simp at hnone
  · have hab : kuzPi a = kuzPi b := by simpa using List.find?_some hf
    rw [kuzPiInv, hf, Option.getD_some, kuzPi_injective hab]

lemma sinvTable_eq : sinvTable = kuzPiInv := by
  funext b
  obtain ⟨a, rfl⟩ := Finite.surjective_of_injective kuzPi_injective b
  rw [sinvTable_kuzPi, kuzPiInv_kuzPi]

/-- **The rounds** with the tables are those of the definition. -/
lemma tabled_eq_plain (o : ByteOrder) : tabled o = plain := by
  have hsinv : (kuznechikTables o).sinv = kuzPiInv := by simp only [kuznechikTables, sinvTable_eq]
  rw [tabled, plain, Rounds.mk.injEq]
  exact ⟨funext fun x => kuzLS_eq o x, funext fun x => kuzLInvTabled_eq o x, rfl, hsinv⟩

/-! ### Decryption -/

lemma round_back (k x : Block 16) :
    (fun j => plain.sinv (plain.linv (plain.ls (x ^^^ k)) j)) ^^^ k = x := by
  have hl : plain.linv (plain.ls (x ^^^ k)) = fun j => kuzPi ((x ^^^ k) j) :=
    kuzLInv_kuzLTransform _
  have hs : (fun j => plain.sinv (kuzPi ((x ^^^ k) j))) = x ^^^ k :=
    funext fun j => kuzPiInv_kuzPi _
  rw [hl, hs, xor_cancel_right]

lemma decryptBlock_encryptBlock (kuzRoundKeys : Fin 10 → Block 16) (x : Block 16) :
    decryptBlock plain kuzRoundKeys (encryptBlock plain kuzRoundKeys x) = x := by
  have hrounds : ∀ (l : List (Fin 9)) (y : Block 16), l.reverse.foldl
      (fun x i => (fun j => plain.sinv (plain.linv x j)) ^^^ kuzRoundKeys i.castSucc)
      (l.foldl (fun x i => plain.ls (x ^^^ kuzRoundKeys i.castSucc)) y) = y := by
    intro l
    induction l with
    | nil => exact fun y => rfl
    | cons i l ih =>
      intro y
      rw [List.reverse_cons, List.foldl_append, List.foldl_cons (l := l), ih]
      exact round_back _ y
  rw [decryptBlock, encryptBlock, xor_cancel_right]
  exact hrounds _ x

/-- **The cipher with tables** is the cipher of the definition, whatever order the machine keeps
the bytes of a word in: the key schedule, and both directions from any address to any, the same
one too. Its linear transformation and the inverse respect exclusive or and undo each other, and
decryption gives back what was encrypted. -/
theorem kuznechik_tabled (o : ByteOrder) (key : Block 32) :
    let kuzRoundKeys := expandKuznechikKey (tabled o) key
    kuzRoundKeys = expandKuznechikKey plain key ∧
    (∀ (source out : ℕ) (m : Memory),
      encryptKuznechik (tabled o) kuzRoundKeys source out m =
        encryptKuznechik plain kuzRoundKeys source out m ∧
      decryptKuznechik (tabled o) kuzRoundKeys source out m =
        decryptKuznechik plain kuzRoundKeys source out m) ∧
    (XorAdditive kuzLTransform ∧ XorAdditive kuzLInv) ∧
    (Function.LeftInverse kuzLInv kuzLTransform ∧ Function.RightInverse kuzLInv kuzLTransform) ∧
    ∀ (source out back : ℕ) (m : Memory),
      (decryptKuznechik (tabled o) kuzRoundKeys out back
        (encryptKuznechik (tabled o) kuzRoundKeys source out m)).block back 16 =
        m.block source 16 := by
  intro kuzRoundKeys
  refine ⟨?_, fun source out m => ?_, ⟨xorAdditive_kuzLTransform, xorAdditive_kuzLInv⟩,
    ⟨kuzLInv_kuzLTransform, kuzLTransform_kuzLInv⟩, fun source out back m => ?_⟩
  · simp only [kuzRoundKeys, tabled_eq_plain]
  · simp only [tabled_eq_plain, and_self]
  · rw [decryptKuznechik, encryptKuznechik, Memory.block_copy, Memory.block_copy, tabled_eq_plain,
      decryptBlock_encryptBlock]

end SoftHSM.Kuznechik
