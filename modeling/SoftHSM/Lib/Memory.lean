import Mathlib
import SoftHSM.Lib.Xor

/-!
A memory of bytes, blocks of bytes in it, and the words that blocks of eight are copied over.
-/

namespace SoftHSM

abbrev Block (n : ℕ) := Fin n → UInt8

/-- The bytes at each address. -/
abbrev Memory := ℕ → UInt8

namespace Memory

variable {n : ℕ}

/-- The block at an address. -/
def block (m : Memory) (p n : ℕ) : Block n := fun i => m (p + i)

/-- A block copied to an address. -/
def copy (m : Memory) (p : ℕ) (b : Block n) : Memory := fun a =>
  if h : p ≤ a ∧ a - p < n then b ⟨a - p, h.2⟩ else m a

lemma copy_at (m : Memory) (p : ℕ) (b : Block n) (i : Fin n) : m.copy p b (p + i) = b i := by
  have h : p ≤ p + i ∧ p + i - p < n := by omega
  simp [copy, h]

@[simp] lemma block_copy (m : Memory) (p : ℕ) (b : Block n) : (m.copy p b).block p n = b := by
  ext i
  rw [block, copy_at]

/-- The bytes from an address on. -/
def bytes (m : Memory) (p len : ℕ) : List UInt8 := (List.range len).map fun i => m (p + i)

/-- A string of bytes written to an address. -/
def write (m : Memory) (p : ℕ) (bs : List UInt8) : Memory := fun a =>
  if p ≤ a ∧ a < p + bs.length then bs.getD (a - p) 0 else m a

@[simp] lemma length_bytes (m : Memory) (p len : ℕ) : (m.bytes p len).length = len := by
  simp [bytes]

lemma write_of_outside (m : Memory) (p : ℕ) (bs : List UInt8) {a : ℕ}
    (h : a < p ∨ p + bs.length ≤ a) : m.write p bs a = m a :=
  if_neg (by omega)

lemma bytes_congr {m m' : Memory} {p len : ℕ} (h : ∀ a, p ≤ a → a < p + len → m a = m' a) :
    m.bytes p len = m'.bytes p len :=
  List.map_congr_left fun i hi => h _ (by omega) (by have := List.mem_range.1 hi; omega)

@[simp] lemma bytes_write (m : Memory) (p : ℕ) (bs : List UInt8) :
    (m.write p bs).bytes p bs.length = bs := by
  refine List.ext_getElem (by simp) fun i hi hi' => ?_
  simp [bytes, write, hi']

lemma write_write (m : Memory) (p : ℕ) {bs cs : List UInt8} (h : bs.length = cs.length) :
    (m.write p bs).write p cs = m.write p cs := by
  funext a
  rw [write, write, write, h]
  split
  · rfl
  · rfl

end Memory

/-! ### Words -/

inductive ByteOrder
  | little
  | big

namespace ByteOrder

/-- Which byte of eight holds the bits from `8 * i` of a word. -/
def byteAt : ByteOrder → Fin 8 → Fin 8
  | little, i => i
  | big, i => i.rev

lemma byteAt_byteAt (o : ByteOrder) (i : Fin 8) : o.byteAt (o.byteAt i) = i := by
  cases o with
  | little => rfl
  | big => exact Fin.rev_rev i

end ByteOrder

/-- Eight bytes copied over a word. -/
def load64 (o : ByteOrder) (b : Block 8) : UInt64 :=
  ⟨BitVec.ofFnLE fun k : Fin 64 =>
    (b (o.byteAt ⟨k / 8, by omega⟩)).toBitVec.getLsbD (k % 8)⟩

/-- A word copied over eight bytes. -/
def store64 (o : ByteOrder) (v : UInt64) : Block 8 := fun i =>
  ⟨BitVec.ofFnLE fun k : Fin 8 => v.toBitVec.getLsbD (8 * o.byteAt i + k)⟩

lemma store64_load64 (o : ByteOrder) (b : Block 8) : store64 o (load64 o b) = b := by
  funext i
  apply UInt8.toBitVec_inj.1
  ext k hk
  have hdiv : (8 * (o.byteAt i : ℕ) + k) / 8 = o.byteAt i := by omega
  have hmod : (8 * (o.byteAt i : ℕ) + k) % 8 = k := by omega
  have hlt : 8 * (o.byteAt i : ℕ) + k < 64 := by omega
  simp [store64, load64, hdiv, hmod, hlt, ByteOrder.byteAt_byteAt, BitVec.getLsbD_eq_getElem hk]

lemma xorAdditive_load64 (o : ByteOrder) : XorAdditive (load64 o) := by
  intro x y
  apply UInt64.toBitVec_inj.1
  ext k hk
  simp [load64]

end SoftHSM
