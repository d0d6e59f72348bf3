import Mathlib.Data.List.Basic
import Mathlib.Tactic.Linarith

/-!
Texts that are worked off in pieces of one length, with something kept from piece to piece. Where
one step undoes another and leaves the same behind, one loop undoes the other, and both keep the
same at every piece.
-/

namespace SoftHSM.Chained

variable {σ α : Type*}

/-- The piece of a text at a place; the last one may be shorter. -/
def piece (n : ℕ) (text : List α) (offset : ℕ) : List α := (text.drop offset).take n

/-- One step, from the place, what is kept and the piece. -/
abbrev Step (σ α : Type*) := ℕ → σ → List α → σ × List α

/-- The body of the loop: the new piece comes behind the others. -/
def body (n : ℕ) (step : Step σ α) (text : List α) (s : σ × List α) (offset : ℕ) : σ × List α :=
  let r := step offset s.1 (piece n text offset)
  (r.1, s.2 ++ r.2)

/-- What there is after so many pieces. -/
def after (n : ℕ) (step : Step σ α) (text : List α) (s : σ) (k : ℕ) : σ × List α :=
  ((List.range k).map (n * ·)).foldl (body n step text) (s, [])

def pieces (n len : ℕ) : ℕ := (len + n - 1) / n

/-- The loop over the whole text. -/
def loop (n : ℕ) (step : Step σ α) (text : List α) (s : σ) : σ × List α :=
  after n step text s (pieces n text.length)

@[simp] lemma after_zero (n : ℕ) (step : Step σ α) (text : List α) (s : σ) :
    after n step text s 0 = (s, []) := rfl

lemma after_succ (n : ℕ) (step : Step σ α) (text : List α) (s : σ) (k : ℕ) :
    after n step text s (k + 1) = body n step text (after n step text s k) (n * k) := by
  rw [after, List.range_succ, List.map_append, List.foldl_append]
  rfl

lemma lt_pieces_iff {n len k : ℕ} (hn : 0 < n) : k < pieces n len ↔ n * k < len := by
  rw [pieces, Nat.lt_iff_add_one_le, Nat.le_div_iff_mul_le hn, Nat.add_mul, one_mul, Nat.mul_comm]
  omega

/-- The pieces are all of the text. -/
lemma le_mul_pieces {n len : ℕ} (hn : 0 < n) : len ≤ n * pieces n len := by
  by_contra hlong
  have := (lt_pieces_iff hn).2 (Nat.lt_of_not_le hlong)
  omega

lemma length_piece (n : ℕ) (text : List α) (offset : ℕ) :
    (piece n text offset).length = min n (text.length - offset) := by
  simp [piece]

/-- What one step may be given: pieces of some of the lengths up to `n`. -/
structure Fits (n : ℕ) (A : ℕ → Prop) (len : ℕ) : Prop where
  pos : 0 < n
  fits : ∀ k, n * k < len → A (min n (len - n * k))

lemma fits_of_le {n : ℕ} (hn : 0 < n) (len : ℕ) : Fits n (· ≤ n) len :=
  ⟨hn, fun _ _ => Nat.min_le_left ..⟩

lemma fits_of_dvd {n len : ℕ} (hn : 0 < n) (h : n ∣ len) : Fits n (· = n) len := by
  refine ⟨hn, fun k hk => ?_⟩
  obtain ⟨m, rfl⟩ := h
  have hkm : k + 1 ≤ m := Nat.lt_of_mul_lt_mul_left hk
  have hle : n * (k + 1) ≤ n * m := Nat.mul_le_mul_left n hkm
  rw [Nat.mul_add, mul_one] at hle
  omega

lemma Fits.piece {n k : ℕ} {A : ℕ → Prop} {text : List α} (hf : Fits n A text.length)
    (hk : k < pieces n text.length) : A (piece n text (n * k)).length := by
  rw [length_piece]
  exact hf.fits k ((lt_pieces_iff hf.pos).1 hk)

/-- `dec` undoes `enc` on pieces of these lengths where `I` holds of what is kept, and keeps what
`enc` keeps. -/
structure Undoes (A : ℕ → Prop) (I : σ → Prop) (enc dec : Step σ α) : Prop where
  length : ∀ offset s p, A p.length → (enc offset s p).2.length = p.length
  keep : ∀ offset s p, I s → A p.length → I (enc offset s p).1
  undo : ∀ offset s p, I s → A p.length → dec offset s (enc offset s p).2 = ((enc offset s p).1, p)

section loops

variable {n : ℕ} {A : ℕ → Prop} {I : σ → Prop} {enc dec : Step σ α} {text : List α}

/-- The pieces so far are as long as those of the text. -/
lemma length_after (hl : ∀ offset s p, A p.length → (enc offset s p).2.length = p.length)
    (hf : Fits n A text.length) (s : σ) {k : ℕ} (hk : k ≤ pieces n text.length) :
    (after n enc text s k).2.length = min (n * k) text.length := by
  induction k with
  | zero => simp
  | succ k ih =>
    have hlt := (lt_pieces_iff hf.pos).1 hk
    rw [after_succ, body, List.length_append, ih (by omega), hl _ _ _ (hf.piece hk), length_piece,
      Nat.mul_add, mul_one]
    omega

/-- Later pieces leave the earlier ones. -/
lemma after_prefix (n : ℕ) (enc : Step σ α) (text : List α) (s : σ) {k m : ℕ} (h : k ≤ m) :
    (after n enc text s k).2 <+: (after n enc text s m).2 := by
  induction m, h using Nat.le_induction with
  | base => exact List.prefix_refl _
  | succ m _ ih =>
    rw [after_succ, body]
    exact ih.trans (List.prefix_append ..)

/-- A piece of the result is what came out of the step at its place. -/
lemma piece_loop (hl : ∀ offset s p, A p.length → (enc offset s p).2.length = p.length)
    (hf : Fits n A text.length) (s : σ) {k : ℕ} (hk : n * k < text.length) :
    piece n (loop n enc text s).2 (n * k) =
      (enc (n * k) (after n enc text s k).1 (piece n text (n * k))).2 := by
  have hlt : k + 1 ≤ pieces n text.length := (lt_pieces_iff hf.pos).2 hk
  obtain ⟨rest, hrest⟩ := after_prefix n enc text s hlt
  have hbefore := length_after hl hf s (Nat.le_of_lt hlt)
  have hnow := hl (n * k) (after n enc text s k).1 _ (hf.piece hlt)
  have hall := congrArg List.length hrest
  rw [length_piece] at hnow
  rw [List.length_append, length_after hl hf s (Nat.le_refl _), length_after hl hf s hlt,
    Nat.mul_add, mul_one] at hall
  have hcount := @le_mul_pieces _ text.length hf.pos
  rw [after_succ, body] at hrest
  have hdrop : (loop n enc text s).2.drop (n * k) =
      (enc (n * k) (after n enc text s k).1 (piece n text (n * k))).2 ++ rest := by
    rw [loop, ← hrest, List.append_assoc, List.drop_left' (by omega)]
  rw [piece, hdrop]
  by_cases hlast : n ≤ text.length - n * k
  · exact List.take_left' (by omega)
  · have hnil : rest = [] := List.length_eq_zero_iff.1 (by omega)
    rw [hnil, List.append_nil, List.take_of_length_le (by omega)]

lemma inv_after (h : Undoes A I enc dec) (hf : Fits n A text.length) {s : σ} (hs : I s) {k : ℕ}
    (hk : k ≤ pieces n text.length) : I (after n enc text s k).1 := by
  induction k with
  | zero => exact hs
  | succ k ih =>
    rw [after_succ]
    exact h.keep _ _ _ (ih (by omega)) (hf.piece hk)

/-- **At every piece** the loop that undoes keeps what the other one kept, and has the text so
far. -/
theorem after_undoes (h : Undoes A I enc dec) (hf : Fits n A text.length) {s : σ} (hs : I s) {k : ℕ}
    (hk : k ≤ pieces n text.length) :
    after n dec (loop n enc text s).2 s k = ((after n enc text s k).1, text.take (n * k)) := by
  induction k with
  | zero => simp
  | succ k ih =>
    have hlt := (lt_pieces_iff hf.pos).1 hk
    have hi := inv_after h hf hs (k := k) (by omega)
    rw [after_succ, ih (by omega), body, piece_loop h.length hf s hlt, h.undo _ _ _ hi (hf.piece hk),
      after_succ, body, Nat.mul_add, mul_one, List.take_add]
    rfl

lemma length_loop (hl : ∀ offset s p, A p.length → (enc offset s p).2.length = p.length)
    (hf : Fits n A text.length) (s : σ) : (loop n enc text s).2.length = text.length := by
  rw [loop, length_after hl hf s (Nat.le_refl _), Nat.min_eq_right (le_mul_pieces hf.pos)]

/-- **One loop** undoes the other. -/
theorem loop_undoes (h : Undoes A I enc dec) (hf : Fits n A text.length) {s : σ} (hs : I s) :
    (loop n dec (loop n enc text s).2 s).2 = text := by
  rw [loop, length_loop h.length hf, after_undoes h hf hs (Nat.le_refl _)]
  exact List.take_of_length_le (le_mul_pieces hf.pos)

end loops

end SoftHSM.Chained
