import Mathlib.Data.Nat.Notation
import Mathlib.Order.Nat
import Mathlib.Tactic.Common

/-!
Buffers that are read at a position. A run ends with a result, with a refusal, or with a fault: a
position that is not in the buffer, or a length below zero.
-/

namespace Access

inductive Fault
  | outside
  | negative
  deriving DecidableEq

/-- What a run ends with that has no result. -/
inductive Stop (ε : Type)
  | fault (f : Fault)
  | refused (e : ε)
  deriving DecidableEq

variable {ε α β : Type}

abbrev Run (ε α : Type) := Except (Stop ε) α

def refuse (e : ε) : Run ε α := .error (.refused e)

/-- A refusal where something does not hold. -/
def require (p : Prop) [Decidable p] (e : ε) : Run ε Unit := if p then .ok () else refuse e

/-- What there is, or a refusal. -/
def given (x : Option α) (e : ε) : Run ε α :=
  match x with
  | some a => .ok a
  | none => refuse e

def elementAt (buffer : List β) (pos : ℕ) : Run ε β :=
  match buffer[pos]? with
  | some b => .ok b
  | none => .error (.fault .outside)

/-- So many elements from a position on. -/
def slice (buffer : List β) (pos len : ℕ) : Run ε (List β) :=
  if pos + len ≤ buffer.length then .ok ((buffer.drop pos).take len) else .error (.fault .outside)

def minus (a b : ℕ) : Run ε ℕ := if b ≤ a then .ok (a - b) else .error (.fault .negative)

/-! ### Runs without a fault -/

/-- A run that does not fault, and refuses only with what is a refusal. -/
def Safe (P : ε → Prop) (r : Run ε α) : Prop := ∀ s, r = .error s → ∃ e, s = .refused e ∧ P e

section Safe

variable {P : ε → Prop}

lemma safe_ok (a : α) : Safe P (.ok a : Run ε α) := fun _ h => nomatch h

lemma safe_refuse {e : ε} (h : P e) : Safe P (refuse e : Run ε α) :=
  fun _ hs => ⟨e, (Except.error.inj hs).symm, h⟩

lemma not_safe_fault (f : Fault) : ¬ Safe P (.error (.fault f) : Run ε α) := by
  intro h
  obtain ⟨e, he, -⟩ := h _ rfl
  cases he

lemma safe_require {p : Prop} [Decidable p] {e : ε} (h : ¬ p → P e) : Safe P (require p e) := by
  unfold require
  split
  · exact safe_ok ()
  · exact safe_refuse (h ‹_›)

lemma safe_given {x : Option α} {e : ε} (h : P e) : Safe P (given x e) := by
  cases x with
  | some a => exact safe_ok a
  | none => exact safe_refuse h

/-- **Sequencing.** What comes after a run without a fault is only asked about its result. -/
lemma safe_bind {γ : Type} {x : Run ε α} {k : α → Run ε γ} (hx : Safe P x)
    (hk : ∀ a, x = .ok a → Safe P (k a)) : Safe P (x >>= k) := by
  cases x with
  | ok a => exact hk a rfl
  | error s =>
    obtain ⟨e, rfl, he⟩ := hx s rfl
    exact safe_refuse he

/-- A run that is safe and has no result is a refusal. -/
lemma refused_of_safe {r : Run ε α} (h : Safe P r) (hr : ∀ a, r ≠ .ok a) :
    ∃ e, P e ∧ r = refuse e := by
  cases r with
  | ok a => exact absurd rfl (hr a)
  | error s =>
    obtain ⟨e, rfl, he⟩ := h s rfl
    exact ⟨e, he, rfl⟩

end Safe

@[simp] lemma ok_bind {γ : Type} (a : α) (k : α → Run ε γ) : (.ok a >>= k : Run ε γ) = k a := rfl

@[simp] lemma error_bind {γ : Type} (s : Stop ε) (k : α → Run ε γ) :
    (.error s >>= k : Run ε γ) = .error s := rfl

/-- A result of a sequence is one of its last part. -/
lemma of_bind {γ : Type} {x : Run ε α} {k : α → Run ε γ} {c : γ} (h : x >>= k = .ok c) :
    ∃ a, x = .ok a ∧ k a = .ok c := by
  cases x with
  | ok a => exact ⟨a, rfl, h⟩
  | error s => cases h

lemma of_require {p : Prop} [Decidable p] {e : ε} {u : Unit} (h : require p e = .ok u) : p := by
  by_contra hp
  simp [require, hp, refuse] at h

lemma of_given {x : Option α} {e : ε} {a : α} (h : given x e = .ok a) : x = some a := by
  cases x with
  | some b => exact congrArg some (Except.ok.inj h)
  | none => cases h

lemma elementAt_of_lt {buffer : List β} {pos : ℕ} (h : pos < buffer.length) :
    (elementAt buffer pos : Run ε β) = .ok buffer[pos] := by
  simp [elementAt, List.getElem?_eq_getElem h]

lemma slice_of_le {buffer : List β} {pos len : ℕ} (h : pos + len ≤ buffer.length) :
    (slice buffer pos len : Run ε (List β)) = .ok ((buffer.drop pos).take len) := if_pos h

lemma of_slice {buffer part : List β} {pos len : ℕ}
    (h : (slice buffer pos len : Run ε (List β)) = .ok part) :
    pos + len ≤ buffer.length ∧ part = (buffer.drop pos).take len := by
  by_cases hle : pos + len ≤ buffer.length
  · rw [slice_of_le hle] at h
    exact ⟨hle, (Except.ok.inj h).symm⟩
  · rw [slice, if_neg hle] at h
    cases h

lemma slice_of_lt {buffer : List β} {pos len : ℕ} (h : buffer.length < pos + len) :
    (slice buffer pos len : Run ε (List β)) = .error (.fault .outside) :=
  if_neg (Nat.not_le.2 h)

lemma minus_of_le {a b : ℕ} (h : b ≤ a) : (minus a b : Run ε ℕ) = .ok (a - b) := if_pos h

lemma minus_of_lt {a b : ℕ} (h : a < b) : (minus a b : Run ε ℕ) = .error (.fault .negative) :=
  if_neg (Nat.not_le.2 h)

lemma elementAt_of_le {buffer : List β} {pos : ℕ} (h : buffer.length ≤ pos) :
    (elementAt buffer pos : Run ε β) = .error (.fault .outside) := by
  simp [elementAt, List.getElem?_eq_none h]

end Access
