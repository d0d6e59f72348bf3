import SoftHSM.Lib.Codec

/-!
Readers that go back to where they began when they fail, as a caller does that keeps the position of
the stream. They do not fall short as other readers do, and so only what they read is told of them.
-/

namespace SoftHSM.Codec

open Reader

variable {α β : Type} {r : Reader α} {k : α → Reader β} {w v : List UInt8} {a : α} {b : β}
  {G : List UInt8 → α → Prop}

/-- A reader that goes back when it fails, and forgets that it met the end. -/
def rewinding (r : Reader α) : Reader α := ⟨fun stream =>
  match r.read stream with
  | (some a, stream) => (some a, stream)
  | (none, _) => (none, ⟨stream.rest, false⟩)⟩

lemma shrinks_rewinding (h : Shrinks r) : Shrinks (rewinding r) := by
  intro s
  have hs := h s
  unfold rewinding
  dsimp only
  rcases hr : r.read s with ⟨_ | a, s'⟩
  · exact le_rfl
  · rwa [hr] at hs

/-! ### What is read -/

/-- The bytes are read as the value, whatever follows. -/
def Whole (r : Reader α) (w : List UInt8) (a : α) : Prop :=
  ∀ rest, r.read ⟨w ++ rest, false⟩ = (some a, ⟨rest, false⟩)

lemma whole_pure (a : α) : Whole (pure a) [] a := fun _ => rfl

lemma Whole.bind (hr : Whole r w a) (hk : Whole (k a) v b) : Whole (r >>= k) (w ++ v) b := by
  intro rest
  rw [read_bind, List.append_assoc, hr]
  exact hk rest

lemma Whole.bind_pure (hr : Whole r w a) (f : α → β) :
    Whole (r >>= fun a => pure (f a)) w (f a) := by
  have h := hr.bind (k := fun a => pure (f a)) (whole_pure (f a))
  rwa [List.append_nil] at h

lemma whole_rewinding (h : Whole r w a) : Whole (rewinding r) w a := by
  intro rest
  unfold rewinding
  dsimp only
  rw [h rest]

lemma whole_of_reads (h : Reads r w a) : Whole r w a := fun rest => h.whole rest false

/-! ### What was read -/

lemma rewinding_some {s s' : Stream} (h : (rewinding r).read s = (some a, s')) :
    r.read s = (some a, s') := by
  unfold rewinding at h
  dsimp only at h
  rcases hs : r.read s with ⟨_ | b, t⟩
  · rw [hs] at h
    cases h
  · rw [hs] at h
    exact h

lemma takes_rewinding (h : Takes r G) : Takes (rewinding r) G := fun s a s' hr =>
  h s a s' (rewinding_some hr)

lemma read_bind_some {s s' : Stream} (h : (r >>= k).read s = (some b, s')) :
    ∃ a t, r.read s = (some a, t) ∧ (k a).read t = (some b, s') := by
  rw [read_bind] at h
  rcases hs : r.read s with ⟨_ | a, t⟩
  · rw [hs] at h
    cases h
  · rw [hs] at h
    exact ⟨a, t, rfl, h⟩

end SoftHSM.Codec
