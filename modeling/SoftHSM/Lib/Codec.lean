import Mathlib.Data.List.Basic
import Mathlib.Data.Nat.Basic

/-!
Readers and writers of a stream of bytes. A reader falls short where the stream ends, and says
so; a writer fails where the device does, and leaves a part of its bytes behind. `Reads r bs a`
says that `r` takes exactly the bytes `bs` for `a`, and nothing less; `Writes w bs` that `w`
writes them, or a part of them.
-/

namespace SoftHSM.Codec

/-- What is left of a stream, and whether a reader has met its end. -/
structure Stream where
  rest : List UInt8
  eof : Bool

/-- A reader: no value where it fails. -/
structure Reader (α : Type) where
  read : Stream → Option α × Stream

namespace Reader

variable {α β : Type}

def ret (a : α) : Reader α := ⟨fun s => (some a, s)⟩

def fail : Reader α := ⟨fun s => (none, s)⟩

def andThen (r : Reader α) (k : α → Reader β) : Reader β := ⟨fun s =>
  match r.read s with
  | (some a, s) => (k a).read s
  | (none, s) => (none, s)⟩

instance : Monad Reader where
  pure := ret
  bind := andThen

/-- The next `n` bytes. -/
def fread (n : ℕ) : Reader (List UInt8) := ⟨fun s =>
  if n ≤ s.rest.length then (some (s.rest.take n), ⟨s.rest.drop n, s.eof⟩)
  else (none, ⟨[], true⟩)⟩

lemma read_bind (r : Reader α) (k : α → Reader β) (s : Stream) :
    (r >>= k).read s = match r.read s with
      | (some a, s) => (k a).read s
      | (none, s) => (none, s) := rfl

lemma read_fread (n : ℕ) (s : Stream) : (fread n).read s =
    if n ≤ s.rest.length then (some (s.rest.take n), ⟨s.rest.drop n, s.eof⟩)
    else (none, ⟨[], true⟩) := rfl

end Reader

open Reader

variable {α β : Type} {r : Reader α} {k : α → Reader β} {bs cs : List UInt8} {a : α} {b : β}

/-! ### Reading what was written -/

/-- The bytes are read as the value, and no part of them is read as any value. -/
structure Reads (r : Reader α) (bs : List UInt8) (a : α) : Prop where
  whole : ∀ rest eof, r.read ⟨bs ++ rest, eof⟩ = (some a, ⟨rest, eof⟩)
  short : ∀ p t eof, p ++ t = bs → t ≠ [] → r.read ⟨p, eof⟩ = (none, ⟨[], true⟩)

lemma Reads.pure (a : α) : Reads (Pure.pure a : Reader α) [] a :=
  ⟨fun _ _ => rfl, fun _ _ _ h ht => absurd (List.append_eq_nil_iff.1 h).2 ht⟩

/-- **Two readers** one after the other. -/
lemma Reads.bind (hr : Reads r bs a) (hk : Reads (k a) cs b) : Reads (r >>= k) (bs ++ cs) b := by
  refine ⟨fun rest eof => ?_, fun p t eof hpt ht => ?_⟩
  · rw [read_bind, List.append_assoc, hr.whole]
    exact hk.whole rest eof
  · rw [read_bind]
    rcases List.append_eq_append_iff.1 hpt with ⟨m, rfl, hm⟩ | ⟨m, rfl, hm⟩
    · by_cases hnil : m = []
      · subst hnil
        have hwhole := hr.whole [] eof
        rw [List.append_nil, List.append_nil] at hwhole
        rw [hwhole]
        exact hk.short [] t eof hm ht
      · rw [hr.short p m eof rfl hnil]
    · rw [hr.whole]
      exact hk.short m t eof hm.symm ht

/-- A reader that takes a value further, without reading. -/
lemma Reads.bind_pure (hr : Reads r bs a) (f : α → β) :
    Reads (r >>= fun a => Pure.pure (f a)) bs (f a) := by
  have h := hr.bind (k := fun a => Pure.pure (f a)) (Reads.pure (f a))
  rwa [List.append_nil] at h

lemma Reads.fread (bs : List UInt8) : Reads (fread bs.length) bs bs := by
  refine ⟨fun rest eof => ?_, fun p t eof hpt ht => ?_⟩
  · simp [read_fread]
  · have hlt : p.length < bs.length := by
      rw [← hpt, List.length_append]
      have := List.length_pos_of_ne_nil ht
      omega
    simp [read_fread, hlt]

lemma Reads.congr {r' : Reader α} (h : Reads r bs a) (hr : r' = r) : Reads r' bs a := hr ▸ h

/-! ### Languages -/

/-- Whatever the reader takes is a word of a language, for its meaning. -/
def Takes (r : Reader α) (G : List UInt8 → α → Prop) : Prop :=
  ∀ s a s', r.read s = (some a, s') → ∃ w, G w a ∧ s = ⟨w ++ s'.rest, s'.eof⟩

section takes

variable {G : List UInt8 → α → Prop} {H : List UInt8 → β → Prop}

lemma takes_pure (h : G [] a) : Takes (Pure.pure a : Reader α) G := by
  intro s a' s' hr
  cases hr
  exact ⟨[], h, rfl⟩

lemma takes_fail : Takes (fail : Reader α) G := fun s a s' hr => by cases hr

/-- **A reader and what goes on behind it**, which knows the word that was taken. -/
lemma Takes.bind (hr : Takes r G) (hk : ∀ a w, G w a → Takes (k a) fun v => H (w ++ v)) :
    Takes (r >>= k) H := by
  intro s b s' h
  rw [read_bind] at h
  rcases hs : r.read s with ⟨_ | a, s₁⟩
  · rw [hs] at h
    cases h
  · rw [hs] at h
    obtain ⟨w, hw, rfl⟩ := hr s a s₁ hs
    obtain ⟨v, hv, rfl⟩ := hk a w hw s₁ b s' h
    exact ⟨w ++ v, hv, by rw [List.append_assoc]⟩

lemma Takes.imp {G' : List UInt8 → α → Prop} (h : Takes r G) (hG : ∀ w a, G w a → G' w a) :
    Takes r G' := by
  intro s a s' hr
  obtain ⟨w, hw, hs⟩ := h s a s' hr
  exact ⟨w, hG w a hw, hs⟩

lemma takes_fread (n : ℕ) : Takes (fread n) fun w a => w = a ∧ a.length = n := by
  intro s a s' h
  rw [read_fread] at h
  split at h
  · rename_i hle
    cases h
    refine ⟨_, ⟨rfl, List.length_take_of_le hle⟩, ?_⟩
    rw [List.take_append_drop]
  · cases h

end takes

/-! ### Readers do not go back -/

/-- What is left is no longer than what was there. -/
def Shrinks (r : Reader α) : Prop := ∀ s, (r.read s).2.rest.length ≤ s.rest.length

lemma shrinks_pure (a : α) : Shrinks (Pure.pure a : Reader α) := fun _ => Nat.le_refl _

lemma shrinks_fail : Shrinks (fail : Reader α) := fun _ => Nat.le_refl _

lemma Shrinks.bind (hr : Shrinks r) (hk : ∀ a, Shrinks (k a)) : Shrinks (r >>= k) := by
  intro s
  have h := hr s
  rw [read_bind]
  rcases hrs : r.read s with ⟨_ | a, s'⟩
  · rw [hrs] at h
    exact h
  · rw [hrs] at h
    exact Nat.le_trans (hk a s') h

lemma fread_length {n : ℕ} {s s' : Stream} {b : List UInt8} (h : (fread n).read s = (some b, s')) :
    s'.rest.length + n = s.rest.length := by
  rw [read_fread] at h
  split at h
  · rename_i hle
    cases h
    simp only [List.length_drop]
    omega
  · cases h

lemma shrinks_fread (n : ℕ) : Shrinks (fread n) := by
  intro s
  rw [read_fread]
  split
  · simp
  · simp

/-- A reader that fails only where the stream ends, and leaves nothing of it. -/
def Drains (r : Reader α) : Prop := ∀ s s', r.read s = (none, s') → s'.rest = []

lemma drains_pure (a : α) : Drains (Pure.pure a : Reader α) := fun _ _ h => by cases h

lemma drains_fread (n : ℕ) : Drains (fread n) := by
  intro s s' h
  rw [read_fread] at h
  split at h
  · cases h
  · cases h
    rfl

lemma Drains.bind (hr : Drains r) (hk : ∀ a, Drains (k a)) : Drains (r >>= k) := by
  intro s s' h
  rw [read_bind] at h
  rcases hrs : r.read s with ⟨_ | a, s₁⟩
  · rw [hrs] at h
    cases h
    exact hr s _ hrs
  · rw [hrs] at h
    exact hk a s₁ s' h

/-- The bytes that a reader takes, whether it comes to a value or not. -/
def consumed (r : Reader α) (s : Stream) : ℕ := s.rest.length - (r.read s).2.rest.length

/-! ### Writers -/

/-- What was handed over to a stream so far, and how many calls will still succeed if there is
an end to them. -/
structure Sink where
  handed : List UInt8
  left : Option ℕ

/-- A writer, with what it answers. -/
structure Writer where
  write : Sink → Bool × Sink

namespace Writer

def done : Writer := ⟨fun s => (true, s)⟩

def refuse : Writer := ⟨fun s => (false, s)⟩

/-- The second writer after the first has succeeded. -/
def andThen (v w : Writer) : Writer := ⟨fun s =>
  match v.write s with
  | (true, s) => w.write s
  | (false, s) => (false, s)⟩

def fwrite (bs : List UInt8) : Writer := ⟨fun s =>
  match s.left with
  | none => (true, ⟨s.handed ++ bs, none⟩)
  | some 0 => (false, ⟨s.handed ++ bs, some 0⟩)
  | some (n + 1) => (true, ⟨s.handed ++ bs, some n⟩)⟩

lemma write_andThen (v w : Writer) (s : Sink) : (v.andThen w).write s =
    match v.write s with
    | (true, s) => w.write s
    | (false, s) => (false, s) := rfl

lemma andThen_assoc (u v w : Writer) : (u.andThen v).andThen w = u.andThen (v.andThen w) := by
  unfold andThen
  congr 1
  funext s
  dsimp only
  rcases u.write s with ⟨_ | _, s'⟩
  · rfl
  · rfl

/-- One writer for each element of a list. -/
def each (w : α → Writer) : List α → Writer
  | [] => done
  | a :: l => (w a).andThen (each w l)

end Writer

open Writer

/-- The bytes are written, or a part of them where the device fails. -/
structure Writes (w : Writer) (bs : List UInt8) : Prop where
  whole : ∀ h, w.write ⟨h, none⟩ = (true, ⟨h ++ bs, none⟩)
  part : ∀ s, (w.write s).1 = true ∧ (w.write s).2.handed = s.handed ++ bs ∨
    (w.write s).1 = false ∧ ∃ p, p <+: bs ∧ (w.write s).2.handed = s.handed ++ p

lemma Writes.done : Writes Writer.done [] :=
  ⟨fun _ => by simp [Writer.done], fun _ => .inl ⟨rfl, (List.append_nil _).symm⟩⟩

lemma Writes.fwrite (bs : List UInt8) : Writes (fwrite bs) bs := by
  refine ⟨fun h => rfl, fun s => ?_⟩
  obtain ⟨h, _ | _ | n⟩ := s
  · exact .inl ⟨rfl, rfl⟩
  · exact .inr ⟨rfl, bs, List.prefix_rfl, rfl⟩
  · exact .inl ⟨rfl, rfl⟩

lemma Writes.andThen {v w : Writer} (hv : Writes v bs) (hw : Writes w cs) :
    Writes (v.andThen w) (bs ++ cs) := by
  refine ⟨fun h => ?_, fun s => ?_⟩
  · rw [write_andThen, hv.whole]
    simp only [hw.whole, List.append_assoc]
  · rw [write_andThen]
    rcases hvs : v.write s with ⟨_ | _, s'⟩
    · rcases hv.part s with ⟨ht, -⟩ | ⟨-, p, hp, hh⟩
      · rw [hvs] at ht
        cases ht
      · rw [hvs] at hh
        exact .inr ⟨rfl, p, hp.trans (List.prefix_append ..), hh⟩
    · rcases hv.part s with ⟨-, hh⟩ | ⟨hf, -⟩
      · rw [hvs] at hh
        rcases hw.part s' with ⟨ht, hh'⟩ | ⟨hf, p, hp, hh'⟩
        · exact .inl ⟨ht, by rw [hh', hh, List.append_assoc]⟩
        · refine .inr ⟨hf, bs ++ p, (List.prefix_append_right_inj bs).2 hp, ?_⟩
          rw [hh', hh, List.append_assoc]
      · rw [hvs] at hf
        cases hf

/-- A writer that refuses in the end leaves what was written before. -/
lemma Writes.andThen_refuse {v : Writer} (hv : Writes v bs) (s : Sink) :
    ((v.andThen refuse).write s).1 = false ∧
      ∃ p, p <+: bs ∧ ((v.andThen refuse).write s).2.handed = s.handed ++ p := by
  rw [write_andThen]
  rcases hvs : v.write s with ⟨_ | _, s'⟩
  · rcases hv.part s with ⟨ht, -⟩ | ⟨-, hp⟩
    · rw [hvs] at ht
      cases ht
    · rw [hvs] at hp
      exact ⟨rfl, hp⟩
  · rcases hv.part s with ⟨-, hh⟩ | ⟨hf, -⟩
    · rw [hvs] at hh
      exact ⟨rfl, bs, List.prefix_rfl, hh⟩
    · rw [hvs] at hf
      cases hf

lemma Writes.each {w : α → Writer} {f : α → List UInt8} {l : List α}
    (h : ∀ a ∈ l, Writes (w a) (f a)) : Writes (each w l) (l.flatMap f) := by
  induction l with
  | nil => exact Writes.done
  | cons a l ih =>
    rw [List.flatMap_cons]
    exact (h a (List.mem_cons_self ..)).andThen
      (ih fun a' ha' => h a' (List.mem_cons_of_mem _ ha'))

end SoftHSM.Codec
