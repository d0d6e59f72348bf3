import Mathlib.Data.Nat.Notation
import Mathlib.Logic.Basic

/-!
A record in a file, and the copy of it that a process keeps: the programs of a process over
its copy, what they do when the process is alone, and the rules by which they are verified.

A program reads its copy, writes the copy back whole, or changes the record in a transaction
that takes the lock and reads the file again first. Every write says how it turns out.
-/

namespace SoftHSM.RecordFile

variable {σ α β : Type}

/-- How writing the file turns out: done, refused before the file was touched, or torn, the
file left without a readable record. -/
inductive Write
  | done
  | refused
  | torn
  deriving DecidableEq

/-- How a transaction turns out: whether the lock is got, and how the commit writes. -/
structure Transaction where
  locked : Bool
  commit : Write
  deriving DecidableEq

def Transaction.done : Transaction := ⟨true, .done⟩

/-- What a program learns of its transaction: it could not be made, its body gave up, or the
record is now the one given. -/
inductive Outcome (σ : Type)
  | failed
  | aborted
  | committed (a : σ)

inductive Prog (σ α : Type)
  | ret (a : α)
  /-- the copy, after it was refreshed from the file; nothing if it is invalid -/
  | get (k : Option σ → Prog σ α)
  /-- the copy as it is -/
  | peek (k : Option σ → Prog σ α)
  /-- change the copy and write it out -/
  | set (w : Write) (f : σ → σ) (k : Bool → Prog σ α)
  /-- take the lock, read the file, change the copy and write it out -/
  | transact (w : Transaction) (f : σ → Option σ) (k : Outcome σ → Prog σ α)

namespace Prog

def bind : Prog σ α → (α → Prog σ β) → Prog σ β
  | .ret a, k => k a
  | .get j, k => .get fun s => (j s).bind k
  | .peek j, k => .peek fun s => (j s).bind k
  | .set w f j, k => .set w f fun b => (j b).bind k
  | .transact w f j, k => .transact w f fun r => (j r).bind k

instance : Monad (Prog σ) where
  pure := .ret
  bind := bind

end Prog

/-! ### A process that is alone -/

/-- The file, unless it is unreadable, and the copy of the process. -/
structure File (σ : Type) where
  disk : Option σ
  attributes : σ
  valid : Bool

namespace File

/-- The copy, if it is valid. Nobody else writes, so there is nothing to refresh. -/
def copy (o : File σ) : Option σ := if o.valid then some o.attributes else none

/-- Writes the copy out; a write that fails makes the copy invalid. -/
def store (w : Write) (o : File σ) : File σ :=
  match w with
  | .done => ⟨some o.attributes, o.attributes, true⟩
  | .refused => { o with valid := false }
  | .torn => ⟨none, o.attributes, false⟩

/-- Reads the file again. -/
def reload (o : File σ) : File σ :=
  match o.disk with
  | none => { o with valid := false }
  | some a => ⟨some a, a, true⟩

def setAttribute (w : Write) (f : σ → σ) (o : File σ) : Bool × File σ :=
  if !o.valid then (false, o)
  else
    let o := store w { o with attributes := f o.attributes }
    (o.valid, o)

/-- Start, body and commit; where one of them fails, the file is read again. -/
def transact (w : Transaction) (f : σ → Option σ) (o : File σ) : Outcome σ × File σ :=
  if !w.locked then (.failed, o)
  else
    let o := o.reload
    if !o.valid then (.failed, o)
    else
      match f o.attributes with
      | none => (.aborted, o.reload)
      | some a =>
        let o := store w.commit { o with attributes := a }
        if o.valid then (.committed a, o) else (.failed, o.reload)

/-- A process that is alone has a valid copy only of what is in the file. -/
def Coherent (o : File σ) : Prop := o.valid = true → o.disk = some o.attributes

/-- The file of a process that has just read or written it. -/
def settled (a : σ) : File σ := ⟨some a, a, true⟩

end File

namespace Prog

/-- The program run to its end by a process that is alone. -/
def run : Prog σ α → File σ → α × File σ
  | .ret a, o => (a, o)
  | .get k, o => (k o.copy).run o
  | .peek k, o => (k o.copy).run o
  | .set w f k, o => (k (o.setAttribute w f).1).run (o.setAttribute w f).2
  | .transact w f k, o => (k (o.transact w f).1).run (o.transact w f).2

lemma run_pure (a : α) (o : File σ) : (pure a : Prog σ α).run o = (a, o) := rfl

lemma run_bind (p : Prog σ α) (k : α → Prog σ β) (o : File σ) :
    (p >>= k).run o = (k (p.run o).1).run (p.run o).2 := by
  change (p.bind k).run o = _
  induction p generalizing o with
  | ret a => rfl
  | get j ih => exact ih _ _
  | peek j ih => exact ih _ _
  | set w f j ih => exact ih _ _
  | transact w f j ih => exact ih _ _

lemma run_ite {c : Prop} [Decidable c] (p q : Prog σ α) (o : File σ) :
    (if c then p else q).run o = if c then p.run o else q.run o := apply_ite (run · o) c p q

/-- `Q` holds of the result and of the file when the program has run. -/
def After (p : Prog σ α) (o : File σ) (Q : α → File σ → Prop) : Prop := Q (p.run o).1 (p.run o).2

/-! ### Rules -/

section rules

variable {Q R : α → File σ → Prop} {o : File σ}

@[simp] lemma after_pure {a : α} : After (pure a) o Q ↔ Q a o := Iff.rfl

lemma after_bind {p : Prog σ β} {k : β → Prog σ α} :
    After (p >>= k) o Q ↔ After p o fun b o' => After (k b) o' Q := by
  unfold After
  rw [run_bind]

/-- **The rule of consequence.** -/
lemma After.mono {p : Prog σ α} (h : After p o Q) (hQR : ∀ a o', Q a o' → R a o') :
    After p o R := hQR _ _ h

/-- **The rule of sequence.** -/
lemma After.bind {p : Prog σ β} {k : β → Prog σ α} {S : β → File σ → Prop} (hp : After p o S)
    (hk : ∀ b o', S b o' → After (k b) o' Q) : After (p >>= k) o Q :=
  after_bind.2 (hp.mono hk)

/-- The rule of sequence where the run of the first program is known. -/
lemma After.of_run {p : Prog σ β} {k : β → Prog σ α} {b : β} {o' : File σ} (hp : p.run o = (b, o'))
    (hk : After (k b) o' Q) : After (p >>= k) o Q := by
  rw [after_bind]
  unfold After at hk ⊢
  rw [hp]
  exact hk

/-- The rule of sequence where the result of the first program does not matter. -/
lemma After.any {p : Prog σ β} {k : β → Prog σ α} (hk : ∀ b o', After (k b) o' Q) :
    After (p >>= k) o Q := after_bind.2 (hk _ _)

lemma after_ite {c : Prop} [Decidable c] {p q : Prog σ α} (hp : c → After p o Q)
    (hq : ¬ c → After q o Q) : After (if c then p else q) o Q := by
  split
  · exact hp ‹_›
  · exact hq ‹_›

end rules

end Prog

namespace File

variable {o : File σ}

lemma copy_eq_some (h : o.Coherent) {a : σ} (ha : o.copy = some a) : o.disk = some a := by
  unfold copy at ha
  split at ha
  · rw [h ‹_›, ha]
  · cases ha

lemma eq_settled (h : o.Coherent) {a : σ} (ha : o.copy = some a) : o = settled a := by
  obtain ⟨disk, attributes, valid⟩ := o
  unfold copy at ha
  split at ha
  · rename_i hv
    obtain rfl : valid = true := hv
    obtain rfl := Option.some.inj ha
    obtain rfl : disk = some attributes := h rfl
    rfl
  · cases ha

/-- What a plain write does: nothing, or the file holds the changed copy, or nothing
readable. -/
lemma setAttribute_cases (h : o.Coherent) (w : Write) (f : σ → σ) :
    (o.setAttribute w f).2.Coherent ∧
    ((o.setAttribute w f).1 = false ∧ (o.setAttribute w f).2.disk = o.disk ∨
      (o.setAttribute w f).1 = false ∧ (o.setAttribute w f).2.disk = none ∨
      (o.setAttribute w f).1 = true ∧ ∃ a, o.disk = some a ∧
        (o.setAttribute w f).2.disk = some (f a)) := by
  unfold setAttribute
  split
  · exact ⟨h, .inl ⟨rfl, rfl⟩⟩
  rename_i hv
  cases w with
  | done => exact ⟨fun _ => rfl, .inr (.inr ⟨rfl, _, h (by simpa using hv), rfl⟩)⟩
  | refused => exact ⟨by simp [store, Coherent], .inl ⟨rfl, rfl⟩⟩
  | torn => exact ⟨by simp [store, Coherent], .inr (.inl ⟨rfl, rfl⟩)⟩

/-- What a transaction leaves in the file, whatever copy the process had. -/
lemma disk_transact (o : File σ) (w : Transaction) (f : σ → Option σ) :
    (o.transact w f).1 = .failed ∧ (o.transact w f).2.disk = o.disk ∨
      (o.transact w f).1 = .failed ∧ (o.transact w f).2.disk = none ∨
      (o.transact w f).1 = .aborted ∧ (o.transact w f).2.disk = o.disk ∨
      ∃ a a', o.disk = some a ∧ f a = some a' ∧ (o.transact w f).1 = .committed a' ∧
        (o.transact w f).2.disk = some a' := by
  unfold transact
  split
  · exact .inl ⟨rfl, rfl⟩
  rcases hd : o.disk with _ | a
  · simp [reload, hd]
  · simp only [reload, hd]
    rcases hf : f a with _ | a'
    · simp
    · rcases hw : w.commit with _ | _ | _ <;> simp [hf, store]

/-- What a transaction does. -/
lemma transact_cases (h : o.Coherent) (w : Transaction) (f : σ → Option σ) :
    (o.transact w f).2.Coherent ∧
    ((o.transact w f).1 = .failed ∧ (o.transact w f).2.disk = o.disk ∨
      (o.transact w f).1 = .failed ∧ (o.transact w f).2.disk = none ∨
      (o.transact w f).1 = .aborted ∧ (o.transact w f).2.disk = o.disk ∧
        (∃ a, o.disk = some a ∧ f a = none) ∨
      ∃ a a', o.disk = some a ∧ f a = some a' ∧ (o.transact w f).1 = .committed a' ∧
        (o.transact w f).2.disk = some a') := by
  unfold transact
  split
  · exact ⟨h, .inl ⟨rfl, rfl⟩⟩
  rcases hd : o.disk with _ | a
  · simp [reload, hd, Coherent]
  · simp only [reload, hd]
    rcases hf : f a with _ | a'
    · simp [hf, Coherent]
    · rcases hw : w.commit with _ | _ | _ <;> simp [hf, store, Coherent]

/-- Whatever record is in the file shows `v`. -/
structure Shows {γ : Type} (π : σ → γ) (v : γ) (o : File σ) : Prop where
  coherent : o.Coherent
  shows : ∀ a, o.disk = some a → π a = v

variable {γ : Type} {π : σ → γ} {v : γ}

lemma Shows.copy (h : Shows π v o) {a : σ} (ha : o.copy = some a) : π a = v :=
  h.shows a (copy_eq_some h.coherent ha)

lemma Shows.setAttribute (h : Shows π v o) (w : Write) {f : σ → σ} (hf : ∀ a, π (f a) = π a) :
    Shows π v (o.setAttribute w f).2 := by
  obtain ⟨hc, ⟨-, hd⟩ | ⟨-, hd⟩ | ⟨-, a, ha, hd⟩⟩ := setAttribute_cases h.coherent w f
  · exact ⟨hc, hd ▸ h.shows⟩
  · exact ⟨hc, fun b hb => by simp [hd] at hb⟩
  · refine ⟨hc, fun b hb => ?_⟩
    rw [hd, Option.some.injEq] at hb
    rw [← hb, hf, h.shows a ha]

lemma Shows.transact (h : Shows π v o) (w : Transaction) {f : σ → Option σ}
    (hf : ∀ a a', f a = some a' → π a' = π a) : Shows π v (o.transact w f).2 := by
  obtain ⟨hc, ⟨-, hd⟩ | ⟨-, hd⟩ | ⟨-, hd, -⟩ | ⟨a, a', ha, hfa, -, hd⟩⟩ :=
    transact_cases h.coherent w f
  · exact ⟨hc, hd ▸ h.shows⟩
  · exact ⟨hc, fun b hb => by simp [hd] at hb⟩
  · exact ⟨hc, hd ▸ h.shows⟩
  · refine ⟨hc, fun b hb => ?_⟩
    rw [hd, Option.some.injEq] at hb
    rw [← hb, hf a a' hfa, h.shows a ha]

end File

namespace Prog

variable {γ : Type} {π : σ → γ}

/-- No write of the program changes what `π` shows. -/
def Leaves (π : σ → γ) : Prog σ α → Prop
  | .ret _ => True
  | .get k => ∀ s, (k s).Leaves π
  | .peek k => ∀ s, (k s).Leaves π
  | .set _ f k => (∀ a, π (f a) = π a) ∧ ∀ b, (k b).Leaves π
  | .transact _ f k => (∀ a a', f a = some a' → π a' = π a) ∧ ∀ r, (k r).Leaves π

@[simp] lemma leaves_pure (a : α) : (pure a : Prog σ α).Leaves π := trivial

lemma Leaves.bind {p : Prog σ α} {k : α → Prog σ β} (hp : p.Leaves π)
    (hk : ∀ a, (k a).Leaves π) : (p >>= k).Leaves π := by
  change (p.bind k).Leaves π
  induction p with
  | ret a => exact hk a
  | get j ih => exact fun s => ih s (hp s)
  | peek j ih => exact fun s => ih s (hp s)
  | set w f j ih => exact ⟨hp.1, fun b => ih b (hp.2 b)⟩
  | transact w f j ih => exact ⟨hp.1, fun r => ih r (hp.2 r)⟩

lemma Leaves.ite {c : Prop} [Decidable c] {p q : Prog σ α} (hp : p.Leaves π)
    (hq : q.Leaves π) : (if c then p else q).Leaves π := by
  split
  · exact hp
  · exact hq

/-- A process that is alone stays coherent, whatever it runs. -/
lemma coherent_run {p : Prog σ α} {o : File σ} (h : o.Coherent) : (p.run o).2.Coherent := by
  induction p generalizing o with
  | ret a => exact h
  | get k ih => exact ih _ h
  | peek k ih => exact ih _ h
  | set w f k ih => exact ih _ (File.setAttribute_cases h w f).1
  | transact w f k ih => exact ih _ (File.transact_cases h w f).1

/-! ### Programs that nothing disturbs -/

/-- The program over the record itself, where every write is done. -/
def eval : Prog σ α → σ → α × σ
  | .ret a, s => (a, s)
  | .get k, s => (k (some s)).eval s
  | .peek k, s => (k (some s)).eval s
  | .set _ f k, s => (k true).eval (f s)
  | .transact _ f k, s =>
    match f s with
    | none => (k .aborted).eval s
    | some s' => (k (.committed s')).eval s'

/-- Every write that the program comes to is done. -/
def Undisturbed : Prog σ α → σ → Prop
  | .ret _, _ => True
  | .get k, s => (k (some s)).Undisturbed s
  | .peek k, s => (k (some s)).Undisturbed s
  | .set w f k, s => w = .done ∧ (k true).Undisturbed (f s)
  | .transact w f k, s => w.locked = true ∧
    match f s with
    | none => (k .aborted).Undisturbed s
    | some s' => w.commit = .done ∧ (k (.committed s')).Undisturbed s'

@[simp] lemma eval_pure (a : α) (s : σ) : (pure a : Prog σ α).eval s = (a, s) := rfl

@[simp] lemma eval_bind (p : Prog σ α) (k : α → Prog σ β) (s : σ) :
    (p >>= k).eval s = (k (p.eval s).1).eval (p.eval s).2 := by
  change (p.bind k).eval s = _
  induction p generalizing s with
  | ret a => rfl
  | get j ih => exact ih _ _
  | peek j ih => exact ih _ _
  | set w f j ih => exact ih _ _
  | transact w f j ih =>
    simp only [bind, eval]
    cases f s with
    | none => exact ih _ _
    | some s' => exact ih _ _

@[simp] lemma undisturbed_pure (a : α) (s : σ) : (pure a : Prog σ α).Undisturbed s := trivial

@[simp] lemma undisturbed_bind (p : Prog σ α) (k : α → Prog σ β) (s : σ) :
    (p >>= k).Undisturbed s ↔ p.Undisturbed s ∧ (k (p.eval s).1).Undisturbed (p.eval s).2 := by
  change (p.bind k).Undisturbed s ↔ _
  induction p generalizing s with
  | ret a => simp [bind, Undisturbed, eval]
  | get j ih => exact ih _ _
  | peek j ih => exact ih _ _
  | set w f j ih =>
    simp only [bind, Undisturbed, eval, ih, and_assoc]
  | transact w f j ih =>
    simp only [bind, Undisturbed, eval]
    cases f s with
    | none => simp only [ih, and_assoc]
    | some s' => simp only [ih, and_assoc]

/-- **A program that nothing disturbs** runs as it is meant to, and the file is settled
again. -/
theorem run_settled {p : Prog σ α} {s : σ} (h : p.Undisturbed s) :
    p.run (File.settled s) = ((p.eval s).1, File.settled (p.eval s).2) := by
  induction p generalizing s with
  | ret a => rfl
  | get k ih => exact ih _ h
  | peek k ih => exact ih _ h
  | set w f k ih =>
    obtain ⟨rfl, h⟩ := h
    exact ih _ h
  | transact w f k ih =>
    simp only [Undisturbed] at h
    simp only [run, eval, File.transact, h.1, File.reload, File.settled, Bool.not_true,
      Bool.false_eq_true, if_false]
    rcases hf : f s with _ | s'
    · rw [hf] at h
      exact ih _ h.2
    · rw [hf] at h
      simp only [h.2.1]
      exact ih _ h.2.2

/-- The program answers whether it went through: where a write fails, it says so. -/
def Strict (p : Prog σ Bool) : Prop :=
  ∀ s, p.Undisturbed s ∨ (p.run (File.settled s)).1 = false

/-- One strict program after the other is strict. -/
lemma Strict.andThen {p q : Prog σ Bool} (hp : p.Strict) (hq : q.Strict) :
    Strict (do
      if !(← p) then return false
      q) := by
  intro s
  rcases hp s with hp | hp
  · rw [undisturbed_bind, run_bind, run_settled hp]
    cases (p.eval s).1 with
    | false => exact .inl ⟨hp, trivial⟩
    | true =>
      rcases hq (p.eval s).2 with hq | hq
      · exact .inl ⟨hp, hq⟩
      · exact .inr hq
  · refine .inr ?_
    rw [run_bind, hp]
    rfl

/-- The program keeps what holds of the file. -/
def Keeps (I : File σ → Prop) (p : Prog σ α) : Prop := ∀ o, I o → I (p.run o).2

section keeps

variable {I : File σ → Prop}

lemma keeps_pure (a : α) : Keeps I (pure a : Prog σ α) := fun _ h => h

lemma Keeps.bind {p : Prog σ α} {k : α → Prog σ β} (hp : Keeps I p) (hk : ∀ a, Keeps I (k a)) :
    Keeps I (p >>= k) := by
  intro o ho
  rw [run_bind]
  exact hk _ _ (hp o ho)

/-- As `Keeps.bind`, where the second program needs to know of the result of the first. -/
lemma Keeps.bind_of {p : Prog σ α} {k : α → Prog σ β} {Q : α → Prop} (hp : Keeps I p)
    (hq : ∀ o, I o → Q (p.run o).1) (hk : ∀ a, Q a → Keeps I (k a)) : Keeps I (p >>= k) := by
  intro o ho
  rw [run_bind]
  exact hk _ (hq o ho) _ (hp o ho)

lemma Keeps.ite {c : Prop} [Decidable c] {p q : Prog σ α} (hp : Keeps I p) (hq : Keeps I q) :
    Keeps I (if c then p else q) := by
  split
  · exact hp
  · exact hq

end keeps

/-- **The frame rule.** What the writes of a program leave is there when it has run. -/
theorem Leaves.run {v : γ} {p : Prog σ α} (hp : p.Leaves π) {o : File σ}
    (h : File.Shows π v o) : File.Shows π v (p.run o).2 := by
  induction p generalizing o with
  | ret a => exact h
  | get k ih => exact ih _ (hp _) h
  | peek k ih => exact ih _ (hp _) h
  | set w f k ih => exact ih _ (hp.2 _) (h.setAttribute w hp.1)
  | transact w f k ih => exact ih _ (hp.2 _) (h.transact w hp.1)

end Prog

end SoftHSM.RecordFile
