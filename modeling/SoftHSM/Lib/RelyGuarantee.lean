import SoftHSM.Lib.Transition
import Mathlib.Logic.Function.Basic
import Mathlib.Tactic.SplitIfs

/-!
Programs that run side by side over one state, one call at a time, and may die at any call. Each of
them relies on what the others do to the state and guarantees something of its own calls; where the
guarantee of each is what all the others rely on, what is proved of each program alone holds in every
run of all of them.
-/

namespace SoftHSM.RelyGuarantee

open Transition (Run)

variable {ι σ : Type*} {C α β : Type} {R : C → Type}

/-- A program: it is done, or it makes a call and goes on with the answer. -/
inductive Program (R : C → Type) (α : Type)
  | done (a : α)
  | call (c : C) (next : R c → Program R α)

namespace Program

/-- One program after another. -/
def bind : Program R α → (α → Program R β) → Program R β
  | done a, f => f a
  | call c next, f => call c fun r => (next r).bind f

instance : Monad (Program R) where
  pure := done
  bind := bind

/-- The program of one call. -/
def perform (c : C) : Program R (R c) := call c done

/-- The program makes no more calls than `n`, whatever they answer. -/
def Within : Program R α → ℕ → Prop
  | done _, _ => True
  | call _ _, 0 => False
  | call _ next, n + 1 => ∀ r, (next r).Within n

lemma Within.mono {p : Program R α} {n m : ℕ} (h : p.Within n) (hle : n ≤ m) : p.Within m := by
  induction p generalizing n m with
  | done a => trivial
  | call c next ih =>
    cases n with
    | zero => exact h.elim
    | succ n =>
      cases m with
      | zero => omega
      | succ m => exact fun r => ih r (h r) (by omega)

lemma Within.bind {p : Program R α} {f : α → Program R β} {n m : ℕ} (hp : p.Within n)
    (hf : ∀ a, (f a).Within m) : (p >>= f).Within (n + m) := by
  induction p generalizing n with
  | done a => exact (hf a).mono (Nat.le_add_left m n)
  | call c next ih =>
    cases n with
    | zero => exact hp.elim
    | succ n =>
      rw [Nat.succ_add]
      exact fun r => ih r (hp r)

lemma within_perform (c : C) : (perform (R := R) c).Within 1 := fun _ => trivial

end Program

/-! ### Runs -/

/-- The state, and the programs that still run or are done. -/
structure Configuration (ι σ : Type*) (R : C → Type) (α : Type) where
  state : σ
  threads : ι → Option (Program R α)

/-- What a call may answer, and the state that it may leave. -/
abbrev Semantics (ι σ : Type*) (R : C → Type) := ι → (c : C) → σ → R c → σ → Prop

section steps

variable [DecidableEq ι] (exec : Semantics ι σ R)

/-- One of the programs makes its next call, or dies. -/
inductive Step : Configuration ι σ R α → ι → Configuration ι σ R α → Prop
  | call {s s' : σ} {threads : ι → Option (Program R α)} {i : ι} {c : C} {next : R c → Program R α}
      {r : R c} (hthread : threads i = some (.call c next)) (hexec : exec i c s r s') :
      Step ⟨s, threads⟩ i ⟨s', Function.update threads i (some (next r))⟩
  | die {s : σ} {threads : ι → Option (Program R α)} {i : ι} :
      Step ⟨s, threads⟩ i ⟨s, Function.update threads i none⟩

end steps

/-! ### Programs that keep what they promise -/

section rules

variable (exec : (c : C) → σ → R c → σ → Prop) (rely guar : σ → σ → Prop)

/-- Whatever the others do in between, every call of the program keeps its guarantee, and at the end
of it and after that the state is as it should be. -/
def Safe : Program R α → (α → σ → Prop) → σ → Prop
  | .done a, post, s => ∀ s', rely s s' → post a s'
  | .call c next, post, s => ∀ s', rely s s' → ∀ r s'', exec c s' r s'' →
      guar s' s'' ∧ Safe (next r) post s''

variable {exec rely guar}

/-- The others may go on before the program does. -/
lemma Safe.relied (htrans : ∀ s t u, rely s t → rely t u → rely s u) {p : Program R α}
    {post : α → σ → Prop} {s s' : σ} (h : Safe exec rely guar p post s) (hs : rely s s') :
    Safe exec rely guar p post s' := by
  cases p with
  | done a => exact fun s'' hs' => h s'' (htrans _ _ _ hs hs')
  | call c next => exact fun s'' hs' => h s'' (htrans _ _ _ hs hs')

/-- A call that keeps the guarantee, and then the rest. -/
lemma safe_perform {c : C} {post : R c → σ → Prop} {s : σ}
    (h : ∀ s', rely s s' → ∀ r s'', exec c s' r s'' →
      guar s' s'' ∧ ∀ s₃, rely s'' s₃ → post r s₃) :
    Safe exec rely guar (Program.perform c) post s :=
  h

/-- **One program after another**: the second starts where the first ends. -/
lemma Safe.bind (hrefl : ∀ s, rely s s) {p : Program R α} {f : α → Program R β}
    {mid : α → σ → Prop} {post : β → σ → Prop} {s : σ} (hp : Safe exec rely guar p mid s)
    (hf : ∀ a s', mid a s' → Safe exec rely guar (f a) post s') :
    Safe exec rely guar (p >>= f) post s := by
  induction p generalizing s with
  | done a => exact hf a s (hp s (hrefl s))
  | call c next ih =>
    intro s' hs r s'' hexec
    obtain ⟨hguar, hnext⟩ := hp s' hs r s'' hexec
    exact ⟨hguar, ih r hnext⟩

lemma Safe.imp {p : Program R α} {post post' : α → σ → Prop} {s : σ}
    (h : Safe exec rely guar p post s) (himp : ∀ a s, post a s → post' a s) :
    Safe exec rely guar p post' s := by
  induction p generalizing s with
  | done a => exact fun s' hs => himp a s' (h s' hs)
  | call c next ih =>
    intro s' hs r s'' hexec
    obtain ⟨hguar, hnext⟩ := h s' hs r s'' hexec
    exact ⟨hguar, ih r hnext⟩

lemma safe_done {a : α} {post : α → σ → Prop} {s : σ} (h : ∀ s', rely s s' → post a s') :
    Safe exec rely guar (pure a) post s :=
  h

end rules

/-! ### All of them together -/

section soundness

variable [DecidableEq ι] {exec : Semantics ι σ R} {rely guar : ι → σ → σ → Prop}
  {post : ι → α → σ → Prop}

/-- Every program that has not died is safe. -/
def AllSafe (exec : Semantics ι σ R) (rely guar : ι → σ → σ → Prop) (post : ι → α → σ → Prop)
    (c : Configuration ι σ R α) : Prop :=
  ∀ i p, c.threads i = some p → Safe (exec i) (rely i) (guar i) p (post i) c.state

/-- **A step** keeps every program safe, and what it does to the state is guaranteed. -/
lemma AllSafe.step (hrefl : ∀ i s, rely i s s)
    (htrans : ∀ i s t u, rely i s t → rely i t u → rely i s u)
    (hguar : ∀ i j, i ≠ j → ∀ s t, guar i s t → rely j s t)
    {c c' : Configuration ι σ R α} {i : ι} (h : AllSafe exec rely guar post c)
    (hstep : Step exec c i c') :
    AllSafe exec rely guar post c' ∧ (c'.state = c.state ∨ guar i c.state c'.state) := by
  cases hstep with
  | @call s s' threads _ call next r hthread hexec =>
    obtain ⟨hkeeps, hnext⟩ := h i _ hthread s (hrefl i s) r s' hexec
    refine ⟨fun j p hp => ?_, Or.inr hkeeps⟩
    dsimp only at hp
    by_cases hij : j = i
    · subst hij
      rw [Function.update_self] at hp
      cases hp
      exact hnext
    · rw [Function.update_of_ne hij] at hp
      exact (h j p hp).relied (htrans j) (hguar i j (Ne.symm hij) s s' hkeeps)
  | @die s threads _ =>
    refine ⟨fun j p hp => ?_, Or.inl rfl⟩
    dsimp only at hp
    by_cases hij : j = i
    · subst hij
      rw [Function.update_self] at hp
      cases hp
    · rw [Function.update_of_ne hij] at hp
      exact h j p hp

/-- **A run** keeps every program safe, and what it does to the state is what a relation allows that
all the guarantees have in common. -/
theorem AllSafe.run (hrefl : ∀ i s, rely i s s)
    (htrans : ∀ i s t u, rely i s t → rely i t u → rely i s u)
    (hguar : ∀ i j, i ≠ j → ∀ s t, guar i s t → rely j s t) {whole : σ → σ → Prop}
    (hself : ∀ s, whole s s) (hjoin : ∀ s t u, whole s t → whole t u → whole s u)
    (hwhole : ∀ i s t, guar i s t → whole s t) {c c' : Configuration ι σ R α} {is : List ι}
    (h : AllSafe exec rely guar post c) (hrun : Run (Step exec) c is c') :
    AllSafe exec rely guar post c' ∧ whole c.state c'.state := by
  refine hrun.invariant (P := fun d => AllSafe exec rely guar post d ∧ whole c.state d.state)
    ⟨h, hself _⟩ fun d i d' hd hstep => ?_
  obtain ⟨hsafe, hstate⟩ := hd.1.step hrefl htrans hguar hstep
  refine ⟨hsafe, ?_⟩
  rcases hstate with heq | hkeeps
  · rw [heq]
    exact hd.2
  · exact hjoin _ _ _ hd.2 (hwhole i _ _ hkeeps)

omit [DecidableEq ι] in
/-- A program that is done has made the state what it should be. -/
lemma AllSafe.done (hrefl : ∀ i s, rely i s s) {c : Configuration ι σ R α} {i : ι} {a : α}
    (h : AllSafe exec rely guar post c) (hi : c.threads i = some (.done a)) : post i a c.state :=
  h i _ hi c.state (hrefl i _)

end soundness

end SoftHSM.RelyGuarantee
