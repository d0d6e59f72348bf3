import Mathlib.Data.List.Induction

/-!
Runs of a labelled transition relation, and the rule by which an invariant of one step
becomes an invariant of every run.
-/

namespace SoftHSM.Transition

variable {σ ℓ : Type*}

/-- `Run step s ls t`: the labels `ls`, taken in order, lead from `s` to `t`. -/
inductive Run (step : σ → ℓ → σ → Prop) : σ → List ℓ → σ → Prop
  | nil (s : σ) : Run step s [] s
  | snoc {s t u : σ} {ls : List ℓ} {l : ℓ} :
      Run step s ls t → step t l u → Run step s (ls ++ [l]) u

variable {step : σ → ℓ → σ → Prop}

/-- **The invariant rule.** What holds at the start and is kept by every step holds at the
end of every run. -/
theorem Run.invariant {P : σ → Prop} {s t : σ} {ls : List ℓ} (hr : Run step s ls t)
    (h0 : P s) (hstep : ∀ a l b, P a → step a l b → P b) : P t := by
  induction hr with
  | nil => exact h0
  | snoc _ hs ih => exact hstep _ _ _ ih hs

/-- The invariant rule for a relation between the labels taken so far and the state. -/
theorem Run.history {P : List ℓ → σ → Prop} {s t : σ} {ls : List ℓ} (hr : Run step s ls t)
    (h0 : P [] s) (hstep : ∀ ls a l b, P ls a → step a l b → P (ls ++ [l]) b) : P ls t := by
  induction hr with
  | nil => exact h0
  | snoc _ hs ih => exact hstep _ _ _ _ ih hs

lemma Run.trans {s t u : σ} {ls ms : List ℓ} (h1 : Run step s ls t) (h2 : Run step t ms u) :
    Run step s (ls ++ ms) u := by
  induction h2 with
  | nil => simpa using h1
  | snoc _ hs ih => rw [← List.append_assoc]; exact .snoc ih hs

/-- A run stops between any two of its labels. -/
lemma Run.of_append {s u : σ} {ls ms : List ℓ} (hr : Run step s (ls ++ ms) u) :
    ∃ t, Run step s ls t ∧ Run step t ms u := by
  induction ms using List.reverseRecOn generalizing u with
  | nil => exact ⟨u, by simpa using hr, .nil u⟩
  | append_singleton ms m ih =>
    rw [← List.append_assoc] at hr
    generalize hl : (ls ++ ms) ++ [m] = l at hr
    cases hr with
    | nil => simp at hl
    | snoc hr hs =>
      obtain ⟨rfl, hm⟩ := List.append_inj' hl rfl
      cases hm
      obtain ⟨t, h1, h2⟩ := ih hr
      exact ⟨t, h1, .snoc h2 hs⟩

lemma Run.step_at {s u : σ} {ls ms : List ℓ} {l : ℓ} (hr : Run step s (ls ++ l :: ms) u) :
    ∃ a b, Run step s ls a ∧ step a l b ∧ Run step b ms u := by
  rw [← List.singleton_append, ← List.append_assoc] at hr
  obtain ⟨b, h1, h2⟩ := hr.of_append
  generalize hl : ls ++ [l] = l' at h1
  cases h1 with
  | nil => simp at hl
  | snoc h1 hs =>
    obtain ⟨rfl, hm⟩ := List.append_inj' hl rfl
    cases hm
    exact ⟨_, b, h1, hs, h2⟩

lemma Run.single {s t : σ} {l : ℓ} (h : step s l t) : Run step s [l] t :=
  .snoc (.nil s) h

/-- A run under a stronger relation is a run under a weaker one. -/
lemma Run.mono {step' : σ → ℓ → σ → Prop} {s t : σ} {ls : List ℓ} (hr : Run step s ls t)
    (h : ∀ a l b, step a l b → step' a l b) : Run step' s ls t := by
  induction hr with
  | nil => exact .nil _
  | snoc _ hs ih => exact .snoc ih (h _ _ _ hs)

/-- A step of a function from a state that allows it. -/
def Step (allowed : σ → ℓ → Prop) (exec : σ → ℓ → σ) (s : σ) (l : ℓ) (t : σ) : Prop :=
  allowed s l ∧ t = exec s l

/-- The labels are allowed one after the other. -/
def AllAllowed (allowed : σ → ℓ → Prop) (exec : σ → ℓ → σ) : σ → List ℓ → Prop
  | _, [] => True
  | s, l :: ls => allowed s l ∧ AllAllowed allowed exec (exec s l) ls

lemma allAllowed_of_forall {allowed : σ → ℓ → Prop} {exec : σ → ℓ → σ} {ls : List ℓ}
    (h : ∀ l ∈ ls, ∀ s, allowed s l) {s : σ} : AllAllowed allowed exec s ls := by
  induction ls generalizing s with
  | nil => trivial
  | cons l ls ih => exact ⟨h l (by simp) s, ih fun l' hl' => h l' (by simp [hl'])⟩

/-- Iterating a function over labels that it allows is a run of its steps. -/
lemma run_foldl {allowed : σ → ℓ → Prop} {exec : σ → ℓ → σ} {s : σ} {ls : List ℓ}
    (h : AllAllowed allowed exec s ls) : Run (Step allowed exec) s ls (ls.foldl exec s) := by
  induction ls generalizing s with
  | nil => exact .nil s
  | cons l ls ih => exact (Run.single (show Step allowed exec s l _ from ⟨h.1, rfl⟩)).trans (ih h.2)

/-- `P` holds in every state that iterating a function over the labels passes through. -/
def EveryState (P : σ → Prop) (exec : σ → ℓ → σ) : σ → List ℓ → Prop
  | s, [] => P s
  | s, l :: ls => P s ∧ EveryState P exec (exec s l) ls

lemma everyState_iff {P : σ → Prop} {exec : σ → ℓ → σ} {s : σ} {ls : List ℓ} :
    EveryState P exec s ls ↔ ∀ ms, ms <+: ls → P (ms.foldl exec s) := by
  induction ls generalizing s with
  | nil =>
    refine ⟨fun h ms hms => ?_, fun h => h [] List.nil_prefix⟩
    rw [List.prefix_nil.1 hms]
    exact h
  | cons l ls ih =>
    constructor
    · rintro ⟨hs, h⟩ ms hms
      rcases List.prefix_cons_iff.1 hms with rfl | ⟨ms, rfl, hprefix⟩
      · exact hs
      · exact ih.1 h ms hprefix
    · intro h
      refine ⟨h [] List.nil_prefix, ih.2 fun ms hms => ?_⟩
      exact h (l :: ms) (List.prefix_cons_iff.2 (.inr ⟨ms, rfl, hms⟩))

/-- **The exact condition on a run.** Where a condition on one step is exactly what keeps `P`,
the condition on all steps of a run is exactly what keeps `P` in all of its states. -/
theorem allAllowed_iff_everyState {allowed C : σ → ℓ → Prop} {exec : σ → ℓ → σ}
    {I P : σ → Prop} (hstep : ∀ s l, I s → P s → allowed s l →
      I (exec s l) ∧ (C s l ↔ P (exec s l))) {s : σ} {ls : List ℓ}
    (h0 : I s) (hP : P s) (ha : AllAllowed allowed exec s ls) :
    AllAllowed C exec s ls ↔ EveryState P exec s ls := by
  induction ls generalizing s with
  | nil => exact ⟨fun _ => hP, fun _ => trivial⟩
  | cons l ls ih =>
    obtain ⟨hl, hls⟩ := ha
    obtain ⟨hnext, hiff⟩ := hstep s l h0 hP hl
    constructor
    · rintro ⟨hc, hcs⟩
      exact ⟨hP, (ih hnext (hiff.1 hc) hls).1 hcs⟩
    · rintro ⟨-, hps⟩
      have hp : P (exec s l) := by
        cases ls with
        | nil => exact hps
        | cons l' ls' => exact hps.1
      exact ⟨hiff.2 hp, (ih hnext hp hls).2 hps⟩

end SoftHSM.Transition
